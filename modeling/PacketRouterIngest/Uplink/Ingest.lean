import PacketRouterIngest.Uplink.Packet
import PacketRouterIngest.Semantics.Sessions

/-! The gRPC streams. Each stream is a task that reads packets and tells the
app of its gateway, of every packet and of its end; the tasks advance in any
order, and the app's queue receives their messages one at a time. -/
namespace PacketRouter

open Rust Semantics

/-- What a stream tells the app: the methods of `UplinkIngest`. -/
inductive UplinkIngest where
  | gatewayConnect (gateway : Gateway)
  | uplinkReceive (packet : PacketUp)
  | gatewayDisconnect (gateway : Gateway)

/-- How waiting for the next message of a stream ends. -/
inductive Incoming where
  | timeout
  | error
  | shutdown
  | packet (packet : PacketUp)
  /-- An envelope without a packet. -/
  | ignored

/-- The task spawned by `route`: the gateway of its first packet, the messages
it sends before it reads again, and whether it is still in its loop. -/
structure Stream where
  tx : GatewayTx
  gw : Option Gateway
  outbox : List UplinkIngest
  running : Bool

namespace Stream

def opened (tx : GatewayTx) : Stream := ⟨tx, none, [], true⟩

/-- Leave the loop. A stream that never had a packet has nothing to say. -/
def leave (s : Stream) : Stream :=
  match s.gw with
  | some gw => { s with outbox := [.gatewayDisconnect gw], running := false }
  | none => { s with running := false }

/-- One iteration of the loop, up to the messages it sends. `closed` tells
whether the receiver of the downlink channel has been dropped. -/
def read (c : Crates) (closed : Bool) (s : Stream) : Incoming → Panics Stream
  | .timeout => if closed then .ok s.leave else .ok s
  | .error | .shutdown => .ok s.leave
  | .packet packet =>
      match s.gw with
      | none => do
          let tempGw ← Gateway.new c packet s.tx
          return { s with
            gw := some tempGw
            outbox := [.gatewayConnect tempGw, .uplinkReceive packet] }
      | some _ => .ok { s with outbox := [.uplinkReceive packet] }
  | .ignored => .ok s

/-- A panic ends the task without another message. -/
def crash (s : Stream) : Stream := { s with outbox := [], running := false }

/-- Everything a stream says, having read these packets. -/
def script (s : Stream) (packets : List PacketUp) : List UplinkIngest :=
  match s.gw with
  | none => []
  | some gw => .gatewayConnect gw :: packets.map .uplinkReceive ++
      if s.running then [] else [.gatewayDisconnect gw]

end Stream

/-- All streams, and what they have sent so far with the stream it came from. -/
structure Gateways where
  streams : List Stream
  sent : List (Nat × UplinkIngest)

inductive StreamEvent where
  | opens
  | read (index : Nat) (incoming : Incoming)
  | send (index : Nat)

namespace Gateways

def new : Gateways := ⟨[], []⟩

/-- One step of one stream, with the message that it puts into the app's queue.
A stream reads only when everything it had to send has been accepted. -/
def step (c : Crates) (closed : GatewayTx → Bool) (g : Gateways) :
    StreamEvent → Option (Gateways × Option UplinkIngest)
  | .opens => some ({ g with streams := g.streams ++ [.opened ⟨g.streams.length⟩] }, none)
  | .read index incoming =>
      match g.streams[index]? with
      | some ⟨tx, gw, [], true⟩ =>
          let s : Stream := ⟨tx, gw, [], true⟩
          match s.read c (closed tx) incoming with
          | .ok next => some ({ g with streams := g.streams.set index next }, none)
          | .error _ => some ({ g with streams := g.streams.set index s.crash }, none)
      | _ => none
  | .send index =>
      match g.streams[index]? with
      | some ⟨tx, gw, msg :: rest, running⟩ =>
          some (⟨g.streams.set index ⟨tx, gw, rest, running⟩, g.sent ++ [(index, msg)]⟩, some msg)
      | _ => none

/-- What one stream has sent. -/
def sentBy (g : Gateways) (index : Nat) : List UplinkIngest :=
  g.sent.filterMap (fun line => if line.1 = index then some line.2 else none)

end Gateways

/-- The registrations among the messages, under some key of the gateway. -/
def UplinkIngest.registration {Key : Type*} (key : Gateway → Key) (index : Nat) :
    UplinkIngest → Option (SessionOp Nat Key)
  | .gatewayConnect gateway => some (.connect index (key gateway))
  | .uplinkReceive _ => none
  | .gatewayDisconnect gateway => some (.disconnect index (key gateway))

/-- The gateway that a message registers. -/
def UplinkIngest.connecting : UplinkIngest → Option Gateway
  | .gatewayConnect gateway => some gateway
  | .uplinkReceive _ | .gatewayDisconnect _ => none

def registrations {Key : Type*} (key : Gateway → Key) (sent : List (Nat × UplinkIngest)) :
    List (SessionOp Nat Key) :=
  sent.filterMap (fun line => line.2.registration key line.1)

/-- Stream and messages fit: what it has sent and what it is about to send is
its script so far, and its gateway carries its own channel. -/
structure Stream.Consistent (s : Stream) (sent : List UplinkIngest) : Prop where
  script : ∃ packets, sent ++ s.outbox = s.script packets
  channel : ∀ gw, s.gw = some gw → gw.tx = s.tx

/-- All streams are consistent, and nothing was sent by a stream that does not
exist. -/
structure Gateways.Consistent (g : Gateways) : Prop where
  stream : ∀ (index : Nat) (s : Stream), g.streams[index]? = some s →
    s.tx = ⟨index⟩ ∧ s.Consistent (g.sentBy index)
  bounded : ∀ line ∈ g.sent, line.1 < g.streams.length

namespace Stream

variable {c : Crates} {closed : Bool} {s next : Stream} {sent : List UplinkIngest}

theorem consistent_opened (tx : GatewayTx) : (opened tx).Consistent [] where
  script := ⟨[], rfl⟩
  channel := by
    intro gw h
    cases h

/-- Leaving the loop adds the departure to a script that had begun. -/
theorem Consistent.leave (h : s.Consistent sent) (hOutbox : s.outbox = [])
    (hRunning : s.running = true) : s.leave.Consistent sent ∧ s.leave.tx = s.tx := by
  obtain ⟨tx, gw, outbox, running⟩ := s
  obtain ⟨packets, hScript⟩ := h.script
  obtain rfl : outbox = [] := hOutbox
  obtain rfl : running = true := hRunning
  cases gw with
  | none => exact ⟨⟨⟨packets, hScript⟩, h.channel⟩, rfl⟩
  | some gw =>
      refine ⟨⟨⟨packets, ?_⟩, h.channel⟩, rfl⟩
      have hSent : sent = .gatewayConnect gw :: packets.map .uplinkReceive := by
        simpa [Stream.script] using hScript
      rw [hSent]
      simp [Stream.leave, Stream.script]

/-- Reading continues the script. -/
theorem Consistent.read {incoming : Incoming} (h : s.Consistent sent) (hOutbox : s.outbox = [])
    (hRunning : s.running = true) (hRead : s.read c closed incoming = .ok next) :
    next.Consistent sent ∧ next.tx = s.tx := by
  have hLeave := h.leave hOutbox hRunning
  cases incoming with
  | timeout =>
      simp only [Stream.read] at hRead
      split_ifs at hRead <;> cases hRead
      · exact hLeave
      · exact ⟨h, rfl⟩
  | error | shutdown =>
      cases hRead
      exact hLeave
  | ignored =>
      cases hRead
      exact ⟨h, rfl⟩
  | packet packet =>
      obtain ⟨tx, gw, outbox, running⟩ := s
      obtain ⟨packets, hScript⟩ := h.script
      obtain rfl : outbox = [] := hOutbox
      obtain rfl : running = true := hRunning
      cases gw with
      | none =>
          cases hMac : packet.gatewayMac c with
          | error reason => simp [Stream.read, Gateway.new, hMac, bind, Except.bind] at hRead
          | ok mac =>
              simp only [Stream.read, Gateway.new, hMac, bind, Except.bind, pure, Except.pure,
                Except.ok.injEq] at hRead
              subst hRead
              have hSent : sent = [] := by simpa [Stream.script] using hScript
              refine ⟨⟨⟨[packet], by simp [hSent, Stream.script]⟩, ?_⟩, rfl⟩
              intro gw hGw
              cases hGw
              rfl
      | some gw =>
          cases hRead
          have hSent : sent = .gatewayConnect gw :: packets.map .uplinkReceive := by
            simpa [Stream.script] using hScript
          exact ⟨⟨⟨packets ++ [packet], by simp [hSent, Stream.script]⟩, h.channel⟩, rfl⟩

/-- Only a first packet can make the task panic, and then nothing was sent. -/
theorem Consistent.crash {incoming : Incoming} {reason : Panic} (h : s.Consistent sent)
    (hRead : s.read c closed incoming = .error reason) : s.crash.Consistent sent := by
  have hNone : s.gw = none := by
    cases incoming with
    | packet packet =>
        cases hGw : s.gw with
        | none => rfl
        | some gw => simp [Stream.read, hGw] at hRead
    | timeout =>
        simp only [Stream.read] at hRead
        split_ifs at hRead
    | error | shutdown | ignored => cases hRead
  obtain ⟨packets, hScript⟩ := h.script
  have hSent : sent = [] := by
    rw [Stream.script, hNone] at hScript
    exact (List.append_eq_nil_iff.mp hScript).1
  refine ⟨⟨[], ?_⟩, h.channel⟩
  simp [Stream.crash, hSent, Stream.script, hNone]

/-- A script registers only at its beginning. -/
theorem script_connect {gw : Gateway} {before after : List UplinkIngest} {packets : List PacketUp}
    (h : before ++ .gatewayConnect gw :: after = s.script packets) :
    before = [] ∧ s.gw = some gw := by
  cases hGw : s.gw with
  | none =>
      rw [Stream.script, hGw] at h
      simp at h
  | some own =>
      rw [Stream.script, hGw] at h
      cases before with
      | nil =>
          simp only [List.nil_append, List.cons_append, List.cons.injEq,
            UplinkIngest.gatewayConnect.injEq] at h
          exact ⟨rfl, by rw [h.1]⟩
      | cons first before =>
          simp only [List.cons_append, List.cons.injEq] at h
          have hMem : .gatewayConnect gw ∈ packets.map UplinkIngest.uplinkReceive ++
              if s.running then [] else [.gatewayDisconnect own] := by
            rw [← h.2]
            simp
          split_ifs at hMem <;> simp at hMem

/-- It departs only at its end. -/
theorem script_disconnect {gw : Gateway} {before after : List UplinkIngest}
    {packets : List PacketUp} (h : before ++ .gatewayDisconnect gw :: after = s.script packets) :
    before = .gatewayConnect gw :: packets.map .uplinkReceive ∧ after = [] ∧ s.gw = some gw := by
  cases hGw : s.gw with
  | none =>
      rw [Stream.script, hGw] at h
      simp at h
  | some own =>
      rw [Stream.script, hGw] at h
      have hNot : .gatewayDisconnect gw ∉ packets.map UplinkIngest.uplinkReceive := by simp
      cases before with
      | nil => simp at h
      | cons first before =>
          simp only [List.cons_append, List.cons.injEq] at h
          obtain ⟨rfl, hRest⟩ := h
          cases hRunning : s.running with
          | true =>
              rw [hRunning, if_pos rfl, List.append_nil] at hRest
              exact absurd (by rw [← hRest]; simp) hNot
          | false =>
              simp only [hRunning, Bool.false_eq_true, if_false] at hRest
              rcases List.append_eq_append_iff.mp hRest with ⟨extra, hPackets, hLast⟩ | ⟨extra, hBefore, hLast⟩
              · cases extra with
                | nil =>
                    simp only [List.nil_append, List.cons.injEq,
                      UplinkIngest.gatewayDisconnect.injEq] at hLast
                    obtain ⟨rfl, rfl⟩ := hLast
                    simp [hPackets]
                | cons line extra =>
                    simp only [List.cons_append, List.cons.injEq] at hLast
                    exact absurd (by rw [hPackets, ← hLast.1]; simp) hNot
              · cases extra with
                | nil =>
                    simp only [List.nil_append, List.cons.injEq,
                      UplinkIngest.gatewayDisconnect.injEq] at hLast
                    obtain ⟨rfl, rfl⟩ := hLast
                    simp [hBefore]
                | cons line extra => simp at hLast

/-- An uplink comes after the registration and before the departure. -/
theorem script_uplink {packet : PacketUp} {before after : List UplinkIngest}
    {packets : List PacketUp} (h : before ++ .uplinkReceive packet :: after = s.script packets) :
    ∃ gw, s.gw = some gw ∧ .gatewayConnect gw ∈ before ∧ ∀ own, .gatewayDisconnect own ∉ before := by
  cases hGw : s.gw with
  | none =>
      rw [Stream.script, hGw] at h
      simp at h
  | some gw =>
      refine ⟨gw, rfl, ?_, fun own hMem => ?_⟩
      · rw [Stream.script, hGw] at h
        cases before with
        | nil => simp at h
        | cons first before =>
            simp only [List.cons_append, List.cons.injEq] at h
            rw [h.1]
            exact List.mem_cons_self
      · obtain ⟨left, right, rfl⟩ := List.append_of_mem hMem
        rw [List.append_assoc, List.cons_append] at h
        obtain ⟨-, hEnd, -⟩ := script_disconnect h
        simp at hEnd

/-- What a stream knows and is about to send comes from packets it has read. -/
structure Origin (c : Crates) (read : PacketUp → Prop) (sent : List UplinkIngest) (s : Stream) :
    Prop where
  gateway : ∀ gw, s.gw = some gw → ∃ packet, read packet ∧ packet.gatewayMac c = .ok gw.mac
  packets : ∀ packet, .uplinkReceive packet ∈ sent ++ s.outbox → read packet

/-- Reading one more packet keeps the origin of everything. -/
theorem Origin.read {readers : PacketUp → Prop} {incoming : Incoming}
    (h : s.Origin c readers sent) (hOutbox : s.outbox = [])
    (hPacket : ∀ packet, incoming = .packet packet → readers packet)
    (hRead : s.read c closed incoming = .ok next) : next.Origin c readers sent := by
  obtain ⟨tx, gw, outbox, running⟩ := s
  obtain rfl : outbox = [] := hOutbox
  have hLeave : (Stream.leave ⟨tx, gw, [], running⟩).Origin c readers sent := by
    cases gw with
    | none => exact ⟨h.gateway, h.packets⟩
    | some gw =>
        refine ⟨h.gateway, fun packet hMem => h.packets packet ?_⟩
        simpa [Stream.leave] using hMem
  cases incoming with
  | timeout =>
      simp only [Stream.read] at hRead
      split_ifs at hRead <;> cases hRead
      · exact hLeave
      · exact h
  | error | shutdown =>
      cases hRead
      exact hLeave
  | ignored =>
      cases hRead
      exact h
  | packet packet =>
      have hOwn := hPacket packet rfl
      cases gw with
      | none =>
          cases hMac : packet.gatewayMac c with
          | error reason => simp [Stream.read, Gateway.new, hMac, bind, Except.bind] at hRead
          | ok mac =>
              simp only [Stream.read, Gateway.new, hMac, bind, Except.bind, pure, Except.pure,
                Except.ok.injEq] at hRead
              subst hRead
              refine ⟨fun gw hGw => ?_, fun other hMem => ?_⟩
              · cases hGw
                exact ⟨packet, hOwn, hMac⟩
              · rcases List.mem_append.mp hMem with hOld | hNew
                · exact h.packets other (List.mem_append_left _ hOld)
                · obtain rfl : other = packet := by simpa using hNew
                  exact hOwn
      | some gw =>
          cases hRead
          refine ⟨h.gateway, fun other hMem => ?_⟩
          rcases List.mem_append.mp hMem with hOld | hNew
          · exact h.packets other (List.mem_append_left _ hOld)
          · obtain rfl : other = packet := by simpa using hNew
            exact hOwn

end Stream

section

variable {Key : Type*} {key : Gateway → Key} {sent : List (Nat × UplinkIngest)} {index : Nat}

theorem registrations_append_singleton (key : Gateway → Key) (index : Nat) (msg : UplinkIngest) :
    registrations key (sent ++ [(index, msg)]) =
      registrations key sent ++ (msg.registration key index).toList := by
  cases msg <;> simp [registrations, UplinkIngest.registration]

theorem connect_mem_registrations {k : Key} :
    .connect index k ∈ registrations key sent ↔
      ∃ gw, (index, .gatewayConnect gw) ∈ sent ∧ key gw = k := by
  simp only [registrations, List.mem_filterMap]
  constructor
  · rintro ⟨⟨own, msg⟩, hMem, hLine⟩
    cases msg with
    | gatewayConnect gw =>
        cases hLine
        exact ⟨gw, hMem, rfl⟩
    | uplinkReceive | gatewayDisconnect => cases hLine
  · rintro ⟨gw, hMem, rfl⟩
    exact ⟨_, hMem, rfl⟩

theorem disconnect_mem_registrations {k : Key} :
    .disconnect index k ∈ registrations key sent ↔
      ∃ gw, (index, .gatewayDisconnect gw) ∈ sent ∧ key gw = k := by
  simp only [registrations, List.mem_filterMap]
  constructor
  · rintro ⟨⟨own, msg⟩, hMem, hLine⟩
    cases msg with
    | gatewayDisconnect gw =>
        cases hLine
        exact ⟨gw, hMem, rfl⟩
    | uplinkReceive | gatewayConnect => cases hLine
  · rintro ⟨gw, hMem, rfl⟩
    exact ⟨_, hMem, rfl⟩

end

namespace Gateways

variable {c : Crates} {closed : GatewayTx → Bool} {g g' : Gateways} {event : StreamEvent}
  {emitted : Option UplinkIngest}

theorem mem_sentBy {index : Nat} {msg : UplinkIngest} :
    msg ∈ g.sentBy index ↔ (index, msg) ∈ g.sent := by
  simp only [sentBy, List.mem_filterMap]
  constructor
  · rintro ⟨⟨own, line⟩, hMem, hLine⟩
    split_ifs at hLine with hIndex
    cases hLine
    rwa [← hIndex]
  · intro hMem
    exact ⟨_, hMem, if_pos rfl⟩

/-- Everything one step of a stream can do. -/
theorem step_cases (h : g.step c closed event = some (g', emitted)) :
    (event = .opens ∧ emitted = none ∧
      g' = { g with streams := g.streams ++ [.opened ⟨g.streams.length⟩] }) ∨
    (∃ (index : Nat) (incoming : Incoming) (s next : Stream), event = .read index incoming ∧
      emitted = none ∧ g.streams[index]? = some s ∧ s.outbox = [] ∧ s.running = true ∧
      (s.read c (closed s.tx) incoming = .ok next ∨
        (∃ reason, s.read c (closed s.tx) incoming = .error reason) ∧ next = s.crash) ∧
      g' = { g with streams := g.streams.set index next }) ∨
    (∃ (index : Nat) (s : Stream) (msg : UplinkIngest) (rest : List UplinkIngest),
      event = .send index ∧ emitted = some msg ∧ g.streams[index]? = some s ∧
      s.outbox = msg :: rest ∧
      g' = ⟨g.streams.set index { s with outbox := rest }, g.sent ++ [(index, msg)]⟩) := by
  cases event with
  | opens =>
      cases h
      exact .inl ⟨rfl, rfl, rfl⟩
  | read index incoming =>
      right; left
      simp only [step] at h
      split at h
      · next tx gw hStream =>
          split at h
          · next after hRead =>
              cases h
              exact ⟨index, incoming, _, after, rfl, rfl, hStream, rfl, rfl, .inl hRead, rfl⟩
          · next reason hRead =>
              cases h
              exact ⟨index, incoming, _, _, rfl, rfl, hStream, rfl, rfl, .inr ⟨⟨reason, hRead⟩, rfl⟩, rfl⟩
      · cases h
  | send index =>
      right; right
      simp only [step] at h
      split at h
      · next tx gw msg rest running hStream =>
          cases h
          exact ⟨index, _, msg, rest, rfl, rfl, hStream, rfl, rfl⟩
      · cases h

/-- A step that sends nothing leaves what was sent as it is. -/
theorem sent_of_silent (h : g.step c closed event = some (g', none)) : g'.sent = g.sent := by
  obtain ⟨-, -, rfl⟩ | ⟨_, _, _, _, -, -, -, -, -, -, rfl⟩ | ⟨_, _, _, _, -, hSome, -⟩ := step_cases h
  · rfl
  · rfl
  · cases hSome

/-- A message is sent by one of the streams. -/
theorem sent_of_send {msg : UplinkIngest} (h : g.step c closed event = some (g', some msg)) :
    ∃ index, g'.sent = g.sent ++ [(index, msg)] := by
  obtain ⟨-, hNone, -⟩ | ⟨_, _, _, _, -, hNone, -⟩ | ⟨index, _, sent, _, -, hEmitted, -, -, rfl⟩ :=
    step_cases h
  · cases hNone
  · cases hNone
  · cases hEmitted
    exact ⟨index, rfl⟩

theorem consistent_new : new.Consistent where
  stream := by
    intro index s h
    simp [new] at h
  bounded := by
    intro line h
    cases h

/-- Replacing one stream by one that fits what it has sent keeps all consistent. -/
theorem Consistent.set {index : Nat} {s next : Stream} (h : g.Consistent)
    (hStream : g.streams[index]? = some s) (hNext : next.Consistent (g.sentBy index))
    (hTx : next.tx = s.tx) :
    Consistent { g with streams := g.streams.set index next } where
  stream := by
    intro other t hOther
    rw [List.getElem?_set] at hOther
    split_ifs at hOther with hIndex hLength
    · subst hIndex
      cases hOther
      exact ⟨hTx.trans (h.stream index s hStream).1, hNext⟩
    · exact h.stream other t hOther
  bounded := by
    intro line hLine
    rw [List.length_set]
    exact h.bounded line hLine

/-- Sending one message moves it from the outbox to what was sent. -/
theorem Consistent.send {index : Nat} {s : Stream} {msg : UplinkIngest} {rest : List UplinkIngest}
    (h : g.Consistent) (hStream : g.streams[index]? = some s) (hOutbox : s.outbox = msg :: rest) :
    Consistent ⟨g.streams.set index { s with outbox := rest }, g.sent ++ [(index, msg)]⟩ where
  stream := by
    intro other t hOther
    rw [List.getElem?_set] at hOther
    split_ifs at hOther with hIndex hLength
    · subst hIndex
      cases hOther
      obtain ⟨hTx, ⟨packets, hScript⟩, hChannel⟩ := h.stream index s hStream
      refine ⟨hTx, ⟨packets, ?_⟩, hChannel⟩
      have hSent : (⟨g.streams.set index { s with outbox := rest }, g.sent ++ [(index, msg)]⟩ :
          Gateways).sentBy index = g.sentBy index ++ [msg] := by
        simp [sentBy]
      rw [hOutbox] at hScript
      rw [hSent, List.append_assoc]
      exact hScript
    · have hSent : (⟨g.streams.set index { s with outbox := rest }, g.sent ++ [(index, msg)]⟩ :
          Gateways).sentBy other = g.sentBy other := by
        simp [sentBy, hIndex]
      rw [hSent]
      exact h.stream other t hOther
  bounded := by
    have hIndex : index < g.streams.length := (List.getElem?_eq_some_iff.mp hStream).1
    intro line hLine
    rw [List.length_set]
    rcases List.mem_append.mp hLine with hLine | hLine
    · exact h.bounded line hLine
    · rw [List.mem_singleton.mp hLine]
      exact hIndex

theorem Consistent.step (h : g.Consistent) (hStep : g.step c closed event = some (g', emitted)) :
    g'.Consistent := by
  obtain ⟨-, -, rfl⟩ | ⟨index, incoming, s, next, -, -, hStream, hOutbox, hRunning, hRead, rfl⟩ |
    ⟨index, s, msg, rest, -, -, hStream, hOutbox, rfl⟩ := step_cases hStep
  · refine ⟨fun index s hStream => ?_, fun line hLine => ?_⟩
    · rw [List.getElem?_append] at hStream
      split_ifs at hStream with hOld
      · exact h.stream index s hStream
      · obtain ⟨hZero, rfl⟩ : index - g.streams.length = 0 ∧ Stream.opened ⟨g.streams.length⟩ = s := by
          rwa [List.getElem?_singleton, Option.ite_none_right_eq_some, Option.some.injEq] at hStream
        obtain rfl : index = g.streams.length := by omega
        have hSilent : g.sentBy g.streams.length = [] := by
          rw [List.eq_nil_iff_forall_not_mem]
          intro msg hMsg
          have := h.bounded _ (mem_sentBy.mp hMsg)
          omega
        refine ⟨rfl, ?_⟩
        change (Stream.opened _).Consistent (g.sentBy g.streams.length)
        rw [hSilent]
        exact Stream.consistent_opened _
    · have := h.bounded line hLine
      rw [List.length_append]
      omega
  · obtain ⟨-, hConsistent⟩ := h.stream index s hStream
    rcases hRead with hNext | ⟨⟨reason, hPanic⟩, rfl⟩
    · obtain ⟨hNext, hTx⟩ := hConsistent.read hOutbox hRunning hNext
      exact h.set hStream hNext hTx
    · exact h.set hStream (hConsistent.crash hPanic) rfl
  · exact h.send hStream hOutbox

/-- Streams register once and leave what they registered under. -/
theorem Consistent.valid_step {Key : Type*} {key : Gateway → Key} (h : g.Consistent)
    (hValid : Valid (registrations key g.sent))
    (hStep : g.step c closed event = some (g', emitted)) :
    Valid (registrations key g'.sent) := by
  obtain ⟨-, -, rfl⟩ | ⟨index, incoming, s, next, -, -, -, -, -, -, rfl⟩ |
    ⟨index, s, msg, rest, -, -, hStream, hOutbox, rfl⟩ := step_cases hStep
  · exact hValid
  · exact hValid
  · obtain ⟨-, ⟨packets, hScript⟩, -⟩ := h.stream index s hStream
    rw [hOutbox] at hScript
    rw [registrations_append_singleton]
    cases msg with
    | uplinkReceive packet => simpa [UplinkIngest.registration] using hValid
    | gatewayConnect gw =>
        obtain ⟨hSilent, -⟩ := Stream.script_connect hScript
        refine hValid.connect index (key gw) (fun other => ⟨?_, ?_⟩)
        · rw [connect_mem_registrations]
          rintro ⟨own, hMem, -⟩
          rw [← mem_sentBy, hSilent] at hMem
          cases hMem
        · rw [disconnect_mem_registrations]
          rintro ⟨own, hMem, -⟩
          rw [← mem_sentBy, hSilent] at hMem
          cases hMem
    | gatewayDisconnect gw =>
        obtain ⟨hSent, -, -⟩ := Stream.script_disconnect hScript
        refine hValid.disconnect index (key gw) ⟨?_, ?_⟩
        · rw [connect_mem_registrations]
          refine ⟨gw, ?_, rfl⟩
          rw [← mem_sentBy, hSent]
          exact List.mem_cons_self
        · rw [disconnect_mem_registrations]
          rintro ⟨own, hMem, -⟩
          rw [← mem_sentBy, hSent] at hMem
          simp at hMem

/-- Every stream's gateway and packets come from what that stream has read. -/
def Origin (c : Crates) (read : Nat → PacketUp → Prop) (g : Gateways) : Prop :=
  ∀ (index : Nat) (s : Stream), g.streams[index]? = some s →
    s.Origin c (read index) (g.sentBy index)

/-- One step of a stream keeps the origin of everything. -/
theorem Origin.step {readers : Nat → PacketUp → Prop} (h : g.Origin c readers)
    (hConsistent : g.Consistent)
    (hRead : ∀ index packet, event = .read index (.packet packet) → readers index packet)
    (hStep : g.step c closed event = some (g', emitted)) : g'.Origin c readers := by
  have hSet {index : Nat} {s next : Stream} (hStream : g.streams[index]? = some s)
      (hNext : next.Origin c (readers index) (g.sentBy index)) :
      Origin c readers { g with streams := g.streams.set index next } := by
    intro other t hOther
    rw [List.getElem?_set] at hOther
    split_ifs at hOther with hIndex hLength
    · subst hIndex
      cases hOther
      exact hNext
    · exact h other t hOther
  obtain ⟨-, -, rfl⟩ | ⟨index, incoming, s, next, rfl, -, hStream, hOutbox, -, hNext, rfl⟩ |
    ⟨index, s, msg, rest, -, -, hStream, hOutbox, rfl⟩ := step_cases hStep
  · intro index s hStream
    rw [List.getElem?_append] at hStream
    split_ifs at hStream with hOld
    · exact h index s hStream
    · obtain ⟨hZero, rfl⟩ : index - g.streams.length = 0 ∧ Stream.opened ⟨g.streams.length⟩ = s := by
        rwa [List.getElem?_singleton, Option.ite_none_right_eq_some, Option.some.injEq] at hStream
      refine ⟨by simp [Stream.opened], fun packet hMem => ?_⟩
      have hSent : .uplinkReceive packet ∈ g.sentBy index ++ [] := hMem
      rw [List.append_nil] at hSent
      have := hConsistent.bounded _ (mem_sentBy.mp hSent)
      omega
  · have hOrigin := h index s hStream
    rcases hNext with hNext | ⟨-, rfl⟩
    · refine hSet hStream (hOrigin.read hOutbox (fun packet hPacket => ?_) hNext)
      exact hRead index packet (by rw [hPacket])
    · refine hSet hStream ⟨hOrigin.gateway, fun packet hMem => hOrigin.packets packet ?_⟩
      rw [hOutbox]
      exact hMem
  · intro other t hOther
    rw [List.getElem?_set] at hOther
    split_ifs at hOther with hIndex hLength
    · subst hIndex
      cases hOther
      have hSent : (⟨g.streams.set index { s with outbox := rest }, g.sent ++ [(index, msg)]⟩ :
          Gateways).sentBy index = g.sentBy index ++ [msg] := by
        simp [sentBy]
      have hOrigin := h index s hStream
      refine ⟨hOrigin.gateway, fun packet hMem => hOrigin.packets packet ?_⟩
      rw [hSent, List.append_assoc] at hMem
      rwa [hOutbox]
    · have hSent : (⟨g.streams.set index { s with outbox := rest }, g.sent ++ [(index, msg)]⟩ :
          Gateways).sentBy other = g.sentBy other := by
        simp [sentBy, hIndex]
      rw [hSent]
      exact h other t hOther

/-- A stream that sends an uplink is registered under its own gateway. -/
theorem Consistent.live_of_uplink {Key : Type*} (key : Gateway → Key) {index : Nat}
    {packet : PacketUp} {before after : List (Nat × UplinkIngest)} (h : g.Consistent)
    (hSent : g.sent = before ++ (index, .uplinkReceive packet) :: after) :
    ∃ (s : Stream) (gw : Gateway), g.streams[index]? = some s ∧ s.gw = some gw ∧
      Live (registrations key before) index (key gw) := by
  have hIndex : index < g.streams.length := h.bounded (index, .uplinkReceive packet) (by simp [hSent])
  obtain ⟨s, hStream⟩ : ∃ s, g.streams[index]? = some s := ⟨_, List.getElem?_eq_getElem hIndex⟩
  obtain ⟨-, ⟨packets, hScript⟩, -⟩ := h.stream index s hStream
  have hBy : g.sentBy index = (⟨[], before⟩ : Gateways).sentBy index ++
      .uplinkReceive packet :: (⟨[], after⟩ : Gateways).sentBy index := by
    simp [sentBy, hSent]
  rw [hBy, List.append_assoc, List.cons_append] at hScript
  obtain ⟨gw, hGw, hConnect, hStays⟩ := Stream.script_uplink hScript
  refine ⟨s, gw, hStream, hGw, ?_, ?_⟩
  · rw [connect_mem_registrations]
    exact ⟨gw, mem_sentBy.mp hConnect, rfl⟩
  · rw [disconnect_mem_registrations]
    rintro ⟨own, hMem, -⟩
    exact hStays own (mem_sentBy.mpr hMem)

/-- A gateway that was registered is that of its stream. -/
theorem Consistent.stream_of_connect {index : Nat} {gw : Gateway} (h : g.Consistent)
    (hSent : (index, .gatewayConnect gw) ∈ g.sent) :
    ∃ s, g.streams[index]? = some s ∧ s.gw = some gw ∧ s.tx = ⟨index⟩ ∧ gw.tx = ⟨index⟩ := by
  have hIndex : index < g.streams.length := h.bounded _ hSent
  obtain ⟨s, hStream⟩ : ∃ s, g.streams[index]? = some s := ⟨_, List.getElem?_eq_getElem hIndex⟩
  obtain ⟨hTx, ⟨packets, hScript⟩, hChannel⟩ := h.stream index s hStream
  obtain ⟨before, after, hSplit⟩ := List.append_of_mem (mem_sentBy.mpr hSent)
  rw [hSplit, List.append_assoc, List.cons_append] at hScript
  obtain ⟨-, hGw⟩ := Stream.script_connect hScript
  exact ⟨s, hStream, hGw, hTx, (hChannel gw hGw).trans hTx⟩

/-- No two registrations carry the same channel. -/
theorem Consistent.nodup_channels {Key : Type*} {key : Gateway → Key} (h : g.Consistent)
    (hValid : Valid (registrations key g.sent)) :
    ((g.sent.filterMap fun line => line.2.connecting).map Gateway.tx).Nodup := by
  have hChannels : (g.sent.filterMap fun line => line.2.connecting).map Gateway.tx =
      ((registrations key g.sent).filterMap SessionOp.connecting).map GatewayTx.mk := by
    rw [registrations, List.filterMap_filterMap, List.map_filterMap, List.map_filterMap]
    refine List.filterMap_congr ?_
    rintro ⟨index, msg⟩ hLine
    cases msg with
    | uplinkReceive | gatewayDisconnect => rfl
    | gatewayConnect gw =>
        obtain ⟨-, -, -, -, hTx⟩ := h.stream_of_connect hLine
        exact congrArg some hTx
  rw [hChannels]
  exact hValid.nodup_connecting.map fun _ _ hId => GatewayTx.mk.inj hId

end Gateways

end PacketRouter
