import PacketRouterIngest.Gwmp.App
import PacketRouterIngest.Semantics.Runs

/-! The GWMP service together with the gRPC streams that feed it. Forwarders
are kept by MAC while sessions are streams, so an uplink finds its forwarder
unless the last message about its MAC was the disconnect of another stream.

The queue has no bound here. In the source it holds 512 messages: a message that
waits for room there counts as not yet sent, and one whose downlink or uplink
is being sent on counts as not yet handled. -/
namespace PacketRouter.Gwmp

open Rust Semantics

/-- `impl UplinkIngest for MsgSender`. -/
def ingest : UplinkIngest → Msg
  | .gatewayConnect gw => .gatewayConnect gw
  | .uplinkReceive packet => .uplink packet
  | .gatewayDisconnect gw => .gatewayDisconnect gw

/-- The message of a stream that a message of the queue is. -/
def Msg.ingested : Msg → Option UplinkIngest
  | .gatewayConnect gw => some (.gatewayConnect gw)
  | .uplink packet => some (.uplinkReceive packet)
  | .gatewayDisconnect gw => some (.gatewayDisconnect gw)
  | .downlink _ _ => none

/-- One iteration of the loop of `start`, as it is remembered. -/
structure Turn where
  msg : Msg
  action : UpdateAction
  effects : Effects

structure System where
  gateways : Gateways
  app : App
  queue : List Msg
  closed : List GatewayTx
  log : List Turn

inductive SystemEvent where
  | stream (event : StreamEvent)
  /-- A UDP runtime received a downlink for its gateway. -/
  | downlink (gateway : Gateway) (request : DownlinkRequest)
  | dropReceiver (tx : GatewayTx)
  | turn (env : Environment)

namespace System

def init (settings : GwmpSettings) : System := ⟨.new, .new settings, [], [], []⟩

variable (c : Crates) (u : UdpCrates)

/-- Handle one message and carry out the side effect it asks for. -/
def handle (env : Environment) (s : System) (msg : Msg) (rest : List Msg) : Panics System := do
  let (app, action) ← handleMessage c u env s.app msg
  let effects ← handleUpdateAction c u env (fun tx => s.closed.contains tx) action
  return { s with app, queue := rest, log := s.log ++ [⟨msg, action, effects⟩] }

def step (s : System) : SystemEvent → Option System
  | .stream event =>
      match s.gateways.step c (fun tx => s.closed.contains tx) event with
      | none => none
      | some (gateways, none) => some { s with gateways }
      | some (gateways, some msg) => some { s with gateways, queue := s.queue ++ [ingest msg] }
  | .downlink gateway request => some { s with queue := s.queue ++ [.downlink gateway request] }
  | .dropReceiver tx => some { s with closed := tx :: s.closed }
  | .turn env =>
      match s.queue with
      | [] => none
      | msg :: rest =>
          match s.handle c u env msg rest with
          | .ok next => some next
          | .error _ => none

abbrev Runs (settings : GwmpSettings) (events : List SystemEvent) (s : System) : Prop :=
  Run (step c u) (init settings) events s

/-- Registrations of MACs among the messages of the streams. -/
def registrations (sent : List (Nat × UplinkIngest)) : List (SessionOp Nat GatewayMac) :=
  PacketRouter.registrations Gateway.mac sent

end System

/-- The app answers an uplink with a forwarder that has not been shut down. -/
def App.Forwards (c : Crates) (u : UdpCrates) (env : Environment) (app : App)
    (packet : PacketUp) : Prop :=
  ∃ forwarder, handleMessage c u env app (.uplink packet) = .ok (app, .uplink forwarder packet) ∧
    forwarder.shutdownTrigger ∉ app.fired

/-- All packets that one stream reads come from one gateway. -/
def OneGateway (events : List SystemEvent) : Prop :=
  ∀ index p q, .stream (.read index (.packet p)) ∈ events →
    .stream (.read index (.packet q)) ∈ events → q.packet.gateway = p.packet.gateway

namespace System

variable {c : Crates} {u : UdpCrates} {s t : System}

/-- The messages of the streams are handled in the order in which they were
sent, and the forwarders are the table of the registrations handled so far. -/
structure Ordered (s : System) : Prop where
  consistent : s.gateways.Consistent
  valid : Valid (registrations s.gateways.sent)
  armed : s.app.Armed
  fifo : ∃ handled waiting, s.gateways.sent = handled ++ waiting ∧
    s.log.filterMap (fun turn => turn.msg.ingested) = handled.map Prod.snd ∧
    s.queue.filterMap Msg.ingested = waiting.map Prod.snd ∧
    ∀ mac, (∃ forwarder, s.app.forwardChans.lookup mac = some forwarder) ↔
      ∃ live, holder (registrations handled) mac = some live

theorem ordered_init (settings : GwmpSettings) : (init settings).Ordered where
  consistent := Gateways.consistent_new
  valid := .nil
  armed := App.armed_new settings
  fifo := by
    refine ⟨[], [], rfl, rfl, rfl, fun mac => ?_⟩
    constructor
    · rintro ⟨forwarder, h⟩
      cases h
    · rintro ⟨live, h⟩
      cases h

@[simp] theorem ingested_ingest (msg : UplinkIngest) : (ingest msg).ingested = some msg := by
  cases msg <;> rfl

/-- Everything a turn can do. -/
theorem handle_eq_ok {env : Environment} {msg : Msg} {rest : List Msg}
    (h : s.handle c u env msg rest = .ok t) :
    ∃ app action effects, handleMessage c u env s.app msg = .ok (app, action) ∧
      t = { s with app, queue := rest, log := s.log ++ [⟨msg, action, effects⟩] } := by
  cases hMsg : handleMessage c u env s.app msg with
  | error reason => simp [handle, hMsg, bind, Except.bind] at h
  | ok result =>
      obtain ⟨app, action⟩ := result
      cases hAction : handleUpdateAction c u env (fun tx => s.closed.contains tx) action with
      | error reason =>
          simp only [handle, hMsg, hAction, bind, Except.bind, reduceCtorEq] at h
      | ok effects =>
          simp only [handle, hMsg, hAction, bind, Except.bind, pure, Except.pure,
            Except.ok.injEq] at h
          exact ⟨app, action, effects, rfl, h.symm⟩

/-- Everything one event can do. -/
theorem step_cases {event : SystemEvent} (h : System.step c u s event = some t) :
    (∃ inner gateways, event = .stream inner ∧
      s.gateways.step c (fun tx => s.closed.contains tx) inner = some (gateways, none) ∧
      t = { s with gateways }) ∨
    (∃ inner gateways msg, event = .stream inner ∧
      s.gateways.step c (fun tx => s.closed.contains tx) inner = some (gateways, some msg) ∧
      t = { s with gateways, queue := s.queue ++ [ingest msg] }) ∨
    (∃ gateway request, event = .downlink gateway request ∧
      t = { s with queue := s.queue ++ [.downlink gateway request] }) ∨
    (∃ tx, event = .dropReceiver tx ∧ t = { s with closed := tx :: s.closed }) ∨
    (∃ env msg rest app action effects, event = .turn env ∧ s.queue = msg :: rest ∧
      handleMessage c u env s.app msg = .ok (app, action) ∧
      t = { s with app, queue := rest, log := s.log ++ [⟨msg, action, effects⟩] }) := by
  cases event with
  | stream inner =>
      simp only [System.step] at h
      split at h
      · cases h
      · next gateways hSilent =>
          cases h
          exact .inl ⟨inner, gateways, rfl, hSilent, rfl⟩
      · next gateways msg hSend =>
          cases h
          exact .inr (.inl ⟨inner, gateways, msg, rfl, hSend, rfl⟩)
  | downlink gateway request =>
      cases h
      exact .inr (.inr (.inl ⟨gateway, request, rfl, rfl⟩))
  | dropReceiver tx =>
      cases h
      exact .inr (.inr (.inr (.inl ⟨tx, rfl, rfl⟩)))
  | turn env =>
      simp only [System.step] at h
      split at h
      · cases h
      · next msg rest hQueue =>
          split at h
          · next hHandle =>
              cases h
              obtain ⟨app, action, effects, hMsg, rfl⟩ := handle_eq_ok hHandle
              exact .inr (.inr (.inr (.inr
                ⟨env, msg, rest, app, action, effects, rfl, hQueue, hMsg, rfl⟩)))
          · cases h

/-- The forwarders change with the registrations that are handled. -/
theorem table_handleMessage {env : Environment} {app app' : App} {msg : Msg}
    {action : UpdateAction} {handled : List (Nat × UplinkIngest)} {index : Nat}
    {line : UplinkIngest} (hMsg : handleMessage c u env app msg = .ok (app', action))
    (hLine : msg.ingested = some line)
    (hTable : ∀ mac, (∃ forwarder, app.forwardChans.lookup mac = some forwarder) ↔
      ∃ live, holder (registrations handled) mac = some live) (mac : GatewayMac) :
    (∃ forwarder, app'.forwardChans.lookup mac = some forwarder) ↔
      ∃ live, holder (registrations (handled ++ [(index, line)])) mac = some live := by
  have hAppend : registrations (handled ++ [(index, line)]) =
      registrations handled ++ (line.registration Gateway.mac index).toList :=
    registrations_append_singleton ..
  rw [hAppend]
  obtain ⟨gateway, runtime, rfl, rfl, -⟩ | ⟨gateway, forwarder, rfl, -, rfl, -⟩ |
    ⟨gateway, rfl, hNone, rfl, -⟩ | ⟨packet, own, rfl, -, rfl, -⟩ | ⟨_, _, rfl, -, -⟩ :=
      handleMessage_cases hMsg
  · cases hLine
    rw [UplinkIngest.registration, Option.toList_some, holder_connect, App.lookup_addGateway]
    split_ifs
    · simp
    · exact hTable mac
  · cases hLine
    rw [UplinkIngest.registration, Option.toList_some, holder_disconnect]
    by_cases hMac : mac = gateway.mac
    · rw [hMac, AList.lookup_erase]
      simp
    · rw [if_neg hMac, AList.lookup_erase_ne hMac]
      exact hTable mac
  · -- Removing a MAC that has no forwarder leaves none behind either.
    cases hLine
    rw [UplinkIngest.registration, Option.toList_some, holder_disconnect]
    split_ifs with hMac
    · rw [hMac, hNone]
      simp
    · exact hTable mac
  · cases hLine
    rw [UplinkIngest.registration, Option.toList_none, List.append_nil]
    exact hTable mac
  · cases hLine

/-- A turn takes one message of the streams off the queue at most. -/
theorem Ordered.turn {env : Environment} {msg : Msg} {rest : List Msg} {app : App}
    {action : UpdateAction} {effects : Effects} (h : s.Ordered) (hQueue : s.queue = msg :: rest)
    (hMsg : handleMessage c u env s.app msg = .ok (app, action)) :
    Ordered { s with app, queue := rest, log := s.log ++ [⟨msg, action, effects⟩] } := by
  obtain ⟨handled, waiting, hSent, hLog, hWaiting, hTable⟩ := h.fifo
  rw [hQueue] at hWaiting
  refine ⟨h.consistent, h.valid, h.armed.handleMessage hMsg, ?_⟩
  cases hLine : msg.ingested with
  | none =>
      rw [List.filterMap_cons_none hLine] at hWaiting
      refine ⟨handled, waiting, hSent, ?_, hWaiting, ?_⟩
      · simpa [hLine] using hLog
      · obtain ⟨_, _, rfl, -⟩ | ⟨_, _, rfl, -⟩ | ⟨_, rfl, -⟩ | ⟨_, _, rfl, -⟩ |
          ⟨gateway, request, -, rfl, -⟩ := handleMessage_cases hMsg
        · cases hLine
        · cases hLine
        · cases hLine
        · cases hLine
        · exact hTable
  | some line =>
      rw [List.filterMap_cons_some hLine] at hWaiting
      cases waiting with
      | nil => cases hWaiting
      | cons first waiting =>
          obtain ⟨index, sent⟩ := first
          rw [List.map_cons, List.cons.injEq] at hWaiting
          obtain ⟨rfl, hWaiting⟩ := hWaiting
          refine ⟨handled ++ [(index, line)], waiting, hSent.trans (by simp), ?_, hWaiting,
            table_handleMessage hMsg hLine hTable⟩
          simp [hLog, hLine]

/-- One event keeps the order of messages and the forwarders. -/
theorem Ordered.step {event : SystemEvent} (h : s.Ordered)
    (hStep : System.step c u s event = some t) : t.Ordered := by
  obtain ⟨handled, waiting, hSent, hLog, hWaiting, hTable⟩ := h.fifo
  obtain ⟨event, gateways, rfl, hSilent, rfl⟩ | ⟨event, gateways, msg, rfl, hSend, rfl⟩ |
    ⟨gateway, request, rfl, rfl⟩ | ⟨tx, rfl, rfl⟩ |
    ⟨env, msg, rest, app, action, effects, rfl, hQueue, hMsg, rfl⟩ := step_cases hStep
  · exact ⟨h.consistent.step hSilent, h.consistent.valid_step h.valid hSilent, h.armed,
      handled, waiting, (Gateways.sent_of_silent hSilent).trans hSent, hLog, hWaiting, hTable⟩
  · obtain ⟨index, hNext⟩ := Gateways.sent_of_send hSend
    refine ⟨h.consistent.step hSend, h.consistent.valid_step h.valid hSend, h.armed,
      handled, waiting ++ [(index, msg)], ?_, hLog, ?_, hTable⟩
    · rw [hNext, ← List.append_assoc, ← hSent]
    · simp [hWaiting]
  · refine ⟨h.consistent, h.valid, h.armed, handled, waiting, hSent, hLog, ?_, hTable⟩
    rw [List.filterMap_append, hWaiting]
    exact List.append_nil _
  · exact ⟨h.consistent, h.valid, h.armed, h.fifo⟩
  · exact h.turn hQueue hMsg

/-- Every gateway and packet comes from what its stream has read in the run. -/
theorem origin_of_run {settings : GwmpSettings} {events : List SystemEvent}
    (run : Runs c u settings events s) :
    s.gateways.Origin c (fun index packet => .stream (.read index (.packet packet)) ∈ events) := by
  have hBoth : s.Ordered ∧ s.gateways.Origin c
      (fun index packet => .stream (.read index (.packet packet)) ∈ events) := by
    refine run.invariant (fun s => s.Ordered ∧ s.gateways.Origin c
      (fun index packet => .stream (.read index (.packet packet)) ∈ events))
      ⟨ordered_init settings, ?_⟩ ?_
    · intro index stream hStream
      simp [init, Gateways.new] at hStream
    · rintro s event t hEvent ⟨hOrdered, hOrigin⟩ hStep
      refine ⟨hOrdered.step hStep, ?_⟩
      have hRead (inner : StreamEvent) (hInner : event = .stream inner) (index : Nat)
          (packet : PacketUp) (hPacket : inner = .read index (.packet packet)) :
          .stream (.read index (.packet packet)) ∈ events := by
        rwa [hInner, hPacket] at hEvent
      obtain ⟨inner, gateways, hInner, hSilent, rfl⟩ | ⟨inner, gateways, msg, hInner, hSend, rfl⟩ |
        ⟨_, _, -, rfl⟩ | ⟨_, -, rfl⟩ | ⟨_, _, _, _, _, _, -, -, -, rfl⟩ := step_cases hStep
      · exact hOrigin.step hOrdered.consistent (hRead inner hInner) hSilent
      · exact hOrigin.step hOrdered.consistent (hRead inner hInner) hSend
      · exact hOrigin
      · exact hOrigin
      · exact hOrigin
  exact hBoth.2

theorem ordered_of_run {settings : GwmpSettings} {events : List SystemEvent}
    (run : Runs c u settings events s) : s.Ordered :=
  run.invariant Ordered (ordered_init settings) (fun _ _ _ _ h hStep => h.step hStep)

/-- An uplink that has a forwarder is forwarded, and by one that still runs. -/
theorem forwards_iff {env : Environment} {app : App} {packet : PacketUp} {mac : GatewayMac}
    (h : app.Armed) (hMac : packet.gatewayMac c = .ok mac) :
    app.Forwards c u env packet ↔ ∃ forwarder, app.forwardChans.lookup mac = some forwarder := by
  constructor
  · rintro ⟨forwarder, hForward, -⟩
    rw [handleMessage_uplink hMac] at hForward
    cases hLookup : app.forwardChans.lookup mac with
    | none => simp [hLookup] at hForward
    | some stored => exact ⟨stored, rfl⟩
  · rintro ⟨forwarder, hLookup⟩
    refine ⟨forwarder, ?_, h.unfired mac forwarder hLookup⟩
    rw [handleMessage_uplink hMac, hLookup]
    rfl

/-- **Forwarding.** Where every stream carries one gateway, the uplink that the
loop handles next is forwarded to a running forwarder exactly if the last
message about its MAC that was sent before it is not the disconnect of one
stream while another was live; so all of them are in runs where every
disconnect leaves no other stream of its MAC behind. -/
theorem uplink_forwarded {settings : GwmpSettings} {events : List SystemEvent}
    (run : Runs c u settings events s) (hOne : OneGateway events) {packet : PacketUp}
    {rest : List Msg} (hQueue : s.queue = .uplink packet :: rest) (env : Environment) :
    ∃ before index after mac, packet.gatewayMac c = .ok mac ∧
      s.gateways.sent = before ++ (index, .uplinkReceive packet) :: after ∧
      s.log.filterMap (fun turn => turn.msg.ingested) = before.map Prod.snd ∧
      (s.app.Forwards c u env packet ↔ ¬ Stale (registrations before) mac) ∧
      (Orderly (registrations s.gateways.sent) → s.app.Forwards c u env packet) := by
  have h := ordered_of_run run
  obtain ⟨handled, waiting, hSent, hLog, hWaiting, hTable⟩ := h.fifo
  have hLine : (Msg.uplink packet).ingested = some (.uplinkReceive packet) := rfl
  rw [hQueue, List.filterMap_cons_some hLine] at hWaiting
  cases waiting with
  | nil => cases hWaiting
  | cons first waiting =>
      obtain ⟨index, line⟩ := first
      rw [List.map_cons, List.cons.injEq] at hWaiting
      obtain ⟨rfl, -⟩ := hWaiting
      obtain ⟨stream, gw, hStream, hGw, hLive⟩ :=
        h.consistent.live_of_uplink Gateway.mac hSent
      have hOrigin := origin_of_run run index stream hStream
      obtain ⟨opener, hOpener, hMac⟩ := hOrigin.gateway gw hGw
      have hRead := hOrigin.packets packet (by
        refine List.mem_append_left _ (Gateways.mem_sentBy.mpr ?_)
        rw [hSent]
        simp)
      have hOwn : packet.gatewayMac c = .ok gw.mac := by
        rw [PacketUp.gatewayMac, hOne index opener packet hOpener hRead]
        exact hMac
      have hValid : Valid (registrations handled) := by
        have hAll := h.valid
        rw [hSent, registrations, PacketRouter.registrations, List.filterMap_append] at hAll
        exact hAll.of_append
      have hForwards : s.app.Forwards c u env packet ↔ ¬ Stale (registrations handled) gw.mac := by
        rw [forwards_iff h.armed hOwn, hTable, ← hValid.holder_isSome_iff]
        exact (iff_true_left ⟨index, hLive⟩).symm
      refine ⟨handled, index, waiting, gw.mac, hOwn, hSent, hLog, hForwards, fun hOrderly => ?_⟩
      rw [hSent, registrations, PacketRouter.registrations, List.filterMap_append] at hOrderly
      exact hForwards.mpr (hOrderly.of_append.not_stale gw.mac)

/-- The uplink of a gateway that reconnects before its old stream has ended is
dropped, although its new stream is live. -/
theorem reconnected_dropped :
    ∃ s, Runs Crates.sample .sample .sample
        [.stream .opens, .stream (.read 0 (.packet (.sample joinFrame [0]))), .stream (.send 0),
          .stream (.send 0), .stream .opens,
          .stream (.read 1 (.packet (.sample joinFrame [0]))), .stream (.send 1),
          .stream (.read 0 .shutdown), .stream (.send 0), .stream (.send 1),
          .turn .sample, .turn .sample, .turn .sample, .turn .sample] s ∧
      s.queue = [.uplink (.sample joinFrame [0])] ∧
      handleMessage Crates.sample .sample .sample s.app (.uplink (.sample joinFrame [0])) =
        .ok (s.app, .noop) ∧
      ¬ s.app.Forwards Crates.sample .sample .sample (.sample joinFrame [0]) := by
  obtain ⟨s, run, hQueue, hNoop⟩ : ∃ s, Runs Crates.sample .sample .sample
      [.stream .opens, .stream (.read 0 (.packet (.sample joinFrame [0]))), .stream (.send 0),
        .stream (.send 0), .stream .opens,
        .stream (.read 1 (.packet (.sample joinFrame [0]))), .stream (.send 1),
        .stream (.read 0 .shutdown), .stream (.send 0), .stream (.send 1),
        .turn .sample, .turn .sample, .turn .sample, .turn .sample] s ∧
      s.queue = [.uplink (.sample joinFrame [0])] ∧
      handleMessage Crates.sample .sample .sample s.app (.uplink (.sample joinFrame [0])) =
        .ok (s.app, .noop) :=
    ⟨_, run_of_exec rfl, rfl, rfl⟩
  refine ⟨s, run, hQueue, hNoop, ?_⟩
  rintro ⟨forwarder, hForward, -⟩
  rw [hNoop] at hForward
  cases hForward

/-- The uplink of a gateway that reconnects when its old stream has ended is
forwarded. -/
theorem sample_forwarded :
    ∃ s, Runs Crates.sample .sample .sample
        [.stream .opens, .stream (.read 0 (.packet (.sample joinFrame [0]))), .stream (.send 0),
          .stream (.send 0), .stream (.read 0 .shutdown), .stream (.send 0), .stream .opens,
          .stream (.read 1 (.packet (.sample [1] [0]))), .stream (.send 1), .stream (.send 1),
          .turn .sample, .turn .sample, .turn .sample, .turn .sample] s ∧
      s.queue = [.uplink (.sample [1] [0])] ∧
      s.app.Forwards Crates.sample .sample .sample (.sample [1] [0]) := by
  obtain ⟨s, run, hQueue, hSent⟩ : ∃ s, Runs Crates.sample .sample .sample
      [.stream .opens, .stream (.read 0 (.packet (.sample joinFrame [0]))), .stream (.send 0),
        .stream (.send 0), .stream (.read 0 .shutdown), .stream (.send 0), .stream .opens,
        .stream (.read 1 (.packet (.sample [1] [0]))), .stream (.send 1), .stream (.send 1),
        .turn .sample, .turn .sample, .turn .sample, .turn .sample] s ∧
      s.queue = [.uplink (.sample [1] [0])] ∧
      registrations s.gateways.sent = [.connect 0 ⟨"ef46db3751d8e999"⟩,
        .disconnect 0 ⟨"ef46db3751d8e999"⟩, .connect 1 ⟨"ef46db3751d8e999"⟩] :=
    ⟨_, run_of_exec rfl, rfl, rfl⟩
  have hOne : OneGateway [.stream .opens,
      .stream (.read 0 (.packet (.sample joinFrame [0]))), .stream (.send 0), .stream (.send 0),
      .stream (.read 0 .shutdown), .stream (.send 0), .stream .opens,
      .stream (.read 1 (.packet (.sample [1] [0]))), .stream (.send 1), .stream (.send 1),
      .turn .sample, .turn .sample, .turn .sample, .turn .sample] := by
    rintro index p q hFirst hSecond
    simp at hFirst hSecond
    obtain ⟨-, rfl⟩ | ⟨-, rfl⟩ := hFirst <;> obtain ⟨-, rfl⟩ | ⟨-, rfl⟩ := hSecond <;> rfl
  have hOrderly : Orderly (registrations s.gateways.sent) := by
    rw [hSent]
    exact ((orderly_nil.connect _ _).disconnect (by simp [Live])).connect _ _
  obtain ⟨_, _, _, _, -, -, -, -, hForwards⟩ := uplink_forwarded run hOne hQueue .sample
  exact ⟨s, run, hQueue, hForwards hOrderly⟩

end System

end PacketRouter.Gwmp
