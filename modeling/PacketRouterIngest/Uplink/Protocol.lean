import PacketRouterIngest.Uplink.Ingest
import PacketRouterIngest.Semantics.Runs

/-! What the task of one gRPC stream tells the app. For the packets it reads
before its loop ends, it registers the gateway of the first, passes all of
them on and takes its leave. -/
namespace PacketRouter

open Rust Semantics

/-- How one wait for the next message of a stream ended, and whether the
receiver of the downlink channel was dropped by then. -/
structure Reading where
  closed : Bool
  incoming : Incoming

namespace Reading

/-- The loop of `route` breaks. -/
def terminates (reading : Reading) : Bool :=
  match reading.incoming with
  | .timeout => reading.closed
  | .error | .shutdown => true
  | .packet _ | .ignored => false

def packet (reading : Reading) : Option PacketUp :=
  match reading.incoming with
  | .packet packet => some packet
  | .timeout | .error | .shutdown | .ignored => none

end Reading

/-- The packets before the reading that ends the loop, in order of arrival. -/
def packetsRead (readings : List Reading) : List PacketUp :=
  (readings.takeWhile (fun reading => !reading.terminates)).filterMap Reading.packet

/-- What a task has to say about its readings: nothing without a packet, and
nothing if no gateway can be made of the first. -/
def protocol (c : Crates) (tx : GatewayTx) (readings : List Reading) : List UplinkIngest :=
  match packetsRead readings with
  | [] => []
  | first :: rest =>
      match Gateway.new c first tx with
      | .error _ => []
      | .ok gw =>
          .gatewayConnect gw :: (first :: rest).map .uplinkReceive ++
            if readings.any Reading.terminates then [.gatewayDisconnect gw] else []

/-- The task is over once its loop has ended or its first packet made it panic. -/
def Ended (readings : List Reading) : Prop :=
  (∃ reading ∈ readings, reading.terminates = true) ∨
    ∃ first rest, packetsRead readings = first :: rest ∧ first.packet.gateway = []

section

variable {c : Crates} {tx : GatewayTx} {readings : List Reading} {reading : Reading}

/-- A gateway can be made of every packet with gateway bytes. -/
theorem gateway_eq_error {packet : PacketUp} :
    (∃ reason, Gateway.new c packet tx = .error reason) ↔ packet.packet.gateway = [] := by
  rw [← GatewayMac.fromBytes_eq_error c]
  cases hMac : GatewayMac.fromBytes c packet.packet.gateway <;>
    simp [Gateway.new, PacketUp.gatewayMac, hMac, bind, Except.bind, pure, Except.pure]

theorem gateway_of_empty (c : Crates) (tx : GatewayTx) {packet : PacketUp}
    (h : packet.packet.gateway = []) : ∃ reason, Gateway.new c packet tx = .error reason :=
  gateway_eq_error.mpr h

/-- As long as the loop goes on, every packet counts. -/
theorem packetsRead_of_running (h : ∀ r ∈ readings, r.terminates = false) :
    packetsRead readings = readings.filterMap Reading.packet := by
  have hAll : ∀ r ∈ readings, (!r.terminates) = true := fun r hr => by simp [h r hr]
  have hTake : (readings ++ []).takeWhile (fun r => !r.terminates) = readings ++ [] :=
    List.takeWhile_append_of_pos hAll
  rw [List.append_nil] at hTake
  rw [packetsRead, hTake]

theorem packetsRead_append (h : ∀ r ∈ readings, r.terminates = false) :
    packetsRead (readings ++ [reading]) = packetsRead readings ++ reading.packet.toList := by
  have hPrefix : ∀ r ∈ readings, (!r.terminates) = true := fun r hr => by simp [h r hr]
  rw [packetsRead, List.takeWhile_append_of_pos hPrefix, List.filterMap_append,
    packetsRead_of_running h]
  congr 1
  obtain ⟨closed, incoming⟩ := reading
  cases incoming with
  | timeout => cases closed <;> rfl
  | error | shutdown | packet | ignored => rfl

/-- A reading that neither ends the loop nor brings a packet says nothing. -/
theorem protocol_append_silent (h : ∀ r ∈ readings, r.terminates = false)
    (hStays : reading.terminates = false) (hNone : reading.packet = none) :
    protocol c tx (readings ++ [reading]) = protocol c tx readings := by
  rw [protocol, protocol, packetsRead_append h, hNone, Option.toList_none, List.append_nil]
  simp [hStays]

theorem protocol_of_no_packet (h : packetsRead readings = []) : protocol c tx readings = [] := by
  rw [protocol, h]

/-- What a task says that knows its gateway. -/
theorem protocol_of_gateway {first : PacketUp} {rest : List PacketUp} {gw : Gateway}
    (hPackets : packetsRead readings = first :: rest) (hGw : Gateway.new c first tx = .ok gw) :
    protocol c tx readings = .gatewayConnect gw :: (packetsRead readings).map .uplinkReceive ++
      if readings.any Reading.terminates then [.gatewayDisconnect gw] else [] := by
  rw [protocol, hPackets]
  simp only [hGw]

/-- Behind the reading that ends the loop no packet counts. -/
theorem packetsRead_append_ended (h : ∃ r ∈ readings, r.terminates = true) :
    packetsRead (readings ++ [reading]) = packetsRead readings := by
  rw [packetsRead, packetsRead, List.takeWhile_append, if_neg]
  intro hLength
  obtain ⟨r, hMem, hEnd⟩ := h
  have hAll := List.all_takeWhile (p := fun r : Reading => !r.terminates) (l := readings)
  rw [(List.takeWhile_prefix _).eq_of_length hLength, List.all_eq_true] at hAll
  simpa [hEnd] using hAll r hMem

/-- The head of all packets is the first that counts. -/
theorem head?_packetsRead {first : PacketUp} {rest : List PacketUp}
    (h : packetsRead readings = first :: rest) :
    (readings.filterMap Reading.packet).head? = some first := by
  have hSplit := List.takeWhile_append_dropWhile (p := fun r : Reading => !r.terminates) (l := readings)
  rw [← hSplit, List.filterMap_append]
  change (packetsRead readings ++ _).head? = _
  rw [h]
  rfl

/-- A protocol is empty or it is spoken for the gateway of the first packet. -/
theorem protocol_cases (c : Crates) (tx : GatewayTx) (readings : List Reading) :
    protocol c tx readings = [] ∨ ∃ first rest gw, packetsRead readings = first :: rest ∧
      Gateway.new c first tx = .ok gw ∧
      protocol c tx readings = .gatewayConnect gw :: (packetsRead readings).map .uplinkReceive ++
        if readings.any Reading.terminates then [.gatewayDisconnect gw] else [] := by
  cases hPackets : packetsRead readings with
  | nil => exact .inl (protocol_of_no_packet hPackets)
  | cons first rest =>
      cases hGw : Gateway.new c first tx with
      | error reason =>
          left
          rw [protocol, hPackets]
          simp only [hGw]
      | ok gw =>
          right
          refine ⟨first, rest, gw, rfl, hGw, ?_⟩
          rw [protocol_of_gateway hPackets hGw, hPackets]

/-- Without the gateway of a first packet there is nothing to say. -/
theorem protocol_eq_nil
    (h : ∀ first rest, packetsRead readings = first :: rest → first.packet.gateway = []) :
    protocol c tx readings = [] := by
  obtain hNothing | ⟨first, rest, gw, hPackets, hGw, -⟩ := protocol_cases c tx readings
  · exact hNothing
  · obtain ⟨reason, hError⟩ := gateway_of_empty c tx (h first rest hPackets)
    rw [hGw] at hError
    cases hError

theorem packetsRead_first (reading : Reading) {first : PacketUp} {rest : List PacketUp}
    (h : packetsRead readings = first :: rest) :
    ∃ rest', packetsRead (readings ++ [reading]) = first :: rest' := by
  by_cases hEnd : ∃ r ∈ readings, r.terminates = true
  · exact ⟨rest, by rw [packetsRead_append_ended hEnd, h]⟩
  · refine ⟨rest ++ reading.packet.toList, ?_⟩
    rw [packetsRead_append (by simpa using hEnd), h, List.cons_append]

theorem Ended.append (h : Ended readings) : Ended (readings ++ [reading]) := by
  obtain ⟨r, hMem, hEnd⟩ | ⟨first, rest, hPackets, hEmpty⟩ := h
  · exact .inl ⟨r, List.mem_append_left _ hMem, hEnd⟩
  · obtain ⟨rest', hMore⟩ := packetsRead_first reading hPackets
    exact .inr ⟨first, rest', hMore, hEmpty⟩

/-- A task that is over has no more to say. -/
theorem protocol_append_ended (h : Ended readings) :
    protocol c tx (readings ++ [reading]) = protocol c tx readings := by
  by_cases hEnd : ∃ r ∈ readings, r.terminates = true
  · obtain ⟨r, hMem, hTerminates⟩ := hEnd
    have hAny : readings.any Reading.terminates = true := List.any_eq_true.mpr ⟨r, hMem, hTerminates⟩
    rw [protocol, protocol, packetsRead_append_ended ⟨r, hMem, hTerminates⟩, List.any_append, hAny,
      Bool.true_or]
  · obtain ⟨first, rest, hPackets, hEmpty⟩ := h.resolve_left hEnd
    obtain ⟨rest', hMore⟩ := packetsRead_first reading hPackets
    rw [protocol_eq_nil, protocol_eq_nil]
    · intro own others hOwn
      rw [hPackets] at hOwn
      obtain ⟨rfl, -⟩ := List.cons.inj hOwn
      exact hEmpty
    · intro own others hOwn
      rw [hMore] at hOwn
      obtain ⟨rfl, -⟩ := List.cons.inj hOwn
      exact hEmpty

/-- A task that has ended by itself, or by a panic before it said anything. -/
theorem any_terminates_of_ended {first : PacketUp} {rest : List PacketUp} {gw : Gateway}
    (h : Ended readings) (hPackets : packetsRead readings = first :: rest)
    (hGw : Gateway.new c first tx = .ok gw) : readings.any Reading.terminates = true := by
  obtain ⟨reading, hMem, hEnd⟩ | ⟨own, others, hOwn, hEmpty⟩ := h
  · exact List.any_eq_true.mpr ⟨reading, hMem, hEnd⟩
  · rw [hPackets] at hOwn
    obtain ⟨rfl, -⟩ := List.cons.inj hOwn
    obtain ⟨reason, hError⟩ := gateway_of_empty c tx hEmpty
    rw [hGw] at hError
    cases hError

/-- Once the task is over, it has said goodbye to whom it welcomed. -/
theorem registrations_protocol (h : Ended readings) (index : Nat) :
    (protocol c tx readings).filterMap (UplinkIngest.registration id index) = [] ∨
      ∃ gw, (protocol c tx readings).filterMap (UplinkIngest.registration id index) =
        [.connect index gw, .disconnect index gw] := by
  obtain hNothing | ⟨first, rest, gw, hPackets, hGw, hProtocol⟩ := protocol_cases c tx readings
  · left
    rw [hNothing]
    rfl
  · right
    have hUplinks : ((packetsRead readings).map UplinkIngest.uplinkReceive).filterMap
        (UplinkIngest.registration id index) = [] := by
      simp [List.filterMap_map, Function.comp_def, UplinkIngest.registration]
    refine ⟨gw, ?_⟩
    rw [hProtocol, any_terminates_of_ended h hPackets hGw, List.filterMap_append,
      List.filterMap_cons, hUplinks]
    rfl

/-- Every uplink lies between the welcome and the goodbye. -/
theorem uplink_in_protocol {packet : PacketUp} {before after : List UplinkIngest}
    (h : before ++ .uplinkReceive packet :: after = protocol c tx readings) :
    ∃ gw, .gatewayConnect gw ∈ before ∧ (∀ own, .gatewayDisconnect own ∉ before) ∧
      (Ended readings → .gatewayDisconnect gw ∈ after) := by
  obtain hNothing | ⟨first, rest, gw, hPackets, hGw, hProtocol⟩ := protocol_cases c tx readings
  · rw [hNothing] at h
    simp at h
  · have hScript : protocol c tx readings =
        (⟨tx, some gw, [], !readings.any Reading.terminates⟩ : Stream).script (packetsRead readings) := by
      rw [hProtocol, Stream.script]
      cases readings.any Reading.terminates <;> rfl
    obtain ⟨own, hOwn, hConnect, hStays⟩ := Stream.script_uplink (h.trans hScript)
    obtain rfl : gw = own := Option.some.inj hOwn
    refine ⟨gw, hConnect, hStays, fun hEnded => ?_⟩
    have hMem : .gatewayDisconnect gw ∈ before ++ .uplinkReceive packet :: after := by
      rw [h, hProtocol, any_terminates_of_ended hEnded hPackets hGw]
      simp
    simpa [hStays gw] using hMem

/-- The gateway that is registered is that of the first packet: its key as text,
its MAC and its region, with the channel of the task. -/
theorem connect_in_protocol {gw : Gateway} (h : .gatewayConnect gw ∈ protocol c tx readings) :
    ∃ first rest, packetsRead readings = first :: rest ∧ gw.b58 = first.gatewayB58 c ∧
      first.gatewayMac c = .ok gw.mac ∧ gw.region = first.region ∧ gw.tx = tx := by
  obtain hNothing | ⟨first, rest, own, hPackets, hGw, hProtocol⟩ := protocol_cases c tx readings
  · rw [hNothing] at h
    cases h
  · have hSame : gw = own := by
      rw [hProtocol] at h
      split_ifs at h <;> simpa using h
    subst hSame
    exact ⟨first, rest, hPackets, Gateway.new_eq_ok.mp hGw⟩

end

namespace Stream

/-- What the stream has sent and is about to send is what its readings call
for, and its gateway is that of the first packet. -/
structure Follows (c : Crates) (s : Stream) (sent : List UplinkIngest)
    (readings : List Reading) : Prop where
  script : sent ++ s.outbox = protocol c s.tx readings
  gateway : ∀ gw, s.gw = some gw → ∃ first rest, packetsRead readings = first :: rest ∧
    Gateway.new c first s.tx = .ok gw
  running : s.running = true → (∀ r ∈ readings, r.terminates = false) ∧
    (s.gw = none → packetsRead readings = [])
  stopped : s.running = false → Ended readings

variable {c : Crates} {closed : Bool} {s next : Stream} {sent : List UplinkIngest}
  {readings : List Reading}

theorem follows_opened (tx : GatewayTx) : (opened tx).Follows c [] [] where
  script := rfl
  gateway := by
    intro gw h
    cases h
  running _ := ⟨by simp, fun _ => rfl⟩
  stopped h := by cases h

/-- A reading that ends the loop leaves the departure to be sent. -/
theorem Follows.leave {reading : Reading} (h : s.Follows c sent readings) (hOutbox : s.outbox = [])
    (hRunning : s.running = true) (hEnd : reading.terminates = true)
    (hNone : reading.packet = none) : s.leave.Follows c sent (readings ++ [reading]) := by
  obtain ⟨tx, gw, outbox, running⟩ := s
  obtain rfl : outbox = [] := hOutbox
  obtain ⟨hStays, hFirst⟩ := h.running hRunning
  have hScript : sent = protocol c tx readings := by simpa using h.script
  have hPackets : packetsRead (readings ++ [reading]) = packetsRead readings := by
    rw [packetsRead_append hStays, hNone, Option.toList_none, List.append_nil]
  have hEnded : Ended (readings ++ [reading]) := .inl ⟨reading, by simp, hEnd⟩
  cases gw with
  | none =>
      have hNothing := hFirst rfl
      refine ⟨?_, nofun, nofun, fun _ => hEnded⟩
      change sent ++ [] = _
      rw [hScript, protocol_of_no_packet hNothing, protocol_of_no_packet (hPackets.trans hNothing)]
      rfl
  | some gw =>
      obtain ⟨first, rest, hRead, hGw⟩ := h.gateway gw rfl
      refine ⟨?_, ?_, nofun, fun _ => hEnded⟩
      · change sent ++ [.gatewayDisconnect gw] = protocol c tx _
        have hGoes : readings.any Reading.terminates = false := by simpa using hStays
        rw [hScript, protocol_of_gateway hRead hGw, protocol_of_gateway (hPackets.trans hRead) hGw,
          hPackets, List.any_append, hGoes]
        simp [hEnd]
      · rintro own hOwn
        cases hOwn
        exact ⟨first, rest, hPackets.trans hRead, hGw⟩

/-- A wait without consequence. -/
theorem Follows.wait {reading : Reading} (h : s.Follows c sent readings)
    (hRunning : s.running = true) (hStays : reading.terminates = false)
    (hNone : reading.packet = none) : s.Follows c sent (readings ++ [reading]) := by
  obtain ⟨hGoes, hFirst⟩ := h.running hRunning
  have hPackets : packetsRead (readings ++ [reading]) = packetsRead readings := by
    rw [packetsRead_append hGoes, hNone, Option.toList_none, List.append_nil]
  refine ⟨?_, fun gw hGw => ?_, fun _ => ⟨?_, fun hGw => ?_⟩, fun hStops => ?_⟩
  · rw [protocol_append_silent hGoes hStays hNone]
    exact h.script
  · rw [hPackets]
    exact h.gateway gw hGw
  · intro r hr
    rcases List.mem_append.mp hr with hr | hr
    · exact hGoes r hr
    · rw [List.mem_singleton.mp hr]
      exact hStays
  · rw [hPackets]
    exact hFirst hGw
  · rw [hRunning] at hStops
    cases hStops

/-- A packet is passed on; the first one registers its gateway before. -/
theorem Follows.packet {packet : PacketUp} (h : s.Follows c sent readings)
    (hOutbox : s.outbox = []) (hRunning : s.running = true)
    (hRead : s.read c closed (.packet packet) = .ok next) :
    next.Follows c sent (readings ++ [⟨closed, .packet packet⟩]) ∧ next.tx = s.tx := by
  obtain ⟨tx, gw, outbox, running⟩ := s
  obtain rfl : outbox = [] := hOutbox
  obtain rfl : running = true := hRunning
  obtain ⟨hStays, hFirst⟩ := h.running rfl
  have hScript : sent = protocol c tx readings := by simpa using h.script
  have hGoes : readings.any Reading.terminates = false := by simpa using hStays
  have hPackets : packetsRead (readings ++ [⟨closed, .packet packet⟩]) =
      packetsRead readings ++ [packet] := packetsRead_append hStays
  have hOn : ∀ r ∈ readings ++ [(⟨closed, .packet packet⟩ : Reading)], r.terminates = false := by
    intro r hr
    rcases List.mem_append.mp hr with hr | hr
    · exact hStays r hr
    · rw [List.mem_singleton.mp hr]
      rfl
  have hGoesOn : (readings ++ [(⟨closed, .packet packet⟩ : Reading)]).any Reading.terminates =
      false := List.any_eq_false.mpr (fun r hr => by simp [hOn r hr])
  cases gw with
  | none =>
      have hNothing := hFirst rfl
      cases hGw : Gateway.new c packet tx with
      | error reason => simp [Stream.read, hGw, bind, Except.bind] at hRead
      | ok gw =>
          simp only [Stream.read, hGw, bind, Except.bind, pure, Except.pure, Except.ok.injEq] at hRead
          subst hRead
          have hOnly : packetsRead (readings ++ [⟨closed, .packet packet⟩]) = packet :: [] := by
            rw [hPackets, hNothing]
            rfl
          refine ⟨⟨?_, ?_, fun _ => ⟨hOn, fun hNone => absurd hNone (by simp)⟩,
            fun hStopped => absurd hStopped (by simp)⟩, rfl⟩
          · rw [hScript, protocol_of_no_packet hNothing, protocol_of_gateway hOnly hGw, hOnly, hGoesOn]
            rfl
          · rintro own hOwn
            cases hOwn
            exact ⟨packet, [], hOnly, hGw⟩
  | some gw =>
      cases hRead
      obtain ⟨first, rest, hFirstPacket, hGw⟩ := h.gateway gw rfl
      have hMore : packetsRead (readings ++ [⟨closed, .packet packet⟩]) = first :: (rest ++ [packet]) := by
        rw [hPackets, hFirstPacket]
        rfl
      refine ⟨⟨?_, ?_, fun _ => ⟨hOn, fun hNone => absurd hNone (by simp)⟩,
        fun hStopped => absurd hStopped (by simp)⟩, rfl⟩
      · rw [hScript, protocol_of_gateway hFirstPacket hGw, protocol_of_gateway hMore hGw, hPackets,
          hGoes, hGoesOn]
        simp
      · rintro own hOwn
        cases hOwn
        exact ⟨first, rest ++ [packet], hMore, hGw⟩

/-- Reading on keeps to the protocol. -/
theorem Follows.read {incoming : Incoming} (h : s.Follows c sent readings)
    (hOutbox : s.outbox = []) (hRunning : s.running = true)
    (hRead : s.read c closed incoming = .ok next) :
    next.Follows c sent (readings ++ [⟨closed, incoming⟩]) ∧ next.tx = s.tx := by
  have hTx : s.leave.tx = s.tx := by
    obtain ⟨tx, gw, outbox, running⟩ := s
    cases gw <;> rfl
  cases incoming with
  | timeout =>
      simp only [Stream.read] at hRead
      split_ifs at hRead with hClosed
      · cases hRead
        exact ⟨h.leave hOutbox hRunning hClosed rfl, hTx⟩
      · cases hRead
        exact ⟨h.wait hRunning (Bool.eq_false_iff.mpr hClosed) rfl, rfl⟩
  | error | shutdown =>
      cases hRead
      exact ⟨h.leave hOutbox hRunning rfl rfl, hTx⟩
  | ignored =>
      cases hRead
      exact ⟨h.wait hRunning rfl rfl, rfl⟩
  | packet packet => exact h.packet hOutbox hRunning hRead

/-- A first packet without gateway bytes ends the task before it said anything. -/
theorem Follows.crash {incoming : Incoming} {reason : Panic} (h : s.Follows c sent readings)
    (hOutbox : s.outbox = []) (hRunning : s.running = true)
    (hRead : s.read c closed incoming = .error reason) :
    s.crash.Follows c sent (readings ++ [⟨closed, incoming⟩]) := by
  obtain ⟨tx, gw, outbox, running⟩ := s
  obtain rfl : outbox = [] := hOutbox
  obtain ⟨hStays, hFirst⟩ := h.running hRunning
  have hScript : sent = protocol c tx readings := by simpa using h.script
  cases incoming with
  | timeout =>
      simp only [Stream.read] at hRead
      split_ifs at hRead
  | error | shutdown | ignored => cases hRead
  | packet packet =>
      cases gw with
      | some gw => cases hRead
      | none =>
          have hNothing := hFirst rfl
          cases hGw : Gateway.new c packet tx with
          | ok gw => simp [Stream.read, hGw, bind, Except.bind, pure, Except.pure] at hRead
          | error reason =>
              have hOnly : packetsRead (readings ++ [⟨closed, .packet packet⟩]) = packet :: [] := by
                rw [packetsRead_append hStays, hNothing]
                rfl
              refine ⟨?_, fun gw hGw => absurd hGw (by simp [Stream.crash]),
                fun hOn => absurd hOn (by simp [Stream.crash]), fun _ => ?_⟩
              · change sent ++ [] = protocol c tx _
                rw [hScript, protocol_of_no_packet hNothing, protocol, hOnly]
                simp only [hGw, List.append_nil]
              · exact .inr ⟨packet, [], hOnly, gateway_eq_error.mp ⟨reason, hGw⟩⟩

end Stream

namespace Gateways

/-- The reading of one stream that an event is. -/
def readingOf (index : Nat) (closed : GatewayTx → Bool) : StreamEvent → Option Reading
  | .read own incoming => if own = index then some ⟨closed ⟨index⟩, incoming⟩ else none
  | .opens | .send _ => none

/-- All streams keep to the protocol. -/
structure Follows (c : Crates) (g : Gateways) (readings : Nat → List Reading) : Prop where
  stream : ∀ (index : Nat) (s : Stream), g.streams[index]? = some s →
    s.tx = ⟨index⟩ ∧ s.Follows c (g.sentBy index) (readings index)
  fresh : ∀ index, g.streams.length ≤ index → g.sentBy index = [] ∧ readings index = []

variable {c : Crates} {closed : GatewayTx → Bool} {g g' : Gateways} {event : StreamEvent}
  {emitted : Option UplinkIngest} {readings : Nat → List Reading}

theorem follows_new (c : Crates) : new.Follows c (fun _ => []) where
  stream := by
    intro index s h
    simp [new] at h
  fresh index _ := ⟨rfl, rfl⟩

/-- A new stream has read nothing and said nothing. -/
theorem Follows.opens (h : g.Follows c readings) :
    Follows c { g with streams := g.streams ++ [.opened ⟨g.streams.length⟩] } readings where
  stream := by
    intro index s hStream
    rw [List.getElem?_append] at hStream
    split_ifs at hStream with hOld
    · exact h.stream index s hStream
    · obtain ⟨hZero, rfl⟩ : index - g.streams.length = 0 ∧ Stream.opened ⟨g.streams.length⟩ = s := by
        rwa [List.getElem?_singleton, Option.ite_none_right_eq_some, Option.some.injEq] at hStream
      obtain rfl : index = g.streams.length := by omega
      obtain ⟨hSilent, hUnread⟩ := h.fresh g.streams.length le_rfl
      refine ⟨rfl, ?_⟩
      change (Stream.opened _).Follows c (g.sentBy g.streams.length) _
      rw [hSilent, hUnread]
      exact Stream.follows_opened _
  fresh := by
    intro index hPast
    rw [List.length_append] at hPast
    exact h.fresh index (by omega)

/-- A reading of one stream leaves the others as they were. -/
theorem Follows.reads {index : Nat} {incoming : Incoming} {s next : Stream}
    (h : g.Follows c readings) (hStream : g.streams[index]? = some s) (hOutbox : s.outbox = [])
    (hRunning : s.running = true) (hRead : s.read c (closed s.tx) incoming = .ok next ∨
      (∃ reason, s.read c (closed s.tx) incoming = .error reason) ∧ next = s.crash) :
    Follows c { g with streams := g.streams.set index next } (fun other =>
      readings other ++ (readingOf other closed (.read index incoming)).toList) := by
  obtain ⟨hTx, hFollows⟩ := h.stream index s hStream
  have hIndex : index < g.streams.length := (List.getElem?_eq_some_iff.mp hStream).1
  refine ⟨fun other t hOther => ?_, fun other hPast => ?_⟩
  · rw [List.getElem?_set] at hOther
    split_ifs at hOther with hSame
    · subst hSame
      cases hOther
      rw [hTx] at hRead
      simp only [readingOf, if_pos, Option.toList_some]
      rcases hRead with hNext | ⟨⟨reason, hPanic⟩, rfl⟩
      · obtain ⟨hNext, hSameTx⟩ := hFollows.read hOutbox hRunning hNext
        exact ⟨hSameTx.trans hTx, hNext⟩
      · exact ⟨hTx, hFollows.crash hOutbox hRunning hPanic⟩
    · simp only [readingOf, if_neg hSame, Option.toList_none, List.append_nil]
      exact h.stream other t hOther
  · rw [List.length_set] at hPast
    have hOther : index ≠ other := by omega
    simp only [readingOf, if_neg hOther, Option.toList_none, List.append_nil]
    exact h.fresh other hPast

/-- A message that is sent was to be said. -/
theorem Follows.sends {index : Nat} {s : Stream} {msg : UplinkIngest} {rest : List UplinkIngest}
    (h : g.Follows c readings) (hStream : g.streams[index]? = some s)
    (hOutbox : s.outbox = msg :: rest) :
    Follows c ⟨g.streams.set index { s with outbox := rest }, g.sent ++ [(index, msg)]⟩ readings := by
  have hSent (other : Nat) : (⟨g.streams.set index { s with outbox := rest },
      g.sent ++ [(index, msg)]⟩ : Gateways).sentBy other =
      g.sentBy other ++ if index = other then [msg] else [] := by
    by_cases hSame : index = other <;> simp [sentBy, hSame]
  have hIndex : index < g.streams.length := (List.getElem?_eq_some_iff.mp hStream).1
  refine ⟨fun other t hOther => ?_, fun other hPast => ?_⟩
  · rw [List.getElem?_set] at hOther
    rw [hSent]
    split_ifs at hOther with hSame
    · subst hSame
      cases hOther
      obtain ⟨hTx, hFollows⟩ := h.stream index s hStream
      refine ⟨hTx, ⟨?_, hFollows.gateway, hFollows.running, hFollows.stopped⟩⟩
      rw [if_pos rfl, List.append_assoc, ← hFollows.script, hOutbox]
      rfl
    · rw [if_neg hSame, List.append_nil]
      exact h.stream other t hOther
  · rw [List.length_set] at hPast
    have hOther : index ≠ other := by omega
    rw [hSent, if_neg hOther, List.append_nil]
    exact h.fresh other hPast

/-- One step of one stream keeps all to the protocol. -/
theorem Follows.step (h : g.Follows c readings)
    (hStep : g.step c closed event = some (g', emitted)) :
    g'.Follows c (fun index => readings index ++ (readingOf index closed event).toList) := by
  obtain ⟨rfl, -, rfl⟩ | ⟨index, incoming, s, next, rfl, -, hStream, hOutbox, hRunning, hRead, rfl⟩ |
    ⟨index, s, msg, rest, rfl, -, hStream, hOutbox, rfl⟩ := step_cases hStep
  · simp only [readingOf, Option.toList_none, List.append_nil]
    exact h.opens
  · exact h.reads hStream hOutbox hRunning hRead
  · simp only [readingOf, Option.toList_none, List.append_nil]
    exact h.sends hStream hOutbox

/-- One step of one stream, while the receivers of some channels are gone. -/
def advance (c : Crates) (g : Gateways) (event : (GatewayTx → Bool) × StreamEvent) :
    Option Gateways :=
  (g.step c event.1 event.2).map Prod.fst

abbrev Runs (c : Crates) (events : List ((GatewayTx → Bool) × StreamEvent)) (g : Gateways) : Prop :=
  Run (advance c) new events g

/-- What one stream reads in a run. -/
def readingsOf (index : Nat) (events : List ((GatewayTx → Bool) × StreamEvent)) : List Reading :=
  events.filterMap (fun event => readingOf index event.1 event.2)

theorem follows_of_run {events : List ((GatewayTx → Bool) × StreamEvent)} (run : Runs c events g) :
    g.Follows c (readingsOf · events) := by
  induction run with
  | nil => exact follows_new c
  | @snoc events middle finish event prior last ih =>
      obtain ⟨⟨next, emitted⟩, hStep, rfl⟩ := Option.map_eq_some_iff.mp last
      have hNext := ih.step hStep
      have hReadings : (readingsOf · (events ++ [event])) =
          fun index => readingsOf index events ++ (readingOf index event.1 event.2).toList := by
        funext index
        cases hOwn : readingOf index event.1 event.2 <;> simp [readingsOf, hOwn]
      rw [hReadings]
      exact hNext

/-- A stream has left its loop exactly if its readings made it. -/
theorem Follows.running_iff {index : Nat} {s : Stream} (h : g.Follows c readings)
    (hStream : g.streams[index]? = some s) : s.running = false ↔ Ended (readings index) := by
  obtain ⟨-, hFollows⟩ := h.stream index s hStream
  refine ⟨hFollows.stopped, fun hEnded => ?_⟩
  rw [Bool.eq_false_iff]
  intro hRuns
  obtain ⟨hStays, hFirst⟩ := hFollows.running hRuns
  obtain ⟨reading, hMem, hEnd⟩ | ⟨first, rest, hPackets, hEmpty⟩ := hEnded
  · rw [hStays reading hMem] at hEnd
    cases hEnd
  · cases hGw : s.gw with
    | none =>
        rw [hFirst hGw] at hPackets
        cases hPackets
    | some gw =>
        obtain ⟨own, others, hOwn, hNew⟩ := hFollows.gateway gw hGw
        obtain ⟨reading, hMem, hEnd⟩ := List.any_eq_true.mp
          (any_terminates_of_ended (.inr ⟨first, rest, hPackets, hEmpty⟩) hOwn hNew)
        rw [hStays reading hMem] at hEnd
        cases hEnd

/-- A stream in its loop with nothing to send can read anything. -/
theorem exists_read (c : Crates) (closed : Bool) (incoming : Incoming) {index : Nat} {s : Stream}
    (hStream : g.streams[index]? = some s) (hOutbox : s.outbox = []) (hRunning : s.running = true) :
    ∃ g' s', advance c g (fun _ => closed, .read index incoming) = some g' ∧
      g'.streams[index]? = some s' := by
  obtain ⟨tx, gw, outbox, running⟩ := s
  obtain rfl : outbox = [] := hOutbox
  obtain rfl : running = true := hRunning
  have hIndex : index < g.streams.length := (List.getElem?_eq_some_iff.mp hStream).1
  cases hRead : (⟨tx, gw, [], true⟩ : Stream).read c closed incoming with
  | ok next =>
      refine ⟨{ g with streams := g.streams.set index next }, next, ?_, by simp [hIndex]⟩
      simp [advance, step, hStream, hRead]
  | error reason =>
      refine ⟨{ g with streams := g.streams.set index (Stream.crash ⟨tx, gw, [], true⟩) }, _, ?_,
        List.getElem?_set_self hIndex⟩
      simp [advance, step, hStream, hRead]

/-- A stream that has messages to send can send all of them. -/
theorem drain {index : Nat} {s : Stream} {events : List ((GatewayTx → Bool) × StreamEvent)}
    (run : Runs c events g) (hStream : g.streams[index]? = some s) :
    ∃ sends g' s', Runs c (events ++ sends) g' ∧ g'.streams[index]? = some s' ∧ s'.outbox = [] ∧
      s'.running = s.running ∧ readingsOf index (events ++ sends) = readingsOf index events := by
  generalize hOutbox : s.outbox = outbox
  induction outbox generalizing events g s with
  | nil => exact ⟨[], g, s, by simpa using run, hStream, hOutbox, rfl, by simp⟩
  | cons msg rest ih =>
      obtain ⟨tx, gw, outbox, running⟩ := s
      obtain rfl : outbox = msg :: rest := hOutbox
      have hIndex : index < g.streams.length := (List.getElem?_eq_some_iff.mp hStream).1
      let next : Gateways := ⟨g.streams.set index ⟨tx, gw, rest, running⟩, g.sent ++ [(index, msg)]⟩
      have hStep : advance c g (fun _ => false, .send index) = some next := by
        simp [advance, step, hStream, next]
      have hNext : next.streams[index]? = some ⟨tx, gw, rest, running⟩ := by
        simp [next, hIndex]
      obtain ⟨sends, g', s', hRun, hLast, hSilent, hRunning, hReadings⟩ :=
        ih (run.snoc hStep) hNext rfl
      rw [List.append_assoc] at hRun hReadings
      refine ⟨_, g', s', hRun, hLast, hSilent, hRunning, ?_⟩
      rw [hReadings]
      simp [readingsOf, readingOf]

/-- Whatever a stream is to read, there is a run in which it has sent its
protocol for all of it. -/
theorem exists_run (c : Crates) (readings : List Reading) :
    ∃ events g s, Runs c events g ∧ g.streams[0]? = some s ∧ s.outbox = [] ∧
      g.sentBy 0 = protocol c ⟨0⟩ readings ∧ (s.running = false ↔ Ended readings) ∧
      (s.running = true → readingsOf 0 events = readings) := by
  induction readings using List.reverseRecOn with
  | nil =>
      refine ⟨[(fun _ => false, .opens)], _, _, run_of_exec rfl, rfl, rfl, rfl, ?_, fun _ => rfl⟩
      simp [Ended, packetsRead, Stream.opened]
  | append_singleton readings reading ih =>
      obtain ⟨events, g, s, run, hStream, hOutbox, hSent, hEnded, hRead⟩ := ih
      cases hRunning : s.running with
      | false =>
          have hOver := hEnded.mp hRunning
          refine ⟨events, g, s, run, hStream, hOutbox, ?_, ?_, fun hRuns => ?_⟩
          · rw [hSent, protocol_append_ended hOver]
          · exact iff_of_true hRunning hOver.append
          · rw [hRunning] at hRuns
            cases hRuns
      | true =>
          obtain ⟨middle, next, hStep, hNext⟩ :=
            exists_read c reading.closed reading.incoming hStream hOutbox hRunning
          obtain ⟨sends, g', s', hRun, hLast, hSilent, -, hReadings⟩ := drain (run.snoc hStep) hNext
          have hAll : readingsOf 0 (events ++ [(fun _ => reading.closed, .read 0 reading.incoming)] ++
              sends) = readings ++ [reading] := by
            rw [hReadings, ← hRead hRunning]
            simp [readingsOf, readingOf]
          have hFollows := follows_of_run hRun
          obtain ⟨hTx, hStreamFollows⟩ := hFollows.stream 0 s' hLast
          have hScript := hStreamFollows.script
          rw [hSilent, List.append_nil, hTx, hAll] at hScript
          have hIff := hFollows.running_iff hLast
          rw [hAll] at hIff
          exact ⟨_, g', s', hRun, hLast, hSilent, hScript, hIff, fun _ => hAll⟩

/-- In every run every stream sends its protocol: nothing without a packet or
for a first packet without gateway bytes, else its gateway, its packets and,
once it has left its loop, its goodbye. The gateway has the key, the MAC and the
region of the first packet. -/
theorem route_protocol {events : List ((GatewayTx → Bool) × StreamEvent)} (run : Runs c events g)
    {index : Nat} {s : Stream} (hStream : g.streams[index]? = some s) :
    g.sentBy index <+: protocol c ⟨index⟩ (readingsOf index events) ∧
      (s.outbox = [] → g.sentBy index = protocol c ⟨index⟩ (readingsOf index events)) ∧
      (s.running = false ↔ Ended (readingsOf index events)) ∧
      ((∀ first rest, packetsRead (readingsOf index events) = first :: rest →
        first.packet.gateway = []) → g.sentBy index = []) ∧
      (∀ gw, .gatewayConnect gw ∈ g.sentBy index → ∃ first rest,
        packetsRead (readingsOf index events) = first :: rest ∧ gw.b58 = first.gatewayB58 c ∧
          first.gatewayMac c = .ok gw.mac ∧ gw.region = first.region ∧ gw.tx = ⟨index⟩) ∧
      (s.running = false → s.outbox = [] →
        (g.sentBy index).filterMap (UplinkIngest.registration id index) = [] ∨
        ∃ gw, (g.sentBy index).filterMap (UplinkIngest.registration id index) =
          [.connect index gw, .disconnect index gw]) ∧
      ∀ before packet after, g.sentBy index = before ++ .uplinkReceive packet :: after →
        ∃ gw, .gatewayConnect gw ∈ before ∧ (∀ own, .gatewayDisconnect own ∉ before) ∧
          (s.running = false → s.outbox = [] → .gatewayDisconnect gw ∈ after) := by
  have hAll := follows_of_run run
  obtain ⟨hTx, hFollows⟩ := hAll.stream index s hStream
  have hScript : g.sentBy index ++ s.outbox = protocol c ⟨index⟩ (readingsOf index events) := by
    rw [← hTx]
    exact hFollows.script
  have hDone (hOutbox : s.outbox = []) :
      g.sentBy index = protocol c ⟨index⟩ (readingsOf index events) := by
    rw [← hScript, hOutbox, List.append_nil]
  have hEnded := hAll.running_iff hStream
  refine ⟨⟨s.outbox, hScript⟩, hDone, hEnded, fun hFirst => ?_, fun gw hConnect => ?_,
    fun hStops hOutbox => ?_, ?_⟩
  · rw [protocol_eq_nil hFirst] at hScript
    exact (List.append_eq_nil_iff.mp hScript).1
  · apply connect_in_protocol
    rw [← hScript]
    exact List.mem_append_left _ hConnect
  · rw [hDone hOutbox]
    exact registrations_protocol (hEnded.mp hStops) index
  · intro before packet after hSent
    rw [hSent, List.append_assoc, List.cons_append] at hScript
    obtain ⟨gw, hConnect, hStays, hLeaves⟩ := uplink_in_protocol hScript
    refine ⟨gw, hConnect, hStays, fun hStops hOutbox => ?_⟩
    rw [hOutbox, List.append_nil] at hLeaves
    exact hLeaves (hEnded.mp hStops)

/-- A stream with two packets, the second of another gateway, from its first
message to its last. -/
theorem sample_protocol :
    ∃ g s, Runs Crates.sampleGateways
        [(fun _ => false, .opens), (fun _ => false, .read 0 .timeout),
          (fun _ => false, .read 0 (.packet (.sample joinFrame [0, 0]))), (fun _ => false, .send 0),
          (fun _ => false, .send 0), (fun _ => false, .read 0 .ignored),
          (fun _ => false, .read 0 (.packet (.sample joinFrame [0, 1]))), (fun _ => false, .send 0),
          (fun _ => true, .read 0 .timeout), (fun _ => true, .send 0)] g ∧
      g.streams[0]? = some s ∧ s.running = false ∧ s.outbox = [] ∧
      g.sentBy 0 = protocol Crates.sampleGateways ⟨0⟩
        [⟨false, .timeout⟩, ⟨false, .packet (.sample joinFrame [0, 0])⟩, ⟨false, .ignored⟩,
          ⟨false, .packet (.sample joinFrame [0, 1])⟩, ⟨true, .timeout⟩] ∧
      ∃ gw, g.sentBy 0 = [.gatewayConnect gw, .uplinkReceive (.sample joinFrame [0, 0]),
          .uplinkReceive (.sample joinFrame [0, 1]), .gatewayDisconnect gw] ∧
        gw.b58 = ⟨"11146EAsf"⟩ ∧ gw.mac = ⟨"e934a84adb052768"⟩ ∧ gw.region = .us915 ∧
        gw.tx = ⟨0⟩ := by
  obtain ⟨g, s, gw, run, hStream, hStops, hOutbox, hSent⟩ : ∃ g s gw, Runs Crates.sampleGateways
      [(fun _ => false, .opens), (fun _ => false, .read 0 .timeout),
        (fun _ => false, .read 0 (.packet (.sample joinFrame [0, 0]))), (fun _ => false, .send 0),
        (fun _ => false, .send 0), (fun _ => false, .read 0 .ignored),
        (fun _ => false, .read 0 (.packet (.sample joinFrame [0, 1]))), (fun _ => false, .send 0),
        (fun _ => true, .read 0 .timeout), (fun _ => true, .send 0)] g ∧
      g.streams[0]? = some s ∧ s.running = false ∧ s.outbox = [] ∧
      g.sentBy 0 = [.gatewayConnect gw, .uplinkReceive (.sample joinFrame [0, 0]),
        .uplinkReceive (.sample joinFrame [0, 1]), .gatewayDisconnect gw] :=
    ⟨_, _, _, run_of_exec rfl, rfl, rfl, rfl, rfl⟩
  obtain ⟨-, hProtocol, -, -, hGateway, -⟩ := route_protocol run hStream
  obtain ⟨first, rest, hPackets, hB58, hMac, hRegion, hTx⟩ := hGateway gw (by rw [hSent]; simp)
  obtain ⟨rfl, -⟩ := List.cons.inj (show [.sample joinFrame [0, 0], .sample joinFrame [0, 1]] =
    first :: rest from hPackets)
  have hOwn : (.ok ⟨"e934a84adb052768"⟩ : Panics GatewayMac) = .ok gw.mac := hMac
  exact ⟨g, s, run, hStream, hStops, hOutbox, hProtocol hOutbox, gw, hSent, hB58,
    (Except.ok.inj hOwn).symm, hRegion, hTx⟩

end Gateways

end PacketRouter
