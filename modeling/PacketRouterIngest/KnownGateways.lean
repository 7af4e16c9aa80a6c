import PacketRouterIngest.Gwmp.Forwarding
import PacketRouterIngest.HttpRoaming.Registration
import PacketRouterIngest.Uplink.Protocol

/-! What both apps know of the gateway of an uplink. A stream registers the
gateway of its first packet and the apps look up the gateway of every packet,
so on a lone stream they know those that name the gateway of the first. -/
namespace PacketRouter

open Rust Semantics

namespace StreamEvent

/-- The packet that one stream reads in an event. -/
def packetOf (index : Nat) : StreamEvent → Option PacketUp
  | .read own (.packet packet) => if own = index then some packet else none
  | .opens | .send _ | .read _ .timeout | .read _ .error | .read _ .shutdown | .read _ .ignored => none

/-- The first packet of one stream. -/
def firstPacket (index : Nat) (events : List StreamEvent) : Option PacketUp :=
  (events.filterMap (packetOf index)).head?

end StreamEvent

namespace Gateways

variable {c : Crates} {g : Gateways} {events : List ((GatewayTx → Bool) × StreamEvent)}

theorem consistent_of_run (run : Runs c events g) : g.Consistent := by
  refine run.invariant Consistent consistent_new (fun g event g' _ h hStep => ?_)
  obtain ⟨⟨next, emitted⟩, hNext, rfl⟩ := Option.map_eq_some_iff.mp hStep
  exact h.step hNext

theorem packets_of_readings (index : Nat) (events : List ((GatewayTx → Bool) × StreamEvent)) :
    (readingsOf index events).filterMap Reading.packet =
      (events.map Prod.snd).filterMap (StreamEvent.packetOf index) := by
  rw [readingsOf, List.filterMap_filterMap, List.filterMap_map]
  congr 1
  funext event
  obtain ⟨closed, event⟩ := event
  cases event with
  | opens | send => rfl
  | read own incoming =>
      by_cases hOwn : own = index
      · cases incoming <;> simp [readingOf, StreamEvent.packetOf, Reading.packet, hOwn]
      · cases incoming <;> simp [readingOf, StreamEvent.packetOf, hOwn]

/-- A stream that sends an uplink is there under the gateway of its first packet. -/
theorem live_under_first {Key : Type*} (run : Runs c events g) (key : Gateway → Key) {index : Nat}
    {packet : PacketUp} {before after : List (Nat × UplinkIngest)}
    (hSent : g.sent = before ++ (index, .uplinkReceive packet) :: after) :
    ∃ first gw, StreamEvent.firstPacket index (events.map Prod.snd) = some first ∧
      Gateway.new c first ⟨index⟩ = .ok gw ∧ Live (registrations key before) index (key gw) := by
  obtain ⟨s, gw, hStream, hGw, hLive⟩ := (consistent_of_run run).live_of_uplink key hSent
  obtain ⟨hTx, hFollows⟩ := (follows_of_run run).stream index s hStream
  obtain ⟨first, rest, hPackets, hNew⟩ := hFollows.gateway gw hGw
  rw [hTx] at hNew
  refine ⟨first, gw, ?_, hNew, hLive⟩
  rw [StreamEvent.firstPacket, ← packets_of_readings]
  exact head?_packetsRead hPackets

end Gateways

/-- The registration of a lone stream: what it is there under, and what a table
knows then. -/
theorem known_iff {Key : Type*} [DecidableEq Key] {key : Gateway → Key}
    {sent before after : List (Nat × UplinkIngest)} {index : Nat} {line : Nat × UplinkIngest}
    {own : Key} (hSent : sent = before ++ line :: after) (hValid : Valid (registrations key sent))
    (hExclusive : Exclusive (registrations key sent))
    (hLive : Live (registrations key before) index own) (k : Key) :
    (Live (registrations key before) index k ↔ k = own) ∧
      holder (registrations key before) k = if k = own then some index else none := by
  rw [hSent, registrations, List.filterMap_append] at hValid hExclusive
  exact ⟨hValid.of_append.live_iff hLive k, hExclusive.of_append.holder_eq hValid.of_append hLive k⟩

namespace HttpRoaming

/-- What a message of a stream is in the queue. -/
def Msg.carried : Msg → Option Input
  | .uplinkReceive packet => some (.uplink packet)
  | .gatewayConnect gw tx => some (.gatewayConnect gw tx)
  | .gatewayDisconnect gw => some (.gatewayDisconnect gw)
  | .uplinkSend _ | .uplinkCleanup _ | .downlink _ => none

namespace System

variable {c : Crates} {settings : HttpSettings} {events : List SystemEvent} {s t : System}

def streamEvents (events : List SystemEvent) : List StreamEvent :=
  events.filterMap fun
    | .stream event => some event
    | .downlink _ | .timer _ | .dropReceiver _ | .turn => none

/-- The messages of the streams wait in the queue as they were sent. -/
def InOrder (s : System) : Prop :=
  ∃ handled waiting, s.gateways.sent = handled ++ waiting ∧
    s.service.queue.filterMap Msg.carried = waiting.map (fun line => ingest line.2)

theorem carried_advance (timer : Timer) : timer.advance.2.filterMap Msg.carried = [] := by
  obtain ⟨hash, phase⟩ := timer
  cases phase <;> rfl

@[simp] theorem carried_ingest (line : UplinkIngest) :
    (ingest line).toMsg.carried = some (ingest line) := by
  cases line <;> rfl

/-- A step of the service alone lets messages of the streams leave the queue at
its head only. -/
theorem InOrder.stepService {event : Event} {service : Service} (h : s.InOrder)
    (hDownlink : ∀ input, event = .arrive input → ∃ packet, input = .downlink packet)
    (hStep : s.service.step c event = some service) : InOrder { s with service } := by
  obtain ⟨handled, waiting, hSent, hWaiting⟩ := h
  obtain ⟨input, rfl, rfl⟩ | ⟨before, timer, after, -, -, rfl⟩ | ⟨tx, -, rfl⟩ |
    ⟨msg, rest, app, action, -, hQueue, hMsg, rfl⟩ := Service.step_cases hStep
  · obtain ⟨packet, rfl⟩ := hDownlink input rfl
    exact ⟨handled, waiting, hSent, by simp [Input.toMsg, Msg.carried, hWaiting]⟩
  · refine ⟨handled, waiting, hSent, ?_⟩
    rw [List.filterMap_append, carried_advance, List.append_nil]
    exact hWaiting
  · exact ⟨handled, waiting, hSent, hWaiting⟩
  · rw [hQueue] at hWaiting
    cases hCarried : msg.carried with
    | none =>
        rw [List.filterMap_cons_none hCarried] at hWaiting
        exact ⟨handled, waiting, hSent, hWaiting⟩
    | some input =>
        rw [List.filterMap_cons_some hCarried] at hWaiting
        cases waiting with
        | nil => cases hWaiting
        | cons line waiting =>
            rw [List.map_cons, List.cons.injEq] at hWaiting
            exact ⟨handled ++ [line], waiting, hSent.trans (by simp), hWaiting.2⟩

theorem InOrder.step {event : SystemEvent} (h : s.InOrder)
    (hStep : System.step c s event = some t) : t.InOrder := by
  obtain ⟨event, gateways, rfl, hSilent, rfl⟩ | ⟨event, gateways, msg, rfl, hSend, rfl⟩ |
    ⟨inner, service, -, hDownlink, hNext, rfl⟩ := step_cases hStep
  · obtain ⟨handled, waiting, hSent, hWaiting⟩ := h
    exact ⟨handled, waiting, (Gateways.sent_of_silent hSilent).trans hSent, hWaiting⟩
  · obtain ⟨handled, waiting, hSent, hWaiting⟩ := h
    obtain ⟨index, hNext⟩ := Gateways.sent_of_send hSend
    exact ⟨handled, waiting ++ [(index, msg)], by simp [hNext, hSent], by simp [hWaiting]⟩
  · exact h.stepService hDownlink hNext

theorem inOrder_of_run (run : Runs c settings events s) : s.InOrder :=
  run.invariant InOrder ⟨[], [], rfl, rfl⟩ (fun _ _ _ _ h hStep => h.step hStep)

/-- The streams of a run perform its stream events. -/
theorem streams_of_run (run : Runs c settings events s) :
    ∃ steps, Gateways.Runs c steps s.gateways ∧ steps.map Prod.snd = streamEvents events := by
  refine run.component System.gateways Prod.snd _ fun s event t hStep => ?_
  obtain ⟨inner, gateways, rfl, hSilent, rfl⟩ | ⟨inner, gateways, msg, rfl, hSend, rfl⟩ |
    ⟨_, service, hOther, -, -, rfl⟩ := step_cases hStep
  · exact .inr ⟨(_, inner), rfl, congrArg (Option.map Prod.fst) hSilent⟩
  · exact .inr ⟨(_, inner), rfl, congrArg (Option.map Prod.fst) hSend⟩
  · cases event with
    | stream own => exact absurd rfl (hOther own)
    | downlink | timer | dropReceiver | turn => exact .inl ⟨rfl, rfl⟩

/-- Only messages of streams carry registrations. -/
theorem registrations_carried (queue : List Msg) : queue.filterMap Msg.registration =
    (queue.filterMap Msg.carried).filterMap (fun input => input.toMsg.registration) := by
  rw [List.filterMap_filterMap]
  congr 1
  funext msg
  cases msg <;> rfl

/-- The map is the table of the registrations that were sent before the
messages that still wait. -/
theorem map_of_run (run : Runs c settings events s) {handled waiting : List (Nat × UplinkIngest)}
    (hSent : s.gateways.sent = handled ++ waiting)
    (hWaiting : s.service.queue.filterMap Msg.carried = waiting.map (fun line => ingest line.2))
    (gw : GatewayB58) : s.service.app.gatewayMap.lookup gw =
      (holder (PacketRouter.registrations Gateway.b58 handled) gw).map GatewayTx.mk := by
  obtain ⟨told, untold, hRegistrations, hUntold, hTable⟩ := (registered_of_run run).fifo
  -- Both ways to split the registrations leave as many of them in the queue.
  have hLength : (PacketRouter.registrations Gateway.b58 waiting).length = untold.length := by
    have hUntold := congrArg List.length hUntold
    rw [registrations_carried, hWaiting, List.filterMap_map, List.length_map,
      List.length_filterMap_eq_countP] at hUntold
    rw [← hUntold, PacketRouter.registrations, List.length_filterMap_eq_countP]
    refine List.countP_congr fun line _ => ?_
    obtain ⟨index, line⟩ := line
    cases line <;> simp [UplinkIngest.registration, ingest, Input.toMsg, Msg.registration]
  rw [registrations, hSent, PacketRouter.registrations, List.filterMap_append] at hRegistrations
  obtain ⟨rfl, -⟩ := List.append_inj' hRegistrations hLength
  exact hTable gw

/-- The gateway that a packet names was connected by the stream and has not been
disconnected, and a downlink for it, as one with the packet's token is, goes to
the stream. -/
structure Knows (c : Crates) (s : System) (before : List (Nat × UplinkIngest)) (index : Nat)
    (packet : PacketUp) : Prop where
  live : Live (PacketRouter.registrations Gateway.b58 before) index (packet.gatewayB58 c)
  answers : ∀ pd : PacketDown, pd.gatewayB58 = packet.gatewayB58 c →
    handleMessage c s.service.app (.downlink pd) =
      .ok (s.service.app, .downlinkSend ⟨index⟩ pd pd.httpResponse.success)

/-- Of a lone stream's packets the app knows those that name the first gateway. -/
theorem knows_iff (run : Runs c settings events s) (hExclusive : Exclusive s.registrations)
    {packet : PacketUp} {rest : List Msg} (hQueue : s.service.queue = .uplinkReceive packet :: rest) :
    ∃ before index after first, s.gateways.sent = before ++ (index, .uplinkReceive packet) :: after ∧
      s.service.queue.filterMap Msg.carried =
        ((index, .uplinkReceive packet) :: after).map (fun line => ingest line.2) ∧
      StreamEvent.firstPacket index (streamEvents events) = some first ∧
      (s.Knows c before index packet ↔ packet.gatewayB58 c = first.gatewayB58 c) := by
  obtain ⟨before, waiting, hSent, hWaiting⟩ := inOrder_of_run run
  have hCarried : (Msg.uplinkReceive packet).carried = some (.uplink packet) := rfl
  have hHead := hWaiting
  rw [hQueue, List.filterMap_cons_some hCarried] at hHead
  cases waiting with
  | nil => cases hHead
  | cons head after =>
      obtain ⟨index, line⟩ := head
      rw [List.map_cons, List.cons.injEq] at hHead
      cases line with
      | gatewayConnect | gatewayDisconnect => cases hHead.1
      | uplinkReceive own =>
          obtain rfl : packet = own := Input.uplink.inj hHead.1
          obtain ⟨steps, hRun, hEvents⟩ := streams_of_run run
          obtain ⟨first, gw, hFirst, hGw, hLive⟩ := Gateways.live_under_first hRun Gateway.b58 hSent
          rw [hEvents] at hFirst
          have hB58 : gw.b58 = first.gatewayB58 c := (Gateway.new_eq_ok.mp hGw).1
          obtain ⟨hLiveIff, hHolder⟩ := known_iff hSent (registered_of_run run).valid hExclusive hLive
            (packet.gatewayB58 c)
          rw [hB58] at hLiveIff hHolder
          refine ⟨before, index, after, first, hSent, hWaiting, hFirst,
            fun h => hLiveIff.mp h.live, fun hSame => ⟨hLiveIff.mpr hSame, fun pd hGateway => ?_⟩⟩
          have hMap := map_of_run run hSent hWaiting (packet.gatewayB58 c)
          rw [hHolder, if_pos hSame, ← hGateway] at hMap
          simp only [handleMessage, hMap]
          rfl

end System

end HttpRoaming

namespace Gwmp.System

variable {c : Crates} {u : UdpCrates} {settings : GwmpSettings} {events : List SystemEvent}
  {s : System}

def streamEvents (events : List SystemEvent) : List StreamEvent :=
  events.filterMap fun
    | .stream event => some event
    | .downlink _ _ | .dropReceiver _ | .turn _ => none

/-- The streams of a run perform its stream events. -/
theorem streams_of_run (run : Runs c u settings events s) :
    ∃ steps, Gateways.Runs c steps s.gateways ∧ steps.map Prod.snd = streamEvents events := by
  refine run.component System.gateways Prod.snd _ fun s event t hStep => ?_
  obtain ⟨inner, gateways, rfl, hSilent, rfl⟩ | ⟨inner, gateways, msg, rfl, hSend, rfl⟩ |
    ⟨_, _, rfl, rfl⟩ | ⟨_, rfl, rfl⟩ | ⟨_, _, _, _, _, _, rfl, -, -, rfl⟩ := step_cases hStep
  · exact .inr ⟨(_, inner), rfl, congrArg (Option.map Prod.fst) hSilent⟩
  · exact .inr ⟨(_, inner), rfl, congrArg (Option.map Prod.fst) hSend⟩
  · exact .inl ⟨rfl, rfl⟩
  · exact .inl ⟨rfl, rfl⟩
  · exact .inl ⟨rfl, rfl⟩

/-- The MAC of the packet's gateway was connected by the stream and has not been
disconnected, and the packet finds its forwarder. -/
structure Knows (c : Crates) (u : UdpCrates) (env : Environment) (s : System)
    (before : List (Nat × UplinkIngest)) (index : Nat) (packet : PacketUp) : Prop where
  live : ∃ mac, packet.gatewayMac c = .ok mac ∧ Live (registrations before) index mac
  forwards : s.app.Forwards c u env packet

/-- Of a lone stream's packets the app knows those with the first gateway's MAC. -/
theorem knows_iff (run : Runs c u settings events s)
    (hExclusive : Exclusive (registrations s.gateways.sent)) {packet : PacketUp} {rest : List Msg}
    (hQueue : s.queue = .uplink packet :: rest) (env : Environment) :
    ∃ before index after first, s.gateways.sent = before ++ (index, .uplinkReceive packet) :: after ∧
      s.log.filterMap (fun turn => turn.msg.ingested) = before.map Prod.snd ∧
      StreamEvent.firstPacket index (streamEvents events) = some first ∧
      (s.Knows c u env before index packet ↔ packet.gatewayMac c = first.gatewayMac c) := by
  have h := ordered_of_run run
  obtain ⟨before, waiting, hSent, hLog, hWaiting, hTable⟩ := h.fifo
  have hLine : (Msg.uplink packet).ingested = some (.uplinkReceive packet) := rfl
  rw [hQueue, List.filterMap_cons_some hLine] at hWaiting
  cases waiting with
  | nil => cases hWaiting
  | cons head after =>
      obtain ⟨index, line⟩ := head
      rw [List.map_cons, List.cons.injEq] at hWaiting
      obtain ⟨rfl, -⟩ := hWaiting
      obtain ⟨steps, hRun, hEvents⟩ := streams_of_run run
      obtain ⟨first, gw, hFirst, hGw, hLive⟩ := Gateways.live_under_first hRun Gateway.mac hSent
      rw [hEvents] at hFirst
      have hMac : first.gatewayMac c = .ok gw.mac := (Gateway.new_eq_ok.mp hGw).2.1
      have hKnown := known_iff hSent h.valid hExclusive hLive
      refine ⟨before, index, after, first, hSent, hLog, hFirst, fun hKnows => ?_, fun hSame => ?_⟩
      · obtain ⟨mac, hOwn, hOwnLive⟩ := hKnows.live
        rw [hOwn, hMac, (hKnown mac).1.mp hOwnLive]
      · rw [hMac] at hSame
        refine ⟨⟨gw.mac, hSame, hLive⟩, (forwards_iff h.armed hSame).mpr ((hTable gw.mac).mpr ?_)⟩
        exact ⟨index, (hKnown gw.mac).2.trans (if_pos rfl)⟩

end Gwmp.System

/-- **Known gateways.** On streams that are there one at a time, the gateway of
the uplink that the app handles next is known exactly if it is the gateway of
the first packet of its stream: by its text in the HTTP service, where then a
downlink for it finds the stream, and by its MAC in the GWMP service, where
then the uplink finds its forwarder. -/
theorem uplinks_known (c : Crates) (u : Gwmp.UdpCrates) :
    (∀ settings events (s : HttpRoaming.System) packet rest,
      HttpRoaming.System.Runs c settings events s → Exclusive s.registrations →
      s.service.queue = .uplinkReceive packet :: rest →
      ∃ before index after first,
        s.gateways.sent = before ++ (index, .uplinkReceive packet) :: after ∧
        s.service.queue.filterMap HttpRoaming.Msg.carried =
          ((index, .uplinkReceive packet) :: after).map (fun line => HttpRoaming.ingest line.2) ∧
        StreamEvent.firstPacket index (HttpRoaming.System.streamEvents events) = some first ∧
        (s.Knows c before index packet ↔ packet.gatewayB58 c = first.gatewayB58 c)) ∧
    ∀ settings events (s : Gwmp.System) env packet rest,
      Gwmp.System.Runs c u settings events s →
      Exclusive (Gwmp.System.registrations s.gateways.sent) → s.queue = .uplink packet :: rest →
      ∃ before index after first,
        s.gateways.sent = before ++ (index, .uplinkReceive packet) :: after ∧
        s.log.filterMap (fun turn => turn.msg.ingested) = before.map Prod.snd ∧
        StreamEvent.firstPacket index (Gwmp.System.streamEvents events) = some first ∧
        (s.Knows c u env before index packet ↔ packet.gatewayMac c = first.gatewayMac c) := by
  refine ⟨fun settings events s packet rest run hExclusive hQueue => ?_,
    fun settings events s env packet rest run hExclusive hQueue => ?_⟩
  · exact HttpRoaming.System.knows_iff run hExclusive hQueue
  · exact Gwmp.System.knows_iff run hExclusive hQueue env

/-- On one stream a packet of another gateway than that of the first is not known
to either app. -/
theorem secondGateway_unknown :
    (∃ s, HttpRoaming.System.Runs Crates.sampleGateways .sample
        [.stream .opens, .stream (.read 0 (.packet (.sample joinFrame [0, 0]))), .stream (.send 0),
          .stream (.send 0), .stream (.read 0 (.packet (.sample joinFrame [0, 1]))),
          .stream (.send 0), .turn, .turn] s ∧
      s.service.queue = [.uplinkReceive (.sample joinFrame [0, 1])] ∧
      s.gateways.streams.length = 1 ∧
      ¬ s.LiveStream 0 (GatewayB58.fromBytes Crates.sampleGateways [0, 1]) ∧
      s.service.app.gatewayMap.lookup (GatewayB58.fromBytes Crates.sampleGateways [0, 1]) = none) ∧
    ∃ s, Gwmp.System.Runs Crates.sampleGateways .sampleGateways .sample
        [.stream .opens, .stream (.read 0 (.packet (.sample joinFrame [0, 0]))), .stream (.send 0),
          .stream (.send 0), .stream (.read 0 (.packet (.sample joinFrame [0, 1]))),
          .stream (.send 0), .turn .sample, .turn .sample] s ∧
      s.queue = [.uplink (.sample joinFrame [0, 1])] ∧ s.gateways.streams.length = 1 ∧
      Gwmp.handleMessage Crates.sampleGateways .sampleGateways .sample s.app
        (.uplink (.sample joinFrame [0, 1])) = .ok (s.app, .noop) := by
  refine ⟨?_, _, run_of_exec rfl, rfl, rfl, rfl⟩
  obtain ⟨s, run, hQueue, hStreams, hSent, hMap⟩ : ∃ s, HttpRoaming.System.Runs
      Crates.sampleGateways .sample
      [.stream .opens, .stream (.read 0 (.packet (.sample joinFrame [0, 0]))), .stream (.send 0),
        .stream (.send 0), .stream (.read 0 (.packet (.sample joinFrame [0, 1]))),
        .stream (.send 0), .turn, .turn] s ∧
      s.service.queue = [.uplinkReceive (.sample joinFrame [0, 1])] ∧
      s.gateways.streams.length = 1 ∧ s.registrations = [.connect 0 ⟨"11146EAsf"⟩] ∧
      s.service.app.gatewayMap.lookup (GatewayB58.fromBytes Crates.sampleGateways [0, 1]) = none :=
    ⟨_, run_of_exec rfl, rfl, rfl, rfl, rfl⟩
  refine ⟨s, run, hQueue, hStreams, ?_, hMap⟩
  rw [HttpRoaming.System.LiveStream, Live, hSent]
  decide

/-- The second packet of a stream with one gateway is known to both. -/
theorem sample_known :
    (∃ s, HttpRoaming.System.Runs Crates.sample .sample
        [.stream .opens, .stream (.read 0 (.packet (.sample joinFrame [0]))), .stream (.send 0),
          .stream (.send 0), .stream (.read 0 (.packet (.sample [1] [0]))), .stream (.send 0),
          .turn, .turn] s ∧
      ∃ before index, s.Knows Crates.sample before index (.sample [1] [0])) ∧
    ∃ s, Gwmp.System.Runs Crates.sample .sample .sample
        [.stream .opens, .stream (.read 0 (.packet (.sample joinFrame [0]))), .stream (.send 0),
          .stream (.send 0), .stream (.read 0 (.packet (.sample [1] [0]))), .stream (.send 0),
          .turn .sample, .turn .sample] s ∧
      ∃ before index, s.Knows Crates.sample .sample .sample before index (.sample [1] [0]) := by
  obtain ⟨hHttp, hGwmp⟩ := uplinks_known Crates.sample .sample
  refine ⟨?_, ?_⟩
  · obtain ⟨s, run, hQueue, hSent⟩ : ∃ s, HttpRoaming.System.Runs Crates.sample .sample
        [.stream .opens, .stream (.read 0 (.packet (.sample joinFrame [0]))), .stream (.send 0),
          .stream (.send 0), .stream (.read 0 (.packet (.sample [1] [0]))), .stream (.send 0),
          .turn, .turn] s ∧
        s.service.queue = [.uplinkReceive (.sample [1] [0])] ∧
        s.registrations = [.connect 0 ⟨"112edB6q"⟩] := ⟨_, run_of_exec rfl, rfl, rfl⟩
    have hExclusive : Exclusive s.registrations := by
      rw [hSent]
      exact exclusive_of_single (fun op hOp => ⟨_, .inl (List.mem_singleton.mp hOp)⟩)
    obtain ⟨before, index, after, first, -, -, -, hKnows⟩ := hHttp _ _ s _ _ run hExclusive hQueue
    exact ⟨s, run, before, index, hKnows.mpr rfl⟩
  · obtain ⟨s, run, hQueue, hSent⟩ : ∃ s, Gwmp.System.Runs Crates.sample .sample .sample
        [.stream .opens, .stream (.read 0 (.packet (.sample joinFrame [0]))), .stream (.send 0),
          .stream (.send 0), .stream (.read 0 (.packet (.sample [1] [0]))), .stream (.send 0),
          .turn .sample, .turn .sample] s ∧
        s.queue = [.uplink (.sample [1] [0])] ∧
        Gwmp.System.registrations s.gateways.sent = [.connect 0 ⟨"ef46db3751d8e999"⟩] :=
      ⟨_, run_of_exec rfl, rfl, rfl⟩
    have hExclusive : Exclusive (Gwmp.System.registrations s.gateways.sent) := by
      rw [hSent]
      exact exclusive_of_single (fun op hOp => ⟨_, .inl (List.mem_singleton.mp hOp)⟩)
    obtain ⟨before, index, after, first, -, -, hFirst, hKnows⟩ :=
      hGwmp _ _ s .sample _ _ run hExclusive hQueue
    have hOpener : PacketUp.sample joinFrame [0] = first := by
      simp only [StreamEvent.firstPacket, StreamEvent.packetOf, Gwmp.System.streamEvents,
        List.filterMap_cons, List.filterMap_nil] at hFirst
      split_ifs at hFirst
      · exact Option.some.inj hFirst
      · cases hFirst
    subst hOpener
    exact ⟨s, run, before, index, hKnows.mpr rfl⟩

end PacketRouter
