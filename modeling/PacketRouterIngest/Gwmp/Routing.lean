import PacketRouterIngest.Gwmp.Listeners

/-! Where the uplinks go. The app keeps its forwarders by MAC and knows nothing
of streams; the uplinks of a MAC still go to the runtime of the stream that
holds the MAC, which was created for that MAC and for the port of the region of
that stream. -/
namespace PacketRouter.Gwmp

open Rust Semantics

/-- A turn has created the runtime for the gateway, with its MAC and the
endpoint of its region. -/
def Created (u : UdpCrates) (settings : GwmpSettings) (events : List SystemEvent)
    (gateway : Gateway) (runtime : UdpRuntime) : Prop :=
  ∃ env address, .turn env ∈ events ∧ MacAddress.from u gateway.mac = .ok address ∧
    env.newRuntime address ((App.new settings).endpointForGatewayRegion gateway) = .ok runtime

/-- The stream that holds the MAC after the messages handled so far, and the
runtime that was created and started for it. -/
def RouteOf (u : UdpCrates) (settings : GwmpSettings) (events : List SystemEvent) (log : List Turn)
    (handled : List (Nat × UplinkIngest)) (mac : GatewayMac) : Option UDPForwarder → Prop
  | none => holder (System.registrations handled) mac = none
  | some forwarder => ∃ live gateway, holder (System.registrations handled) mac = some live ∧
      (live, .gatewayConnect gateway) ∈ handled ∧ gateway.mac = mac ∧
      (gateway, forwarder.tx, forwarder.shutdownTrigger) ∈ startedBy log ∧
      Created u settings events gateway forwarder.tx

section

variable {c : Crates} {u : UdpCrates} {settings : GwmpSettings} {env : Environment} {app app' : App}
  {action : UpdateAction} {events : List SystemEvent} {handled : List (Nat × UplinkIngest)}
  {mac : GatewayMac} {forwarder : Option UDPForwarder} {log : List Turn}

/-- A connecting gateway gets a runtime for its MAC and its region. -/
theorem handleMessage_connect {gateway : Gateway}
    (h : handleMessage c u env app (.gatewayConnect gateway) = .ok (app', action)) :
    ∃ address runtime, MacAddress.from u gateway.mac = .ok address ∧
      env.newRuntime address (app.endpointForGatewayRegion gateway) = .ok runtime ∧
      app' = (app.addGateway gateway runtime).1 ∧
      action = .newForwarder gateway runtime ⟨app.triggers⟩ := by
  simp only [handleMessage, panics_bind_eq_ok, expectOk_eq_ok] at h
  obtain ⟨address, hAddress, runtime, hRuntime, hApp⟩ := h
  cases hApp
  exact ⟨address, runtime, hAddress, hRuntime, rfl, rfl⟩

theorem settings_handleMessage {msg : Msg}
    (h : handleMessage c u env app msg = .ok (app', action)) : app'.settings = app.settings := by
  obtain ⟨_, _, -, rfl, -⟩ | ⟨_, _, -, -, rfl, -⟩ | ⟨_, -, -, rfl, -⟩ | ⟨_, _, -, -, rfl, -⟩ |
    ⟨_, _, -, rfl, -⟩ := handleMessage_cases h <;> rfl

theorem Created.mono {events later : List SystemEvent} {gateway : Gateway} {runtime : UdpRuntime}
    (h : Created u settings events gateway runtime) (hSub : events ⊆ later) :
    Created u settings later gateway runtime := by
  obtain ⟨env, address, hEnv, hRest⟩ := h
  exact ⟨env, address, hSub hEnv, hRest⟩

/-- Lines about other MACs leave the route as it is. -/
theorem RouteOf.append (lines : List (Nat × UplinkIngest)) (turn : Turn)
    (h : RouteOf u settings events log handled mac forwarder)
    (hHolder : holder (System.registrations (handled ++ lines)) mac =
      holder (System.registrations handled) mac) :
    RouteOf u settings events (log ++ [turn]) (handled ++ lines) mac forwarder := by
  cases forwarder with
  | none => exact hHolder.trans h
  | some forwarder =>
      obtain ⟨live, gateway, hLive, hMem, hMac, hStarted, hCreated⟩ := h
      refine ⟨live, gateway, hHolder.trans hLive, List.mem_append_left _ hMem, hMac, ?_, hCreated⟩
      rw [startedBy, List.flatMap_append]
      exact List.mem_append_left _ hStarted

/-- The routes change with the registrations that are handled. -/
theorem RouteOf.handleMessage {msg : Msg} {index : Nat} {line : UplinkIngest}
    {closed : GatewayTx → Bool} {effects : Effects}
    (h : ∀ mac, RouteOf u settings events log handled mac (app.forwardChans.lookup mac))
    (hEnv : .turn env ∈ events) (hConfigured : app.settings = settings)
    (hMsg : handleMessage c u env app msg = .ok (app', action))
    (hAction : handleUpdateAction c u env closed action = .ok effects)
    (hLine : msg.ingested = some line) (mac : GatewayMac) :
    RouteOf u settings events (log ++ [⟨msg, action, effects⟩]) (handled ++ [(index, line)]) mac
      (app'.forwardChans.lookup mac) := by
  have hAppend : System.registrations (handled ++ [(index, line)]) =
      System.registrations handled ++ (line.registration Gateway.mac index).toList :=
    registrations_append_singleton ..
  have hKeep (hHolder : holder (System.registrations (handled ++ [(index, line)])) mac =
      holder (System.registrations handled) mac)
      (hLookup : app'.forwardChans.lookup mac = app.forwardChans.lookup mac) :
      RouteOf u settings events (log ++ [⟨msg, action, effects⟩]) (handled ++ [(index, line)]) mac
        (app'.forwardChans.lookup mac) := by
    rw [hLookup]
    exact RouteOf.append _ _ (h mac) hHolder
  cases msg with
  | gatewayConnect gateway =>
      obtain ⟨address, runtime, hAddress, hRuntime, rfl, rfl⟩ := handleMessage_connect hMsg
      cases hLine
      cases hAction
      rw [UplinkIngest.registration, Option.toList_some] at hAppend
      by_cases hMac : mac = gateway.mac
      · rw [App.lookup_addGateway, if_pos hMac]
        refine ⟨index, gateway, ?_, by simp, hMac.symm, ?_, env, address, hEnv, hAddress, ?_⟩
        · rw [hAppend, holder_connect, if_pos hMac]
        · simp [startedBy]
        · rw [← hRuntime, App.endpointForGatewayRegion, App.endpointForGatewayRegion, hConfigured]
          rfl
      · refine hKeep ?_ (by rw [App.lookup_addGateway, if_neg hMac])
        rw [hAppend, holder_connect, if_neg hMac]
  | gatewayDisconnect gateway =>
      cases hLine
      rw [UplinkIngest.registration, Option.toList_some] at hAppend
      have hErased : app'.forwardChans.lookup mac =
          if mac = gateway.mac then none else app.forwardChans.lookup mac := by
        obtain ⟨_, _, hOther, -⟩ | ⟨_, forwarder, hSame, -, rfl, -⟩ | ⟨_, hSame, hNone, rfl, -⟩ |
          ⟨_, _, hOther, -⟩ | ⟨_, _, hOther, -⟩ := handleMessage_cases hMsg
        · cases hOther
        · cases hSame
          split_ifs with hMac
          · rw [hMac]
            exact AList.lookup_erase _ _
          · exact AList.lookup_erase_ne hMac
        · cases hSame
          split_ifs with hMac
          · rw [hMac, hNone]
          · rfl
        · cases hOther
        · cases hOther
      by_cases hMac : mac = gateway.mac
      · rw [hErased, if_pos hMac]
        change holder _ mac = none
        rw [hAppend, holder_disconnect, if_pos hMac]
      · refine hKeep ?_ (by rw [hErased, if_neg hMac])
        rw [hAppend, holder_disconnect, if_neg hMac]
  | uplink packet =>
      cases hLine
      rw [UplinkIngest.registration, Option.toList_none, List.append_nil] at hAppend
      obtain ⟨_, _, hOther, -⟩ | ⟨_, _, hOther, -⟩ | ⟨_, hOther, -⟩ | ⟨_, _, -, -, rfl, -⟩ |
        ⟨_, _, -, rfl, -⟩ := handleMessage_cases hMsg
      · cases hOther
      · cases hOther
      · cases hOther
      · exact hKeep (by rw [hAppend]) rfl
      · exact hKeep (by rw [hAppend]) rfl
  | downlink gateway request => cases hLine

/-- An uplink is forwarded under its own MAC, if there is a forwarder. -/
theorem forwarded_of_uplink {closed : GatewayTx → Bool} {packet : PacketUp} {effects : Effects}
    (hMsg : handleMessage c u env app (.uplink packet) = .ok (app', action))
    (hAction : handleUpdateAction c u env closed action = .ok effects) :
    ∃ mac, packet.gatewayMac c = .ok mac ∧
      match app.forwardChans.lookup mac with
      | none => effects.forwarded = []
      | some forwarder => ∃ data, PushData.from u c packet = .ok data ∧
          MacAddress.from u mac = .ok data.gatewayMac ∧ effects.forwarded = [(forwarder.tx, data)] := by
  obtain ⟨_, _, hOther, -⟩ | ⟨_, _, hOther, -⟩ | ⟨_, hOther, -⟩ | ⟨own, mac, hOwn, hMac, -, rfl⟩ |
    ⟨_, _, hOther, -⟩ := handleMessage_cases hMsg
  · cases hOther
  · cases hOther
  · cases hOther
  · cases hOwn
    refine ⟨mac, hMac, ?_⟩
    cases hForwarder : app.forwardChans.lookup mac with
    | none =>
        rw [hForwarder] at hAction
        cases hAction
        rfl
    | some forwarder =>
        rw [hForwarder, Option.elim_some] at hAction
        simp only [handleUpdateAction, panics_bind_eq_ok] at hAction
        obtain ⟨data, hData, hSent⟩ := hAction
        split_ifs at hSent
        cases hSent
        refine ⟨data, hData, ?_, rfl⟩
        simp only [PushData.from, panics_bind_eq_ok] at hData
        obtain ⟨own, hOwn, address, hAddress, rate, -, hBuilt⟩ := hData
        cases hBuilt
        cases hMac.symm.trans hOwn
        exact hAddress
  · cases hOther

end

namespace System

variable {c : Crates} {u : UdpCrates} {settings : GwmpSettings} {s t : System}
  {events : List SystemEvent}

/-- The forwarders are the routes of the messages handled so far. -/
structure Routed (u : UdpCrates) (settings : GwmpSettings) (events : List SystemEvent)
    (s : System) : Prop where
  configured : s.app.settings = settings
  routes : ∃ handled waiting, s.gateways.sent = handled ++ waiting ∧
    s.log.filterMap (fun turn => turn.msg.ingested) = handled.map Prod.snd ∧
    s.queue.filterMap Msg.ingested = waiting.map Prod.snd ∧
    ∀ mac, RouteOf u settings events s.log handled mac (s.app.forwardChans.lookup mac)

theorem routed_init (u : UdpCrates) (settings : GwmpSettings) (events : List SystemEvent) :
    (init settings).Routed u settings events where
  configured := rfl
  routes := ⟨[], [], rfl, rfl, rfl, fun _ => rfl⟩

/-- A turn takes one message of the streams off the queue at most. -/
theorem Routed.turn {env : Environment} {msg : Msg} {rest : List Msg} {app : App}
    {action : UpdateAction} {effects : Effects} (h : s.Routed u settings events)
    (hEnv : .turn env ∈ events) (hQueue : s.queue = msg :: rest)
    (hMsg : handleMessage c u env s.app msg = .ok (app, action))
    (hAction : handleUpdateAction c u env (fun tx => s.closed.contains tx) action = .ok effects) :
    Routed u settings events
      { s with app, queue := rest, log := s.log ++ [⟨msg, action, effects⟩] } := by
  obtain ⟨handled, waiting, hSent, hLog, hWaiting, hRoutes⟩ := h.routes
  refine ⟨(settings_handleMessage hMsg).trans h.configured, ?_⟩
  rw [hQueue] at hWaiting
  cases hLine : msg.ingested with
  | none =>
      rw [List.filterMap_cons_none hLine] at hWaiting
      refine ⟨handled, waiting, hSent, by simpa [hLine] using hLog, hWaiting, fun mac => ?_⟩
      cases msg with
      | gatewayConnect | gatewayDisconnect | uplink => cases hLine
      | downlink gateway request =>
          cases hMsg
          have hKept := RouteOf.append [] ⟨.downlink gateway request, .downlink gateway request, effects⟩
            (hRoutes mac) (by rw [List.append_nil])
          rwa [List.append_nil] at hKept
  | some line =>
      rw [List.filterMap_cons_some hLine] at hWaiting
      obtain ⟨⟨index, sent⟩, waiting, rfl, hFirst, hRest⟩ := List.map_eq_cons_iff.mp hWaiting.symm
      obtain rfl : sent = line := hFirst
      refine ⟨handled ++ [(index, sent)], waiting, hSent.trans (by simp), ?_, hRest.symm, ?_⟩
      · simp [hLog, hLine]
      · exact RouteOf.handleMessage hRoutes hEnv h.configured hMsg hAction hLine

theorem Routed.step {event : SystemEvent} (h : s.Routed u settings events) (hEvent : event ∈ events)
    (hStep : System.step c u s event = some t) : t.Routed u settings events := by
  obtain ⟨handled, waiting, hSent, hLog, hWaiting, hRoutes⟩ := h.routes
  obtain ⟨_, gateways, -, hSilent, rfl⟩ | ⟨_, gateways, msg, -, hSend, rfl⟩ |
    ⟨gateway, request, -, rfl⟩ | ⟨tx, -, rfl⟩ |
    ⟨env, _, _, _, _, _, rfl, -⟩ := step_cases hStep
  · exact ⟨h.configured, handled, waiting, (Gateways.sent_of_silent hSilent).trans hSent, hLog,
      hWaiting, hRoutes⟩
  · obtain ⟨index, hNext⟩ := Gateways.sent_of_send hSend
    refine ⟨h.configured, handled, waiting ++ [(index, msg)], ?_, hLog, ?_, hRoutes⟩
    · rw [hNext, hSent, List.append_assoc]
    · simp [hWaiting]
  · refine ⟨h.configured, handled, waiting, hSent, hLog, ?_, hRoutes⟩
    rw [List.filterMap_append, hWaiting]
    exact List.append_nil _
  · exact ⟨h.configured, handled, waiting, hSent, hLog, hWaiting, hRoutes⟩
  · obtain ⟨msg, rest, app, action, effects, hQueue, hMsg, hAction, rfl⟩ := turn_eq_some hStep
    exact h.turn hEvent hQueue hMsg hAction

theorem routed_of_run (run : Runs c u settings events s) : s.Routed u settings events :=
  run.invariant (Routed u settings events) (routed_init u settings events)
    (fun _ _ _ hEvent h hStep => h.step hEvent hStep)

/-- Nothing that was sent is taken back. -/
theorem sent_of_run {events : List SystemEvent} (run : Run (System.step c u) s events t) :
    s.gateways.sent <+: t.gateways.sent := by
  refine run.invariant (fun t => s.gateways.sent <+: t.gateways.sent) (List.prefix_refl _) ?_
  intro middle event next _ hBegun hStep
  obtain ⟨_, _, -, hSilent, rfl⟩ | ⟨_, _, _, -, hSend, rfl⟩ | ⟨_, _, -, rfl⟩ | ⟨_, -, rfl⟩ |
    ⟨_, _, _, _, _, _, -, -, -, rfl⟩ := step_cases hStep
  · exact hBegun.trans (Gateways.sent_of_silent hSilent ▸ List.prefix_refl _)
  · obtain ⟨index, hNext⟩ := Gateways.sent_of_send hSend
    exact hBegun.trans (hNext ▸ List.prefix_append _ _)
  · exact hBegun
  · exact hBegun
  · exact hBegun

/-- What the turn of an uplink did, with the messages that were handled before. -/
theorem route_of_turn (run : Runs c u settings events s) {before after : List Turn} {turn : Turn}
    (hLog : s.log = before ++ turn :: after) {packet : PacketUp} (hMsg : turn.msg = .uplink packet) :
    ∃ handled index waiting mac,
      s.gateways.sent = handled ++ (index, .uplinkReceive packet) :: waiting ∧
      before.filterMap (fun turn => turn.msg.ingested) = handled.map Prod.snd ∧
      packet.gatewayMac c = .ok mac ∧
      (holder (registrations handled) mac = none ∧ turn.effects.forwarded = [] ∨
        ∃ live gateway udpRuntime trigger data, holder (registrations handled) mac = some live ∧
          (live, .gatewayConnect gateway) ∈ handled ∧ gateway.mac = mac ∧
          (gateway, udpRuntime, trigger) ∈ startedBy before ∧
          Created u settings events gateway udpRuntime ∧ PushData.from u c packet = .ok data ∧
          MacAddress.from u mac = .ok data.gatewayMac ∧
          turn.effects.forwarded = [(udpRuntime, data)]) := by
  obtain ⟨earlier, event, later, middle, next, rfl, prior, hStep, hBefore, hNext, rest⟩ :=
    run.of_log System.log rfl (fun _ _ _ h => log_step h) hLog
  obtain ⟨env, first, queue, app, action, effects, hEvent, hQueue, hHandle, hAction, hTurn⟩ :
      ∃ env first queue app action effects, event = .turn env ∧ middle.queue = first :: queue ∧
        handleMessage c u env middle.app first = .ok (app, action) ∧
        handleUpdateAction c u env (fun tx => middle.closed.contains tx) action = .ok effects ∧
        next.log = middle.log ++ [⟨first, action, effects⟩] := by
    obtain ⟨_, _, -, -, rfl⟩ | ⟨_, _, _, -, -, rfl⟩ | ⟨_, _, -, rfl⟩ | ⟨_, -, rfl⟩ |
      ⟨env, _, _, _, _, _, rfl, -⟩ := step_cases hStep
    · simp [hBefore] at hNext
    · simp [hBefore] at hNext
    · simp [hBefore] at hNext
    · simp [hBefore] at hNext
    · obtain ⟨first, queue, app, action, effects, hQueue, hHandle, hAction, rfl⟩ := turn_eq_some hStep
      exact ⟨env, first, queue, app, action, effects, rfl, hQueue, hHandle, hAction, rfl⟩
  subst hEvent
  rw [hBefore] at hTurn
  obtain rfl : turn = ⟨first, action, effects⟩ :=
    List.singleton_inj.mp (List.append_cancel_left (hNext.symm.trans hTurn))
  obtain rfl : first = .uplink packet := hMsg
  obtain ⟨mac, hMac, hForwarded⟩ := forwarded_of_uplink hHandle hAction
  obtain ⟨handled, waiting, hSent, hHandled, hWaiting, hRoutes⟩ := (routed_of_run prior).routes
  have hIngested : (Msg.uplink packet).ingested = some (.uplinkReceive packet) := rfl
  rw [hQueue, List.filterMap_cons_some hIngested] at hWaiting
  obtain ⟨⟨index, line⟩, waiting, rfl, hLine, -⟩ := List.map_eq_cons_iff.mp hWaiting.symm
  obtain rfl : line = .uplinkReceive packet := hLine
  obtain ⟨more, hMore⟩ := sent_of_run ((Run.single hStep).append rest)
  have hRoute := hRoutes mac
  refine ⟨handled, index, waiting ++ more, mac, ?_, ?_, hMac, ?_⟩
  · rw [← hMore, hSent]
    simp
  · rw [← hBefore]
    exact hHandled
  · cases hForwarder : middle.app.forwardChans.lookup mac with
    | none =>
        rw [hForwarder] at hForwarded hRoute
        exact .inl ⟨hRoute, hForwarded⟩
    | some forwarder =>
        rw [hForwarder] at hForwarded hRoute
        obtain ⟨live, gateway, hLive, hMem, hOwn, hStarted, hCreated⟩ := hRoute
        obtain ⟨data, hData, hAddress, hOnly⟩ := hForwarded
        exact .inr ⟨live, gateway, forwarder.tx, forwarder.shutdownTrigger, data, hLive, hMem, hOwn,
          hBefore ▸ hStarted, hCreated.mono (List.subset_append_left _ _), hData, hAddress, hOnly⟩

/-- **Routing.** An uplink that was handled went nowhere if no stream held its
MAC at that point. Otherwise it went, under that MAC, to the runtime that was
started for the gateway of the stream that held it: a runtime that was created
with the same MAC, and with the port of the region which that stream has
registered. -/
theorem uplinks_routed (run : Runs c u settings events s) {before after : List Turn} {turn : Turn}
    (hLog : s.log = before ++ turn :: after) {packet : PacketUp} (hMsg : turn.msg = .uplink packet) :
    ∃ handled index waiting mac,
      s.gateways.sent = handled ++ (index, .uplinkReceive packet) :: waiting ∧
      before.filterMap (fun turn => turn.msg.ingested) = handled.map Prod.snd ∧
      packet.gatewayMac c = .ok mac ∧
      (holder (registrations handled) mac = none → turn.effects.forwarded = []) ∧
      ∀ live, holder (registrations handled) mac = some live →
        ∃ gateway udpRuntime trigger data, (live, .gatewayConnect gateway) ∈ handled ∧
          gateway.mac = mac ∧ (gateway, udpRuntime, trigger) ∈ startedBy before ∧
          Created u settings events gateway udpRuntime ∧ PushData.from u c packet = .ok data ∧
          MacAddress.from u mac = .ok data.gatewayMac ∧
          turn.effects.forwarded = [(udpRuntime, data)] := by
  obtain ⟨handled, index, waiting, mac, hSent, hHandled, hMac, hRoute⟩ := route_of_turn run hLog hMsg
  refine ⟨handled, index, waiting, mac, hSent, hHandled, hMac, ?_⟩
  obtain ⟨hNone, hNothing⟩ | ⟨live, gateway, udpRuntime, trigger, data, hLive, hRest⟩ := hRoute
  · refine ⟨fun _ => hNothing, fun live hLive => ?_⟩
    rw [hNone] at hLive
    cases hLive
  · constructor
    · intro hNone
      rw [hNone] at hLive
      cases hLive
    · intro other hOther
      rw [hLive] at hOther
      cases hOther
      exact ⟨gateway, udpRuntime, trigger, data, hRest⟩

/-- The uplink of the only stream goes to the runtime of its gateway. -/
theorem sample_routed :
    ∃ s, Runs Crates.sample .sample .sample
        [.stream .opens, .stream (.read 0 (.packet (.sample joinFrame [0]))), .stream (.send 0),
          .stream (.send 0), .turn .sample, .turn .sample] s ∧
      ∃ first turn udpRuntime data, s.log = [first, turn] ∧
        turn.effects.forwarded = [(udpRuntime, data)] ∧
        MacAddress.from .sample ⟨"ef46db3751d8e999"⟩ = .ok data.gatewayMac := by
  obtain ⟨s, run, ⟨first, turn, hLog, hFirst, hMsg⟩, hMac⟩ :
      ∃ s, Runs Crates.sample .sample .sample
        [.stream .opens, .stream (.read 0 (.packet (.sample joinFrame [0]))), .stream (.send 0),
          .stream (.send 0), .turn .sample, .turn .sample] s ∧
        (∃ first turn, s.log = [first, turn] ∧ first.msg = .gatewayConnect (.sample ⟨0⟩) ∧
          turn.msg = .uplink (.sample joinFrame [0])) ∧
        PacketUp.gatewayMac Crates.sample (.sample joinFrame [0]) = .ok ⟨"ef46db3751d8e999"⟩ :=
    ⟨_, run_of_exec rfl, ⟨_, _, rfl, rfl, rfl⟩, rfl⟩
  have hSplit : s.log = [first] ++ turn :: [] := hLog
  obtain ⟨handled, index, waiting, mac, -, hHandled, hOwn, -, hRoute⟩ :=
    uplinks_routed run hSplit hMsg
  cases hMac.symm.trans hOwn
  have hOne : [UplinkIngest.gatewayConnect (.sample ⟨0⟩)] = handled.map Prod.snd := by
    rw [← hHandled, List.filterMap_cons, hFirst]
    rfl
  obtain ⟨⟨live, line⟩, rest, rfl, hLine, hRest⟩ := List.map_eq_cons_iff.mp hOne.symm
  obtain rfl : line = .gatewayConnect (.sample ⟨0⟩) := hLine
  obtain rfl : rest = [] := List.map_eq_nil_iff.mp hRest
  obtain ⟨gateway, udpRuntime, trigger, data, -, -, -, -, -, hAddress, hOnly⟩ := hRoute live rfl
  exact ⟨s, run, first, turn, udpRuntime, data, hLog, hOnly, hAddress⟩

end System

namespace ListeningSystem

variable {c : Crates} {u : UdpCrates} {settings : GwmpSettings} {s : ListeningSystem}
  {events : List ListeningEvent}

/-- **The way back.** The runtime that an uplink went to has a listener, and
what the network server asks that runtime for goes to the channel of the stream
that held the MAC of the uplink when it was handled. -/
theorem answers_return (run : Runs c u settings events s) {before after : List Turn} {turn : Turn}
    (hLog : s.system.log = before ++ turn :: after) {packet : PacketUp}
    (hMsg : turn.msg = .uplink packet) {udpRuntime : UdpRuntime} {data : PushData}
    (hForwarded : turn.effects.forwarded = [(udpRuntime, data)]) :
    ∃ handled index waiting mac live place l,
      s.system.gateways.sent = handled ++ (index, .uplinkReceive packet) :: waiting ∧
      before.filterMap (fun turn => turn.msg.ingested) = handled.map Prod.snd ∧
      packet.gatewayMac c = .ok mac ∧ holder (System.registrations handled) mac = some live ∧
      s.listeners[place]? = some l ∧ l.udpRuntime = udpRuntime ∧ l.gateway.tx = ⟨live⟩ ∧
      reportedTo place events = s.system.handledFor ⟨live⟩ ++ s.system.queuedFor ⟨live⟩ ++
        l.inbox.filterMap Event.request ∧ s.system.Sends u ⟨live⟩ := by
  obtain ⟨moves, hRun⟩ := exists_run run
  obtain ⟨handled, index, waiting, mac, hSent, hHandled, hMac, hRoute⟩ :=
    System.route_of_turn hRun hLog hMsg
  obtain ⟨-, hNothing⟩ |
    ⟨live, gateway, own, trigger, _, hLive, hConnect, -, hStarted, -, -, -, hOnly⟩ := hRoute
  · rw [hNothing] at hForwarded
    cases hForwarded
  · rw [hOnly] at hForwarded
    cases hForwarded
    have hChannel : gateway.tx = ⟨live⟩ := by
      have hIn : (live, .gatewayConnect gateway) ∈ s.system.gateways.sent := by
        rw [hSent]
        exact List.mem_append_left _ hConnect
      obtain ⟨-, -, -, -, hTx⟩ := (ordered_of_run run).consistent.stream_of_connect hIn
      exact hTx
    have hListed : (gateway, udpRuntime) ∈ s.listeners.map fun l => (l.gateway, l.udpRuntime) := by
      rw [started_of_run run]
      refine List.mem_map.mpr ⟨(gateway, udpRuntime, trigger), ?_, rfl⟩
      rw [hLog, startedBy, List.flatMap_append]
      exact List.mem_append_left _ hStarted
    obtain ⟨l, hMem, hOwn⟩ := List.mem_map.mp hListed
    obtain ⟨rfl, rfl⟩ : l.gateway = gateway ∧ l.udpRuntime = udpRuntime := by simpa using hOwn
    obtain ⟨place, hListener⟩ := List.mem_iff_getElem?.mp hMem
    have hDelivering := delivering_of_run run
    refine ⟨handled, index, waiting, mac, live, place, l, hSent, hHandled, hMac, hLive, hListener,
      rfl, hChannel, ?_, hDelivering.sends _⟩
    rw [hDelivering.reported place l hListener, List.filterMap_append,
      hDelivering.fifo place l hListener, hChannel]

/-- The answer to the uplink of the only stream goes back to it. -/
theorem sample_way_back :
    ∃ s, Runs Crates.sample .sample .sample
        [.stream .opens, .stream (.read 0 (.packet (.sample joinFrame [0]))), .stream (.send 0),
          .stream (.send 0), .turn .sample, .turn .sample, .report 0 (.downlinkRequest .sample),
          .listen 0, .turn .sample] s ∧
      ∃ l ∈ s.listeners, l.udpRuntime = ⟨0⟩ ∧ l.gateway.tx = ⟨0⟩ ∧
        s.system.handledFor ⟨0⟩ = [.sample] ∧ s.system.Sends .sample ⟨0⟩ := by
  obtain ⟨s, run, ⟨first, turn, last, data, hLog, hMsg, hForwarded⟩, ⟨runtime, seen, hListeners⟩,
      hHandled⟩ :
      ∃ s, Runs Crates.sample .sample .sample
        [.stream .opens, .stream (.read 0 (.packet (.sample joinFrame [0]))), .stream (.send 0),
          .stream (.send 0), .turn .sample, .turn .sample, .report 0 (.downlinkRequest .sample),
          .listen 0, .turn .sample] s ∧
        (∃ first turn last data, s.system.log = [first, turn, last] ∧
          turn.msg = .uplink (.sample joinFrame [0]) ∧ turn.effects.forwarded = [(⟨0⟩, data)]) ∧
        (∃ runtime seen, s.listeners = [⟨.sample ⟨0⟩, runtime, seen, []⟩]) ∧
        s.system.handledFor ⟨0⟩ = [.sample] :=
    ⟨_, run_of_exec rfl, ⟨_, _, _, _, rfl, rfl, rfl⟩, ⟨_, _, rfl⟩, rfl⟩
  have hSplit : s.system.log = [first] ++ turn :: [last] := hLog
  obtain ⟨-, -, -, -, live, place, l, -, -, -, -, hListener, hRuntime, hChannel, -, hSends⟩ :=
    answers_return run hSplit hMsg hForwarded
  have hMem := List.mem_of_getElem? hListener
  have hOwn : l.gateway.tx = ⟨0⟩ := by
    rw [hListeners] at hMem
    rw [List.mem_singleton.mp hMem]
    rfl
  rw [← hChannel, hOwn] at hSends
  exact ⟨s, run, l, hMem, hRuntime, hOwn, hHandled, hSends⟩

end ListeningSystem

end PacketRouter.Gwmp
