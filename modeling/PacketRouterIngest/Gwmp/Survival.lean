import PacketRouterIngest.Gwmp.Forwarding

/-! Which packets the GWMP service survives. An uplink is converted only after
its forwarder was found, and no conversion has a branch for what it cannot
convert, so the service survives the packets that can be converted. -/
namespace PacketRouter.Gwmp

open Rust Semantics

/-- A UDP runtime can be created for every gateway, and none is gone. -/
structure Environment.Ready (env : Environment) : Prop where
  creates : ∀ mac endpoint, ∃ runtime, env.newRuntime mac endpoint = .ok runtime
  takes : ∀ runtime, env.runtimeClosed runtime = false

theorem Environment.ready_sample : Environment.sample.Ready where
  creates _ _ := ⟨⟨0⟩, rfl⟩
  takes _ := rfl

/-- The message carries something that the other side has no form for. -/
def Msg.Unusable (u : UdpCrates) : Msg → Prop
  | .uplink packet => packet.packet.gateway = [] ∨
      ∃ e, u.semtechFromStr (u.datarateToString packet.packet.datarate) = .error e
  | .downlink _ request => ∃ e, u.datarateFromStr (u.semtechToString request.txpk.datr) = .error e
  | .gatewayConnect _ | .gatewayDisconnect _ => False

/-- Uplinks and requests of these kinds never end the service. -/
structure Survivable (c : Crates) (u : UdpCrates) (P : PacketUp → Prop)
    (Q : DownlinkRequest → Prop) : Prop where
  macs : ∀ p, P p → ∀ mac, p.gatewayMac c = .ok mac →
    ∃ address, u.macFromStr mac.text = .ok address
  rates : ∀ p, P p → p.packet.gateway ≠ [] →
    ∃ rate, u.semtechFromStr (u.datarateToString p.packet.datarate) = .ok rate
  gateways : ∀ p q, P p → P q → p.packet.gateway ≠ [] → q.packet.gateway ≠ []
  requests : ∀ r, Q r → ∃ rate, u.datarateFromStr (u.semtechToString r.txpk.datr) = .ok rate

/-- The packets that the streams read and the requests of the network server
are of these kinds. -/
structure FedWith (P : PacketUp → Prop) (Q : DownlinkRequest → Prop) (events : List SystemEvent) :
    Prop where
  packets : ∀ index p, .stream (.read index (.packet p)) ∈ events → P p
  requests : ∀ gateway r, .downlink gateway r ∈ events → Q r

section

variable {c : Crates} {u : UdpCrates} {env : Environment} {closed : GatewayTx → Bool}

theorem PushData.from_returns {packet : PacketUp} :
    (∃ data, PushData.from u c packet = .ok data) ↔
      (∃ mac address, packet.gatewayMac c = .ok mac ∧ u.macFromStr mac.text = .ok address) ∧
        ∃ rate, u.semtechFromStr (u.datarateToString packet.packet.datarate) = .ok rate := by
  simp only [PushData.from, MacAddress.from, panics_bind_eq_ok, expectOk_eq_ok]
  constructor
  · rintro ⟨_, mac, hMac, address, hAddress, rate, hRate, -⟩
    exact ⟨⟨mac, address, hMac, hAddress⟩, rate, hRate⟩
  · rintro ⟨⟨mac, address, hMac, hAddress⟩, rate, hRate⟩
    exact ⟨_, mac, hMac, address, hAddress, rate, hRate, rfl⟩

theorem toPacketDown_returns {txpk : TxPk} : (∃ down, toPacketDown u txpk = .ok down) ↔
    ∃ rate, u.datarateFromStr (u.semtechToString txpk.datr) = .ok rate := by
  simp only [toPacketDown, panics_bind_eq_ok, expectOk_eq_ok]
  constructor
  · rintro ⟨_, rate, hRate, -⟩
    exact ⟨rate, hRate⟩
  · rintro ⟨rate, hRate⟩
    exact ⟨_, rate, hRate, rfl⟩

end

namespace System

variable {c : Crates} {u : UdpCrates} {settings : GwmpSettings} {s t : System}
  {events : List SystemEvent} {P : PacketUp → Prop} {Q : DownlinkRequest → Prop}

/-- The loop can handle the next message and carry out its side effect, and
nothing is sent for a message that is not usable. -/
def Survives (c : Crates) (u : UdpCrates) (s : System) (env : Environment) : Prop :=
  ∀ msg rest, s.queue = msg :: rest → ∃ app action effects,
    handleMessage c u env s.app msg = .ok (app, action) ∧
    handleUpdateAction c u env (fun tx => s.closed.contains tx) action = .ok effects ∧
    (msg.Unusable u → effects = .none)

/-- A message of a stream in the queue was sent by it. -/
theorem Ordered.sent_of_queued (h : s.Ordered) {msg : Msg} {line : UplinkIngest}
    (hMem : msg ∈ s.queue) (hLine : msg.ingested = some line) :
    ∃ index, (index, line) ∈ s.gateways.sent := by
  obtain ⟨handled, waiting, hSent, -, hWaiting, -⟩ := h.fifo
  have hQueued : line ∈ s.queue.filterMap Msg.ingested := List.mem_filterMap.mpr ⟨msg, hMem, hLine⟩
  rw [hWaiting] at hQueued
  obtain ⟨⟨index, own⟩, hIn, rfl⟩ := List.mem_map.mp hQueued
  exact ⟨index, by rw [hSent]; exact List.mem_append_right _ hIn⟩

/-- An uplink in the queue was read by a stream whose first packet has a MAC. -/
theorem queued_uplink (run : Runs c u settings events s) {packet : PacketUp}
    (hMem : .uplink packet ∈ s.queue) :
    ∃ index opener mac, .stream (.read index (.packet opener)) ∈ events ∧
      opener.gatewayMac c = .ok mac ∧ .stream (.read index (.packet packet)) ∈ events := by
  have h := ordered_of_run run
  obtain ⟨index, hSent⟩ := h.sent_of_queued hMem rfl
  obtain ⟨before, after, hSplit⟩ := List.append_of_mem hSent
  obtain ⟨stream, gw, hStream, hGw, -⟩ := h.consistent.live_of_uplink Gateway.mac hSplit
  have hOrigin := origin_of_run run index stream hStream
  obtain ⟨opener, hOpener, hMac⟩ := hOrigin.gateway gw hGw
  have hRead := hOrigin.packets packet (List.mem_append_left _ (Gateways.mem_sentBy.mpr hSent))
  exact ⟨index, opener, gw.mac, hOpener, hMac, hRead⟩

/-- A gateway in the queue is that of a packet. -/
theorem queued_connect (run : Runs c u settings events s) {gw : Gateway}
    (hMem : .gatewayConnect gw ∈ s.queue) :
    ∃ index opener, .stream (.read index (.packet opener)) ∈ events ∧
      opener.gatewayMac c = .ok gw.mac := by
  have h := ordered_of_run run
  obtain ⟨index, hSent⟩ := h.sent_of_queued hMem rfl
  have hIndex : index < s.gateways.streams.length := h.consistent.bounded _ hSent
  obtain ⟨stream, hStream⟩ : ∃ stream, s.gateways.streams[index]? = some stream :=
    ⟨_, List.getElem?_eq_getElem hIndex⟩
  obtain ⟨-, ⟨packets, hScript⟩, -⟩ := h.consistent.stream index stream hStream
  obtain ⟨before, after, hSplit⟩ := List.append_of_mem (Gateways.mem_sentBy.mpr hSent)
  rw [hSplit, List.append_assoc, List.cons_append] at hScript
  obtain ⟨-, hGw⟩ := Stream.script_connect hScript
  obtain ⟨opener, hOpener, hMac⟩ := (origin_of_run run index stream hStream).gateway gw hGw
  exact ⟨index, opener, hOpener, hMac⟩

/-- A request in the queue came from the network server. -/
theorem queued_downlink (run : Runs c u settings events s) {gateway : Gateway}
    {request : DownlinkRequest} (hMem : .downlink gateway request ∈ s.queue) :
    .downlink gateway request ∈ events := by
  have hAll : ∀ gateway request, .downlink gateway request ∈ s.queue →
      .downlink gateway request ∈ events := by
    refine run.invariant (fun s => ∀ gateway request, .downlink gateway request ∈ s.queue →
      .downlink gateway request ∈ events) (by simp [init]) ?_
    intro s event t hEvent h hStep gateway request hIn
    obtain ⟨_, _, -, -, rfl⟩ | ⟨_, _, sent, -, -, rfl⟩ | ⟨own, asked, rfl, rfl⟩ | ⟨_, -, rfl⟩ |
      ⟨_, msg, rest, _, _, _, -, hQueue, -, rfl⟩ := step_cases hStep
    · exact h gateway request hIn
    · rcases List.mem_append.mp hIn with hIn | hIn
      · exact h gateway request hIn
      · cases sent <;> cases List.mem_singleton.mp hIn
    · rcases List.mem_append.mp hIn with hIn | hIn
      · exact h gateway request hIn
      · cases List.mem_singleton.mp hIn
        exact hEvent
    · exact h gateway request hIn
    · exact h gateway request (by rw [hQueue]; exact List.mem_cons_of_mem _ hIn)
  exact hAll gateway request hMem

section

variable {env : Environment} {closed : GatewayTx → Bool} {app : App}

theorem survives_disconnect (gateway : Gateway) : ∃ app' action effects,
    handleMessage c u env app (.gatewayDisconnect gateway) = .ok (app', action) ∧
      handleUpdateAction c u env closed action = .ok effects := by
  cases hLookup : app.forwardChans.lookup gateway.mac with
  | none => exact ⟨_, _, _, by simp only [handleMessage, hLookup]; rfl, rfl⟩
  | some forwarder => exact ⟨_, _, _, by simp only [handleMessage, hLookup]; rfl, rfl⟩

theorem survives_connect {gateway : Gateway} {address : MacAddress}
    (hAddress : u.macFromStr gateway.mac.text = .ok address) (hReady : env.Ready) :
    ∃ app' action effects,
      handleMessage c u env app (.gatewayConnect gateway) = .ok (app', action) ∧
        handleUpdateAction c u env closed action = .ok effects := by
  obtain ⟨runtime, hRuntime⟩ := hReady.creates address (app.endpointForGatewayRegion gateway)
  refine ⟨(app.addGateway gateway runtime).1, .newForwarder gateway runtime ⟨app.triggers⟩, _, ?_, rfl⟩
  simp only [handleMessage, MacAddress.from, hAddress, hRuntime, expectOk_ok, bind, Except.bind]
  rfl

theorem survives_downlink (gateway : Gateway) {request : DownlinkRequest}
    (hRequest : ∃ rate, u.datarateFromStr (u.semtechToString request.txpk.datr) = .ok rate) :
    ∃ app' action effects,
      handleMessage c u env app (.downlink gateway request) = .ok (app', action) ∧
        handleUpdateAction c u env closed action = .ok effects := by
  obtain ⟨down, hDown⟩ := toPacketDown_returns.mpr hRequest
  exact ⟨_, _, _, rfl, by simp only [handleUpdateAction, hDown]; rfl⟩

/-- An uplink is converted only for a gateway that has a forwarder. -/
theorem survives_uplink {packet : PacketUp} {mac : GatewayMac} {address : MacAddress}
    (hMac : packet.gatewayMac c = .ok mac) (hAddress : u.macFromStr mac.text = .ok address)
    (hRate : ∃ rate, u.semtechFromStr (u.datarateToString packet.packet.datarate) = .ok rate)
    (hReady : env.Ready) : ∃ app' action effects,
      handleMessage c u env app (.uplink packet) = .ok (app', action) ∧
        handleUpdateAction c u env closed action = .ok effects := by
  cases hLookup : app.forwardChans.lookup mac with
  | none =>
      refine ⟨_, _, .none, handleMessage_uplink hMac, ?_⟩
      rw [hLookup]
      rfl
  | some forwarder =>
      obtain ⟨data, hData⟩ := PushData.from_returns.mpr ⟨⟨mac, address, hMac, hAddress⟩, hRate⟩
      refine ⟨_, _, { Effects.none with forwarded := [(forwarder.tx, data)] },
        handleMessage_uplink hMac, ?_⟩
      rw [hLookup]
      simp only [Option.elim, handleUpdateAction, hData, hReady.takes, bind, Except.bind]
      rfl

end

/-- Among survivable messages the one that waits is usable and survived. -/
theorem handled_of_survivable (run : Runs c u settings events s) (hFed : FedWith P Q events)
    (h : Survivable c u P Q) {env : Environment} (hReady : env.Ready) {msg : Msg}
    (hMem : msg ∈ s.queue) : ¬ msg.Unusable u ∧ ∃ app action effects,
      handleMessage c u env s.app msg = .ok (app, action) ∧
        handleUpdateAction c u env (fun tx => s.closed.contains tx) action = .ok effects := by
  cases msg with
  | gatewayDisconnect gateway => exact ⟨id, survives_disconnect gateway⟩
  | gatewayConnect gateway =>
      obtain ⟨index, opener, hOpener, hMac⟩ := queued_connect run hMem
      obtain ⟨address, hAddress⟩ := h.macs opener (hFed.packets index opener hOpener) gateway.mac hMac
      exact ⟨id, survives_connect hAddress hReady⟩
  | downlink gateway request =>
      obtain ⟨rate, hRate⟩ := h.requests request (hFed.requests gateway request (queued_downlink run hMem))
      refine ⟨?_, survives_downlink gateway ⟨rate, hRate⟩⟩
      rintro ⟨e, hError⟩
      rw [hRate] at hError
      cases hError
  | uplink packet =>
      obtain ⟨index, opener, mac, hOpener, hMac, hRead⟩ := queued_uplink run hMem
      have hP := hFed.packets index packet hRead
      have hBytes := h.gateways opener packet (hFed.packets index opener hOpener) hP
        ((GatewayMac.fromBytes_eq_ok c).mp hMac).1
      have hOwn := (GatewayMac.fromBytes_eq_ok c).mpr ⟨hBytes, rfl⟩
      obtain ⟨rate, hRate⟩ := h.rates packet hP hBytes
      obtain ⟨address, hAddress⟩ := h.macs packet hP _ hOwn
      refine ⟨?_, survives_uplink hOwn hAddress ⟨rate, hRate⟩ hReady⟩
      rintro (hEmpty | ⟨e, hError⟩)
      · exact hBytes hEmpty
      · rw [hRate] at hError
        cases hError

/-- Runs fed with survivable messages survive. -/
theorem survives_of_survivable (run : Runs c u settings events s) (hFed : FedWith P Q events)
    (h : Survivable c u P Q) {env : Environment} (hReady : env.Ready) : s.Survives c u env := by
  intro msg rest hQueue
  obtain ⟨hUsable, app, action, effects, hMsg, hAction⟩ :=
    handled_of_survivable run hFed h hReady (hQueue ▸ List.mem_cons_self)
  exact ⟨app, action, effects, hMsg, hAction, fun hBad => absurd hBad hUsable⟩

/-- A message that the service survives is handled by a turn. -/
theorem Survives.exists_turn {env : Environment} {msg : Msg} {rest : List Msg}
    (h : s.Survives c u env) (hQueue : s.queue = msg :: rest) :
    ∃ app action effects, handleMessage c u env s.app msg = .ok (app, action) ∧
      System.step c u s (.turn env) =
        some { s with app, queue := rest, log := s.log ++ [⟨msg, action, effects⟩] } := by
  obtain ⟨app, action, effects, hMsg, hAction, -⟩ := h msg rest hQueue
  refine ⟨app, action, effects, hMsg, ?_⟩
  simp only [System.step, hQueue, handle, hMsg, hAction, bind, Except.bind]
  rfl

/-- A first packet brings the registration of its gateway to the app. -/
theorem run_connect (c : Crates) (u : UdpCrates) (settings : GwmpSettings) {p : PacketUp}
    {gw : Gateway} (hGw : Gateway.new c p ⟨0⟩ = .ok gw) :
    Runs c u settings [.stream .opens, .stream (.read 0 (.packet p)), .stream (.send 0)]
      ⟨⟨[⟨⟨0⟩, some gw, [.uplinkReceive p], true⟩], [(0, .gatewayConnect gw)]⟩, .new settings,
        [.gatewayConnect gw], [], []⟩ := by
  apply run_of_exec
  simp [exec, System.step, init, Gateways.step, Gateways.new, Stream.opened, Stream.read, hGw, ingest,
    bind, Except.bind, pure, Except.pure]

/-- If its registration is survived, the packet itself comes next, and its
gateway has a forwarder. -/
theorem exists_run_uplink {p : PacketUp} {gw : Gateway} (hGw : Gateway.new c p ⟨0⟩ = .ok gw)
    {env : Environment} (h : ∀ s, Runs c u settings
      [.stream .opens, .stream (.read 0 (.packet p)), .stream (.send 0)] s → s.Survives c u env) :
    ∃ s, Runs c u settings [.stream .opens, .stream (.read 0 (.packet p)), .stream (.send 0),
        .turn env, .stream (.send 0)] s ∧ s.queue = [.uplink p] ∧
      s.gateways.streams = [⟨⟨0⟩, some gw, [], true⟩] ∧
      ∃ forwarder, s.app.forwardChans.lookup gw.mac = some forwarder := by
  have run := run_connect c u settings hGw
  obtain ⟨app, action, effects, hMsg, hTurn⟩ := (h _ run).exists_turn rfl
  obtain ⟨gateway, runtime, hConnect, rfl, -⟩ | ⟨_, _, hOther, -⟩ | ⟨_, hOther, -⟩ |
    ⟨_, _, hOther, -⟩ | ⟨_, _, hOther, -⟩ := handleMessage_cases hMsg
  · cases hConnect
    refine ⟨_, (run.snoc hTurn).snoc rfl, rfl, rfl, ⟨runtime, ⟨0⟩⟩, ?_⟩
    exact (App.lookup_addGateway (.new settings) gw runtime gw.mac).trans (if_pos rfl)
  · cases hOther
  · cases hOther
  · cases hOther
  · cases hOther

/-- A forwarder takes only an uplink that could be converted. -/
theorem Survives.converts {env : Environment} {p : PacketUp} {mac : GatewayMac}
    {forwarder : UDPForwarder} {rest : List Msg} (h : s.Survives c u env)
    (hQueue : s.queue = .uplink p :: rest) (hMac : p.gatewayMac c = .ok mac)
    (hForwarder : s.app.forwardChans.lookup mac = some forwarder) :
    ∃ data, PushData.from u c p = .ok data := by
  obtain ⟨app, action, effects, hMsg, hAction, -⟩ := h _ _ hQueue
  rw [handleMessage_uplink hMac, hForwarder] at hMsg
  cases hMsg
  simp only [Option.elim, handleUpdateAction, panics_bind_eq_ok] at hAction
  obtain ⟨data, hData, -⟩ := hAction
  exact ⟨data, hData⟩

/-- Runs of these kinds of messages always survive. -/
def AlwaysSurvives (c : Crates) (u : UdpCrates) (settings : GwmpSettings) (P : PacketUp → Prop)
    (Q : DownlinkRequest → Prop) : Prop :=
  ∀ events s env, Runs c u settings events s → FedWith P Q events → env.Ready → s.Survives c u env

theorem gateway_of_mac {p : PacketUp} {mac : GatewayMac} (hMac : p.gatewayMac c = .ok mac) :
    ∃ gw, Gateway.new c p ⟨0⟩ = .ok gw ∧ gw.mac = mac := by
  refine ⟨⟨p.gatewayB58 c, mac, p.region, ⟨0⟩⟩, ?_, rfl⟩
  simp [Gateway.new, hMac, bind, Except.bind, pure, Except.pure]

/-- Survival of a first packet's registration. -/
theorem AlwaysSurvives.connect (h : AlwaysSurvives c u settings P Q) {p : PacketUp} (hp : P p)
    (run : Runs c u settings [.stream .opens, .stream (.read 0 (.packet p)), .stream (.send 0)] s) :
    s.Survives c u .sample := by
  refine h _ s .sample run ⟨fun index q hq => ?_, fun gateway r hr => by simp at hr⟩
    Environment.ready_sample
  obtain ⟨-, rfl⟩ : index = 0 ∧ q = p := by simpa using hq
  exact hp

/-- A first packet with a MAC must be convertible. -/
theorem AlwaysSurvives.data (h : AlwaysSurvives c u settings P Q) {p : PacketUp} (hp : P p)
    {mac : GatewayMac} (hMac : p.gatewayMac c = .ok mac) :
    ∃ data, PushData.from u c p = .ok data := by
  obtain ⟨gw, hGw, rfl⟩ := gateway_of_mac hMac
  obtain ⟨s, run, hQueue, -, forwarder, hForwarder⟩ :=
    exists_run_uplink hGw (fun s run => h.connect hp run)
  refine (h _ s .sample run ⟨fun index q hq => ?_, fun gateway r hr => by simp at hr⟩
    Environment.ready_sample).converts hQueue hMac hForwarder
  obtain ⟨-, rfl⟩ : index = 0 ∧ q = p := by simpa using hq
  exact hp

/-- Every packet that follows one with gateway bytes must have some as well. -/
theorem AlwaysSurvives.bytes (h : AlwaysSurvives c u settings P Q) {p q : PacketUp} (hp : P p)
    (hq : P q) {mac : GatewayMac} (hMac : p.gatewayMac c = .ok mac) : q.packet.gateway ≠ [] := by
  obtain ⟨gw, hGw, rfl⟩ := gateway_of_mac hMac
  obtain ⟨s, run, hQueue, hStreams, -⟩ := exists_run_uplink hGw (fun s run => h.connect hp run)
  have hFirst : s.Survives c u .sample := by
    refine h _ s .sample run ⟨fun index r hr => ?_, fun gateway r hr => by simp at hr⟩
      Environment.ready_sample
    obtain ⟨-, rfl⟩ : index = 0 ∧ r = p := by simpa using hr
    exact hp
  obtain ⟨app, action, effects, hMsg, hTurn⟩ := hFirst.exists_turn hQueue
  obtain ⟨t, hNext, hSecond⟩ : ∃ t, Run (System.step c u) s
      [.turn .sample, .stream (.read 0 (.packet q)), .stream (.send 0)] t ∧
      t.queue = [.uplink q] := by
    refine ⟨⟨⟨[⟨⟨0⟩, some gw, [], true⟩], s.gateways.sent ++ [(0, .uplinkReceive q)]⟩, app,
      [.uplink q], s.closed, s.log ++ [⟨.uplink p, action, effects⟩]⟩, run_of_exec ?_, rfl⟩
    rw [exec, hTurn, Option.bind_some]
    simp [exec, System.step, Gateways.step, hStreams, Stream.read, ingest]
  have hFed : FedWith P Q ([.stream .opens, .stream (.read 0 (.packet p)), .stream (.send 0),
      .turn .sample, .stream (.send 0)] ++
      [.turn .sample, .stream (.read 0 (.packet q)), .stream (.send 0)]) := by
    refine ⟨fun index r hr => ?_, fun gateway r hr => by simp at hr⟩
    obtain ⟨-, rfl⟩ | ⟨-, rfl⟩ : (index = 0 ∧ r = p) ∨ index = 0 ∧ r = q := by simpa using hr
    · exact hp
    · exact hq
  obtain ⟨app', action', _, hUplink, -, -⟩ :=
    h _ t .sample (run.append hNext) hFed Environment.ready_sample _ _ hSecond
  obtain ⟨_, _, hOther, -⟩ | ⟨_, _, hOther, -⟩ | ⟨_, hOther, -⟩ | ⟨own, ownMac, hOwn, hOwnMac, -⟩ |
    ⟨_, _, hOther, -⟩ := handleMessage_cases hUplink
  · cases hOther
  · cases hOther
  · cases hOther
  · cases hOwn
    exact ((GatewayMac.fromBytes_eq_ok c).mp hOwnMac).1
  · cases hOther

/-- Every request must be convertible. -/
theorem AlwaysSurvives.request (h : AlwaysSurvives c u settings P Q) {r : DownlinkRequest}
    (hr : Q r) : ∃ down, toPacketDown u r.txpk = .ok down := by
  have run : Runs c u settings [.downlink (.sample ⟨0⟩) r]
      { init settings with queue := [.downlink (.sample ⟨0⟩) r] } := Run.single rfl
  have hFed : FedWith P Q [.downlink (.sample ⟨0⟩) r] := by
    refine ⟨fun index p hp => by simp at hp, fun gateway own hOwn => ?_⟩
    obtain ⟨-, rfl⟩ : gateway = .sample ⟨0⟩ ∧ own = r := by simpa using hOwn
    exact hr
  obtain ⟨app, action, effects, hMsg, hAction, -⟩ :=
    h _ _ .sample run hFed Environment.ready_sample _ _ rfl
  cases hMsg
  simp only [handleUpdateAction, panics_bind_eq_ok] at hAction
  obtain ⟨down, hDown, -⟩ := hAction
  exact ⟨down, hDown⟩

/-- **Survival.** While runtimes can be created and stay open, runs fed with
packets and requests of some kinds always survive exactly when every packet
with gateway bytes has a MAC and a data rate that the other side knows, no
packet without gateway bytes comes with one that has them, and the data rate of
every request is known. -/
theorem udp_survives_iff (c : Crates) (u : UdpCrates) (settings : GwmpSettings) (P : PacketUp → Prop)
    (Q : DownlinkRequest → Prop) :
    AlwaysSurvives c u settings P Q ↔ Survivable c u P Q := by
  constructor
  · intro h
    have hMac (p : PacketUp) (hBytes : p.packet.gateway ≠ []) :
        ∃ mac, p.gatewayMac c = .ok mac := ⟨_, (GatewayMac.fromBytes_eq_ok c).mpr ⟨hBytes, rfl⟩⟩
    refine ⟨fun p hp mac hOwn => ?_, fun p hp hBytes => ?_, fun p q hp hq hBytes => ?_, fun r hr => ?_⟩
    · obtain ⟨⟨own, address, hSame, hAddress⟩, -⟩ := PushData.from_returns.mp (h.data hp hOwn)
      obtain rfl : mac = own := Except.ok.inj (hOwn.symm.trans hSame)
      exact ⟨address, hAddress⟩
    · obtain ⟨mac, hOwn⟩ := hMac p hBytes
      exact (PushData.from_returns.mp (h.data hp hOwn)).2
    · obtain ⟨mac, hOwn⟩ := hMac p hBytes
      exact h.bytes hp hq hOwn
    · exact toPacketDown_returns.mp (h.request hr)
  · intro hSurvivable events s env run hFed hReady
    exact survives_of_survivable run hFed hSurvivable hReady

/-- A packet without gateway bytes on the stream of a registered gateway ends
the service. -/
theorem emptyGateway_panics :
    ∃ s, Runs Crates.sample .sample .sample
        [.stream .opens, .stream (.read 0 (.packet (.sample joinFrame [0]))), .stream (.send 0),
          .stream (.send 0), .turn .sample, .turn .sample,
          .stream (.read 0 (.packet (.sample joinFrame []))), .stream (.send 0)] s ∧
      s.queue = [.uplink (.sample joinFrame [])] ∧ Environment.sample.Ready ∧
      (∃ reason, s.handle Crates.sample .sample .sample (.uplink (.sample joinFrame [])) [] =
        .error reason) ∧
      ¬ s.Survives Crates.sample .sample .sample := by
  refine ⟨_, run_of_exec rfl, rfl, Environment.ready_sample, ⟨_, rfl⟩, fun h => ?_⟩
  obtain ⟨app, action, effects, hMsg, -⟩ := h _ _ rfl
  cases hMsg

end System

end PacketRouter.Gwmp
