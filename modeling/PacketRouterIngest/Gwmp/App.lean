import PacketRouterIngest.Gwmp.Packet
import PacketRouterIngest.Uplink.Ingest

/-! The state of the GWMP service: one UDP forwarder for each connected MAC. -/
namespace PacketRouter.Gwmp

open Rust

structure SocketAddr where
  ip : List UInt8
  port : UInt16
deriving DecidableEq, Repr

structure GwmpSettings where
  lnsEndpoint : SocketAddr
  regionPortMapping : HashMap Region UInt16

/-- What `UdpRuntime::new` creates: a runtime with the sending half of its
uplink channel and the receiving half of its downlink channel. -/
structure UdpRuntime where
  id : Nat
deriving DecidableEq, Repr

/-- `triggered::Trigger`. The listener of a trigger has the same number. -/
structure Trigger where
  id : Nat
deriving DecidableEq, Repr

structure UDPForwarder where
  tx : UdpRuntime
  shutdownTrigger : Trigger
deriving DecidableEq, Repr

inductive Msg where
  | uplink (packet : PacketUp)
  | gatewayConnect (gateway : Gateway)
  | gatewayDisconnect (gateway : Gateway)
  | downlink (gateway : Gateway) (request : DownlinkRequest)

/-- After updating app state, these are the side effects that can happen. -/
inductive UpdateAction where
  | noop
  | newForwarder (gateway : Gateway) (udpRuntime : UdpRuntime) (shutdownListener : Trigger)
  | uplink (forwarder : UDPForwarder) (packet : PacketUp)
  | downlink (gateway : Gateway) (request : DownlinkRequest)

/-- The app, with the number of triggers it has created and those it has fired. -/
structure App where
  settings : GwmpSettings
  forwardChans : HashMap GatewayMac UDPForwarder
  triggers : Nat
  fired : List Trigger

/-- What is outside the app: the result of `UdpRuntime::new`, and which
runtimes no longer take uplinks. -/
structure Environment where
  newRuntime : MacAddress → SocketAddr → Except String UdpRuntime
  runtimeClosed : UdpRuntime → Bool

/-- What one side effect does outside the app. -/
structure Effects where
  spawned : List (Gateway × UdpRuntime × Trigger)
  forwarded : List (UdpRuntime × PushData)
  enqueued : List (GatewayTx × PacketRouterPacketDownV1)

def Effects.none : Effects := ⟨[], [], []⟩

/-- Every runtime can be created and is running. -/
def Environment.sample : Environment where
  newRuntime _ _ := .ok ⟨0⟩
  runtimeClosed _ := false

/-- The settings of the tests. -/
def GwmpSettings.sample : GwmpSettings where
  lnsEndpoint := ⟨[127, 0, 0, 1], 1700⟩
  regionPortMapping := ∅

namespace App

def new (settings : GwmpSettings) : App := ⟨settings, ∅, 0, []⟩

def gatewayCount (app : App) : Nat := app.forwardChans.entries.length

/-- `endpoint_for_gateway_region`. -/
def endpointForGatewayRegion (app : App) (gw : Gateway) : SocketAddr :=
  match app.settings.regionPortMapping.lookup gw.region with
  | some port => { app.settings.lnsEndpoint with port }
  | none => app.settings.lnsEndpoint

/-- `triggered::trigger` followed by `add_gateway`. -/
def addGateway (app : App) (gateway : Gateway) (clientTx : UdpRuntime) : App × Trigger :=
  ({ app with
      forwardChans := app.forwardChans.insert gateway.mac ⟨clientTx, ⟨app.triggers⟩⟩
      triggers := app.triggers + 1 }, ⟨app.triggers⟩)

end App

variable (c : Crates) (u : UdpCrates)

/-- `handle_message`. -/
def handleMessage (env : Environment) (app : App) (msg : Msg) : Panics (App × UpdateAction) :=
  match msg with
  | .gatewayConnect gateway => do
      let mac ← MacAddress.from u gateway.mac
      let udpRuntime ← expectOk "create udp runtime"
        (env.newRuntime mac (app.endpointForGatewayRegion gateway))
      let (app, trigger) := app.addGateway gateway udpRuntime
      return (app, .newForwarder gateway udpRuntime trigger)
  | .gatewayDisconnect gw =>
      match app.forwardChans.lookup gw.mac with
      | some gwmpGw =>
          .ok ({ app with
            forwardChans := app.forwardChans.erase gw.mac
            fired := gwmpGw.shutdownTrigger :: app.fired }, .noop)
      | none => .ok (app, .noop)
  | .uplink packet => do
      let gwMac ← packet.gatewayMac c
      match app.forwardChans.lookup gwMac with
      | some gwmpGw => return (app, .uplink gwmpGw packet)
      | none => return (app, .noop)
  | .downlink gateway request => .ok (app, .downlink gateway request)

/-- `handle_update_action`. `closed` tells the downlink channels whose receiver
is gone. The channels have room for any number of downlinks; where the source
waits for one of their 128 places, the message counts as not yet handled. -/
def handleUpdateAction (env : Environment) (closed : GatewayTx → Bool) :
    UpdateAction → Panics Effects
  | .noop => .ok .none
  | .uplink gwmpGw packet => do
      let packet ← PushData.from u c packet
      if env.runtimeClosed gwmpGw.tx then .error ⟨"uplink forwarded"⟩
      else return { Effects.none with forwarded := [(gwmpGw.tx, packet)] }
  | .downlink gateway request => do
      let downlink ← toPacketDown u request.txpk
      return { Effects.none with enqueued := gateway.tx.sendDownlink closed downlink }
  | .newForwarder gateway udpRuntime listener =>
      .ok { Effects.none with spawned := [(gateway, udpRuntime, listener)] }

section

variable {c : Crates} {u : UdpCrates} {env : Environment} {app app' : App} {msg : Msg}
  {action : UpdateAction}

/-- Everything one message can do to the app. -/
theorem handleMessage_cases (h : handleMessage c u env app msg = .ok (app', action)) :
    (∃ gateway runtime, msg = .gatewayConnect gateway ∧
      app' = (app.addGateway gateway runtime).1 ∧
      action = .newForwarder gateway runtime ⟨app.triggers⟩) ∨
    (∃ gateway forwarder, msg = .gatewayDisconnect gateway ∧
      app.forwardChans.lookup gateway.mac = some forwarder ∧
      app' = { app with
        forwardChans := app.forwardChans.erase gateway.mac
        fired := forwarder.shutdownTrigger :: app.fired } ∧ action = .noop) ∨
    (∃ gateway, msg = .gatewayDisconnect gateway ∧
      app.forwardChans.lookup gateway.mac = none ∧ app' = app ∧ action = .noop) ∨
    (∃ packet mac, msg = .uplink packet ∧ packet.gatewayMac c = .ok mac ∧ app' = app ∧
      action = (app.forwardChans.lookup mac).elim .noop (.uplink · packet)) ∨
    (∃ gateway request, msg = .downlink gateway request ∧ app' = app ∧
      action = .downlink gateway request) := by
  cases msg with
  | gatewayConnect gateway =>
      left
      cases hMac : MacAddress.from u gateway.mac with
      | error reason => simp [handleMessage, hMac, bind, Except.bind] at h
      | ok mac =>
          cases hRuntime : env.newRuntime mac (app.endpointForGatewayRegion gateway) with
          | error reason => simp [handleMessage, hMac, hRuntime, bind, Except.bind] at h
          | ok runtime =>
              simp only [handleMessage, hMac, hRuntime, expectOk_ok, bind, Except.bind, pure,
                Except.pure, Except.ok.injEq, Prod.mk.injEq] at h
              obtain ⟨rfl, rfl⟩ := h
              exact ⟨gateway, runtime, rfl, rfl, rfl⟩
  | gatewayDisconnect gateway =>
      right
      cases hLookup : app.forwardChans.lookup gateway.mac with
      | some forwarder =>
          simp only [handleMessage, hLookup] at h
          cases h
          exact .inl ⟨gateway, forwarder, rfl, hLookup, rfl, rfl⟩
      | none =>
          simp only [handleMessage, hLookup] at h
          cases h
          exact .inr (.inl ⟨gateway, rfl, hLookup, rfl, rfl⟩)
  | uplink packet =>
      right; right; right; left
      cases hMac : packet.gatewayMac c with
      | error reason => simp [handleMessage, hMac, bind, Except.bind] at h
      | ok mac =>
          cases hLookup : app.forwardChans.lookup mac with
          | none =>
              simp only [handleMessage, hMac, hLookup, bind, Except.bind, pure, Except.pure] at h
              cases h
              exact ⟨packet, mac, rfl, hMac, rfl, by rw [hLookup]; rfl⟩
          | some forwarder =>
              simp only [handleMessage, hMac, hLookup, bind, Except.bind, pure, Except.pure] at h
              cases h
              exact ⟨packet, mac, rfl, hMac, rfl, by rw [hLookup]; rfl⟩
  | downlink gateway request =>
      cases h
      exact .inr (.inr (.inr (.inr ⟨gateway, request, rfl, rfl, rfl⟩)))

/-- An uplink is handled without changing the app, once its gateway has a MAC. -/
theorem handleMessage_uplink {packet : PacketUp} {mac : GatewayMac}
    (hMac : packet.gatewayMac c = .ok mac) :
    handleMessage c u env app (.uplink packet) =
      .ok (app, (app.forwardChans.lookup mac).elim .noop (.uplink · packet)) := by
  cases hLookup : app.forwardChans.lookup mac <;>
    simp [handleMessage, hMac, hLookup, bind, Except.bind, pure, Except.pure]

/-- No stored forwarder has been shut down, and no two share a trigger. -/
structure App.Armed (app : App) : Prop where
  unfired : ∀ mac forwarder, app.forwardChans.lookup mac = some forwarder →
    forwarder.shutdownTrigger ∉ app.fired
  created : ∀ mac forwarder, app.forwardChans.lookup mac = some forwarder →
    forwarder.shutdownTrigger.id < app.triggers
  past : ∀ trigger ∈ app.fired, trigger.id < app.triggers
  distinct : ∀ mac forwarder mac' forwarder',
    app.forwardChans.lookup mac = some forwarder → app.forwardChans.lookup mac' = some forwarder' →
    forwarder.shutdownTrigger = forwarder'.shutdownTrigger → mac = mac'

theorem App.armed_new (settings : GwmpSettings) : (App.new settings).Armed := by
  constructor <;> simp [App.new]

theorem App.lookup_addGateway (app : App) (gateway : Gateway) (runtime : UdpRuntime)
    (mac : GatewayMac) : (app.addGateway gateway runtime).1.forwardChans.lookup mac =
      if mac = gateway.mac then some ⟨runtime, ⟨app.triggers⟩⟩ else app.forwardChans.lookup mac := by
  split_ifs with hMac
  · rw [hMac]
    exact AList.lookup_insert _
  · exact AList.lookup_insert_ne hMac

/-- A new gateway gets a trigger that nobody has. -/
theorem App.Armed.addGateway (h : app.Armed) (gateway : Gateway) (runtime : UdpRuntime) :
    (app.addGateway gateway runtime).1.Armed := by
  have hLookup := app.lookup_addGateway gateway runtime
  constructor
  · intro mac forwarder hForwarder hFired
    rw [hLookup] at hForwarder
    split_ifs at hForwarder with hMac
    · cases hForwarder
      exact absurd (h.past _ hFired) (lt_irrefl _)
    · exact h.unfired mac forwarder hForwarder hFired
  · intro mac forwarder hForwarder
    rw [hLookup] at hForwarder
    change _ < app.triggers + 1
    split_ifs at hForwarder with hMac
    · cases hForwarder
      exact Nat.lt_succ_self _
    · have := h.created mac forwarder hForwarder
      omega
  · intro trigger hFired
    have hPast := h.past trigger hFired
    change _ < app.triggers + 1
    omega
  · intro mac forwarder mac' forwarder' hForwarder hForwarder' hSame
    rw [hLookup] at hForwarder hForwarder'
    split_ifs at hForwarder hForwarder' with hMac hMac' hMac'
    · rw [hMac, hMac']
    · cases hForwarder
      have := h.created mac' forwarder' hForwarder'
      rw [← hSame] at this
      exact absurd this (lt_irrefl _)
    · cases hForwarder'
      have := h.created mac forwarder hForwarder
      rw [hSame] at this
      exact absurd this (lt_irrefl _)
    · exact h.distinct mac forwarder mac' forwarder' hForwarder hForwarder' hSame

/-- A removed forwarder takes its trigger with it. -/
theorem App.Armed.disconnect {gateway : Gateway} {forwarder : UDPForwarder} (h : app.Armed)
    (hForwarder : app.forwardChans.lookup gateway.mac = some forwarder) :
    App.Armed { app with
      forwardChans := app.forwardChans.erase gateway.mac
      fired := forwarder.shutdownTrigger :: app.fired } := by
  have hLookup (mac : GatewayMac) (other : UDPForwarder)
      (hOther : (app.forwardChans.erase gateway.mac).lookup mac = some other) :
      mac ≠ gateway.mac ∧ app.forwardChans.lookup mac = some other := by
    by_cases hMac : mac = gateway.mac
    · rw [hMac, AList.lookup_erase] at hOther
      cases hOther
    · rw [AList.lookup_erase_ne hMac] at hOther
      exact ⟨hMac, hOther⟩
  constructor
  · intro mac other hOther hFired
    obtain ⟨hMac, hOther⟩ := hLookup mac other hOther
    rcases List.mem_cons.mp hFired with hSame | hFired
    · exact hMac (h.distinct mac other gateway.mac forwarder hOther hForwarder hSame)
    · exact h.unfired mac other hOther hFired
  · intro mac other hOther
    exact h.created mac other (hLookup mac other hOther).2
  · intro trigger hFired
    rcases List.mem_cons.mp hFired with rfl | hFired
    · exact h.created gateway.mac forwarder hForwarder
    · exact h.past trigger hFired
  · intro mac other mac' other' hOther hOther' hSame
    exact h.distinct mac other mac' other' (hLookup mac other hOther).2 (hLookup mac' other' hOther').2
      hSame

/-- Every message keeps the stored forwarders running. -/
theorem App.Armed.handleMessage (h : app.Armed)
    (hMsg : handleMessage c u env app msg = .ok (app', action)) : app'.Armed := by
  obtain ⟨gateway, runtime, -, rfl, -⟩ | ⟨gateway, forwarder, -, hForwarder, rfl, -⟩ |
    ⟨_, -, -, rfl, -⟩ | ⟨_, _, -, -, rfl, -⟩ | ⟨_, _, -, rfl, -⟩ := handleMessage_cases hMsg
  · exact h.addGateway gateway runtime
  · exact h.disconnect hForwarder
  · exact h
  · exact h
  · exact h

end

end PacketRouter.Gwmp
