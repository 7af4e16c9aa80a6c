import PacketRouterIngest.Gwmp.Runtimes

/-! The way of a downlink through the GWMP service. Each forwarder has a task
that listens to its UDP runtime and puts what the network server asks for into
the queue of the app, together with the messages of the streams; the app sends
it on to the gateway that the forwarder was made for. Queue and channels have
no bounds: an event whose request waits for room in the queue counts as not yet
received, and a message whose downlink waits for room in the channel of its
gateway as not yet handled. -/
namespace PacketRouter.Gwmp

open Rust Semantics

/-- `semtech_udp::client_runtime::Event`. -/
inductive Event where
  | reconnected
  | lostConnection
  | downlinkRequest (request : DownlinkRequest)
  | unableToParseUdpFrame (parseErr : String) (data : List UInt8)

/-- What the listener sends to the app for an event of the runtime. -/
def Event.request : Event → Option DownlinkRequest
  | .reconnected => none
  | .lostConnection => none
  | .downlinkRequest downlink => some downlink
  | .unableToParseUdpFrame _ _ => none

/-- An immediate downlink of one byte. -/
def DownlinkRequest.sample : DownlinkRequest := ⟨⟨⟨10, 125⟩, [1], ⟨true, none⟩, 868.1⟩⟩

/-- The task spawned for a new forwarder, with the events that it has received
from its runtime and those that wait. -/
structure Listener where
  gateway : Gateway
  udpRuntime : UdpRuntime
  seen : List Event
  inbox : List Event

/-- The service with its listeners. -/
structure ListeningSystem where
  system : System
  listeners : List Listener

inductive ListeningEvent where
  | stream (event : StreamEvent)
  | dropReceiver (tx : GatewayTx)
  /-- A UDP runtime reports an event to its listener. -/
  | report (index : Nat) (event : Event)
  /-- A listener receives its next event. -/
  | listen (index : Nat)
  | turn (env : Environment)

/-- The listeners that the last turn has spawned. -/
def System.spawned (s : System) : List Listener :=
  match s.log.getLast? with
  | some turn => turn.effects.spawned.map fun (gateway, udpRuntime, _) => ⟨gateway, udpRuntime, [], []⟩
  | none => []

/-- The runtimes that the turns have started, each with its gateway and trigger. -/
def startedBy (log : List Turn) : List (Gateway × UdpRuntime × Trigger) :=
  log.flatMap (fun turn => turn.effects.spawned)

/-- The gateway that a message connects. -/
def Msg.connecting : Msg → Option Gateway
  | .gatewayConnect gateway => some gateway
  | .gatewayDisconnect _ | .uplink _ | .downlink _ _ => none

/-- The request that a message carries for the gateway of a channel. -/
def Msg.requestFor (tx : GatewayTx) : Msg → Option DownlinkRequest
  | .downlink gateway request => if gateway.tx = tx then some request else none
  | .gatewayConnect _ | .gatewayDisconnect _ | .uplink _ => none

namespace System

/-- The requests for the gateway of a channel that were handled. -/
def handledFor (s : System) (tx : GatewayTx) : List DownlinkRequest :=
  s.log.filterMap (fun turn => turn.msg.requestFor tx)

/-- Those that wait in the queue. -/
def queuedFor (s : System) (tx : GatewayTx) : List DownlinkRequest :=
  s.queue.filterMap (Msg.requestFor tx)

/-- The downlinks that were put into a channel. -/
def enqueuedFor (s : System) (tx : GatewayTx) : List PacketRouterPacketDownV1 :=
  s.log.flatMap fun turn =>
    turn.effects.enqueued.filterMap fun (own, down) => if own = tx then some down else none

/-- What was put into a channel is what the requests for it were converted to,
up to the point where its receiver was dropped. -/
def Sends (u : UdpCrates) (s : System) (tx : GatewayTx) : Prop :=
  ∃ converted, List.Forall₂ (fun request down => toPacketDown u request.txpk = .ok down)
    (s.handledFor tx) converted ∧ s.enqueuedFor tx <+: converted ∧
    (tx ∉ s.closed → s.enqueuedFor tx = converted)

end System

namespace ListeningSystem

def init (settings : GwmpSettings) : ListeningSystem := ⟨.init settings, []⟩

variable (c : Crates) (u : UdpCrates)

def step (s : ListeningSystem) : ListeningEvent → Option ListeningSystem
  | .stream event => (s.system.step c u (.stream event)).map ({ s with system := · })
  | .dropReceiver tx => (s.system.step c u (.dropReceiver tx)).map ({ s with system := · })
  | .report index event =>
      match s.listeners[index]? with
      | some ⟨gateway, udpRuntime, seen, inbox⟩ =>
          some { s with
            listeners := s.listeners.set index ⟨gateway, udpRuntime, seen, inbox ++ [event]⟩ }
      | none => none
  | .listen index =>
      match s.listeners[index]? with
      | some ⟨gateway, udpRuntime, seen, event :: inbox⟩ =>
          let listeners := s.listeners.set index ⟨gateway, udpRuntime, seen ++ [event], inbox⟩
          match event.request with
          | some downlink =>
              (s.system.step c u (.downlink gateway downlink)).map ({ system := ·, listeners })
          | none => some { s with listeners }
      | _ => none
  | .turn env =>
      match s.system.step c u (.turn env) with
      | some system => some { system, listeners := s.listeners ++ system.spawned }
      | none => none

abbrev Runs (settings : GwmpSettings) (events : List ListeningEvent) (s : ListeningSystem) : Prop :=
  Run (step c u) (init settings) events s

end ListeningSystem

/-- The requests among what the runtime of one listener has reported. -/
def reportedTo (index : Nat) (events : List ListeningEvent) : List DownlinkRequest :=
  events.filterMap fun
    | .report own event => if own = index then event.request else none
    | _ => none

section

variable {c : Crates} {u : UdpCrates}

/-- What one message makes the app spawn and send to the gateways. -/
theorem effects_of_message {env : Environment} {closed : GatewayTx → Bool} {app app' : App}
    {msg : Msg} {action : UpdateAction} {effects : Effects}
    (hMsg : handleMessage c u env app msg = .ok (app', action))
    (hAction : handleUpdateAction c u env closed action = .ok effects) :
    (∃ gateway runtime trigger, msg = .gatewayConnect gateway ∧
      effects.spawned = [(gateway, runtime, trigger)] ∧ effects.enqueued = []) ∨
    (∃ gateway request down, msg = .downlink gateway request ∧
      toPacketDown u request.txpk = .ok down ∧ effects.spawned = [] ∧
      effects.enqueued = gateway.tx.sendDownlink closed down) ∨
    (msg.connecting = none ∧ (∀ tx, msg.requestFor tx = none) ∧
      effects.spawned = [] ∧ effects.enqueued = []) := by
  obtain ⟨gateway, runtime, rfl, -, rfl⟩ | ⟨gateway, forwarder, rfl, -, -, rfl⟩ |
    ⟨gateway, rfl, -, -, rfl⟩ | ⟨packet, mac, rfl, -, -, rfl⟩ | ⟨gateway, request, rfl, -, rfl⟩ :=
      handleMessage_cases hMsg
  · cases hAction
    exact .inl ⟨gateway, runtime, _, rfl, rfl, rfl⟩
  · cases hAction
    exact .inr (.inr ⟨rfl, fun _ => rfl, rfl, rfl⟩)
  · cases hAction
    exact .inr (.inr ⟨rfl, fun _ => rfl, rfl, rfl⟩)
  · cases hForwarder : app.forwardChans.lookup mac with
    | none =>
        rw [hForwarder] at hAction
        cases hAction
        exact .inr (.inr ⟨rfl, fun _ => rfl, rfl, rfl⟩)
    | some forwarder =>
        rw [hForwarder, Option.elim_some] at hAction
        simp only [handleUpdateAction, panics_bind_eq_ok] at hAction
        obtain ⟨data, -, hSent⟩ := hAction
        split_ifs at hSent
        cases hSent
        exact .inr (.inr ⟨rfl, fun _ => rfl, rfl, rfl⟩)
  · simp only [handleUpdateAction, panics_bind_eq_ok] at hAction
    obtain ⟨down, hDown, hSent⟩ := hAction
    cases hSent
    exact .inr (.inl ⟨gateway, request, down, rfl, hDown, rfl, rfl⟩)

end

namespace System

variable {c : Crates} {u : UdpCrates} {s t : System}

/-- A turn handles the first message and carries out its side effect. -/
theorem turn_eq_some {env : Environment} (h : s.step c u (.turn env) = some t) :
    ∃ msg rest app action effects, s.queue = msg :: rest ∧
      handleMessage c u env s.app msg = .ok (app, action) ∧
      handleUpdateAction c u env (fun tx => s.closed.contains tx) action = .ok effects ∧
      t = { s with app, queue := rest, log := s.log ++ [⟨msg, action, effects⟩] } := by
  simp only [step] at h
  split at h
  · cases h
  · next msg rest hQueue =>
      split at h
      · next next hHandle =>
          cases h
          simp only [handle, panics_bind_eq_ok] at hHandle
          obtain ⟨⟨app, action⟩, hMsg, effects, hAction, hNext⟩ := hHandle
          cases hNext
          exact ⟨msg, rest, app, action, effects, hQueue, hMsg, hAction, rfl⟩
      · cases h

/-- Every event adds one turn to the log at most. -/
theorem log_step {event : SystemEvent} (hStep : System.step c u s event = some t) :
    t.log = s.log ∨ ∃ turn, t.log = s.log ++ [turn] := by
  obtain ⟨_, _, -, -, rfl⟩ | ⟨_, _, _, -, -, rfl⟩ | ⟨_, _, -, rfl⟩ | ⟨_, -, rfl⟩ |
    ⟨_, _, _, _, _, _, -, -, -, rfl⟩ := step_cases hStep
  · exact .inl rfl
  · exact .inl rfl
  · exact .inl rfl
  · exact .inl rfl
  · exact .inr ⟨_, rfl⟩

/-- The channels of the gateways that were connected are distinct. -/
theorem Ordered.nodup_connected (h : s.Ordered) :
    ((s.log.filterMap fun turn => turn.msg.connecting).map Gateway.tx).Nodup := by
  obtain ⟨handled, waiting, hSent, hLog, -, -⟩ := h.fifo
  have hConnecting : (s.log.filterMap fun turn => turn.msg.connecting) =
      handled.filterMap fun line => line.2.connecting := by
    calc (s.log.filterMap fun turn => turn.msg.connecting)
        = (s.log.filterMap fun turn => turn.msg.ingested).filterMap UplinkIngest.connecting := by
          rw [List.filterMap_filterMap]
          refine List.filterMap_congr fun turn _ => ?_
          cases turn.msg <;> rfl
      _ = handled.filterMap fun line => line.2.connecting := by
          rw [hLog, List.filterMap_map]
          rfl
  have hNodup := h.consistent.nodup_channels h.valid
  rw [hSent, List.filterMap_append, List.map_append] at hNodup
  rw [hConnecting]
  exact (List.nodup_append.mp hNodup).1

/-- A gateway that was connected is that of the stream with its channel. -/
theorem Ordered.stream_of_connected (h : s.Ordered) {gateway : Gateway}
    (hMem : gateway ∈ s.log.filterMap fun turn => turn.msg.connecting) :
    ∃ stream, s.gateways.streams[gateway.tx.channel]? = some stream ∧
      stream.gw = some gateway ∧ stream.tx = gateway.tx := by
  obtain ⟨handled, waiting, hSent, hLog, -, -⟩ := h.fifo
  obtain ⟨turn, hTurn, hConnecting⟩ := List.mem_filterMap.mp hMem
  have hLine : .gatewayConnect gateway ∈ handled.map Prod.snd := by
    rw [← hLog]
    refine List.mem_filterMap.mpr ⟨turn, hTurn, ?_⟩
    cases hMsg : turn.msg <;> rw [hMsg] at hConnecting <;> cases hConnecting
    rfl
  obtain ⟨⟨index, line⟩, hHandled, rfl⟩ := List.mem_map.mp hLine
  have hIn : (index, .gatewayConnect gateway) ∈ s.gateways.sent := by
    rw [hSent]
    exact List.mem_append_left _ hHandled
  obtain ⟨stream, hStream, hGw, hTx, hChannel⟩ := h.consistent.stream_of_connect hIn
  rw [hChannel]
  exact ⟨stream, hStream, hGw, hTx⟩

end System

namespace ListeningSystem

variable {c : Crates} {u : UdpCrates} {settings : GwmpSettings} {s t : ListeningSystem}
  {event : ListeningEvent} {events : List ListeningEvent}

/-- Everything one event can do. -/
theorem step_cases (h : ListeningSystem.step c u s event = some t) :
    (∃ move system, s.system.step c u move = some system ∧ t = { s with system } ∧
      (∀ index own, event ≠ .report index own) ∧ (∀ index, event ≠ .listen index) ∧
      system.log = s.system.log ∧
      (∀ tx, system.queuedFor tx = s.system.queuedFor tx) ∧
      ∀ tx ∈ s.system.closed, tx ∈ system.closed) ∨
    (∃ index own l, event = .report index own ∧ s.listeners[index]? = some l ∧
      t = { s with listeners := s.listeners.set index { l with inbox := l.inbox ++ [own] } }) ∨
    (∃ index own l inbox, event = .listen index ∧ s.listeners[index]? = some l ∧
      l.inbox = own :: inbox ∧ own.request = none ∧
      t = { s with listeners := s.listeners.set index { l with seen := l.seen ++ [own], inbox } }) ∨
    (∃ index own l inbox downlink, event = .listen index ∧ s.listeners[index]? = some l ∧
      l.inbox = own :: inbox ∧ own.request = some downlink ∧
      t = ⟨{ s.system with queue := s.system.queue ++ [.downlink l.gateway downlink] },
        s.listeners.set index { l with seen := l.seen ++ [own], inbox }⟩) ∨
    (∃ env system, event = .turn env ∧ s.system.step c u (.turn env) = some system ∧
      t = ⟨system, s.listeners ++ system.spawned⟩) := by
  cases event with
  | stream inner =>
      left
      obtain ⟨system, hStep, rfl⟩ := Option.map_eq_some_iff.mp h
      refine ⟨.stream inner, system, hStep, rfl, nofun, nofun, ?_⟩
      obtain ⟨_, gateways, -, -, rfl⟩ | ⟨_, gateways, msg, -, -, rfl⟩ | ⟨_, _, hEvent, -⟩ |
        ⟨_, hEvent, -⟩ | ⟨_, _, _, _, _, _, hEvent, -⟩ := System.step_cases hStep
      · exact ⟨rfl, fun _ => rfl, fun _ hTx => hTx⟩
      · refine ⟨rfl, fun tx => ?_, fun _ hTx => hTx⟩
        have hNone : (ingest msg).requestFor tx = none := by cases msg <;> rfl
        rw [System.queuedFor, List.filterMap_append, List.filterMap_cons_none hNone]
        exact List.append_nil _
      · cases hEvent
      · cases hEvent
      · cases hEvent
  | dropReceiver tx =>
      cases h
      exact .inl ⟨.dropReceiver tx, _, rfl, rfl, nofun, nofun, rfl, fun _ => rfl,
        fun _ hTx => List.mem_cons_of_mem _ hTx⟩
  | report index own =>
      simp only [step] at h
      split at h
      · next gateway udpRuntime seen inbox hListener =>
          cases h
          exact .inr (.inl ⟨index, own, _, rfl, hListener, rfl⟩)
      · cases h
  | listen index =>
      simp only [step] at h
      split at h
      · next gateway udpRuntime seen own inbox hListener =>
          split at h
          · next downlink hRequest =>
              cases h
              exact .inr (.inr (.inr (.inl
                ⟨index, own, _, inbox, downlink, rfl, hListener, rfl, hRequest, rfl⟩)))
          · next hRequest =>
              cases h
              exact .inr (.inr (.inl ⟨index, own, _, inbox, rfl, hListener, rfl, hRequest, rfl⟩))
      · cases h
  | turn env =>
      simp only [step] at h
      split at h
      · next system hStep =>
          cases h
          exact .inr (.inr (.inr (.inr ⟨env, system, rfl, hStep, rfl⟩)))
      · cases h

/-- The service makes a step of its own or rests. -/
theorem system_step (h : ListeningSystem.step c u s event = some t) :
    t.system = s.system ∨ ∃ move, s.system.step c u move = some t.system := by
  obtain ⟨move, system, hMove, rfl, -⟩ | ⟨_, _, _, -, -, rfl⟩ | ⟨_, _, _, _, -, -, -, -, rfl⟩ |
    ⟨_, _, l, _, downlink, -, -, -, -, rfl⟩ | ⟨env, system, -, hTurn, rfl⟩ := step_cases h
  · exact .inr ⟨move, hMove⟩
  · exact .inl rfl
  · exact .inl rfl
  · exact .inr ⟨.downlink l.gateway downlink, rfl⟩
  · exact .inr ⟨.turn env, hTurn⟩

/-- Leaving out what happens between the runtimes and their listeners, a run is
one of the service alone. -/
theorem exists_run (run : Runs c u settings events s) :
    ∃ moves, System.Runs c u settings moves s.system := by
  induction run with
  | nil => exact ⟨[], .nil⟩
  | @snoc events middle finish event prior last ih =>
      obtain ⟨moves, hRun⟩ := ih
      obtain hRests | ⟨move, hMove⟩ := system_step last
      · exact ⟨moves, hRests ▸ hRun⟩
      · exact ⟨moves ++ [move], hRun.snoc hMove⟩

theorem ordered_of_run (run : Runs c u settings events s) : s.system.Ordered := by
  obtain ⟨moves, hRun⟩ := exists_run run
  exact System.ordered_of_run hRun

/-- What a turn does to the log, the queue and the listeners. -/
theorem turn_cases {system next : System} {env : Environment}
    (h : system.step c u (.turn env) = some next) :
    ∃ msg effects action rest, system.queue = msg :: rest ∧ next.queue = rest ∧
      next.log = system.log ++ [⟨msg, action, effects⟩] ∧ next.closed = system.closed ∧
      ((∃ gateway runtime, msg = .gatewayConnect gateway ∧
          next.spawned = [⟨gateway, runtime, [], []⟩] ∧ effects.enqueued = []) ∨
        (∃ gateway request down, msg = .downlink gateway request ∧
          toPacketDown u request.txpk = .ok down ∧ next.spawned = [] ∧
          effects.enqueued = gateway.tx.sendDownlink (fun tx => system.closed.contains tx) down) ∨
        (msg.connecting = none ∧ (∀ tx, msg.requestFor tx = none) ∧ next.spawned = [] ∧
          effects.enqueued = [])) := by
  obtain ⟨msg, rest, app, action, effects, hQueue, hMsg, hAction, rfl⟩ := System.turn_eq_some h
  refine ⟨msg, effects, action, rest, hQueue, rfl, rfl, rfl, ?_⟩
  have hSpawned : System.spawned
      { system with app, queue := rest, log := system.log ++ [⟨msg, action, effects⟩] } =
        effects.spawned.map fun (gateway, udpRuntime, _) => ⟨gateway, udpRuntime, [], []⟩ := by
    simp [System.spawned]
  rw [hSpawned]
  obtain ⟨gateway, runtime, trigger, rfl, hNew, hNothing⟩ |
    ⟨gateway, request, down, rfl, hDown, hNew, hSent⟩ | ⟨hConnecting, hRequest, hNew, hNothing⟩ :=
      effects_of_message hMsg hAction
  · exact .inl ⟨gateway, runtime, rfl, by rw [hNew]; rfl, hNothing⟩
  · exact .inr (.inl ⟨gateway, request, down, rfl, hDown, by rw [hNew]; rfl, hSent⟩)
  · exact .inr (.inr ⟨hConnecting, hRequest, by rw [hNew]; rfl, hNothing⟩)

/-- A turn takes the requests of a channel off the queue in their order. -/
theorem requests_of_turn {system next : System} {msg : Msg} {rest : List Msg} {turn : Turn}
    (hQueue : system.queue = msg :: rest) (hRest : next.queue = rest)
    (hLog : next.log = system.log ++ [turn]) (hMsg : turn.msg = msg) (tx : GatewayTx) :
    next.handledFor tx = system.handledFor tx ++ (msg.requestFor tx).toList ∧
      system.queuedFor tx = (msg.requestFor tx).toList ++ next.queuedFor tx := by
  constructor
  · rw [System.handledFor, hLog, List.filterMap_append, ← hMsg]
    cases hRequest : turn.msg.requestFor tx <;> simp [System.handledFor, hRequest]
  · rw [System.queuedFor, System.queuedFor, hQueue, hRest, List.filterMap_cons]
    cases msg.requestFor tx <;> rfl

/-- What a listener has received changes nothing else of it. -/
theorem map_of_set {Item : Type*} (f : Listener → Item)
    (hSame : ∀ l seen inbox, f { l with seen, inbox } = f l) {index : Nat} {l : Listener}
    (hListener : s.listeners[index]? = some l) (seen inbox : List Event) :
    (s.listeners.set index { l with seen, inbox }).map f = s.listeners.map f := by
  obtain ⟨hIndex, rfl⟩ := List.getElem?_eq_some_iff.mp hListener
  rw [List.map_set, hSame, ← List.getElem_map f (h := by simpa using hIndex)]
  exact List.set_getElem_self _

/-- There is a listener for every runtime that was started. -/
theorem started_of_run (run : Runs c u settings events s) :
    s.listeners.map (fun l => (l.gateway, l.udpRuntime)) =
      (startedBy s.system.log).map fun line => (line.1, line.2.1) := by
  refine run.invariant (fun s => s.listeners.map (fun l => (l.gateway, l.udpRuntime)) =
    (startedBy s.system.log).map fun line => (line.1, line.2.1)) rfl ?_
  intro s event t _ h hStep
  obtain ⟨_, system, -, rfl, -, -, hLog, -⟩ | ⟨index, _, l, -, hListener, rfl⟩ |
    ⟨index, _, l, _, -, hListener, -, -, rfl⟩ | ⟨index, _, l, _, _, -, hListener, -, -, rfl⟩ |
    ⟨env, system, -, hTurn, rfl⟩ := step_cases hStep
  · exact h.trans (by rw [hLog])
  · exact (map_of_set _ (fun _ _ _ => rfl) hListener _ _).trans h
  · exact (map_of_set _ (fun _ _ _ => rfl) hListener _ _).trans h
  · exact (map_of_set _ (fun _ _ _ => rfl) hListener _ _).trans h
  · obtain ⟨msg, effects, action, rest, -, -, hLog, -⟩ := turn_cases hTurn
    have hSpawned : system.spawned.map (fun l => (l.gateway, l.udpRuntime)) =
        effects.spawned.map fun line => (line.1, line.2.1) := by
      simp [System.spawned, hLog]
    rw [List.map_append, h, hSpawned, hLog, startedBy, startedBy, List.flatMap_append,
      List.map_append, List.flatMap_singleton]

/-- There is a listener for every gateway that was connected. -/
theorem connected_of_run (run : Runs c u settings events s) :
    s.listeners.map Listener.gateway = s.system.log.filterMap fun turn => turn.msg.connecting := by
  refine run.invariant (fun s => s.listeners.map Listener.gateway =
    s.system.log.filterMap fun turn => turn.msg.connecting) rfl ?_
  intro s event t _ h hStep
  obtain ⟨_, system, -, rfl, -, -, hLog, -⟩ | ⟨index, _, l, -, hListener, rfl⟩ |
    ⟨index, _, l, _, -, hListener, -, -, rfl⟩ | ⟨index, _, l, _, _, -, hListener, -, -, rfl⟩ |
    ⟨env, system, -, hTurn, rfl⟩ := step_cases hStep
  · exact h.trans (by rw [hLog])
  · exact (map_of_set _ (fun _ _ _ => rfl) hListener _ _).trans h
  · exact (map_of_set _ (fun _ _ _ => rfl) hListener _ _).trans h
  · exact (map_of_set _ (fun _ _ _ => rfl) hListener _ _).trans h
  · obtain ⟨msg, effects, action, rest, -, -, hLog, -, hCases⟩ := turn_cases hTurn
    rw [List.map_append, h, hLog, List.filterMap_append]
    obtain ⟨gateway, runtime, rfl, hNew, -⟩ | ⟨_, _, _, rfl, -, hNew, -⟩ | ⟨hNone, -, hNew, -⟩ :=
      hCases
    · rw [hNew]
      rfl
    · rw [hNew]
      rfl
    · rw [hNew, List.filterMap_cons, hNone]
      rfl

/-- No two listeners belong to one channel. -/
theorem nodup_of_run (run : Runs c u settings events s) :
    (s.listeners.map fun l => l.gateway.tx).Nodup := by
  have hNodup := (ordered_of_run run).nodup_connected
  rwa [← connected_of_run run, List.map_map] at hNodup

/-- The requests that the runtimes report are handled in their order, and what
is sent to a channel is what they are converted to. -/
structure Delivering (u : UdpCrates) (events : List ListeningEvent) (s : ListeningSystem) :
    Prop where
  owned : ∀ tx, (∀ l ∈ s.listeners, l.gateway.tx ≠ tx) →
    s.system.handledFor tx = [] ∧ s.system.queuedFor tx = []
  early : ∀ index, s.listeners.length ≤ index → reportedTo index events = []
  reported : ∀ (index : Nat) (l : Listener), s.listeners[index]? = some l →
    reportedTo index events = (l.seen ++ l.inbox).filterMap Event.request
  fifo : ∀ (index : Nat) (l : Listener), s.listeners[index]? = some l →
    l.seen.filterMap Event.request =
      s.system.handledFor l.gateway.tx ++ s.system.queuedFor l.gateway.tx
  sends : ∀ tx, s.system.Sends u tx

theorem delivering_init (u : UdpCrates) (settings : GwmpSettings) :
    (init settings).Delivering u [] where
  owned _ _ := ⟨rfl, rfl⟩
  early _ _ := rfl
  reported := by
    intro index l hListener
    simp [init] at hListener
  fifo := by
    intro index l hListener
    simp [init] at hListener
  sends _ := ⟨[], .nil, List.nil_prefix, fun _ => rfl⟩

theorem reportedTo_of_silent (hSilent : ∀ index own, event ≠ .report index own) (index : Nat) :
    reportedTo index (events ++ [event]) = reportedTo index events := by
  rw [reportedTo, List.filterMap_append]
  cases event with
  | report index own => exact absurd rfl (hSilent index own)
  | stream | dropReceiver | listen | turn => exact List.append_nil _

theorem reportedTo_report (index own : Nat) (reported : Event) :
    reportedTo index (events ++ [.report own reported]) =
      reportedTo index events ++ if own = index then reported.request.toList else [] := by
  rw [reportedTo, List.filterMap_append]
  split_ifs with hOwn
  · cases hRequest : reported.request <;> simp [reportedTo, hOwn, hRequest]
  · simp [reportedTo, hOwn]

theorem sends_of_eq {system next : System} {tx : GatewayTx} (h : system.Sends u tx)
    (hHandled : next.handledFor tx = system.handledFor tx)
    (hEnqueued : next.enqueuedFor tx = system.enqueuedFor tx)
    (hClosed : tx ∈ system.closed → tx ∈ next.closed) : next.Sends u tx := by
  obtain ⟨converted, hConverted, hBegun, hOpen⟩ := h
  refine ⟨converted, by rwa [hHandled], by rwa [hEnqueued], fun hNot => ?_⟩
  rw [hEnqueued]
  exact hOpen fun hGone => hNot (hClosed hGone)

/-- Only the turn of a request sends something to its channel. -/
theorem sends_turn {system next : System} {env : Environment} {tx : GatewayTx}
    (h : system.Sends u tx) (hTurn : system.step c u (.turn env) = some next) :
    next.Sends u tx := by
  obtain ⟨msg, effects, action, rest, hQueue, hRest, hLog, hClosed, hCases⟩ := turn_cases hTurn
  obtain ⟨hHandled, -⟩ := requests_of_turn hQueue hRest hLog rfl tx
  have hEnqueued : next.enqueuedFor tx = system.enqueuedFor tx ++
      effects.enqueued.filterMap fun (own, down) => if own = tx then some down else none := by
    rw [System.enqueuedFor, hLog, List.flatMap_append, List.flatMap_singleton]
    rfl
  have hIdle (hRequest : msg.requestFor tx = none)
      (hNothing : ∀ line ∈ effects.enqueued, line.1 ≠ tx) : next.Sends u tx := by
    refine sends_of_eq h ?_ ?_ (by rw [hClosed]; exact id)
    · rw [hHandled, hRequest, Option.toList_none, List.append_nil]
    · rw [hEnqueued, List.filterMap_eq_nil_iff.mpr, List.append_nil]
      exact fun line hLine => if_neg (hNothing line hLine)
  obtain ⟨gateway, runtime, rfl, -, hNothing⟩ | ⟨gateway, request, down, rfl, hDown, -, hSent⟩ |
    ⟨-, hRequest, -, hNothing⟩ := hCases
  · exact hIdle rfl (by simp [hNothing])
  · by_cases hTx : gateway.tx = tx
    · subst hTx
      obtain ⟨converted, hConverted, hBegun, hOpen⟩ := h
      have hRequest : Msg.requestFor gateway.tx (.downlink gateway request) = some request :=
        if_pos rfl
      rw [hRequest, Option.toList_some] at hHandled
      rw [hSent, GatewayTx.sendDownlink] at hEnqueued
      refine ⟨converted ++ [down], ?_, ?_⟩
      · rw [hHandled]
        exact List.rel_append hConverted (.cons hDown .nil)
      · rw [hEnqueued, hClosed]
        by_cases hGone : gateway.tx ∈ system.closed
        · rw [if_pos (List.contains_iff_mem.mpr hGone), List.filterMap_nil, List.append_nil]
          exact ⟨hBegun.trans (List.prefix_append _ _), fun hNot => absurd hGone hNot⟩
        · rw [if_neg (by simpa using hGone), hOpen hGone]
          simp
    · refine hIdle (if_neg hTx) fun line hLine => ?_
      rw [hSent, GatewayTx.sendDownlink] at hLine
      split_ifs at hLine
      · cases hLine
      · rw [List.mem_singleton.mp hLine]
        exact hTx
  · exact hIdle (hRequest tx) (by simp [hNothing])

/-- Two places with one channel are the same place. -/
theorem index_of_channel (hNodup : (s.listeners.map fun l => l.gateway.tx).Nodup) {index other : Nat}
    {l l' : Listener} (hListener : s.listeners[index]? = some l)
    (hOther : s.listeners[other]? = some l') (hTx : l.gateway.tx = l'.gateway.tx) :
    index = other := by
  have hIndex : index < (s.listeners.map fun l => l.gateway.tx).length := by
    rw [List.length_map]
    exact (List.getElem?_eq_some_iff.mp hListener).1
  refine (List.getElem?_inj hIndex hNodup).mp ?_
  rw [List.getElem?_map, List.getElem?_map, hListener, hOther]
  exact congrArg some hTx

/-- What a listener has received does not change its channel. -/
theorem channels_of_set {index : Nat} {l : Listener} {seen inbox : List Event} {tx : GatewayTx}
    (hListener : s.listeners[index]? = some l)
    (hNone : ∀ l' ∈ s.listeners.set index { l with seen, inbox }, l'.gateway.tx ≠ tx) :
    ∀ l' ∈ s.listeners, l'.gateway.tx ≠ tx := by
  have hChannels := map_of_set (fun l => l.gateway.tx) (fun _ _ _ => rfl) hListener seen inbox
  intro l' hMem hTx
  have hKept := List.mem_map_of_mem (f := fun l => l.gateway.tx) hMem
  rw [← hChannels, List.mem_map] at hKept
  obtain ⟨other, hOther, hSame⟩ := hKept
  exact hNone other hOther (hSame.trans hTx)

theorem Delivering.quiet {system : System} (h : s.Delivering u events)
    (hSilent : ∀ index own, event ≠ .report index own) (hLog : system.log = s.system.log)
    (hQueued : ∀ tx, system.queuedFor tx = s.system.queuedFor tx)
    (hClosed : ∀ tx ∈ s.system.closed, tx ∈ system.closed) :
    Delivering u (events ++ [event]) { s with system } where
  owned tx hNone := by
    rw [System.handledFor, hLog, hQueued]
    exact h.owned tx hNone
  early index hIndex := (reportedTo_of_silent hSilent index).trans (h.early index hIndex)
  reported index l hListener :=
    (reportedTo_of_silent hSilent index).trans (h.reported index l hListener)
  fifo index l hListener := by
    rw [System.handledFor, hLog, hQueued]
    exact h.fifo index l hListener
  sends tx := by
    refine sends_of_eq (h.sends tx) ?_ ?_ (hClosed tx)
    · rw [System.handledFor, hLog]
      rfl
    · rw [System.enqueuedFor, hLog]
      rfl

/-- An event that a runtime reports waits behind the others. -/
theorem Delivering.report {index : Nat} {own : Event} {l : Listener} (h : s.Delivering u events)
    (hListener : s.listeners[index]? = some l) :
    Delivering u (events ++ [.report index own])
      { s with listeners := s.listeners.set index { l with inbox := l.inbox ++ [own] } } where
  owned tx hNone := h.owned tx (channels_of_set hListener hNone)
  early other hOther := by
    rw [List.length_set] at hOther
    have hIndex : index < s.listeners.length := (List.getElem?_eq_some_iff.mp hListener).1
    rw [reportedTo_report, h.early other hOther, if_neg (by omega)]
    rfl
  reported other l' hOther := by
    rw [reportedTo_report]
    by_cases hIndex : index = other
    · subst hIndex
      rw [List.getElem?_set_self (List.getElem?_eq_some_iff.mp hListener).1] at hOther
      cases hOther
      have hOwn : [own].filterMap Event.request = own.request.toList := by
        rw [List.filterMap_cons]
        cases own.request <;> rfl
      rw [if_pos rfl, h.reported index l hListener, ← List.append_assoc, ← hOwn,
        ← List.filterMap_append]
    · rw [List.getElem?_set_ne hIndex] at hOther
      rw [if_neg hIndex, List.append_nil]
      exact h.reported other l' hOther
  fifo other l' hOther := by
    by_cases hIndex : index = other
    · subst hIndex
      rw [List.getElem?_set_self (List.getElem?_eq_some_iff.mp hListener).1] at hOther
      cases hOther
      exact h.fifo index l hListener
    · rw [List.getElem?_set_ne hIndex] at hOther
      exact h.fifo other l' hOther
  sends := h.sends

/-- A listener passes on what its runtime was asked for, and nothing else. -/
theorem Delivering.listen {index : Nat} {own : Event} {l : Listener} {inbox : List Event}
    {system : System} (h : s.Delivering u events)
    (hNodup : (s.listeners.map fun l => l.gateway.tx).Nodup)
    (hListener : s.listeners[index]? = some l) (hInbox : l.inbox = own :: inbox)
    (hSilent : ∀ place other, event ≠ .report place other) (hLog : system.log = s.system.log) (hClosed : system.closed = s.system.closed)
    (hQueued : ∀ tx, system.queuedFor tx = s.system.queuedFor tx ++
      if l.gateway.tx = tx then own.request.toList else []) :
    Delivering u (events ++ [event])
      ⟨system, s.listeners.set index { l with seen := l.seen ++ [own], inbox }⟩ where
  owned tx hNone := by
    have hAll := channels_of_set hListener hNone
    rw [System.handledFor, hLog, hQueued, if_neg (hAll l (List.mem_of_getElem? hListener)),
      List.append_nil]
    exact h.owned tx hAll
  early other hOther := by
    rw [List.length_set] at hOther
    rw [reportedTo_of_silent hSilent]
    exact h.early other hOther
  reported other l' hOther := by
    rw [reportedTo_of_silent hSilent]
    by_cases hIndex : index = other
    · subst hIndex
      rw [List.getElem?_set_self (List.getElem?_eq_some_iff.mp hListener).1] at hOther
      cases hOther
      rw [h.reported index l hListener, hInbox]
      simp
    · rw [List.getElem?_set_ne hIndex] at hOther
      exact h.reported other l' hOther
  fifo other l' hOther := by
    rw [System.handledFor, hLog, hQueued]
    by_cases hIndex : index = other
    · subst hIndex
      rw [List.getElem?_set_self (List.getElem?_eq_some_iff.mp hListener).1] at hOther
      cases hOther
      rw [if_pos rfl, List.filterMap_append, h.fifo index l hListener, List.filterMap_cons]
      cases own.request <;> simp [System.handledFor]
    · rw [List.getElem?_set_ne hIndex] at hOther
      rw [h.fifo other l' hOther, if_neg, List.append_nil]
      · rfl
      · exact fun hTx => hIndex (index_of_channel hNodup hListener hOther hTx)
  sends tx := by
    refine sends_of_eq (h.sends tx) ?_ ?_ (by rw [hClosed]; exact id)
    · rw [System.handledFor, hLog]
      rfl
    · rw [System.enqueuedFor, hLog]
      rfl

/-- A turn moves a request from the queue to what was handled; a listener that
it spawns has a channel for which nothing was asked before. -/
theorem Delivering.turn {env : Environment} {system : System} (h : s.Delivering u events)
    (hTurn : s.system.step c u (.turn env) = some system)
    (hNodup : ((s.listeners ++ system.spawned).map fun l => l.gateway.tx).Nodup) :
    Delivering u (events ++ [.turn env]) ⟨system, s.listeners ++ system.spawned⟩ := by
  obtain ⟨msg, effects, action, rest, hQueue, hRest, hLog, -, hCases⟩ := turn_cases hTurn
  have hKeeps (tx : GatewayTx) : system.handledFor tx ++ system.queuedFor tx =
      s.system.handledFor tx ++ s.system.queuedFor tx := by
    obtain ⟨hHandled, hQueued⟩ := requests_of_turn hQueue hRest hLog rfl tx
    rw [hHandled, hQueued, List.append_assoc]
  have hOwned (tx : GatewayTx) (hNone : ∀ l ∈ s.listeners, l.gateway.tx ≠ tx) :
      system.handledFor tx ++ system.queuedFor tx = [] := by
    obtain ⟨hHandled, hQueued⟩ := h.owned tx hNone
    rw [hKeeps, hHandled, hQueued]
    rfl
  have hFresh : ∀ l ∈ system.spawned, l.seen = [] ∧ l.inbox = [] := by
    intro l hMem
    obtain ⟨_, _, -, hNew, -⟩ | ⟨_, _, _, -, -, hNew, -⟩ | ⟨-, -, hNew, -⟩ := hCases
    · rw [hNew, List.mem_singleton] at hMem
      rw [hMem]
      exact ⟨rfl, rfl⟩
    · rw [hNew] at hMem
      cases hMem
    · rw [hNew] at hMem
      cases hMem
  have hSilent (index : Nat) (own : Event) : ListeningEvent.turn env ≠ .report index own := nofun
  rw [List.map_append, List.nodup_append] at hNodup
  refine ⟨fun tx hNone => ?_, fun index hIndex => ?_, fun index l hListener => ?_,
    fun index l hListener => ?_, fun tx => sends_turn (h.sends tx) hTurn⟩
  · exact List.append_eq_nil_iff.mp
      (hOwned tx fun l hMem => hNone l (List.mem_append_left _ hMem))
  · rw [List.length_append] at hIndex
    rw [reportedTo_of_silent hSilent]
    exact h.early index (by omega)
  · rw [reportedTo_of_silent hSilent]
    rw [List.getElem?_append] at hListener
    split_ifs at hListener with hOld
    · exact h.reported index l hListener
    · obtain ⟨hSeen, hInbox⟩ := hFresh l (List.mem_of_getElem? hListener)
      rw [hSeen, hInbox]
      exact h.early index (by omega)
  · rw [hKeeps]
    rw [List.getElem?_append] at hListener
    split_ifs at hListener with hOld
    · exact h.fifo index l hListener
    · have hMem := List.mem_of_getElem? hListener
      have hNone : ∀ l' ∈ s.listeners, l'.gateway.tx ≠ l.gateway.tx := fun l' hMem' =>
        hNodup.2.2 _ (List.mem_map_of_mem hMem') _ (List.mem_map_of_mem hMem)
      rw [← hKeeps, hOwned _ hNone, (hFresh l hMem).1]
      rfl

theorem delivering_of_run (run : Runs c u settings events s) : s.Delivering u events := by
  induction run with
  | nil => exact delivering_init u settings
  | @snoc events middle finish event prior last ih =>
      have hNodup := nodup_of_run (prior.snoc last)
      obtain ⟨_, system, -, rfl, hSilent, -, hLog, hQueued, hClosed⟩ |
        ⟨index, own, l, rfl, hListener, rfl⟩ |
        ⟨index, own, l, inbox, rfl, hListener, hInbox, hRequest, rfl⟩ |
        ⟨index, own, l, inbox, downlink, rfl, hListener, hInbox, hRequest, rfl⟩ |
        ⟨env, system, rfl, hTurn, rfl⟩ := step_cases last
      · exact ih.quiet hSilent hLog hQueued hClosed
      · exact ih.report hListener
      · refine ih.listen (nodup_of_run prior) hListener hInbox nofun rfl rfl fun tx => ?_
        rw [hRequest, Option.toList_none, ite_self, List.append_nil]
      · refine ih.listen (nodup_of_run prior) hListener hInbox nofun rfl rfl fun tx => ?_
        rw [hRequest, System.queuedFor, System.queuedFor, List.filterMap_append]
        by_cases hTx : l.gateway.tx = tx <;> simp [Msg.requestFor, hTx]
      · exact ih.turn hTurn hNodup

/-- **The way of a downlink.** Every listener belongs to one stream, and no
stream to two. What the network server asks the runtime of a listener for
reaches the channel of that stream: the requests are handled, queued and
unheard in the order in which they were reported, none lost and none twice, and
what is put into the channel is what the handled ones are converted to, in
their order, up to the point where the stream dropped its receiver. No other
channel gets anything. -/
theorem downlinks_reach_stream (run : Runs c u settings events s) :
    (s.listeners.map fun l => l.gateway.tx).Nodup ∧
    (∀ (index : Nat) (l : Listener), s.listeners[index]? = some l →
      (∃ stream, s.system.gateways.streams[l.gateway.tx.channel]? = some stream ∧
        stream.gw = some l.gateway ∧ stream.tx = l.gateway.tx) ∧
      reportedTo index events = s.system.handledFor l.gateway.tx ++
        s.system.queuedFor l.gateway.tx ++ l.inbox.filterMap Event.request ∧
      s.system.Sends u l.gateway.tx) ∧
    ∀ tx, (∀ l ∈ s.listeners, l.gateway.tx ≠ tx) → s.system.enqueuedFor tx = [] := by
  have h := delivering_of_run run
  refine ⟨nodup_of_run run, fun index l hListener => ⟨?_, ?_, h.sends _⟩, fun tx hNone => ?_⟩
  · refine (ordered_of_run run).stream_of_connected ?_
    rw [← connected_of_run run]
    exact List.mem_map_of_mem (List.mem_of_getElem? hListener)
  · rw [h.reported index l hListener, List.filterMap_append, h.fifo index l hListener]
  · obtain ⟨converted, hConverted, hBegun, -⟩ := h.sends tx
    rw [(h.owned tx hNone).1, List.forall₂_nil_left_iff] at hConverted
    rw [hConverted] at hBegun
    exact List.prefix_nil.mp hBegun

/-- A request for the only stream goes through its listener, behind a lost
connection, and into the channel of the stream. -/
theorem sample_reaches :
    ∃ s, Runs Crates.sample .sample .sample
        [.stream .opens, .stream (.read 0 (.packet (.sample joinFrame [0]))), .stream (.send 0),
          .turn .sample, .report 0 .lostConnection, .report 0 (.downlinkRequest .sample),
          .listen 0, .listen 0, .turn .sample] s ∧
      (∃ down, toPacketDown .sample DownlinkRequest.sample.txpk = .ok down ∧
        s.system.enqueuedFor ⟨0⟩ = [down]) ∧ s.system.enqueuedFor ⟨1⟩ = [] := by
  obtain ⟨s, run, ⟨runtime, seen, hListeners⟩, hHandled, hClosed⟩ :
      ∃ s, Runs Crates.sample .sample .sample
        [.stream .opens, .stream (.read 0 (.packet (.sample joinFrame [0]))), .stream (.send 0),
          .turn .sample, .report 0 .lostConnection, .report 0 (.downlinkRequest .sample),
          .listen 0, .listen 0, .turn .sample] s ∧
        (∃ runtime seen, s.listeners = [⟨.sample ⟨0⟩, runtime, seen, []⟩]) ∧
        s.system.handledFor ⟨0⟩ = [.sample] ∧ s.system.closed = [] :=
    ⟨_, run_of_exec rfl, ⟨_, _, rfl⟩, rfl, rfl⟩
  obtain ⟨-, hReaches, hNone⟩ := downlinks_reach_stream run
  obtain ⟨-, -, converted, hConverted, -, hOpen⟩ := hReaches 0 _ (by rw [hListeners]; rfl)
  refine ⟨s, run, ?_, hNone ⟨1⟩ (by simp [hListeners, Gateway.sample])⟩
  have hSent : s.system.enqueuedFor ⟨0⟩ = converted := hOpen (by simp [hClosed])
  have hOne : List.Forall₂ (fun (request : DownlinkRequest) down =>
      toPacketDown .sample request.txpk = .ok down) [.sample] converted := hHandled ▸ hConverted
  obtain ⟨down, rest, hDown, hRest, rfl⟩ := List.forall₂_cons_left_iff.mp hOne
  rw [List.forall₂_nil_left_iff.mp hRest] at hSent
  exact ⟨down, hDown, hSent⟩

end ListeningSystem

end PacketRouter.Gwmp
