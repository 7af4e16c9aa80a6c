import PacketRouterIngest.HttpRoaming.Registration
import PacketRouterIngest.HttpRoaming.Responses
import PacketRouterIngest.HttpRoaming.Dispatch

/-! Downlinks from the HTTP handler to the gateways and back to the network
server. For them the service is a table of gateways that is consulted for one
downlink after the other; uplinks, timers and buckets play no part. -/
namespace PacketRouter.HttpRoaming

open Rust Semantics Serde

def Msg.packetDown : Msg → Option PacketDown
  | .downlink packet => some packet
  | _ => none

def Body.response : Body → Option HttpResponse
  | .httpResponse response => some response
  | .prStartReq _ => none

/-- The responses that a turn posts. -/
def Turn.responses (turn : Turn) : List HttpResponse := turn.effects.posted.filterMap Body.response

/-- A table of gateways, what was sent to their channels, and what the network
server was told of it. -/
structure Router where
  table : GatewayB58 → Option GatewayTx
  sent : List (GatewayTx × PacketRouterPacketDownV1)
  answers : List HttpResponse

namespace Router

variable (version : ProtocolVersion)

def empty : Router := ⟨fun _ => none, [], []⟩

def handle (r : Router) (msg : Msg) : Router :=
  match msg with
  | .gatewayConnect gw tx => { r with table := Function.update r.table gw (some tx) }
  | .gatewayDisconnect gw => { r with table := Function.update r.table gw none }
  | .downlink packet =>
      match r.table packet.gatewayB58 with
      | none => { r with answers := r.answers ++ [packet.httpResponse.xmitFailed] }
      | some tx => { r with
          sent := r.sent ++ [(tx, packet.downlink)]
          answers := r.answers ++
            if packet.httpResponse.shouldSendForProtocol version then
              [packet.httpResponse.success] else [] }
  | .uplinkReceive _ | .uplinkSend _ | .uplinkCleanup _ => r

def after (msgs : List Msg) : Router := msgs.foldl (handle version) empty

variable {version}

theorem after_snoc (msgs : List Msg) (msg : Msg) :
    after version (msgs ++ [msg]) = (after version msgs).handle version msg := by
  rw [after, List.foldl_append]
  rfl

/-- The table is moved by registrations only, as the entries of the app are. -/
theorem table_handle (r : Router) (msg : Msg) (gw : GatewayB58) :
    (r.handle version msg).table gw = msg.gatewayAfter gw (r.table gw) := by
  cases msg with
  | gatewayConnect own tx => exact Function.update_apply r.table own (some tx) gw
  | gatewayDisconnect own => exact Function.update_apply r.table own none gw
  | downlink packet =>
      simp only [handle]
      split <;> rfl
  | uplinkReceive | uplinkSend | uplinkCleanup => rfl

end Router

namespace Service

variable {c : Crates} {s t : Service}

/-- All that was put on channels of gateways. -/
def delivered (s : Service) : List (GatewayTx × PacketRouterPacketDownV1) :=
  s.log.flatMap (fun turn => turn.effects.enqueued)

def responses (s : Service) : List HttpResponse := s.log.flatMap Turn.responses

/-- The router after the messages of these turns. -/
def routerAfter (s : Service) (turns : List Turn) : Router :=
  .after s.app.settings.roaming.protocolVersion (turns.map Turn.msg)

/-- The router after all messages that the loop has handled. -/
def router (s : Service) : Router := s.routerAfter s.log

/-- The service does what the router does, but for downlinks to channels whose
receiver is gone. -/
structure Routes (s : Service) : Prop where
  table : ∀ gw, s.app.gatewayMap.lookup gw = s.router.table gw
  turns : ∀ before turn after, s.log = before ++ turn :: after →
    ((s.routerAfter before).handle s.app.settings.roaming.protocolVersion turn.msg).answers =
      (s.routerAfter before).answers ++ turn.responses
  answers : s.responses = s.router.answers
  delivered : s.delivered.Sublist s.router.sent
  complete : s.closed = [] → s.delivered = s.router.sent

theorem routes_init (settings : HttpSettings) : (init settings).Routes where
  table _ := rfl
  turns := by
    intro before turn after hSplit
    simp [init] at hSplit
  answers := rfl
  delivered := List.Sublist.slnil
  complete _ := rfl

/-- What one message does outside the app is what the router does with it,
where the channel is still open. -/
theorem effects_of_handle (settings : HttpSettings) (closed : GatewayTx → Bool) {app app' : App}
    {r : Router} {msg : Msg} {action : UpdateAction}
    (hTable : ∀ gw, app.gatewayMap.lookup gw = r.table gw)
    (hMsg : handleMessage c app msg = .ok (app', action)) :
    (r.handle settings.roaming.protocolVersion msg).answers =
        r.answers ++ (handleUpdateAction settings closed action).posted.filterMap Body.response ∧
      ∃ sent, (r.handle settings.roaming.protocolVersion msg).sent = r.sent ++ sent ∧
        (handleUpdateAction settings closed action).enqueued =
          sent.filter (fun line => !closed line.1) := by
  cases msg with
  | downlink packet =>
      rw [handleMessage_downlink] at hMsg
      have hEntry := hTable packet.gatewayB58
      cases hKnown : r.table packet.gatewayB58 with
      | none =>
          rw [hKnown] at hEntry
          rw [hEntry] at hMsg
          cases hMsg
          simp only [Router.handle, hKnown]
          exact ⟨rfl, [], (List.append_nil _).symm, rfl⟩
      | some tx =>
          rw [hKnown] at hEntry
          rw [hEntry] at hMsg
          cases hMsg
          simp only [Router.handle, hKnown, Option.elim_some]
          refine ⟨congrArg _ ?_, [(tx, packet.downlink)], rfl, ?_⟩
          · cases hSend : packet.httpResponse.shouldSendForProtocol
                settings.roaming.protocolVersion <;>
              simp [handleUpdateAction, hSend, Body.response]
          · cases hClosed : closed tx <;>
              simp [handleUpdateAction, GatewayTx.sendDownlink, hClosed]
  | gatewayConnect | gatewayDisconnect | uplinkCleanup =>
      cases hMsg
      exact ⟨(List.append_nil _).symm, [], (List.append_nil _).symm, rfl⟩
  | uplinkReceive packet =>
      rw [handleMessage_uplinkReceive] at hMsg
      split_ifs at hMsg <;>
        · cases hMsg
          exact ⟨(List.append_nil _).symm, [], (List.append_nil _).symm, rfl⟩
  | uplinkSend hash =>
      obtain ⟨-, ⟨-, rfl⟩ | ⟨packets, -, hGroup⟩⟩ := handleMessage_uplinkSend.mp hMsg
      · exact ⟨(List.append_nil _).symm, [], (List.append_nil _).symm, rfl⟩
      · obtain ⟨body, -, rfl⟩ | ⟨-, rfl⟩ := sendGroup_eq_ok.mp hGroup <;>
          exact ⟨(List.append_nil _).symm, [], (List.append_nil _).symm, rfl⟩

theorem Routes.turn {msg : Msg} {rest : List Msg} {app : App} {action : UpdateAction}
    (h : s.Routes) (hMsg : handleMessage c s.app msg = .ok (app, action)) :
    (s.afterTurn msg rest app action).Routes := by
  have hRouter : (s.afterTurn msg rest app action).router =
      s.router.handle s.app.settings.roaming.protocolVersion msg := by
    rw [router, routerAfter]
    change Router.after app.settings.roaming.protocolVersion _ = _
    rw [settings_handleMessage hMsg, afterTurn, List.map_append, List.map_singleton,
      Router.after_snoc]
    rfl
  have hDelivered : (s.afterTurn msg rest app action).delivered =
      s.delivered ++ (s.effects action).enqueued := by
    simp [Service.delivered, afterTurn]
  have hResponses : (s.afterTurn msg rest app action).responses =
      s.responses ++ (s.effects action).posted.filterMap Body.response := by
    simp [responses, Turn.responses, afterTurn]
  obtain ⟨hAnswers, sent, hSent, hEnqueued⟩ := effects_of_handle s.app.settings
    (fun tx => s.closed.contains tx) h.table hMsg
  refine ⟨fun gw => ?_, fun before turn after hSplit => ?_, ?_, ?_, fun hOpen => ?_⟩
  · rw [hRouter, Router.table_handle, ← h.table]
    exact gatewayMap_handleMessage gw hMsg
  · have hSettings : (s.afterTurn msg rest app action).app.settings = s.app.settings :=
      settings_handleMessage hMsg
    rw [routerAfter, hSettings]
    obtain ⟨-, rfl, rfl⟩ | ⟨final, -, hLog⟩ := snoc_eq_append_cons.mp hSplit
    · exact hAnswers
    · exact h.turns before turn final hLog
  · rw [hResponses, hRouter, hAnswers, h.answers]
    rfl
  · rw [hDelivered, hRouter, hSent, effects, hEnqueued]
    exact h.delivered.append List.filter_sublist
  · have hOpen : s.closed = [] := hOpen
    rw [hDelivered, hRouter, hSent, effects, hEnqueued, h.complete hOpen, hOpen]
    simp

theorem Routes.step {event : Event} (h : s.Routes) (hStep : step c s event = some t) :
    t.Routes := by
  obtain ⟨input, -, rfl⟩ | ⟨before, timer, after, -, -, rfl⟩ | ⟨tx, -, rfl⟩ |
    ⟨msg, rest, app, action, -, -, hMsg, rfl⟩ := step_cases hStep
  · exact ⟨h.table, h.turns, h.answers, h.delivered, h.complete⟩
  · exact ⟨h.table, h.turns, h.answers, h.delivered, h.complete⟩
  · exact ⟨h.table, h.turns, h.answers, h.delivered, nofun⟩
  · exact h.turn hMsg

end Service

/-- A value that was posted to the handler, and the downlink that it put into
the queue for it. -/
structure Post where
  value : Value
  packet : PacketDown

structure Exchange where
  system : System
  posts : List Post

inductive ExchangeEvent where
  | stream (event : StreamEvent)
  /-- The network server posts a value. -/
  | post (value : Value)
  | timer (index : Nat)
  | dropReceiver (tx : GatewayTx)
  | turn

/-- The events in which the handler has no part. -/
def ExchangeEvent.aside : ExchangeEvent → Option SystemEvent
  | .stream event => some (.stream event)
  | .post _ => none
  | .timer index => some (.timer index)
  | .dropReceiver tx => some (.dropReceiver tx)
  | .turn => some .turn

namespace Exchange

def init (settings : HttpSettings) : Exchange := ⟨.init settings, []⟩

variable (c : Crates)

def move (s : Exchange) (event : SystemEvent) : Option Exchange :=
  (s.system.step c event).map (fun system => { s with system })

/-- The handler has the settings of the app. A value that is no downlink, and
one on which its task panics, leave the service alone. -/
def step (s : Exchange) : ExchangeEvent → Option Exchange
  | .stream event => s.move c (.stream event)
  | .post value =>
      match downlinkPost s.system.service.app.settings.roaming value with
      | .ok (_, _, some (.downlink packet)) =>
          (s.system.step c (.downlink packet)).map
            (fun system => ⟨system, s.posts ++ [⟨value, packet⟩]⟩)
      | _ => some s
  | .timer index => s.move c (.timer index)
  | .dropReceiver tx => s.move c (.dropReceiver tx)
  | .turn => s.move c .turn

abbrev Runs (settings : HttpSettings) (events : List ExchangeEvent) (s : Exchange) : Prop :=
  Run (step c) (init settings) events s

end Exchange

/-- The handler enqueues exactly the downlinks that it reads. -/
theorem downlinkPost_eq_downlink {settings : RoamingSettings} {value : Value} {status : StatusCode}
    {text : String} {packet : PacketDown} :
    downlinkPost settings value = .ok (status, text, some (.downlink packet)) ↔
      parseHttpPayload value settings = .ok (some packet) ∧ status = .accepted ∧
        text = "Downlink Accepted" := by
  rw [downlinkPost]
  cases parseHttpPayload value settings with
  | ok result => cases result <;> simp; grind
  | err | panic => simp

namespace System

variable {c : Crates} {s t : System}

/-- The downlink that an event puts into the queue. -/
def downlinkOf : SystemEvent → Option PacketDown
  | .downlink packet => some packet
  | .stream _ | .timer _ | .dropReceiver _ | .turn => none

/-- Downlinks enter the history only from the handler. -/
theorem downlinks_step {event : SystemEvent} (h : System.step c s event = some t) :
    t.service.history.filterMap Msg.packetDown =
      s.service.history.filterMap Msg.packetDown ++ (downlinkOf event).toList := by
  have hOwn (inner : Event) (hInner : s.stepService c inner = some t) :
      t.service.history.filterMap Msg.packetDown = s.service.history.filterMap Msg.packetDown ++
        (s.service.puts inner).filterMap Msg.packetDown := by
    rw [Service.history_step (stepService_eq_some hInner), List.filterMap_append]
  cases event with
  | stream inner =>
      obtain ⟨_, _, -, -, rfl⟩ | ⟨_, _, msg, -, -, rfl⟩ | ⟨_, _, hOther, -⟩ := step_cases h
      · exact (List.append_nil _).symm
      · have hNone : (ingest msg).toMsg.packetDown = none := by cases msg <;> rfl
        simp [Service.history, downlinkOf, hNone]
      · exact absurd rfl (hOther inner)
  | downlink packet => exact hOwn _ h
  | timer index =>
      refine (hOwn _ h).trans (congrArg _ ?_)
      cases hTimer : s.service.timers[index]? with
      | none => simp [Service.puts, hTimer, downlinkOf]
      | some timer =>
          obtain ⟨hash, phase⟩ := timer
          cases phase <;> simp [Service.puts, hTimer, Timer.advance, Msg.packetDown, downlinkOf]
  | dropReceiver tx => exact hOwn _ h
  | turn => exact hOwn _ h

theorem routes_step {event : SystemEvent} (h : s.service.Routes)
    (hStep : System.step c s event = some t) : t.service.Routes := by
  obtain hSame | ⟨inner, hInner⟩ := service_step hStep
  · rwa [hSame]
  · exact h.step hInner

theorem settings_step {event : SystemEvent} (h : System.step c s event = some t) :
    t.service.app.settings = s.service.app.settings := by
  obtain hSame | ⟨inner, hInner⟩ := service_step h
  · rw [hSame]
  · exact Service.settings_step hInner

end System

namespace Exchange

variable {c : Crates} {s t : Exchange}

theorem move_eq_some {inner : SystemEvent} :
    s.move c inner = some t ↔
      ∃ system, System.step c s.system inner = some system ∧ t = { s with system } := by
  simp [move, eq_comm]

/-- Everything one event can do: the system moves without a new downlink, the
handler puts a downlink into the queue, or it does not. -/
theorem step_cases {event : ExchangeEvent} (h : step c s event = some t) :
    (∃ inner system, event.aside = some inner ∧ System.step c s.system inner = some system ∧
      t = { s with system }) ∨
    (∃ value packet system, event = .post value ∧
      parseHttpPayload value s.system.service.app.settings.roaming = .ok (some packet) ∧
      System.step c s.system (.downlink packet) = some system ∧
      t = ⟨system, s.posts ++ [⟨value, packet⟩]⟩) ∨
    (∃ value, event = .post value ∧ t = s) := by
  cases event with
  | post value =>
      simp only [step] at h
      split at h
      · next status text packet hPost =>
          obtain ⟨system, hNext, rfl⟩ := Option.map_eq_some_iff.mp h
          exact .inr (.inl ⟨value, packet, system, rfl, (downlinkPost_eq_downlink.mp hPost).1, hNext,
            rfl⟩)
      · exact .inr (.inr ⟨value, rfl, (Option.some.inj h).symm⟩)
  | stream inner =>
      obtain ⟨system, hNext, rfl⟩ := move_eq_some.mp h
      exact .inl ⟨_, system, rfl, hNext, rfl⟩
  | timer index =>
      obtain ⟨system, hNext, rfl⟩ := move_eq_some.mp h
      exact .inl ⟨_, system, rfl, hNext, rfl⟩
  | dropReceiver tx =>
      obtain ⟨system, hNext, rfl⟩ := move_eq_some.mp h
      exact .inl ⟨_, system, rfl, hNext, rfl⟩
  | turn =>
      obtain ⟨system, hNext, rfl⟩ := move_eq_some.mp h
      exact .inl ⟨_, system, rfl, hNext, rfl⟩

theorem downlinkOf_aside {event : ExchangeEvent} {inner : SystemEvent}
    (h : event.aside = some inner) : System.downlinkOf inner = none := by
  cases event with
  | post value => cases h
  | stream | timer | dropReceiver | turn =>
      cases h
      rfl

/-- The downlinks of the history are those that were accepted, in their order. -/
structure Ledger (settings : HttpSettings) (s : Exchange) : Prop where
  configured : s.system.service.app.settings = settings
  routes : s.system.service.Routes
  posts : s.posts.map Post.packet = s.system.service.history.filterMap Msg.packetDown
  read : ∀ post ∈ s.posts, parseHttpPayload post.value settings.roaming = .ok (some post.packet)

theorem Ledger.step {settings : HttpSettings} {event : ExchangeEvent} (h : s.Ledger settings)
    (hStep : step c s event = some t) : t.Ledger settings := by
  obtain ⟨inner, system, hAside, hNext, rfl⟩ | ⟨value, packet, system, -, hParse, hNext, rfl⟩ |
    ⟨value, -, rfl⟩ := step_cases hStep
  · have hNone := downlinkOf_aside hAside
    refine ⟨(System.settings_step hNext).trans h.configured, System.routes_step h.routes hNext, ?_,
      h.read⟩
    rw [System.downlinks_step hNext, hNone, Option.toList_none, List.append_nil]
    exact h.posts
  · refine ⟨(System.settings_step hNext).trans h.configured, System.routes_step h.routes hNext, ?_, ?_⟩
    · rw [System.downlinks_step hNext, List.map_append, h.posts]
      rfl
    · intro post hPost
      rcases List.mem_append.mp hPost with hOld | hNew
      · exact h.read post hOld
      · obtain rfl := List.mem_singleton.mp hNew
        rw [h.configured] at hParse
        exact hParse
  · exact h

theorem ledger_of_run {settings : HttpSettings} {events : List ExchangeEvent}
    (run : Runs c settings events s) : s.Ledger settings :=
  run.invariant (Ledger settings)
    ⟨rfl, Service.routes_init settings, rfl, fun _ h => absurd h (List.not_mem_nil)⟩
    (fun _ _ _ _ h hStep => h.step hStep)

/-- A value that is a downlink is a post. -/
theorem step_post {value : Value} {packet : PacketDown}
    (hParse : parseHttpPayload value s.system.service.app.settings.roaming = .ok (some packet)) :
    step c s (.post value) = some ⟨{ s.system with
      service := { s.system.service with
        queue := s.system.service.queue ++ [.downlink packet] } }, s.posts ++ [⟨value, packet⟩]⟩ := by
  simp only [step, downlinkPost_eq_downlink.mpr ⟨hParse, rfl, rfl⟩]
  rfl

end Exchange

end PacketRouter.HttpRoaming
