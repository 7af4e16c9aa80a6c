import PacketRouterIngest.HttpRoaming.App
import PacketRouterIngest.Semantics.Runs

/-! The running service: the app, its message queue, the timers it has spawned
and the gateway channels whose receiver is gone. Other tasks put messages into
the queue and timers advance at any moment; no time is modelled. A turn whose
message makes the app panic has no successor, since the process ends there. -/
namespace PacketRouter.HttpRoaming

open Rust Semantics

/-- A message from another task: the gRPC streams and the HTTP handler. -/
inductive Input where
  | uplink (packet : PacketUp)
  | downlink (packet : PacketDown)
  | gatewayConnect (gw : GatewayB58) (tx : GatewayTx)
  | gatewayDisconnect (gw : GatewayB58)

def Input.toMsg : Input → Msg
  | .uplink packet => .uplinkReceive packet
  | .downlink packet => .downlink packet
  | .gatewayConnect gw tx => .gatewayConnect gw tx
  | .gatewayDisconnect gw => .gatewayDisconnect gw

/-- One iteration of the loop of `start`, as it is remembered. -/
structure Turn where
  msg : Msg
  action : UpdateAction
  effects : Effects

structure Service where
  app : App
  queue : List Msg
  timers : List Timer
  closed : List GatewayTx
  log : List Turn

inductive Event where
  | arrive (input : Input)
  | timer (index : Nat)
  | dropReceiver (tx : GatewayTx)
  | turn

/-- What is left of a timer after its next step, and what that step enqueues. -/
def Timer.advance (t : Timer) : Option Timer × List Msg :=
  match t.phase with
  | .sleepDedup => (some ⟨t.hash, .enqueueSend⟩, [])
  | .enqueueSend => (some ⟨t.hash, .sleepCleanup⟩, [.uplinkSend t.hash])
  | .sleepCleanup => (some ⟨t.hash, .enqueueCleanup⟩, [])
  | .enqueueCleanup => (none, [.uplinkCleanup t.hash])

namespace Service

def init (settings : HttpSettings) : Service := ⟨.new settings, [], [], [], []⟩

variable (c : Crates)

/-- What the side effect of an action does in the service as it stands. -/
def effects (s : Service) (action : UpdateAction) : Effects :=
  handleUpdateAction s.app.settings (fun tx => s.closed.contains tx) action

/-- The service after a turn that took `msg` from the queue. -/
def afterTurn (s : Service) (msg : Msg) (rest : List Msg) (app : App) (action : UpdateAction) :
    Service :=
  { s with
    app
    queue := rest
    timers := s.timers ++ (s.effects action).spawned
    log := s.log ++ [⟨msg, action, s.effects action⟩] }

/-- Handle one message and carry out the side effect it asks for. -/
def handle (s : Service) (msg : Msg) (rest : List Msg) : Panics Service := do
  let (app, action) ← handleMessage c s.app msg
  return s.afterTurn msg rest app action

def step (s : Service) : Event → Option Service
  | .arrive input => some { s with queue := s.queue ++ [input.toMsg] }
  | .timer index =>
      match s.timers[index]? with
      | none => none
      | some t =>
          some { s with
            queue := s.queue ++ t.advance.2
            timers := s.timers.take index ++ t.advance.1.toList ++ s.timers.drop (index + 1) }
  | .dropReceiver tx => some { s with closed := tx :: s.closed }
  | .turn =>
      match s.queue with
      | [] => none
      | msg :: rest =>
          match s.handle c msg rest with
          | .ok next => some next
          | .error _ => none

/-- Everything that has entered the queue, in the order in which it is handled. -/
def history (s : Service) : List Msg := s.log.map Turn.msg ++ s.queue

/-- The next message makes the app panic. -/
def Panicking (s : Service) : Prop :=
  ∃ msg rest reason, s.queue = msg :: rest ∧ handleMessage c s.app msg = .error reason

/-- A run of the service from its start. -/
abbrev Runs (settings : HttpSettings) (events : List Event) (s : Service) : Prop :=
  Run (step c) (init settings) events s

variable {c} {s t : Service}

theorem handle_eq_ok {msg : Msg} {rest : List Msg} :
    s.handle c msg rest = .ok t ↔
      ∃ app action, handleMessage c s.app msg = .ok (app, action) ∧
        t = s.afterTurn msg rest app action := by
  cases h : handleMessage c s.app msg with
  | error reason => simp [handle, h, bind, Except.bind]
  | ok result =>
      obtain ⟨app, action⟩ := result
      simp [handle, h, bind, Except.bind, pure, Except.pure, eq_comm]

/-- Everything one event can do. -/
theorem step_cases {event : Event} (h : step c s event = some t) :
    (∃ input, event = .arrive input ∧ t = { s with queue := s.queue ++ [input.toMsg] }) ∨
    (∃ before timer after, event = .timer before.length ∧ s.timers = before ++ timer :: after ∧
      t = { s with
        queue := s.queue ++ timer.advance.2
        timers := before ++ timer.advance.1.toList ++ after }) ∨
    (∃ tx, event = .dropReceiver tx ∧ t = { s with closed := tx :: s.closed }) ∨
    (∃ msg rest app action, event = .turn ∧ s.queue = msg :: rest ∧
      handleMessage c s.app msg = .ok (app, action) ∧ t = s.afterTurn msg rest app action) := by
  cases event with
  | arrive input => exact .inl ⟨input, rfl, by simpa [step] using h.symm⟩
  | dropReceiver tx => exact .inr (.inr (.inl ⟨tx, rfl, by simpa [step] using h.symm⟩))
  | timer index =>
      right; left
      cases hTimer : s.timers[index]? with
      | none => simp [step, hTimer] at h
      | some timer =>
          obtain ⟨hIndex, hGet⟩ := List.getElem?_eq_some_iff.mp hTimer
          refine ⟨s.timers.take index, timer, s.timers.drop (index + 1), ?_, ?_, ?_⟩
          · rw [List.length_take, Nat.min_eq_left hIndex.le]
          · rw [← hGet, ← List.drop_eq_getElem_cons hIndex, List.take_append_drop]
          · simpa [step, hTimer] using h.symm
  | turn =>
      right; right; right
      cases hQueue : s.queue with
      | nil => simp [step, hQueue] at h
      | cons msg rest =>
          cases hHandle : s.handle c msg rest with
          | error reason => simp [step, hQueue, hHandle] at h
          | ok next =>
              obtain rfl : next = t := by simpa [step, hQueue, hHandle] using h
              obtain ⟨app, action, hMsg, hNext⟩ := handle_eq_ok.mp hHandle
              exact ⟨msg, rest, app, action, rfl, rfl, hMsg, hNext⟩

/-- A timer that stands at a place advances there. -/
theorem step_timer (c : Crates) {before after : List Timer} {timer : Timer}
    (h : s.timers = before ++ timer :: after) :
    step c s (.timer before.length) = some { s with
      queue := s.queue ++ timer.advance.2
      timers := before ++ timer.advance.1.toList ++ after } := by
  have hAfter : s.timers.drop (before.length + 1) = after := by
    rw [h, List.append_cons]
    exact List.drop_left' (by simp)
  have hBefore : s.timers.take before.length = before := by rw [h, List.take_left]
  have hTimer : s.timers[before.length]? = some timer := by simp [h]
  simp only [step, hTimer, hBefore, hAfter]

/-- A message that is handled is a turn. -/
theorem step_turn {msg : Msg} {rest : List Msg} {app : App} {action : UpdateAction}
    (hQueue : s.queue = msg :: rest) (hMsg : handleMessage c s.app msg = .ok (app, action)) :
    step c s .turn = some (s.afterTurn msg rest app action) := by
  simp only [step, hQueue, handle_eq_ok.mpr ⟨app, action, hMsg, rfl⟩]

/-- What an event puts into the queue. -/
def puts (s : Service) : Event → List Msg
  | .arrive input => [input.toMsg]
  | .timer index => (s.timers[index]?).elim [] (fun timer => timer.advance.2)
  | .dropReceiver _ | .turn => []

/-- The history only grows: a turn moves a message from the queue to the log. -/
theorem history_step {event : Event} (h : step c s event = some t) :
    t.history = s.history ++ s.puts event := by
  obtain ⟨input, rfl, rfl⟩ | ⟨before, timer, after, rfl, hTimers, rfl⟩ | ⟨tx, rfl, rfl⟩ |
    ⟨msg, rest, app, action, rfl, hQueue, -, rfl⟩ := step_cases h
  · simp [history, puts]
  · simp [history, puts, hTimers]
  · simp [history, puts]
  · simp [history, puts, afterTurn, hQueue]

theorem settings_step {event : Event} (h : step c s event = some t) :
    t.app.settings = s.app.settings := by
  obtain ⟨_, -, rfl⟩ | ⟨_, _, _, -, -, rfl⟩ | ⟨_, -, rfl⟩ | ⟨_, _, _, _, -, -, hMsg, rfl⟩ :=
    step_cases h
  · rfl
  · rfl
  · rfl
  · exact settings_handleMessage hMsg

theorem settings_of_run {settings : HttpSettings} {events : List Event}
    (run : Runs c settings events s) : s.app.settings = settings :=
  run.invariant (fun s => s.app.settings = settings) rfl
    (fun _ _ _ _ hOwn hStep => (settings_step hStep).trans hOwn)

/-- A property of turns holds of all that a run has performed exactly if every
turn was taken in a state that makes it hold. -/
theorem log_iff_every_turn {settings : HttpSettings} {events : List Event}
    (run : Runs c settings events s) {Q : Turn → Prop} {G : Service → Prop}
    (hTurn : ∀ (s : Service) (msg : Msg) (rest : List Msg) (app : App) (action : UpdateAction),
      s.app.settings = settings → s.queue = msg :: rest →
      handleMessage c s.app msg = .ok (app, action) → (Q ⟨msg, action, s.effects action⟩ ↔ G s)) :
    (∀ turn ∈ s.log, Q turn) ↔
      ∀ before after middle, events = before ++ .turn :: after → Runs c settings before middle →
        G middle := by
  have hStep : ∀ before s event t, Runs c settings before s → step c s event = some t →
      ((∀ turn ∈ t.log, Q turn) ↔ (∀ turn ∈ s.log, Q turn) ∧ (event = .turn → G s)) := by
    intro before s event t hRun hStep
    obtain ⟨_, rfl, rfl⟩ | ⟨_, _, _, rfl, -, rfl⟩ | ⟨_, rfl, rfl⟩ |
      ⟨msg, rest, app, action, rfl, hQueue, hMsg, rfl⟩ := step_cases hStep
    · simp
    · simp
    · simp
    · have hOwn := hTurn s msg rest app action (settings_of_run hRun) hQueue hMsg
      simp [afterTurn, or_imp, forall_and, hOwn]
  have hEvery := run.iff_every_step (P := fun s => ∀ turn ∈ s.log, Q turn) (by simp [init]) hStep
  rw [hEvery]
  constructor
  · intro h before after middle hSplit hRun
    exact h before .turn after middle hSplit hRun rfl
  · rintro h before event after middle hSplit hRun rfl
    exact h before after middle hSplit hRun

/-- A response that is posted under every protocol version. -/
def sampleDown : PacketDown where
  downlink := ⟨[0], none, none⟩
  gatewayB58 := ⟨"112edB6q"⟩
  httpResponse := {
    protocolVersion := "1.1"
    messageType := .xmitDataAns
    senderId := "000024"
    receiverId := "c00053"
    transactionId := 274631693
    senderNsid := "6081fffe12345678"
    receiverNsid := "0000000000000000"
    result := .success }

end Service

end PacketRouter.HttpRoaming
