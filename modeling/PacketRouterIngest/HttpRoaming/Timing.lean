import PacketRouterIngest.HttpRoaming.Generations

/-! The service on a clock. A timer sleeps through the deduplication window
before it asks for its group to be sent, and through the cleanup window before
it asks for it to be removed; both requests wait in the queue like any other
message, so a clock gives lower bounds only. -/
namespace PacketRouter.HttpRoaming

open Rust Semantics

/-- How long the windows last that the settings name. -/
structure Durations where
  dedupWindow : Nat
  cleanupWindow : Nat

/-- A timer with the time before which its sleep does not end. -/
structure Alarm where
  timer : Timer
  wake : Nat

/-- The service at a time, with the time of every turn it has taken. -/
structure TimedService where
  now : Nat
  app : App
  queue : List Msg
  alarms : List Alarm
  closed : List GatewayTx
  log : List (Nat × Turn)

inductive TimedEvent where
  | tick (elapsed : Nat)
  | event (event : Event)

def TimerPhase.asleep : TimerPhase → Bool
  | .sleepDedup | .sleepCleanup => true
  | .enqueueSend | .enqueueCleanup => false

/-- The second sleep begins when the send has been enqueued. -/
def Alarm.advance (d : Durations) (now : Nat) (a : Alarm) : Option Alarm × List Msg :=
  (a.timer.advance.1.map fun timer =>
    ⟨timer, if a.timer.phase = .enqueueSend then now + d.cleanupWindow else a.wake⟩,
    a.timer.advance.2)

/-- How long after the opening of its bucket a stage may come at the earliest. -/
def Durations.until (d : Durations) : Stage → Nat
  | .send => d.dedupWindow
  | .cleanup => d.dedupWindow + d.cleanupWindow

/-- The stage that a timer enqueues next. -/
def TimerPhase.stage : TimerPhase → Stage
  | .sleepDedup | .enqueueSend => .send
  | .sleepCleanup | .enqueueCleanup => .cleanup

/-- The time from which the next stage can be enqueued. -/
def Alarm.due (now : Nat) (a : Alarm) : Nat := if a.timer.phase.asleep then a.wake else now

/-- The next stage keeps its distance from this time. -/
def Alarm.Keeps (d : Durations) (now time : Nat) (a : Alarm) : Prop :=
  time + d.until a.timer.phase.stage ≤ a.due now

/-- What an advancing alarm enqueues keeps its distance, and so does the stage
after it. -/
theorem Alarm.Keeps.advance {d : Durations} {a : Alarm} {now time : Nat} (h : a.Keeps d now time)
    (hDue : a.due now ≤ now) :
    (∀ next ∈ (a.advance d now).1, next.Keeps d now time) ∧
    ∀ msg ∈ (a.advance d now).2, ∀ stage, msg.stage a.timer.hash = some stage →
      time + d.until stage ≤ now := by
  obtain ⟨⟨hash, phase⟩, wake⟩ := a
  cases phase with
  | sleepDedup | sleepCleanup =>
      have hNow : time + _ ≤ now := h.trans hDue
      simpa [Alarm.advance, Timer.advance, Keeps, due, TimerPhase.asleep, TimerPhase.stage] using hNow
  | enqueueSend =>
      have hNow : time + d.dedupWindow ≤ now := h
      refine ⟨?_, ?_⟩
      · simp only [Alarm.advance, Timer.advance, Option.map_some, Option.mem_def, Option.some.injEq]
        rintro _ rfl
        change time + (d.dedupWindow + d.cleanupWindow) ≤ now + d.cleanupWindow
        omega
      · intro msg hMsg stage hStage
        obtain rfl : msg = .uplinkSend hash := by simpa [Alarm.advance, Timer.advance] using hMsg
        obtain rfl : Stage.send = stage := by simpa [Msg.stage] using hStage
        exact hNow
  | enqueueCleanup =>
      have hNow : time + d.until .cleanup ≤ now := h
      refine ⟨by simp [Alarm.advance, Timer.advance], ?_⟩
      intro msg hMsg stage hStage
      obtain rfl : msg = .uplinkCleanup hash := by simpa [Alarm.advance, Timer.advance] using hMsg
      obtain rfl : Stage.cleanup = stage := by simpa [Msg.stage] using hStage
      exact hNow

theorem Alarm.hash_advance {d : Durations} {a next : Alarm} {now : Nat}
    (h : next ∈ (a.advance d now).1) : next.timer.hash = a.timer.hash := by
  obtain ⟨⟨hash, phase⟩, wake⟩ := a
  cases phase with
  | sleepDedup | enqueueSend | sleepCleanup =>
      simp only [Alarm.advance, Timer.advance, Option.map_some, Option.mem_def,
        Option.some.injEq] at h
      rw [← h]
  | enqueueCleanup => cases h

/-- A timer enqueues nothing about other hashes. -/
theorem Timer.stage_advance {timer : Timer} {msg : Msg} {hash : PacketHash}
    (h : msg ∈ timer.advance.2) (hHash : timer.hash ≠ hash) : msg.stage hash = none := by
  obtain ⟨own, phase⟩ := timer
  cases phase with
  | sleepDedup | sleepCleanup => cases h
  | enqueueSend | enqueueCleanup =>
      rw [List.mem_singleton.mp h]
      exact if_neg hHash

theorem Alarm.Keeps.later {d : Durations} {a : Alarm} {now time : Nat} (h : a.Keeps d now time)
    (elapsed : Nat) : a.Keeps d (now + elapsed) time := by
  refine h.trans ?_
  simp only [due]
  split_ifs <;> omega

namespace TimedService

/-- The service without its clock. -/
def service (s : TimedService) : Service :=
  ⟨s.app, s.queue, s.alarms.map Alarm.timer, s.closed, s.log.map Prod.snd⟩

def init (settings : HttpSettings) : TimedService := ⟨0, .new settings, [], [], [], []⟩

variable (c : Crates) (d : Durations)

/-- Take over what a step of the service has changed: new timers fall asleep,
and new turns were taken now. -/
def follow (s : TimedService) (next : Service) : TimedService :=
  { s with
    app := next.app
    queue := next.queue
    alarms := s.alarms ++
      (next.timers.drop s.alarms.length).map fun timer => ⟨timer, s.now + d.dedupWindow⟩
    closed := next.closed
    log := s.log ++ (next.log.drop s.log.length).map fun turn => (s.now, turn) }

def step (s : TimedService) : TimedEvent → Option TimedService
  | .tick elapsed => some { s with now := s.now + elapsed }
  | .event (.timer index) =>
      match s.alarms[index]? with
      | none => none
      | some a =>
          if a.timer.phase.asleep ∧ s.now < a.wake then none
          else
            some { s with
              queue := s.queue ++ (a.advance d s.now).2
              alarms := s.alarms.take index ++ (a.advance d s.now).1.toList ++
                s.alarms.drop (index + 1) }
  | .event event => (s.service.step c event).map (s.follow d)

abbrev Runs (settings : HttpSettings) (events : List TimedEvent) (s : TimedService) : Prop :=
  Run (step c d) (init settings) events s

variable {c d} {s t : TimedService}

/-- Everything one event can do. -/
theorem step_cases {event : TimedEvent} (h : step c d s event = some t) :
    (∃ elapsed, event = .tick elapsed ∧ t = { s with now := s.now + elapsed }) ∨
    (∃ input, event = .event (.arrive input) ∧ t = { s with queue := s.queue ++ [input.toMsg] }) ∨
    (∃ before a after, event = .event (.timer before.length) ∧ s.alarms = before ++ a :: after ∧
      (a.timer.phase.asleep → a.wake ≤ s.now) ∧
      t = { s with
        queue := s.queue ++ (a.advance d s.now).2
        alarms := before ++ (a.advance d s.now).1.toList ++ after }) ∨
    (∃ tx, event = .event (.dropReceiver tx) ∧ t = { s with closed := tx :: s.closed }) ∨
    (∃ msg rest app action, event = .event .turn ∧ s.queue = msg :: rest ∧
      handleMessage c s.app msg = .ok (app, action) ∧
      t = { s with
        app
        queue := rest
        alarms := s.alarms ++
          (msg.timers c s.app).map fun timer => ⟨timer, s.now + d.dedupWindow⟩
        log := s.log ++ [(s.now, ⟨msg, action, s.service.effects action⟩)] }) := by
  cases event with
  | tick elapsed => exact .inl ⟨elapsed, rfl, by simpa [step] using h.symm⟩
  | event inner =>
      cases inner with
      | timer index =>
          right; right; left
          cases hAlarm : s.alarms[index]? with
          | none => simp [step, hAlarm] at h
          | some a =>
              simp only [step, hAlarm] at h
              split_ifs at h with hEarly
              cases h
              obtain ⟨hIndex, hGet⟩ := List.getElem?_eq_some_iff.mp hAlarm
              refine ⟨s.alarms.take index, a, s.alarms.drop (index + 1), ?_, ?_, ?_, rfl⟩
              · rw [List.length_take, Nat.min_eq_left hIndex.le]
              · rw [← hGet, ← List.drop_eq_getElem_cons hIndex, List.take_append_drop]
              · intro hAsleep
                exact not_lt.mp fun hSoon => hEarly ⟨hAsleep, hSoon⟩
      | arrive input =>
          simp only [step, Option.map_eq_some_iff] at h
          obtain ⟨next, hNext, rfl⟩ := h
          cases hNext
          exact .inr (.inl ⟨input, rfl, by simp [follow, service]⟩)
      | dropReceiver tx =>
          simp only [step, Option.map_eq_some_iff] at h
          obtain ⟨next, hNext, rfl⟩ := h
          cases hNext
          exact .inr (.inr (.inr (.inl ⟨tx, rfl, by simp [follow, service]⟩)))
      | turn =>
          simp only [step, Option.map_eq_some_iff] at h
          obtain ⟨next, hNext, rfl⟩ := h
          obtain ⟨_, hEvent, -⟩ | ⟨_, _, _, hEvent, -⟩ | ⟨_, hEvent, -⟩ |
            ⟨msg, rest, app, action, -, hQueue, hMsg, rfl⟩ := Service.step_cases hNext
          · cases hEvent
          · cases hEvent
          · cases hEvent
          · have hSpawned : (s.service.effects action).spawned = msg.timers c s.app :=
              spawned_handleMessage s.app.settings (fun tx => s.closed.contains tx) hMsg
            refine .inr (.inr (.inr (.inr ⟨msg, rest, app, action, rfl, hQueue, hMsg, ?_⟩)))
            simp only [follow, service, Service.afterTurn, List.length_map, List.drop_left',
              List.map_cons, List.map_nil]
            rw [← hSpawned]
            rfl

/-- Without the clock it is a step of the service, or none at all. -/
theorem service_step {event : TimedEvent} (h : step c d s event = some t) :
    (∃ elapsed, event = .tick elapsed ∧ t.service = s.service) ∨
    ∃ inner, event = .event inner ∧ s.service.step c inner = some t.service := by
  obtain ⟨elapsed, rfl, rfl⟩ | ⟨input, rfl, rfl⟩ | ⟨before, a, after, rfl, hAlarms, -, rfl⟩ |
    ⟨tx, rfl, rfl⟩ | ⟨msg, rest, app, action, rfl, hQueue, hMsg, rfl⟩ := step_cases h
  · exact .inl ⟨elapsed, rfl, rfl⟩
  · exact .inr ⟨_, rfl, rfl⟩
  · refine .inr ⟨.timer before.length, rfl, ?_⟩
    have hTimers : s.service.timers = before.map Alarm.timer ++ a.timer :: after.map Alarm.timer := by
      simp [service, hAlarms]
    have hNext : (a.advance d s.now).1.toList.map Alarm.timer = a.timer.advance.1.toList := by
      cases hTimer : a.timer.advance.1 <;> simp [Alarm.advance, hTimer]
    have hStep := Service.step_timer c hTimers
    rw [List.length_map, ← hNext] at hStep
    rw [hStep]
    simp [service, Alarm.advance]
  · exact .inr ⟨_, rfl, rfl⟩
  · refine .inr ⟨_, rfl, ?_⟩
    have hSpawned : (s.service.effects action).spawned = msg.timers c s.app :=
      spawned_handleMessage s.app.settings (fun tx => s.closed.contains tx) hMsg
    have hQueue : s.service.queue = msg :: rest := hQueue
    rw [Service.step_turn hQueue hMsg, Service.afterTurn, hSpawned]
    simp [service, Function.comp_def]

/-- Every run on a clock is a run of the service. -/
theorem service_of_run {settings : HttpSettings} {events : List TimedEvent}
    (run : Runs c d settings events s) : ∃ moves, Service.Runs c settings moves s.service := by
  have hMoves : ∃ moves, Service.Runs c settings moves s.service ∧ moves.map id = _ :=
    run.component service id (fun | .tick _ => none | .event inner => some inner) (by
      intro s event t h
      obtain ⟨elapsed, rfl, hSame⟩ | ⟨inner, rfl, hStep⟩ := service_step h
      · exact .inl ⟨rfl, hSame⟩
      · exact .inr ⟨inner, rfl, hStep⟩)
  obtain ⟨moves, hRun, -⟩ := hMoves
  exact ⟨moves, hRun⟩

/-- At this time a packet opened the bucket of the hash. -/
def OpenedAt (s : TimedService) (hash : PacketHash) (time : Nat) : Prop :=
  ∃ turn, (time, turn) ∈ s.log ∧ turn.action = .startTimerForNewPacket hash

/-- Whatever is still to come for a hash keeps its distance from an opening of
the hash. -/
structure Punctual (d : Durations) (s : TimedService) (hash : PacketHash) (time : Nat) : Prop where
  queue : ∀ msg ∈ s.queue, ∀ stage, msg.stage hash = some stage → time + d.until stage ≤ s.now
  alarms : ∀ a ∈ s.alarms, a.timer.hash = hash → a.Keeps d s.now time
  idle : s.service.bucket hash = none → time + d.until .cleanup ≤ s.now

/-- Later turns about a hash keep their distance from its opening. -/
def Distance (d : Durations) (earlier later : Nat × Turn) : Prop :=
  earlier.1 ≤ later.1 ∧ ∀ hash, earlier.2.action = .startTimerForNewPacket hash →
    (∀ stage, later.2.msg.stage hash = some stage → earlier.1 + d.until stage ≤ later.1) ∧
    (later.2.action = .startTimerForNewPacket hash → earlier.1 + d.until .cleanup ≤ later.1)

/-- The invariant of the clock. -/
structure Keeping (d : Durations) (s : TimedService) : Prop where
  past : ∀ line ∈ s.log, line.1 ≤ s.now
  punctual : ∀ hash time, s.OpenedAt hash time → s.Punctual d hash time
  distances : s.log.Pairwise (Distance d)

theorem keeping_init (settings : HttpSettings) : (init settings).Keeping d where
  past := by simp [init]
  punctual := by
    rintro hash time ⟨turn, hMem, -⟩
    cases hMem
  distances := .nil

theorem openedAt_snoc {line : Nat × Turn} {hash : PacketHash} {time : Nat} :
    ({ s with log := s.log ++ [line] } : TimedService).OpenedAt hash time ↔
      s.OpenedAt hash time ∨ line.1 = time ∧ line.2.action = .startTimerForNewPacket hash := by
  simp only [OpenedAt, List.mem_append, List.mem_singleton]
  constructor
  · rintro ⟨turn, hMem | rfl, hAction⟩
    · exact .inl ⟨turn, hMem, hAction⟩
    · exact .inr ⟨rfl, hAction⟩
  · rintro (⟨turn, hMem, hAction⟩ | ⟨rfl, hAction⟩)
    · exact ⟨turn, .inl hMem, hAction⟩
    · exact ⟨line.2, .inr rfl, hAction⟩

/-- The next turn keeps its distance from the openings before it. -/
theorem Keeping.distance {msg : Msg} {rest : List Msg} {app : App} {action : UpdateAction}
    {effects : Effects} (h : s.Keeping d) (hQueue : s.queue = msg :: rest)
    (hMsg : handleMessage c s.app msg = .ok (app, action)) :
    ∀ line ∈ s.log, Distance d line (s.now, ⟨msg, action, effects⟩) := by
  rintro ⟨time, turn⟩ hLine
  refine ⟨h.past _ hLine, fun hash hOpens => ?_⟩
  have hPunctual := h.punctual hash time ⟨turn, hLine, hOpens⟩
  refine ⟨fun stage => hPunctual.queue msg (by simp [hQueue]) stage, ?_⟩
  rintro rfl
  obtain ⟨-, -, -, hBucket⟩ := opens_of_startTimer hMsg
  exact hPunctual.idle hBucket

/-- A turn keeps what is to come for a hash that was opened before it. -/
theorem Punctual.turn {msg : Msg} {rest : List Msg} {app : App} {action : UpdateAction}
    {turn : Nat × Turn} {hash : PacketHash} {time : Nat} (h : s.Punctual d hash time)
    (hPast : time ≤ s.now) (hQueue : s.queue = msg :: rest)
    (hMsg : handleMessage c s.app msg = .ok (app, action)) :
    Punctual d { s with
      app
      queue := rest
      alarms := s.alarms ++ (msg.timers c s.app).map fun timer => ⟨timer, s.now + d.dedupWindow⟩
      log := s.log ++ [turn] } hash time where
  queue other hOther := h.queue other (by simp [hQueue, hOther])
  alarms := by
    intro a hAlarm hHash
    rcases List.mem_append.mp hAlarm with hAlarm | hNew
    · exact h.alarms a hAlarm hHash
    · obtain ⟨timer, hTimer, rfl⟩ := List.mem_map.mp hNew
      have hPhase : timer.phase = .sleepDedup := by
        cases msg with
        | uplinkReceive packet =>
            simp only [Msg.timers] at hTimer
            split_ifs at hTimer
            · rw [List.mem_singleton.mp hTimer]
            · cases hTimer
        | uplinkSend | uplinkCleanup | downlink | gatewayConnect | gatewayDisconnect => cases hTimer
      simpa [Alarm.Keeps, Alarm.due, hPhase, TimerPhase.stage, TimerPhase.asleep, Durations.until]
        using hPast
  idle := by
    intro hAfter
    have hBucket : _ = msg.bucketAfter c hash (s.service.bucket hash) :=
      getPackets_handleMessage hash hMsg
    by_cases hBefore : s.service.bucket hash = none
    · exact h.idle hBefore
    · refine h.queue msg (by simp [hQueue]) .cleanup (Msg.stage_eq_cleanup.mpr ?_)
      have hAfter : msg.bucketAfter c hash (s.service.bucket hash) = none := hBucket.symm.trans hAfter
      cases msg with
      | uplinkCleanup removed =>
          simp only [Msg.bucketAfter] at hAfter
          split_ifs at hAfter with hHash
          · rw [hHash]
          · exact absurd hAfter hBefore
      | uplinkReceive packet =>
          simp only [Msg.bucketAfter] at hAfter
          split_ifs at hAfter
          exact absurd hAfter hBefore
      | uplinkSend | downlink | gatewayConnect | gatewayDisconnect => exact absurd hAfter hBefore

/-- When a bucket is opened, nothing but its own timer is to come. -/
theorem punctual_opened {msg : Msg} {rest : List Msg} {app : App} {turn : Nat × Turn}
    {hash : PacketHash} (hLifecycle : s.service.Lifecycle hash) (hQueue : s.queue = msg :: rest)
    (hMsg : handleMessage c s.app msg = .ok (app, .startTimerForNewPacket hash)) :
    Punctual d { s with
      app
      queue := rest
      alarms := s.alarms ++ (msg.timers c s.app).map fun timer => ⟨timer, s.now + d.dedupWindow⟩
      log := s.log ++ [turn] } hash s.now := by
  obtain ⟨packet, rfl, rfl, hBucket⟩ := opens_of_startTimer hMsg
  obtain ⟨hNoMessage, hNoTimer⟩ := hLifecycle.idle hBucket
  constructor
  · intro other hOther stage hStage
    rw [hNoMessage other (by simp [service, hQueue, hOther])] at hStage
    cases hStage
  · intro a hAlarm hHash
    rcases List.mem_append.mp hAlarm with hAlarm | hNew
    · exact absurd hHash (hNoTimer a.timer (List.mem_map_of_mem hAlarm))
    · rw [Msg.timers_of_none hBucket] at hNew
      obtain rfl : a = ⟨⟨packet.hash c, .sleepDedup⟩, s.now + d.dedupWindow⟩ := by simpa using hNew
      exact Nat.le_refl _
  · intro hAfter
    have hOpened : some _ = (none : Option (List PacketUp)) :=
      (((getPackets_handleMessage _ hMsg).trans (if_pos rfl)).symm.trans hAfter)
    cases hOpened

/-- One event keeps the invariant of the clock. -/
theorem Keeping.step {event : TimedEvent} (h : s.Keeping d)
    (hLifecycle : ∀ hash, s.service.Lifecycle hash) (hStep : step c d s event = some t) :
    t.Keeping d := by
  obtain ⟨elapsed, -, rfl⟩ | ⟨input, -, rfl⟩ | ⟨before, a, after, -, hAlarms, hWake, rfl⟩ |
    ⟨tx, -, rfl⟩ | ⟨msg, rest, app, action, -, hQueue, hMsg, rfl⟩ := step_cases hStep
  · refine ⟨fun line hLine => (h.past line hLine).trans (Nat.le_add_right ..), ?_, h.distances⟩
    intro hash time hOpened
    have hPunctual := h.punctual hash time hOpened
    exact {
      queue := fun msg hMem stage hStage =>
        (hPunctual.queue msg hMem stage hStage).trans (Nat.le_add_right ..)
      alarms := fun a hAlarm hHash => (hPunctual.alarms a hAlarm hHash).later elapsed
      idle := fun hBucket => (hPunctual.idle hBucket).trans (Nat.le_add_right ..) }
  · refine ⟨h.past, fun hash time hOpened => ?_, h.distances⟩
    have hPunctual := h.punctual hash time hOpened
    refine ⟨fun msg hMem stage hStage => ?_, hPunctual.alarms, hPunctual.idle⟩
    rcases List.mem_append.mp hMem with hMem | hNew
    · exact hPunctual.queue msg hMem stage hStage
    · rw [List.mem_singleton.mp hNew, Msg.stage_input] at hStage
      cases hStage
  · refine ⟨h.past, fun hash time hOpened => ?_, h.distances⟩
    have hPunctual := h.punctual hash time hOpened
    have hOwn : a ∈ s.alarms := by simp [hAlarms]
    have hDue : a.due s.now ≤ s.now := by
      simp only [Alarm.due]
      split_ifs with hAsleep
      · exact hWake hAsleep
      · exact Nat.le_refl _
    refine ⟨fun msg hMem stage hStage => ?_, fun other hOther hHash => ?_, hPunctual.idle⟩
    · rcases List.mem_append.mp hMem with hMem | hNew
      · exact hPunctual.queue msg hMem stage hStage
      · by_cases hHash : a.timer.hash = hash
        · obtain ⟨-, hKeeps⟩ := (hPunctual.alarms a hOwn hHash).advance hDue
          exact hKeeps msg hNew stage (hHash ▸ hStage)
        · rw [Alarm.advance] at hNew
          rw [Timer.stage_advance hNew hHash] at hStage
          cases hStage
    · simp only [List.mem_append, Option.mem_toList] at hOther
      obtain (hBefore | hNext) | hAfter := hOther
      · exact hPunctual.alarms other (by simp [hAlarms, hBefore]) hHash
      · have hSame : a.timer.hash = hash := by
          rw [← hHash]
          exact (Alarm.hash_advance hNext).symm
        exact ((hPunctual.alarms a hOwn hSame).advance hDue).1 other hNext
      · exact hPunctual.alarms other (by simp [hAlarms, hAfter]) hHash
  · exact ⟨h.past, fun hash time hOpened =>
      ⟨(h.punctual hash time hOpened).queue, (h.punctual hash time hOpened).alarms,
        (h.punctual hash time hOpened).idle⟩, h.distances⟩
  · refine ⟨?_, ?_, ?_⟩
    · intro line hLine
      rcases List.mem_append.mp hLine with hLine | hNew
      · exact h.past line hLine
      · rw [List.mem_singleton.mp hNew]
    · intro hash time hOpened
      rcases openedAt_snoc.mp hOpened with hEarlier | ⟨rfl, rfl⟩
      · obtain ⟨turn, hLine, -⟩ := id hEarlier
        exact (h.punctual hash time hEarlier).turn (h.past _ hLine) hQueue hMsg
      · exact punctual_opened (hLifecycle hash) hQueue hMsg
    · rw [List.pairwise_append]
      refine ⟨h.distances, List.pairwise_singleton .., fun line hLine last hLast => ?_⟩
      rw [List.mem_singleton.mp hLast]
      exact h.distance hQueue hMsg line hLine

theorem keeping_of_run {settings : HttpSettings} {events : List TimedEvent}
    (run : Runs c d settings events s) : s.Keeping d := by
  have hBoth : s.Keeping d ∧ ∀ hash, s.service.Lifecycle hash := by
    refine run.invariant (fun s => s.Keeping d ∧ ∀ hash, s.service.Lifecycle hash)
      ⟨keeping_init settings, fun _ => Service.lifecycle_init settings⟩ ?_
    rintro s event t - ⟨hKeeping, hLifecycle⟩ hStep
    refine ⟨hKeeping.step hLifecycle hStep, fun hash => ?_⟩
    obtain ⟨-, -, hSame⟩ | ⟨inner, -, hInner⟩ := service_step hStep
    · rw [hSame]
      exact hLifecycle hash
    · exact (hLifecycle hash).step hInner
  exact hBoth.1

/-- The turn at this place of the history was taken at this time. -/
def TookPlace (s : TimedService) (place time : Nat) : Prop :=
  ∃ turn, s.log[place]? = some (time, turn)

theorem exists_tookPlace {place : Nat} {msg : Msg} {action : UpdateAction}
    (h : s.service.TurnAt place msg action) : ∃ time, s.TookPlace place time := by
  obtain ⟨turn, hTurn, -⟩ := h
  rw [service, List.getElem?_map, Option.map_eq_some_iff] at hTurn
  obtain ⟨⟨time, turn⟩, hLine, -⟩ := hTurn
  exact ⟨time, turn, hLine⟩

/-- Turns at two places of the history keep their distance. -/
theorem Keeping.distanceAt (h : s.Keeping d) {place place' time time' : Nat} {msg msg' : Msg}
    {action action' : UpdateAction} (hTime : s.TookPlace place time)
    (hTurn : s.service.TurnAt place msg action) (hTime' : s.TookPlace place' time')
    (hTurn' : s.service.TurnAt place' msg' action') (hPlace : place < place') :
    time ≤ time' ∧ ∀ hash, action = .startTimerForNewPacket hash →
      (∀ stage, msg'.stage hash = some stage → time + d.until stage ≤ time') ∧
      (action' = .startTimerForNewPacket hash → time + d.until .cleanup ≤ time') := by
  have hOwn {place time : Nat} {msg : Msg} {action : UpdateAction} (hTime : s.TookPlace place time)
      (hTurn : s.service.TurnAt place msg action) :
      ∃ turn, s.log[place]? = some (time, turn) ∧ turn.msg = msg ∧ turn.action = action := by
    obtain ⟨turn, hLine⟩ := hTime
    obtain ⟨other, hOther, hSame⟩ := hTurn
    rw [service, List.getElem?_map, hLine] at hOther
    obtain rfl : turn = other := Option.some.inj hOther
    exact ⟨turn, hLine, hSame⟩
  obtain ⟨turn, hLine, rfl, rfl⟩ := hOwn hTime hTurn
  obtain ⟨turn', hLine', rfl, rfl⟩ := hOwn hTime' hTurn'
  obtain ⟨hIndex, hGet⟩ := List.getElem?_eq_some_iff.mp hLine
  obtain ⟨hIndex', hGet'⟩ := List.getElem?_eq_some_iff.mp hLine'
  have hDistance := List.pairwise_iff_getElem.mp h.distances place place' hIndex hIndex' hPlace
  rw [hGet, hGet'] at hDistance
  exact hDistance

/-- What the windows say about a generation whose opener, at its place of the
history, was handled at the time `start`. -/
structure OnTime (c : Crates) (d : Durations) (s : TimedService) (g : Copies) (opener start : Nat) :
    Prop where
  offered : ∀ place action time, g.offer = some (place, action) → s.TookPlace place time →
    start + d.dedupWindow ≤ time
  closed : ∀ place time, g.closed = some place → s.TookPlace place time →
    start + d.dedupWindow + d.cleanupWindow ≤ time
  /-- No copy of the deduplication window misses the request. -/
  collected : ∀ copy ∈ s.service.copies, copy.2.hash c = g.key → opener ≤ copy.1 →
    ∀ time, s.TookPlace copy.1 time → time < start + d.dedupWindow → copy ∈ g.collected
  /-- No copy of either window begins another generation. -/
  stored : ∀ copy ∈ s.service.copies, copy.2.hash c = g.key → opener ≤ copy.1 →
    ∀ time, s.TookPlace copy.1 time → time < start + d.dedupWindow + d.cleanupWindow →
      copy ∈ g.items
  requests : ∀ place request, g.offer = some (place, .uplinkSend request) →
    MadeOf c (g.collected.map Prod.snd) request

/-- Every generation is opened at some time. -/
theorem exists_opened {g : Copies} (h : s.service.Delimited c g) :
    ∃ opener rest start, g.collected = opener :: rest ∧ s.TookPlace opener.1 start ∧
      s.service.TurnAt opener.1 (.uplinkReceive opener.2) (.startTimerForNewPacket g.key) := by
  obtain ⟨opener, rest, hCollected, hTurn⟩ := h.opened
  obtain ⟨start, hStart⟩ := exists_tookPlace hTurn
  exact ⟨opener, rest, start, hCollected, hStart, hTurn⟩

theorem Keeping.onTime (h : s.Keeping d) (hBooks : s.service.Books c) {g : Copies}
    (hg : g ∈ (s.service.ledger c).generations) {opener : Nat × PacketUp}
    {rest : List (Nat × PacketUp)} {start : Nat} (hCollected : g.collected = opener :: rest)
    (hStart : s.TookPlace opener.1 start)
    (hOpens : s.service.TurnAt opener.1 (.uplinkReceive opener.2) (.startTimerForNewPacket g.key)) :
    s.OnTime c d g opener.1 start := by
  have hDelimited := hBooks.delimited hg
  -- The opener keeps every stage of its hash at a distance.
  have hStage {place time : Nat} {msg : Msg} {action : UpdateAction} (stage : Stage)
      (hPlace : place ∈ g.times) (hTime : s.TookPlace place time)
      (hTurn : s.service.TurnAt place msg action) (hMsg : msg.stage g.key = some stage) :
      start + d.until stage ≤ time :=
    ((h.distanceAt hStart hOpens hTime hTurn
      (hDelimited.opener_lt hCollected hPlace hTurn hMsg)).2 g.key rfl).1 stage hMsg
  have hOffered : ∀ place action time, g.offer = some (place, action) → s.TookPlace place time →
      start + d.dedupWindow ≤ time := by
    intro place action time hOffer hTime
    exact hStage .send (Generation.mem_times_of_offer hOffer) hTime
      (hDelimited.offered place action hOffer) (if_pos rfl)
  have hClosed : ∀ place time, g.closed = some place → s.TookPlace place time →
      start + d.dedupWindow + d.cleanupWindow ≤ time := by
    intro place time hClose hTime
    obtain ⟨action, hTurn⟩ := hDelimited.closed place hClose
    rw [Nat.add_assoc]
    exact hStage .cleanup (by simp [Generation.times, hClose]) hTime hTurn (if_pos rfl)
  have hStored : ∀ copy ∈ s.service.copies, copy.2.hash c = g.key → opener.1 ≤ copy.1 →
      ∀ time, s.TookPlace copy.1 time → time < start + d.dedupWindow + d.cleanupWindow →
        copy ∈ g.items := by
    intro copy hCopy hHash hPlace time hTime hSoon
    obtain ⟨action, hTurn⟩ := Service.mem_copies.mp hCopy
    obtain ⟨g', hg', hItem, hKey⟩ := hBooks.exists_of_copy hCopy
    by_contra hOther
    have hNe : g ≠ g' := fun hSame => hOther (hSame ▸ hItem)
    rcases hBooks.admissible.apart hg hg' hNe (hHash.symm.trans hKey) with hBefore | hAfter
    · -- A later generation needs this one closed.
      obtain ⟨last, hClose, hLater⟩ := hBefore
      obtain ⟨closing, hClosing⟩ := hDelimited.closed last hClose
      obtain ⟨end', hEnd⟩ := exists_tookPlace hClosing
      have hOver := hClosed last end' hClose hEnd
      have hOrder := (h.distanceAt hEnd hClosing hTime hTurn
        (hLater copy.1 (Generation.mem_times_of_item hItem))).1
      omega
    · have hOpener : opener.1 ∈ g.times := by simp [Generation.times, hCollected]
      have hEarlier := hAfter.lt (hBooks.delimited hg').ordered
        (Generation.mem_times_of_item hItem) hOpener
      omega
  refine ⟨hOffered, hClosed, ?_, hStored, hBooks.requests g hg⟩
  intro copy hCopy hHash hPlace time hTime hSoon
  have hItem := hStored copy hCopy hHash hPlace time hTime (by omega)
  refine (List.mem_append.mp hItem).resolve_right fun hLate => ?_
  cases hOffer : g.offer with
  | none =>
      rw [(hBooks.faithful.recorded g hg).waits hOffer] at hLate
      cases hLate
  | some offer =>
      obtain ⟨action, hTurn⟩ := Service.mem_copies.mp hCopy
      have hSend := hDelimited.offered offer.1 offer.2 hOffer
      obtain ⟨sent, hSent⟩ := exists_tookPlace hSend
      have hWindow := hOffered offer.1 offer.2 sent hOffer hSent
      have hOrder := (h.distanceAt hSent hSend hTime hTurn
        (Generation.offer_lt_late hDelimited.ordered hOffer hLate)).1
      omega

/-- Two sends of a hash are further apart than the deduplication window: the
second waits for its own. -/
theorem Keeping.sends_apart (h : s.Keeping d) (hBooks : s.service.Books c) {hash : PacketHash}
    {place place' time time' : Nat} {action action' : UpdateAction} (hPlace : place < place')
    (hSend : s.service.TurnAt place (.uplinkSend hash) action) (hTime : s.TookPlace place time)
    (hSend' : s.service.TurnAt place' (.uplinkSend hash) action')
    (hTime' : s.TookPlace place' time') : time + d.dedupWindow ≤ time' := by
  obtain ⟨g, hg, hOffer, rfl⟩ := hBooks.exists_of_send hSend
  obtain ⟨g', hg', hOffer', hKey⟩ := hBooks.exists_of_send hSend'
  have hNe : g ≠ g' := by
    rintro rfl
    have hSame : (place, action) = (place', action') := Option.some.inj (hOffer.symm.trans hOffer')
    have hPlaces : place = place' := congrArg Prod.fst hSame
    omega
  rcases hBooks.admissible.apart hg hg' hNe hKey.symm with hBefore | hAfter
  · obtain ⟨opener, rest, start, hCollected, hStart, hOpens⟩ := exists_opened (hBooks.delimited hg')
    have hWindow := (h.onTime hBooks hg' hCollected hStart hOpens).offered place' action' time'
      hOffer' hTime'
    have hFirst : place < opener.1 := hBefore.lt (hBooks.delimited hg).ordered
      (Generation.mem_times_of_offer hOffer) (by simp [Generation.times, hCollected])
    have hOrder := (h.distanceAt hTime hSend hStart hOpens hFirst).1
    omega
  · have hLater := hAfter.lt (hBooks.delimited hg').ordered
      (Generation.mem_times_of_offer hOffer') (Generation.mem_times_of_offer hOffer)
    omega

/-- **Both windows hold on every clock.** Every generation is opened at some
time. It is offered no earlier than a deduplication window after that and closed
no earlier than both windows; the copies handled within the first window are in
its request, those within both belong to it, and the sends of one hash are a
deduplication window apart. -/
theorem windows_of_run {settings : HttpSettings} {events : List TimedEvent}
    (run : Runs c d settings events s) :
    (∀ g ∈ (s.service.ledger c).generations, ∃ opener rest start, g.collected = opener :: rest ∧
      s.TookPlace opener.1 start ∧ s.OnTime c d g opener.1 start) ∧
    (∀ hash place place' time time' action action', place < place' →
      s.service.TurnAt place (.uplinkSend hash) action → s.TookPlace place time →
      s.service.TurnAt place' (.uplinkSend hash) action' → s.TookPlace place' time' →
      time + d.dedupWindow ≤ time') := by
  have hKeeping := keeping_of_run run
  obtain ⟨moves, hMoves⟩ := service_of_run run
  have hBooks : s.service.Books c := Service.books_of_run hMoves
  refine ⟨fun g hg => ?_, ?_⟩
  · obtain ⟨opener, rest, start, hCollected, hStart, hOpens⟩ := exists_opened (hBooks.delimited hg)
    exact ⟨opener, rest, start, hCollected, hStart,
      hKeeping.onTime hBooks hg hCollected hStart hOpens⟩
  · intro hash place place' time time' action action' hPlace hSend hTime hSend' hTime'
    exact hKeeping.sends_apart hBooks hPlace hSend hTime hSend' hTime'

/-- A copy that comes within the deduplication window, and one that comes
after the request. -/
theorem sample_windows :
    ∃ s, Runs Crates.sample ⟨200, 5000⟩ .sample
        [.event (.arrive (.uplink (.sample joinFrame [0]))), .event .turn, .tick 150,
          .event (.arrive (.uplink (.sample joinFrame [0]))), .event .turn, .tick 50,
          .event (.timer 0), .event (.timer 0), .event .turn, .tick 4000,
          .event (.arrive (.uplink (.sample joinFrame [0]))), .event .turn] s ∧
      s.log.map Prod.fst = [0, 150, 200, 4200] ∧
      ∀ g ∈ (s.service.ledger Crates.sample).generations, ∃ opener rest start,
        g.collected = opener :: rest ∧ s.TookPlace opener.1 start ∧
          s.OnTime Crates.sample ⟨200, 5000⟩ g opener.1 start := by
  obtain ⟨s, run, hLog⟩ : ∃ s, Runs Crates.sample ⟨200, 5000⟩ .sample
      [.event (.arrive (.uplink (.sample joinFrame [0]))), .event .turn, .tick 150,
        .event (.arrive (.uplink (.sample joinFrame [0]))), .event .turn, .tick 50,
        .event (.timer 0), .event (.timer 0), .event .turn, .tick 4000,
        .event (.arrive (.uplink (.sample joinFrame [0]))), .event .turn] s ∧
      s.log.map Prod.fst = [0, 150, 200, 4200] := ⟨_, run_of_exec rfl, rfl⟩
  exact ⟨s, run, hLog, (windows_of_run run).1⟩

end TimedService

end PacketRouter.HttpRoaming
