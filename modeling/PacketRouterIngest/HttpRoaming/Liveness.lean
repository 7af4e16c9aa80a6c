import PacketRouterIngest.HttpRoaming.Backpressure
import PacketRouterIngest.HttpRoaming.Generations
import PacketRouterIngest.Semantics.Traces

/-! What the service does in the end. Under fair scheduling every message is
handled, every bucket is removed again, and every copy belongs to a generation
that has been offered and closed; the bounded channels do not change this as
long as every client that stalls the loop reads or leaves. -/
namespace PacketRouter.HttpRoaming

open Rust Semantics

namespace Service

variable {c : Crates} {s t : Service}

/-- The timer advances in this step. -/
def Advances (c : Crates) (s t : Service) (timer : Timer) : Prop :=
  ∃ before after, s.timers = before ++ timer :: after ∧
    step c s (.timer before.length) = some t

/-- Messages do not wait for ever, and timers do not sleep for ever. -/
structure Lively (T : Trace (Service.step c)) : Prop where
  turns : ∀ n, (T.state n).queue ≠ [] → ∃ m, n ≤ m ∧ T.Takes m .turn
  timers : ∀ n, ∀ timer ∈ (T.state n).timers,
    ∃ m, n ≤ m ∧ Advances c (T.state m) (T.state (m + 1)) timer

theorem log_step {event : Event} (h : step c s event = some t) : s.log <+: t.log := by
  obtain ⟨input, -, rfl⟩ | ⟨before, timer, after, -, -, rfl⟩ | ⟨tx, -, rfl⟩ |
    ⟨msg, rest, app, action, -, -, -, rfl⟩ := step_cases h
  · exact List.prefix_rfl
  · exact List.prefix_rfl
  · exact List.prefix_rfl
  · exact List.prefix_append ..

theorem TurnAt.later {place : Nat} {msg : Msg} {action : UpdateAction}
    (h : s.TurnAt place msg action) (hLog : s.log <+: t.log) : t.TurnAt place msg action := by
  obtain ⟨turn, hTurn, hMsg, hAction⟩ := h
  exact ⟨turn, getElem?_of_prefix hLog hTurn, hMsg, hAction⟩

/-- A timer stands where it is until it advances. -/
theorem timer_step {event : Event} {timer : Timer} (h : step c s event = some t)
    (hTimer : timer ∈ s.timers)
    (hWaits : ∀ before after, s.timers = before ++ timer :: after → event ≠ .timer before.length) :
    timer ∈ t.timers := by
  obtain ⟨input, -, rfl⟩ | ⟨before, own, after, rfl, hTimers, rfl⟩ | ⟨tx, -, rfl⟩ |
    ⟨msg, rest, app, action, -, -, -, rfl⟩ := step_cases h
  · exact hTimer
  · rw [hTimers, List.mem_append, List.mem_cons] at hTimer
    obtain hBefore | rfl | hAfter := hTimer
    · exact List.mem_append_left _ (List.mem_append_left _ hBefore)
    · exact absurd rfl (hWaits before after hTimers)
    · exact List.mem_append_right _ hAfter
  · exact hTimer
  · exact List.mem_append_left _ hTimer

section

variable {T : Trace (Service.step c)}

theorem history_grows (T : Trace (Service.step c)) {n m : Nat} (hLater : n ≤ m) :
    (T.state n).history <+: (T.state m).history :=
  Trace.persists (fun s => (T.state n).history <+: s.history) List.prefix_rfl
    (fun _ _ _ h hStep => h.trans ⟨_, (history_step hStep).symm⟩) hLater

theorem log_grows (T : Trace (Service.step c)) {n m : Nat} (hLater : n ≤ m) :
    (T.state n).log <+: (T.state m).log :=
  Trace.persists (fun s => (T.state n).log <+: s.log) List.prefix_rfl
    (fun _ _ _ h hStep => h.trans (log_step hStep)) hLater

/-- A step that is not a turn leaves the log alone. -/
theorem log_of_aside {event : Event} (h : step c s event = some t) (hTurn : event ≠ .turn) :
    t.log = s.log := by
  obtain ⟨input, -, rfl⟩ | ⟨before, timer, after, -, -, rfl⟩ | ⟨tx, -, rfl⟩ |
    ⟨msg, rest, app, action, rfl, -, -, rfl⟩ := step_cases h
  · rfl
  · rfl
  · rfl
  · exact absurd rfl hTurn

/-- A message of the history that has not been handled yet is handled in some
later turn. The induction is on the number of messages before it. -/
theorem Lively.exists_turn (h : Lively T) {place : Nat} {msg : Msg} (ahead : Nat) {n : Nat}
    (hMsg : (T.state n).history[place]? = some msg)
    (hAhead : (T.state n).log.length + ahead = place) :
    ∃ m, n ≤ m ∧ T.Takes m .turn ∧ (T.state m).log.length = place ∧
      (T.state m).queue.head? = some msg := by
  have hWaiting : (T.state n).queue ≠ [] := by
    intro hEmpty
    have hPlace := (List.getElem?_eq_some_iff.mp hMsg).1
    rw [history, hEmpty, List.append_nil, List.length_map] at hPlace
    omega
  have hKeep : ∀ m, n ≤ m → (T.state m).log = (T.state n).log → ¬ T.Takes m .turn →
      (T.state (m + 1)).log = (T.state n).log := by
    intro m _ hLog hNoTurn
    obtain hRests | ⟨event, hStep⟩ := T.next m
    · rw [hRests, hLog]
    · rw [← hLog]
      refine log_of_aside hStep ?_
      rintro rfl
      exact hNoTurn hStep
  obtain ⟨m, hLater, hLog, hTurn⟩ := Trace.until_happens (fun s : Service => s.log = (T.state n).log)
    (fun m => T.Takes m .turn) rfl hKeep (h.turns n hWaiting)
  have hStill := getElem?_of_prefix (history_grows T hLater) hMsg
  cases ahead with
  | zero =>
      obtain rfl : (T.state m).log.length = place := by rw [hLog, ← hAhead, Nat.add_zero]
      have hLength : ((T.state m).log.map Turn.msg).length = (T.state m).log.length :=
        List.length_map _
      rw [history, ← hLength, List.getElem?_append_right (Nat.le_refl _), Nat.sub_self,
        ← List.head?_eq_getElem?] at hStill
      exact ⟨m, hLater, hTurn, rfl, hStill⟩
  | succ ahead =>
      have hNext := getElem?_of_prefix (history_grows T (Nat.le_succ m)) hStill
      have hLength : (T.state (m + 1)).log.length = (T.state m).log.length + 1 := by
        obtain ⟨_, hOther, -⟩ | ⟨_, _, _, hOther, -⟩ | ⟨_, hOther, -⟩ |
          ⟨msg, rest, app, action, -, -, -, hNext⟩ := step_cases hTurn
        · cases hOther
        · cases hOther
        · cases hOther
        · rw [hNext, afterTurn, List.length_append, List.length_singleton]
      obtain ⟨later, hEven, hFound⟩ := h.exists_turn ahead hNext (by rw [hLength, hLog]; omega)
      exact ⟨later, by omega, hFound⟩

/-- What a turn does is remembered at the place of its message. -/
theorem turnAt_of_takes {n : Nat} {msg : Msg} (hTurn : T.Takes n .turn)
    (hMsg : (T.state n).queue.head? = some msg) :
    (∃ action, (T.state (n + 1)).TurnAt (T.state n).log.length msg action) ∧
    ∀ hash, (T.state (n + 1)).bucket hash = msg.bucketAfter c hash ((T.state n).bucket hash) := by
  obtain ⟨_, hOther, -⟩ | ⟨_, _, _, hOther, -⟩ | ⟨_, hOther, -⟩ |
    ⟨own, rest, app, action, -, hQueue, hHandled, hNext⟩ := step_cases hTurn
  · cases hOther
  · cases hOther
  · cases hOther
  · rw [hQueue] at hMsg
    obtain rfl : own = msg := Option.some.inj hMsg
    rw [hNext]
    exact ⟨⟨action, _, List.getElem?_concat_length, rfl, rfl⟩,
      fun hash => getPackets_handleMessage hash hHandled⟩

/-- Every message of the history is handled at its place. -/
theorem Lively.handled (h : Lively T) {n place : Nat} {msg : Msg}
    (hMsg : (T.state n).history[place]? = some msg) :
    ∃ m, n ≤ m ∧ ∃ action, (T.state m).TurnAt place msg action := by
  by_cases hPlace : place < (T.state n).log.length
  · rw [history, List.getElem?_append_left (by rwa [List.length_map]), List.getElem?_map,
      Option.map_eq_some_iff] at hMsg
    obtain ⟨turn, hTurn, rfl⟩ := hMsg
    exact ⟨n, Nat.le_refl n, turn.action, turn, hTurn, rfl, rfl⟩
  · obtain ⟨m, hLater, hTurn, rfl, hHead⟩ := h.exists_turn (place - (T.state n).log.length) hMsg
      (by omega)
    exact ⟨m + 1, by omega, (turnAt_of_takes hTurn hHead).1⟩

/-- An advancing timer leaves its next phase and its message behind. -/
theorem Lively.advances (h : Lively T) {n : Nat} {timer : Timer} (hTimer : timer ∈ (T.state n).timers) :
    ∃ m, n ≤ m ∧ (∀ next ∈ timer.advance.1, next ∈ (T.state m).timers) ∧
      ∀ msg ∈ timer.advance.2, msg ∈ (T.state m).queue := by
  obtain ⟨m, hLater, before, after, hTimers, hStep⟩ := h.timers n timer hTimer
  rw [step_timer c hTimers, Option.some.injEq] at hStep
  refine ⟨m + 1, by omega, fun next hNext => ?_, fun msg hMsg => ?_⟩
  · rw [← hStep]
    simp [Option.mem_def.mp hNext]
  · rw [← hStep]
    exact List.mem_append_right _ hMsg

/-- Every timer puts its cleanup into the queue. The cases follow its phases. -/
theorem Lively.cleanup_of_timer (h : Lively T) {n : Nat} {hash : PacketHash} {phase : TimerPhase}
    (hTimer : ⟨hash, phase⟩ ∈ (T.state n).timers) :
    ∃ m, n ≤ m ∧ .uplinkCleanup hash ∈ (T.state m).queue := by
  have hLast {n : Nat} (hTimer : ⟨hash, .enqueueCleanup⟩ ∈ (T.state n).timers) :
      ∃ m, n ≤ m ∧ .uplinkCleanup hash ∈ (T.state m).queue := by
    obtain ⟨m, hLater, -, hQueue⟩ := h.advances hTimer
    exact ⟨m, hLater, hQueue _ List.mem_cons_self⟩
  have hCleanup {n : Nat} (hTimer : ⟨hash, .sleepCleanup⟩ ∈ (T.state n).timers) :
      ∃ m, n ≤ m ∧ .uplinkCleanup hash ∈ (T.state m).queue := by
    obtain ⟨m, hLater, hNext, -⟩ := h.advances hTimer
    obtain ⟨last, hEven, hFound⟩ := hLast (hNext _ rfl)
    exact ⟨last, hLater.trans hEven, hFound⟩
  have hSend {n : Nat} (hTimer : ⟨hash, .enqueueSend⟩ ∈ (T.state n).timers) :
      ∃ m, n ≤ m ∧ .uplinkCleanup hash ∈ (T.state m).queue := by
    obtain ⟨m, hLater, hNext, -⟩ := h.advances hTimer
    obtain ⟨last, hEven, hFound⟩ := hCleanup (hNext _ rfl)
    exact ⟨last, hLater.trans hEven, hFound⟩
  cases phase with
  | sleepDedup =>
      obtain ⟨m, hLater, hNext, -⟩ := h.advances hTimer
      obtain ⟨last, hEven, hFound⟩ := hSend (hNext _ rfl)
      exact ⟨last, hLater.trans hEven, hFound⟩
  | enqueueSend => exact hSend hTimer
  | sleepCleanup => exact hCleanup hTimer
  | enqueueCleanup => exact hLast hTimer

/-- Every bucket is removed again. -/
theorem Lively.idle_again (h : Lively T) {n : Nat} {hash : PacketHash}
    (hLifecycle : (T.state n).Lifecycle hash) :
    ∃ m, n ≤ m ∧ (T.state m).bucket hash = none := by
  have hRemoved {n : Nat} (hQueue : .uplinkCleanup hash ∈ (T.state n).queue) :
      ∃ m, n ≤ m ∧ (T.state m).bucket hash = none := by
    obtain ⟨ahead, hAhead⟩ := List.getElem?_of_mem hQueue
    have hMsg : (T.state n).history[(T.state n).log.length + ahead]? = some (.uplinkCleanup hash) := by
      rw [history, List.getElem?_append_right (by rw [List.length_map]; omega), List.length_map,
        Nat.add_sub_cancel_left, hAhead]
    obtain ⟨m, hLater, hTurn, -, hHead⟩ := h.exists_turn ahead hMsg rfl
    refine ⟨m + 1, by omega, ?_⟩
    rw [(turnAt_of_takes hTurn hHead).2 hash]
    exact if_pos rfl
  cases hBucket : (T.state n).bucket hash with
  | none => exact ⟨n, Nat.le_refl n, hBucket⟩
  | some packets =>
      obtain hQueue | ⟨⟨own, phase⟩, hTimer, rfl⟩ := hLifecycle.cleanup_pending hBucket
      · exact hRemoved hQueue
      · obtain ⟨m, hLater, hQueue⟩ := h.cleanup_of_timer hTimer
        obtain ⟨last, hEven, hIdle⟩ := hRemoved hQueue
        exact ⟨last, hLater.trans hEven, hIdle⟩

/-- What has happened to a copy in the end: it belongs to a generation that was
offered for sending and closed. -/
def Settled (c : Crates) (s : Service) (copy : Nat × PacketUp) : Prop :=
  ∃ g ∈ (s.ledger c).generations, copy ∈ g.items ∧ g.offer ≠ none ∧ g.closed ≠ none

/-- While the bucket of its hash is empty, a handled copy is settled. -/
theorem settled_of_idle {settings : HttpSettings} {events : List Event}
    (run : Runs c settings events s) {copy : Nat × PacketUp} (hCopy : copy ∈ s.copies)
    (hIdle : s.bucket (copy.2.hash c) = none) : s.Settled c copy := by
  have hBooks := books_of_run run
  obtain ⟨g, hg, hItem, hHash⟩ := hBooks.exists_of_copy hCopy
  have hClosed : g.closed ≠ none := by
    have hStored := hBooks.stored g.key
    rw [← hHash, hIdle, eq_comm, Option.map_eq_none_iff, hHash] at hStored
    obtain ⟨time, hTime⟩ := hBooks.faithful.closed_of_idle hg hStored
    rw [hTime]
    exact Option.some_ne_none time
  exact ⟨g, hg, hItem, offeredFirst_of_run run g hg hClosed, hClosed⟩

/-- Under fair scheduling every message is handled at its place, every packet
is settled and every bucket is removed again. -/
theorem Lively.settles (h : Lively T) {settings : HttpSettings} (hStart : T.state 0 = init settings)
    (n : Nat) :
    (∀ place msg, (T.state n).history[place]? = some msg →
      ∃ m, n ≤ m ∧ ∃ action, (T.state m).TurnAt place msg action) ∧
    (∀ place packet, (T.state n).history[place]? = some (.uplinkReceive packet) →
      ∃ m, n ≤ m ∧ (T.state m).Settled c (place, packet)) ∧
    ∀ hash, ∃ m, n ≤ m ∧ (T.state m).bucket hash = none := by
  have hRun (n : Nat) : ∃ events, Runs c settings events (T.state n) := by
    have := T.exists_run n
    rwa [hStart] at this
  have hIdle (n : Nat) (hash : PacketHash) : ∃ m, n ≤ m ∧ (T.state m).bucket hash = none := by
    obtain ⟨events, run⟩ := hRun n
    exact h.idle_again (lifecycle_of_run run hash)
  refine ⟨fun place msg hMsg => h.handled hMsg, fun place packet hMsg => ?_, hIdle n⟩
  obtain ⟨m, hLater, action, hTurn⟩ := h.handled hMsg
  obtain ⟨last, hEven, hBucket⟩ := hIdle m (packet.hash c)
  obtain ⟨events, run⟩ := hRun last
  have hCopy : (place, packet) ∈ (T.state last).copies :=
    mem_copies.mpr ⟨action, hTurn.later (log_grows T hEven)⟩
  exact ⟨last, hLater.trans hEven, settled_of_idle run hCopy hBucket⟩

end

end Service

namespace System

variable {c : Crates} {s t : System}

theorem timer_step {event : SystemEvent} {timer : Timer} (h : System.step c s event = some t)
    (hTimer : timer ∈ s.service.timers)
    (hWaits : ∀ before after, s.service.timers = before ++ timer :: after →
      event ≠ .timer before.length) : timer ∈ t.service.timers := by
  cases event with
  | stream inner =>
      obtain ⟨_, _, -, -, rfl⟩ | ⟨_, _, _, -, -, rfl⟩ | ⟨_, _, hOther, -⟩ := step_cases h
      · exact hTimer
      · exact hTimer
      · exact absurd rfl (hOther inner)
  | timer index =>
      refine Service.timer_step (stepService_eq_some h) hTimer fun before after hTimers hSame => ?_
      cases hSame
      exact hWaits before after hTimers rfl
  | downlink | dropReceiver | turn =>
      exact Service.timer_step (stepService_eq_some h) hTimer (by simp)

end System

namespace BoundedSystem

variable {c : Crates}

/-- What the program relies on: no message makes the app panic, the loop moves
whenever it can, no client stalls it for ever, and a timer advances unless the
queue is full from some time on. -/
structure Fair (T : Trace (BoundedSystem.step c)) : Prop where
  calm : ∀ n, ¬ (T.state n).system.service.Panicking c
  loop : ∀ n, (T.state n).receive c ≠ none ∨ (T.state n).deliver ≠ none →
    ∃ m, n ≤ m ∧ (T.Takes m .receive ∨ T.Takes m .deliver)
  clients : ∀ n tx, (T.state n).Stalled tx → ∃ m, n ≤ m ∧ ¬ (T.state m).Stalled tx
  timers : ∀ n, ∀ timer ∈ (T.state n).system.service.timers,
    (∀ k, ∃ m, k ≤ m ∧ (T.state m).system.service.queue.length < queueCapacity) →
    ∃ m, n ≤ m ∧ ∃ before after, (T.state m).system.service.timers = before ++ timer :: after ∧
      T.Takes m (.timer before.length)

variable {s t : BoundedSystem}

/-- Only the loop begins or ends to send. -/
theorem sending_step {event : BoundedEvent} (h : BoundedSystem.step c s event = some t)
    (hReceive : event ≠ .receive) (hDeliver : event ≠ .deliver) : t.sending = s.sending := by
  obtain ⟨_, _, _, -, -, -, rfl⟩ | ⟨_, -, rfl⟩ | ⟨_, _, -, -, rfl⟩ | ⟨rfl, -⟩ | ⟨rfl, -⟩ :=
    step_cases h
  · rfl
  · rfl
  · rfl
  · exact absurd rfl hReceive
  · exact absurd rfl hDeliver

section

variable {T : Trace (BoundedSystem.step c)}

/-- The loop goes on sending, or goes on waiting, until it moves. -/
theorem until_loop (T : Trace (BoundedSystem.step c)) {n : Nat}
    (hMoves : ∃ m, n ≤ m ∧ (T.Takes m .receive ∨ T.Takes m .deliver)) :
    ∃ m, n ≤ m ∧ (T.state m).sending = (T.state n).sending ∧
      (T.Takes m .receive ∨ T.Takes m .deliver) := by
  refine Trace.until_happens (fun s : BoundedSystem => s.sending = (T.state n).sending)
    (fun m => T.Takes m .receive ∨ T.Takes m .deliver) rfl ?_ hMoves
  intro m _ hSame hRests
  push Not at hRests
  obtain hStill | ⟨event, hStep⟩ := T.next m
  · rw [hStill, hSame]
  · rw [← hSame]
    refine sending_step hStep ?_ ?_
    · rintro rfl
      exact hRests.1 hStep
    · rintro rfl
      exact hRests.2 hStep

/-- A stalled loop can deliver as soon as its client lets it. -/
theorem Fair.unstalls (h : Fair T) {n : Nat} {tx : GatewayTx} (hStalled : (T.state n).Stalled tx) :
    ∃ m, n ≤ m ∧ (T.state m).sending = (T.state n).sending ∧ (T.state m).deliver ≠ none := by
  obtain ⟨own, hSending, rfl⟩ := hStalled.sending
  have hKeep : ∀ m, n ≤ m → (T.state m).sending = (T.state n).sending →
      ¬ ¬ (T.state m).Stalled own.tx → (T.state (m + 1)).sending = (T.state n).sending := by
    intro m _ hSame hStill
    have hStill := not_not.mp hStill
    obtain ⟨_, hOwn, -⟩ := hStill.sending
    obtain hRests | ⟨event, hStep⟩ := T.next m
    · rw [hRests, hSame]
    · rw [← hSame]
      refine sending_step hStep ?_ ?_
      · rintro rfl
        have hNone : (T.state m).receive c = none := receive_eq_none.mpr (.inl (by simp [hOwn]))
        rw [show (T.state m).receive c = _ from hStep] at hNone
        cases hNone
      · rintro rfl
        have hNone : (T.state m).deliver = none := deliver_eq_none.mpr (.inr ⟨_, hStill⟩)
        rw [show (T.state m).deliver = _ from hStep] at hNone
        cases hNone
  obtain ⟨m, hLater, hSame, hFree⟩ := Trace.until_happens
    (fun s : BoundedSystem => s.sending = (T.state n).sending)
    (fun m => ¬ (T.state m).Stalled own.tx) rfl hKeep (h.clients n own.tx hStalled)
  refine ⟨m, hLater, hSame, fun hNone => ?_⟩
  obtain hIdle | ⟨tx, hOther⟩ := deliver_eq_none.mp hNone
  · rw [hSame, hSending] at hIdle
    cases hIdle
  · obtain ⟨other, hOwn, rfl⟩ := hOther.sending
    obtain rfl : own = other := by
      rw [hSame, hSending] at hOwn
      exact Option.some.inj hOwn
    exact hFree hOther

/-- What the loop is sending leaves it. -/
theorem Fair.delivers (h : Fair T) {n : Nat} (hSending : (T.state n).sending ≠ none) :
    ∃ m, n ≤ m ∧ T.Takes m .deliver := by
  have hReady : ∃ m, n ≤ m ∧ (T.state m).sending = (T.state n).sending ∧
      (T.state m).deliver ≠ none := by
    by_cases hNone : (T.state n).deliver = none
    · obtain hIdle | ⟨tx, hStalled⟩ := deliver_eq_none.mp hNone
      · exact absurd hIdle hSending
      · exact h.unstalls hStalled
    · exact ⟨n, Nat.le_refl n, rfl, hNone⟩
  obtain ⟨ready, hFirst, hSame, hDeliver⟩ := hReady
  obtain ⟨m, hLater, hStill, hReceive | hDone⟩ := until_loop T (h.loop ready (.inr hDeliver))
  · have hNone : (T.state m).receive c = none :=
      receive_eq_none.mpr (.inl (by rwa [hStill, hSame]))
    rw [show (T.state m).receive c = _ from hReceive] at hNone
    cases hNone
  · exact ⟨m, hFirst.trans hLater, hDone⟩

/-- An idle loop takes the next message. -/
theorem Fair.receives (h : Fair T) {n : Nat} (hIdle : (T.state n).sending = none)
    (hQueue : (T.state n).system.service.queue ≠ []) : ∃ m, n ≤ m ∧ T.Takes m .receive := by
  have hReady : (T.state n).receive c ≠ none := by
    rw [ne_eq, receive_eq_none]
    rintro (hSending | hEmpty | hPanic)
    · exact hSending hIdle
    · exact hQueue hEmpty
    · exact h.calm n hPanic
  obtain ⟨m, hLater, hStill, hDone | hDeliver⟩ := until_loop T (h.loop n (.inl hReady))
  · exact ⟨m, hLater, hDone⟩
  · have hNone : (T.state m).deliver = none := deliver_eq_none.mpr (.inl (hStill.trans hIdle))
    rw [show (T.state m).deliver = _ from hDeliver] at hNone
    cases hNone

/-- Again and again the queue has room. -/
theorem Fair.room (h : Fair T) (n : Nat) :
    ∃ m, n ≤ m ∧ (T.state m).system.service.queue.length < queueCapacity := by
  have hFromIdle {n : Nat} (hIdle : (T.state n).sending = none) :
      ∃ m, n ≤ m ∧ (T.state m).system.service.queue.length < queueCapacity := by
    by_cases hQueue : (T.state n).system.service.queue = []
    · exact ⟨n, Nat.le_refl n, by rw [hQueue]; decide⟩
    · obtain ⟨m, hLater, hReceive⟩ := h.receives hIdle hQueue
      refine ⟨m + 1, by omega, ?_⟩
      have hRoom := (T.state m).room
      obtain ⟨msg, rest, room, -, hOwn, ⟨_, _, _, -, hNext⟩ | ⟨_, _, -, -, hNext⟩⟩ :=
          receive_cases hReceive <;>
        · rw [hOwn, List.length_cons] at hRoom
          rw [hNext]
          exact hRoom
  by_cases hIdle : (T.state n).sending = none
  · exact hFromIdle hIdle
  · obtain ⟨m, hLater, hDeliver⟩ := h.delivers hIdle
    have hDone : (T.state (m + 1)).sending = none := by
      obtain ⟨_, -, ⟨-, hNext⟩ | ⟨_, -, -, hNext⟩⟩ := deliver_cases hDeliver <;>
        · rw [hNext]
          rfl
    obtain ⟨last, hEven, hFree⟩ := hFromIdle hDone
    exact ⟨last, by omega, hFree⟩

/-- The trace of the service behind the bounded channels. -/
def service (T : Trace (BoundedSystem.step c)) (hHandled : ∀ n, (T.state n).Handled c) :
    Trace (Service.step c) where
  state n := (T.state n).unbounded.service
  next n := by
    obtain hRests | ⟨event, hStep⟩ := T.next n
    · exact .inl (by rw [hRests])
    · obtain hSame | ⟨move, hMove⟩ := unbounded_step (hHandled n) hStep
      · exact .inl (by rw [hSame])
      · exact System.service_step hMove

/-- A fair system makes a lively service. -/
theorem Fair.lively (h : Fair T) (hHandled : ∀ n, (T.state n).Handled c) :
    Service.Lively (service T hHandled) where
  turns := by
    intro n hQueue
    have hDelivered {n : Nat} (hSending : (T.state n).sending ≠ none) :
        ∃ m, n ≤ m ∧ (service T hHandled).Takes m .turn := by
      obtain ⟨m, hLater, hDeliver⟩ := h.delivers hSending
      exact ⟨m, hLater, System.stepService_eq_some (unbounded_deliver (hHandled m) hDeliver)⟩
    by_cases hIdle : (T.state n).sending = none
    · have hWaiting : (T.state n).system.service.queue ≠ [] := by
        simpa [service, unbounded, System.delay, hIdle] using hQueue
      obtain ⟨m, hLater, hReceive⟩ := h.receives hIdle hWaiting
      obtain ⟨hSending, -⟩ | hTurn := unbounded_receive hReceive
      · obtain ⟨last, hEven, hTurn⟩ := hDelivered hSending
        exact ⟨last, by omega, hTurn⟩
      · exact ⟨m, hLater, System.stepService_eq_some hTurn⟩
    · exact hDelivered hIdle
  timers := by
    intro n timer hTimer
    obtain ⟨m, hLater, before, after, hTimers, hStep⟩ := h.timers n timer hTimer h.room
    obtain ⟨system, room, hNext, hState⟩ := task_eq_some.mp hStep
    obtain ⟨-, -, -, -, hDelay⟩ := System.step_aside hNext (by simp)
    refine ⟨m, hLater, before, after, hTimers, ?_⟩
    have hMove := System.stepService_eq_some
      (hDelay ((T.state m).sending.map Transmission.msg).toList)
    refine hMove.trans ?_
    simp only [service, unbounded, hState]

/-- **Everything settles in the end.** On every fair trace of the system with
its bounded channels, from its start on: each message that has entered the queue
is handled at its place, each received packet ends up in a generation that was
offered and closed, and each bucket is removed again. -/
theorem everything_settles (hFair : Fair T) {settings : HttpSettings}
    (hStart : T.state 0 = init settings) (n : Nat) :
    (∀ place msg, (T.state n).unbounded.service.history[place]? = some msg →
      ∃ m, n ≤ m ∧ ∃ action, (T.state m).system.service.TurnAt place msg action) ∧
    (∀ place packet,
      (T.state n).unbounded.service.history[place]? = some (.uplinkReceive packet) →
      ∃ m, n ≤ m ∧ (T.state m).system.service.Settled c (place, packet)) ∧
    ∀ hash, ∃ m, n ≤ m ∧ (T.state m).system.service.bucket hash = none := by
  have hHandled (n : Nat) : (T.state n).Handled c := by
    obtain ⟨events, hRun⟩ := T.exists_run n
    rw [hStart] at hRun
    exact (unbounded_of_run hRun).1
  have hBegin : (service T hHandled).state 0 = Service.init settings := by
    simp only [service, hStart]
    rfl
  exact (hFair.lively hHandled).settles hBegin n

/-- The system has nothing left to do. -/
structure Quiet (s : BoundedSystem) : Prop where
  idle : s.sending = none
  drained : s.system.service.queue = []
  asleep : s.system.service.timers = []

/-- A message on which the app panics stays at the head of the queue. -/
theorem panicking_step {event : BoundedEvent} (h : s.system.service.Panicking c)
    (hStep : BoundedSystem.step c s event = some t) : t.system.service.Panicking c := by
  obtain ⟨inner, system, room, hTurn, -, hNext, rfl⟩ | ⟨tx, -, rfl⟩ | ⟨tx, ch, -, -, rfl⟩ |
    ⟨-, hReceive⟩ | ⟨-, hDeliver⟩ := step_cases hStep
  · obtain ⟨hApp, -, ⟨arrived, hArrived⟩, -⟩ := System.step_aside hNext hTurn
    obtain ⟨msg, rest, reason, hQueue, hPanic⟩ := h
    refine ⟨msg, rest ++ arrived, reason, ?_, by rwa [hApp]⟩
    rw [hArrived, hQueue, List.cons_append]
  · exact h
  · exact h
  · have hNone : s.receive c = none := receive_eq_none.mpr (.inr (.inr h))
    rw [hNone] at hReceive
    cases hReceive
  · obtain ⟨_, -, ⟨-, rfl⟩ | ⟨_, -, -, rfl⟩⟩ := deliver_cases hDeliver <;> exact h

/-- Messages leave the queue only through the loop. -/
theorem queue_step {event : BoundedEvent} (h : BoundedSystem.step c s event = some t)
    (hReceive : event ≠ .receive) : s.system.service.queue <+: t.system.service.queue := by
  obtain ⟨inner, system, room, hTurn, -, hNext, rfl⟩ | ⟨_, -, rfl⟩ | ⟨_, _, -, -, rfl⟩ | ⟨rfl, -⟩ |
    ⟨-, hDeliver⟩ := step_cases h
  · obtain ⟨-, -, ⟨arrived, hArrived⟩, -⟩ := System.step_aside hNext hTurn
    exact ⟨arrived, hArrived.symm⟩
  · exact List.prefix_rfl
  · exact List.prefix_rfl
  · exact absurd rfl hReceive
  · obtain ⟨_, -, ⟨-, rfl⟩ | ⟨_, -, -, rfl⟩⟩ := deliver_cases hDeliver <;> exact List.prefix_rfl

theorem timer_step {event : BoundedEvent} {timer : Timer} (h : BoundedSystem.step c s event = some t)
    (hTimer : timer ∈ s.system.service.timers)
    (hWaits : ∀ before after, s.system.service.timers = before ++ timer :: after →
      event ≠ .timer before.length) : timer ∈ t.system.service.timers := by
  cases event with
  | timer index =>
      obtain ⟨system, room, hNext, rfl⟩ := task_eq_some.mp h
      refine System.timer_step hNext hTimer fun before after hTimers hSame => ?_
      cases hSame
      exact hWaits before after hTimers rfl
  | stream | downlink | dropReceiver =>
      obtain ⟨system, room, hNext, rfl⟩ := task_eq_some.mp h
      exact System.timer_step hNext hTimer (by simp)
  | read tx =>
      obtain ⟨ch, -, rfl⟩ := Option.map_eq_some_iff.mp h
      exact hTimer
  | receive =>
      obtain ⟨_, _, _, -, -, ⟨_, _, _, -, rfl⟩ | ⟨_, _, -, -, rfl⟩⟩ := receive_cases h
      · exact hTimer
      · exact List.mem_append_left _ hTimer
  | deliver =>
      obtain ⟨_, -, ⟨-, rfl⟩ | ⟨_, -, -, rfl⟩⟩ := deliver_cases h <;>
        exact List.mem_append_left _ hTimer

/-- A trace that comes to rest with nothing left to do was fair. -/
theorem fair_of_quiet {last : Nat} (hQuiet : ∀ n, last ≤ n → (T.state n).Quiet) : Fair T where
  calm n hPanic := by
    have hStill : (T.state (max n last)).system.service.Panicking c :=
      Trace.persists (fun s : BoundedSystem => s.system.service.Panicking c) hPanic
        (fun _ _ _ h hStep => panicking_step h hStep) (Nat.le_max_left ..)
    obtain ⟨_, _, _, hQueue, -⟩ := hStill
    rw [(hQuiet _ (Nat.le_max_right ..)).drained] at hQueue
    cases hQueue
  loop n hMoves := by
    by_contra hRests
    push Not at hRests
    have hAlways : ∀ m, n ≤ m → (T.state m).sending = (T.state n).sending ∧
        (T.state n).system.service.queue <+: (T.state m).system.service.queue := by
      intro m hLater
      induction hLater with
      | refl => exact ⟨rfl, List.prefix_rfl⟩
      | @step m hLater ih =>
          obtain hStill | ⟨event, hStep⟩ := T.next m
          · rwa [hStill]
          · have hReceive : event ≠ .receive := by
              rintro rfl
              exact (hRests m hLater).1 hStep
            have hDeliver : event ≠ .deliver := by
              rintro rfl
              exact (hRests m hLater).2 hStep
            exact ⟨(sending_step hStep hReceive hDeliver).trans ih.1,
              ih.2.trans (queue_step hStep hReceive)⟩
    have hEnd := hQuiet _ (Nat.le_max_right n last)
    obtain ⟨hSending, hQueue⟩ := hAlways _ (Nat.le_max_left n last)
    rw [hEnd.idle] at hSending
    rw [hEnd.drained, List.prefix_nil] at hQueue
    rcases hMoves with hReceive | hDeliver
    · exact hReceive (receive_eq_none.mpr (.inr (.inl hQueue)))
    · exact hDeliver (deliver_eq_none.mpr (.inl hSending.symm))
  clients n tx _ := by
    refine ⟨max n last, Nat.le_max_left .., fun hStalled => ?_⟩
    obtain ⟨m, hSending, -⟩ := hStalled.sending
    rw [(hQuiet _ (Nat.le_max_right ..)).idle] at hSending
    cases hSending
  timers n timer hTimer _ := by
    by_contra hRests
    push Not at hRests
    have hAlways : ∀ m, n ≤ m → timer ∈ (T.state m).system.service.timers := by
      intro m hLater
      induction hLater with
      | refl => exact hTimer
      | @step m hLater ih =>
          obtain hStill | ⟨event, hStep⟩ := T.next m
          · rwa [hStill]
          · refine timer_step hStep ih fun before after hTimers hSame => ?_
            subst hSame
            exact hRests m hLater before after hTimers hStep
    have hStill := hAlways _ (Nat.le_max_left n last)
    rw [(hQuiet _ (Nat.le_max_right ..)).asleep] at hStill
    cases hStill

end

/-- A join request that is handled, requested and forgotten. -/
theorem sample_settles :
    ∃ T : Trace (BoundedSystem.step Crates.sample), T.state 0 = init .sample ∧ Fair T ∧
      ∃ m, (T.state m).system.service.Settled Crates.sample (1, .sample joinFrame [0]) := by
  obtain ⟨s, run, hIdle, hDrained, hAsleep, hHistory⟩ : ∃ s, Runs Crates.sample .sample
      [.stream .opens, .stream (.read 0 (.packet (.sample joinFrame [0]))), .stream (.send 0),
        .stream (.send 0), .receive, .receive, .timer 0, .timer 0, .receive, .timer 0, .timer 0,
        .receive] s ∧ s.sending = none ∧ s.system.service.queue = [] ∧ s.system.service.timers = [] ∧
      s.unbounded.service.history[1]? = some (.uplinkReceive (.sample joinFrame [0])) :=
    ⟨_, run_of_exec rfl, rfl, rfl, rfl, rfl⟩
  obtain ⟨T, hStart, hEnd⟩ := run.exists_trace
  have hFair : Fair T := fair_of_quiet fun n hLater => by
    rw [hEnd n hLater]
    exact ⟨hIdle, hDrained, hAsleep⟩
  obtain ⟨-, hSettles, -⟩ := everything_settles hFair hStart 12
  obtain ⟨m, -, hSettled⟩ := hSettles 1 (.sample joinFrame [0]) (by
    rw [hEnd 12 (Nat.le_refl _)]
    exact hHistory)
  exact ⟨T, hStart, hFair, m, hSettled⟩

end BoundedSystem

end PacketRouter.HttpRoaming
