import PacketRouterIngest.HttpRoaming.Service
import PacketRouterIngest.Semantics.Pending
import PacketRouterIngest.Semantics.Lifecycles

/-! The lifecycle of a bucket. For one hash, the timer messages already handled
followed by those still to come form complete lifecycles, and a bucket exists
exactly while its last lifecycle is unfinished. -/
namespace PacketRouter.HttpRoaming

open Rust Semantics

/-- The two messages of a timer. -/
inductive Stage where
  | send
  | cleanup
deriving DecidableEq, Repr

/-- The stage that a message is for a hash. -/
def Msg.stage (hash : PacketHash) : Msg → Option Stage
  | .uplinkSend sent => if sent = hash then some .send else none
  | .uplinkCleanup removed => if removed = hash then some .cleanup else none
  | _ => none

/-- The stages a timer has yet to enqueue. -/
def TimerPhase.future : TimerPhase → List Stage
  | .sleepDedup | .enqueueSend => [.send, .cleanup]
  | .sleepCleanup | .enqueueCleanup => [.cleanup]

def Timer.future (hash : PacketHash) (t : Timer) : List Stage :=
  if t.hash = hash then t.phase.future else []

namespace Service

/-- Stages of a hash that the loop has yet to handle, in order. -/
def pendingStages (s : Service) (hash : PacketHash) : List Stage :=
  pending (Msg.stage hash) (Timer.future hash) s.queue s.timers

/-- Stages of a hash that the loop has handled, in order. -/
def handledStages (s : Service) (hash : PacketHash) : List Stage :=
  s.log.filterMap (fun turn => turn.msg.stage hash)

def bucket (s : Service) (hash : PacketHash) : Option (List PacketUp) :=
  s.app.deduplicator.getPackets hash

/-- Timers of a hash whose cleanup has not been taken out of the queue. -/
def unfinished (s : Service) (hash : PacketHash) : Nat :=
  s.timers.countP (fun t => t.hash = hash) +
    s.queue.countP (fun msg => msg.stage hash = some .cleanup)

/-- Where one hash stands: idle, collecting or waiting for its cleanup. -/
structure Lifecycle (s : Service) (hash : PacketHash) : Prop where
  stands : (s.bucket hash = none ∧ s.pendingStages hash = []) ∨
    ∃ packets, s.bucket hash = some packets ∧ packets ≠ [] ∧
      (s.pendingStages hash = [.send, .cleanup] ∨ s.pendingStages hash = [.cleanup])
  history : ∃ n, lifecycles .send .cleanup n = s.handledStages hash ++ s.pendingStages hash

end Service

theorem Msg.stage_input (hash : PacketHash) (input : Input) : input.toMsg.stage hash = none := by
  cases input <;> rfl

theorem Msg.stage_eq_cleanup {hash : PacketHash} {msg : Msg} :
    msg.stage hash = some .cleanup ↔ msg = .uplinkCleanup hash := by
  cases msg with
  | uplinkSend sent => by_cases hHash : sent = hash <;> simp [stage, hHash]
  | uplinkCleanup removed => simp [stage]
  | uplinkReceive | downlink | gatewayConnect | gatewayDisconnect => simp [stage]

/-- A timer that works for a hash ends with the cleanup of that hash. -/
theorem Timer.cleanup_mem_future {hash : PacketHash} {t : Timer} (h : t.future hash ≠ []) :
    Stage.cleanup ∈ t.future hash := by
  obtain ⟨owner, phase⟩ := t
  simp only [future] at h ⊢
  split_ifs at h ⊢ with hHash
  · cases phase <;> simp [TimerPhase.future]
  · exact absurd rfl h

/-- Advancing splits off the first part of a timer's future. -/
theorem Timer.future_advance (hash : PacketHash) (t : Timer) :
    t.future hash =
      t.advance.2.filterMap (Msg.stage hash) ++ t.advance.1.toList.flatMap (Timer.future hash) := by
  obtain ⟨owner, phase⟩ := t
  by_cases hHash : owner = hash <;>
    cases phase <;> simp [advance, future, TimerPhase.future, Msg.stage, hHash]

namespace Service

variable {c : Crates} {s t : Service} {hash : PacketHash}

theorem lifecycle_init (settings : HttpSettings) : (init settings).Lifecycle hash where
  stands := .inl ⟨rfl, rfl⟩
  history := ⟨0, rfl⟩

/-- At most one cleanup of a hash is to come. -/
theorem Lifecycle.count_cleanup (h : s.Lifecycle hash) :
    (s.pendingStages hash).count .cleanup ≤ 1 := by
  obtain ⟨-, hPending⟩ | ⟨_, -, -, hPending | hPending⟩ := h.stands <;> simp [hPending]

/-- What is to come does not change when a timer advances: the stage moves
from the timer into the queue. -/
theorem pendingStages_timer {before after : List Timer} {timer : Timer}
    (h : s.Lifecycle hash) (hTimers : s.timers = before ++ timer :: after) :
    ({ s with
      queue := s.queue ++ timer.advance.2
      timers := before ++ timer.advance.1.toList ++ after } : Service).pendingStages hash =
      s.pendingStages hash := by
  have hCount := h.count_cleanup
  simp only [pendingStages, hTimers] at hCount ⊢
  refine pending_advance (Timer.future_advance hash timer) (fun hEmitted => ?_)
  have hWorks : timer.future hash ≠ [] := by
    rw [Timer.future_advance]
    exact fun h => hEmitted (List.append_eq_nil_iff.mp h).1
  exact flatMap_eq_nil_of_count Stage.cleanup
    (fun t _ => Timer.cleanup_mem_future) (Timer.cleanup_mem_future hWorks) hCount

/-- A turn takes its own stage off what is to come and adds the future of
the timer it spawns. -/
theorem pendingStages_afterTurn {msg : Msg} {rest : List Msg} (hash : PacketHash) (app : App)
    (action : UpdateAction) (hQueue : s.queue = msg :: rest) :
    ∃ later, s.pendingStages hash = (msg.stage hash).toList ++ later ∧
      (s.afterTurn msg rest app action).pendingStages hash =
        later ++ (s.effects action).spawned.flatMap (Timer.future hash) := by
  refine ⟨pending (Msg.stage hash) (Timer.future hash) rest s.timers, ?_, pending_spawn _⟩
  rw [pendingStages, hQueue, pending_take]

theorem handledStages_afterTurn (s : Service) (hash : PacketHash) (msg : Msg) (rest : List Msg)
    (app : App) (action : UpdateAction) :
    (s.afterTurn msg rest app action).handledStages hash =
      s.handledStages hash ++ (msg.stage hash).toList := by
  cases h : msg.stage hash <;> simp [handledStages, afterTurn, h]

/-- A turn that changes neither the bucket nor the stages keeps the lifecycle. -/
theorem Lifecycle.of_unchanged (h : s.Lifecycle hash) (hBucket : t.bucket hash = s.bucket hash)
    (hPending : t.pendingStages hash = s.pendingStages hash)
    (hHandled : t.handledStages hash = s.handledStages hash) : t.Lifecycle hash where
  stands := by
    rw [hBucket, hPending]
    exact h.stands
  history := by
    rw [hHandled, hPending]
    exact h.history

/-- A packet of an unknown hash opens a bucket, and with it the next lifecycle. -/
theorem Lifecycle.opened {packets : List PacketUp} (h : s.Lifecycle hash)
    (hNone : s.bucket hash = none) (hSome : t.bucket hash = some packets) (hNe : packets ≠ [])
    (hPending : t.pendingStages hash = s.pendingStages hash ++ [.send, .cleanup])
    (hHandled : t.handledStages hash = s.handledStages hash) : t.Lifecycle hash := by
  obtain ⟨-, hIdle⟩ | ⟨packets', hSome', -, -⟩ := h.stands
  · obtain ⟨n, hHistory⟩ := h.history
    rw [hIdle, List.nil_append] at hPending
    refine ⟨.inr ⟨packets, hSome, hNe, .inl hPending⟩, n + 1, ?_⟩
    rw [hPending, hHandled, lifecycles_succ', hHistory, hIdle, List.append_nil]
  · rw [hNone] at hSome'
    cases hSome'

/-- A packet of a known hash joins the bucket of the running lifecycle. -/
theorem Lifecycle.joined {packets packets' : List PacketUp} (h : s.Lifecycle hash)
    (hSome : s.bucket hash = some packets) (hSome' : t.bucket hash = some packets')
    (hNe : packets' ≠ []) (hPending : t.pendingStages hash = s.pendingStages hash)
    (hHandled : t.handledStages hash = s.handledStages hash) : t.Lifecycle hash := by
  obtain ⟨hNone, -⟩ | ⟨_, -, -, hStages⟩ := h.stands
  · rw [hNone] at hSome
    cases hSome
  · rw [← hPending] at hStages
    exact ⟨.inr ⟨packets', hSome', hNe, hStages⟩, by rw [hHandled, hPending]; exact h.history⟩

/-- A send is the first of the two stages: the cleanup stays to come. -/
theorem Lifecycle.sent (h : s.Lifecycle hash)
    (hPending : s.pendingStages hash = .send :: t.pendingStages hash)
    (hBucket : t.bucket hash = s.bucket hash)
    (hHandled : t.handledStages hash = s.handledStages hash ++ [.send]) : t.Lifecycle hash where
  stands := by
    obtain ⟨-, hIdle⟩ | ⟨packets, hSome, hNe, hBoth | hCleanup⟩ := h.stands
    · rw [hIdle] at hPending
      cases hPending
    · rw [hBoth] at hPending
      have hLeft : t.pendingStages hash = [.cleanup] := (List.cons.inj hPending).2.symm
      exact .inr ⟨packets, hBucket.trans hSome, hNe, .inr hLeft⟩
    · simp [hCleanup] at hPending
  history := by
    obtain ⟨n, hHistory⟩ := h.history
    refine ⟨n, ?_⟩
    rw [hHandled, hHistory, hPending, List.append_assoc, List.singleton_append]

/-- The cleanup ends the lifecycle together with the bucket. -/
theorem Lifecycle.cleaned (h : s.Lifecycle hash)
    (hPending : s.pendingStages hash = .cleanup :: t.pendingStages hash)
    (hBucket : t.bucket hash = none)
    (hHandled : t.handledStages hash = s.handledStages hash ++ [.cleanup]) : t.Lifecycle hash where
  stands := by
    obtain ⟨-, hIdle⟩ | ⟨packets, hSome, hNe, hBoth | hCleanup⟩ := h.stands
    · rw [hIdle] at hPending
      cases hPending
    · simp [hBoth] at hPending
    · rw [hCleanup] at hPending
      have hLeft : t.pendingStages hash = [] := (List.cons.inj hPending).2.symm
      exact .inl ⟨hBucket, hLeft⟩
  history := by
    obtain ⟨n, hHistory⟩ := h.history
    refine ⟨n, ?_⟩
    rw [hHandled, hHistory, hPending, List.append_assoc, List.singleton_append]

/-- A turn keeps the lifecycle: a new bucket comes with its timer, a send
leaves the cleanup to come, and the cleanup removes the bucket. -/
theorem Lifecycle.turn {msg : Msg} {rest : List Msg} {app : App} {action : UpdateAction}
    (h : s.Lifecycle hash) (hQueue : s.queue = msg :: rest)
    (hMsg : handleMessage c s.app msg = .ok (app, action)) :
    (s.afterTurn msg rest app action).Lifecycle hash := by
  have hBucket : (s.afterTurn msg rest app action).bucket hash = _ :=
    getPackets_handleMessage hash hMsg
  have hSpawned : (s.effects action).spawned = _ :=
    spawned_handleMessage s.app.settings (fun tx => s.closed.contains tx) hMsg
  obtain ⟨later, hBefore, hAfter⟩ :=
    pendingStages_afterTurn hash app action hQueue
  have hHandled := handledStages_afterTurn s hash msg rest app action
  rw [hSpawned] at hAfter
  cases msg with
  | uplinkReceive packet =>
      have hNow : s.pendingStages hash = later := hBefore
      have hSame := hHandled.trans (List.append_nil _)
      rw [← hNow] at hAfter
      by_cases hHash : hash = packet.hash c
      · subst hHash
        have hFilled := hBucket.trans (if_pos rfl)
        cases hKnown : s.bucket (packet.hash c) with
        | none =>
            refine h.opened hKnown hFilled (by simp) ?_ hSame
            rw [hAfter, Msg.timers_of_none hKnown]
            simp [Timer.future, TimerPhase.future]
        | some packets =>
            refine h.joined hKnown hFilled (by simp) ?_ hSame
            rw [hAfter, Msg.timers_of_some hKnown]
            exact List.append_nil _
      · refine h.of_unchanged (hBucket.trans (if_neg hHash)) ?_ hSame
        rw [hAfter, Msg.timers]
        split_ifs <;> simp [Timer.future, Ne.symm hHash]
  | uplinkSend sent =>
      have hLeft := hAfter.trans (List.append_nil later)
      rw [← hLeft] at hBefore
      by_cases hHash : sent = hash
      · have hStage : (Msg.uplinkSend sent).stage hash = some .send := by simp [Msg.stage, hHash]
        rw [hStage] at hBefore hHandled
        exact h.sent hBefore hBucket hHandled
      · have hStage : (Msg.uplinkSend sent).stage hash = none := by simp [Msg.stage, hHash]
        rw [hStage] at hBefore hHandled
        exact h.of_unchanged hBucket hBefore.symm (hHandled.trans (List.append_nil _))
  | uplinkCleanup removed =>
      have hLeft := hAfter.trans (List.append_nil later)
      rw [← hLeft] at hBefore
      by_cases hHash : removed = hash
      · have hStage : (Msg.uplinkCleanup removed).stage hash = some .cleanup := by
          simp [Msg.stage, hHash]
        rw [hStage] at hBefore hHandled
        exact h.cleaned hBefore (hBucket.trans (if_pos hHash.symm)) hHandled
      · have hStage : (Msg.uplinkCleanup removed).stage hash = none := by simp [Msg.stage, hHash]
        rw [hStage] at hBefore hHandled
        exact h.of_unchanged (hBucket.trans (if_neg (Ne.symm hHash))) hBefore.symm
          (hHandled.trans (List.append_nil _))
  | downlink | gatewayConnect | gatewayDisconnect =>
      refine h.of_unchanged hBucket ?_ (hHandled.trans (List.append_nil _))
      rw [hAfter, hBefore]
      exact List.append_nil _

/-- One event keeps the lifecycle of every hash. -/
theorem Lifecycle.step {event : Event} (h : s.Lifecycle hash)
    (hStep : Service.step c s event = some t) : t.Lifecycle hash := by
  obtain ⟨input, -, rfl⟩ | ⟨before, timer, after, -, hTimers, rfl⟩ | ⟨tx, -, rfl⟩ |
    ⟨msg, rest, app, action, -, hQueue, hMsg, rfl⟩ := step_cases hStep
  · have hPending : pending (Msg.stage hash) (Timer.future hash) (s.queue ++ [input.toMsg]) s.timers =
        s.pendingStages hash := pending_arrive (Msg.stage_input hash input)
    exact ⟨by simpa only [bucket, pendingStages, hPending] using h.stands,
      by simpa only [handledStages, pendingStages, hPending] using h.history⟩
  · have hPending := pendingStages_timer h hTimers
    exact ⟨by rw [hPending]; exact h.stands, by rw [hPending]; exact h.history⟩
  · exact ⟨h.stands, h.history⟩
  · exact h.turn hQueue hMsg

theorem lifecycle_of_run {settings : HttpSettings} {events : List Event}
    (run : Runs c settings events s) (hash : PacketHash) : s.Lifecycle hash :=
  run.invariant (Lifecycle · hash) (lifecycle_init settings) (fun _ _ _ _ h hStep => h.step hStep)

/-- The unfinished timers are those whose cleanup is still to come. -/
theorem unfinished_eq (s : Service) (hash : PacketHash) :
    s.unfinished hash = (s.pendingStages hash).count .cleanup := by
  have hTimers (timers : List Timer) :
      (timers.flatMap (Timer.future hash)).count .cleanup =
        timers.countP (fun t => t.hash = hash) := by
    induction timers with
    | nil => rfl
    | cons timer timers ih =>
        obtain ⟨owner, phase⟩ := timer
        rw [List.flatMap_cons, List.count_append, ih, List.countP_cons]
        by_cases hHash : owner = hash
        · cases phase <;> simp [Timer.future, TimerPhase.future, hHash, Nat.add_comm]
        · simp [Timer.future, hHash]
  have hQueue (queue : List Msg) :
      (queue.filterMap (Msg.stage hash)).count .cleanup =
        queue.countP (fun msg => msg.stage hash = some .cleanup) := by
    induction queue with
    | nil => rfl
    | cons msg queue ih =>
        cases hStage : msg.stage hash with
        | none => simp [hStage, ih]
        | some stage => cases stage <;> simp [hStage, ih]
  rw [unfinished, pendingStages, pending, List.count_append, hTimers, hQueue, Nat.add_comm]

/-- A bucket exists exactly while one timer of its hash is unfinished. -/
theorem Lifecycle.bucket_iff (h : s.Lifecycle hash) :
    ((∃ packets, s.bucket hash = some packets) ↔ s.unfinished hash = 1) ∧
      (s.bucket hash = none ↔ s.unfinished hash = 0) := by
  rw [unfinished_eq]
  obtain ⟨hBucket, hPending⟩ | ⟨_, hBucket, -, hPending | hPending⟩ := h.stands <;>
    simp [hBucket, hPending]

theorem Lifecycle.bucket_ne_nil (h : s.Lifecycle hash) {packets : List PacketUp}
    (hBucket : s.bucket hash = some packets) : packets ≠ [] := by
  obtain ⟨hNone, -⟩ | ⟨stored, hStored, hNe, -⟩ := h.stands
  · rw [hNone] at hBucket
    cases hBucket
  · rw [hStored] at hBucket
    cases hBucket
    exact hNe

/-- A bucket has a cleanup in the queue or a timer that will put it there. -/
theorem Lifecycle.cleanup_pending (h : s.Lifecycle hash) {packets : List PacketUp}
    (hBucket : s.bucket hash = some packets) :
    .uplinkCleanup hash ∈ s.queue ∨ ∃ timer ∈ s.timers, timer.hash = hash := by
  have hOne : s.unfinished hash = 1 := h.bucket_iff.1.mp ⟨packets, hBucket⟩
  have hPositive : 0 < s.timers.countP (fun t => t.hash = hash) ∨
      0 < s.queue.countP (fun msg => msg.stage hash = some .cleanup) := by
    rw [unfinished] at hOne
    omega
  rw [List.countP_pos_iff, List.countP_pos_iff] at hPositive
  obtain ⟨timer, hTimer, hHash⟩ | ⟨msg, hMsg, hStage⟩ := hPositive
  · exact .inr ⟨timer, hTimer, by simpa using hHash⟩
  · left
    rwa [← Msg.stage_eq_cleanup.mp (by simpa using hStage)]

/-- Nothing is to come for a hash that has no bucket. -/
theorem Lifecycle.idle (h : s.Lifecycle hash) (hBucket : s.bucket hash = none) :
    (∀ msg ∈ s.queue, msg.stage hash = none) ∧ ∀ timer ∈ s.timers, timer.hash ≠ hash := by
  obtain ⟨-, hPending⟩ | ⟨_, hSome, -, -⟩ := h.stands
  · rw [pendingStages, pending, List.append_eq_nil_iff, List.filterMap_eq_nil_iff,
      List.flatMap_eq_nil_iff] at hPending
    refine ⟨hPending.1, fun timer hTimer hHash => ?_⟩
    have hFuture := hPending.2 timer hTimer
    rw [Timer.future, if_pos hHash] at hFuture
    cases hPhase : timer.phase <;> simp [hPhase, TimerPhase.future] at hFuture
  · rw [hBucket] at hSome
    cases hSome

/-- The next message is the send of a hash only while its bucket is stored. -/
theorem Lifecycle.bucket_of_send (h : s.Lifecycle hash) {rest : List Msg}
    (hQueue : s.queue = .uplinkSend hash :: rest) :
    ∃ packets, s.bucket hash = some packets ∧ packets ≠ [] := by
  obtain ⟨-, hPending⟩ | ⟨packets, hBucket, hNe, -⟩ := h.stands
  · rw [pendingStages, hQueue, pending_take] at hPending
    simp [Msg.stage] at hPending
  · exact ⟨packets, hBucket, hNe⟩

/-- Until a cleanup of the hash is handled, its bucket is offered for sending
at most once. -/
theorem Lifecycle.sends_le_one (h : s.Lifecycle hash) {before stretch after : List Turn}
    (hLog : s.log = before ++ stretch ++ after)
    (hCleanup : ∀ turn ∈ stretch, turn.msg ≠ .uplinkCleanup hash) :
    stretch.countP (fun turn => turn.msg.stage hash = some .send) ≤ 1 := by
  obtain ⟨n, hHistory⟩ := h.history
  have hStretch : lifecycles Stage.send Stage.cleanup n =
      before.filterMap (fun turn => turn.msg.stage hash) ++
        stretch.filterMap (fun turn => turn.msg.stage hash) ++
        (after.filterMap (fun turn => turn.msg.stage hash) ++ s.pendingStages hash) := by
    rw [hHistory, handledStages, hLog]
    simp
  have hNone : Stage.cleanup ∉ stretch.filterMap (fun turn => turn.msg.stage hash) := by
    intro hMem
    obtain ⟨turn, hTurn, hStage⟩ := List.mem_filterMap.mp hMem
    exact hCleanup turn hTurn (Msg.stage_eq_cleanup.mp hStage)
  have hCount := count_first_le_one (by decide) hStretch hNone
  simpa only [List.count_filterMap, beq_eq_decide] using hCount

/-- **Deduplication lifecycle.** In every state that a run reaches without a
panicking turn, a bucket exists exactly while one timer of its hash has not had
its cleanup taken from the queue. Buckets are never empty, a send finds its
bucket, and between two sends of a hash its cleanup is handled. -/
theorem one_lifecycle_per_bucket {settings : HttpSettings} {events : List Event}
    (run : Runs c settings events s) (hash : PacketHash) :
    ((∃ packets, s.bucket hash = some packets) ↔ s.unfinished hash = 1) ∧
    (s.bucket hash = none ↔ s.unfinished hash = 0) ∧
    (∀ packets, s.bucket hash = some packets → packets ≠ []) ∧
    (∀ rest, s.queue = .uplinkSend hash :: rest →
      ∃ packets, s.bucket hash = some packets ∧ packets ≠ []) ∧
    (∀ before stretch after, s.log = before ++ stretch ++ after →
      (∀ turn ∈ stretch, turn.msg ≠ .uplinkCleanup hash) →
      stretch.countP (fun turn => turn.msg.stage hash = some .send) ≤ 1) ∧
    (∀ before first between second after, s.log = before ++ first :: between ++ second :: after →
      first.msg = .uplinkSend hash → second.msg = .uplinkSend hash →
      ∃ turn ∈ between, turn.msg = .uplinkCleanup hash) ∧
    (∀ packets, s.bucket hash = some packets →
      .uplinkCleanup hash ∈ s.queue ∨ ∃ timer ∈ s.timers, timer.hash = hash) := by
  have h : s.Lifecycle hash := lifecycle_of_run run hash
  refine ⟨h.bucket_iff.1, h.bucket_iff.2, fun packets => h.bucket_ne_nil,
    fun rest => h.bucket_of_send, fun before stretch after => h.sends_le_one, ?_,
    fun packets => h.cleanup_pending⟩
  intro before first between second after hLog hFirst hSecond
  by_contra hBetween
  push Not at hBetween
  have hStretch : s.log = before ++ (first :: between ++ [second]) ++ after := by
    rw [hLog]
    simp
  have hCount := h.sends_le_one hStretch (by
    intro turn hTurn
    simp only [List.cons_append, List.mem_cons, List.mem_append, List.not_mem_nil, or_false] at hTurn
    obtain rfl | hTurn | rfl := hTurn
    · simp [hFirst]
    · exact hBetween turn hTurn
    · simp [hSecond])
  simp [hFirst, hSecond, Msg.stage, List.countP_append] at hCount

/-- A join request that has been sent waits for its cleanup. -/
theorem sample_unfinished :
    ∃ s, Runs Crates.sample .sample
        [.arrive (.uplink (.sample joinFrame [0])), .turn, .timer 0, .timer 0, .turn] s ∧
      s.unfinished ((PacketUp.sample joinFrame [0]).hash Crates.sample) = 1 := by
  obtain ⟨s, run, hBucket⟩ : ∃ s, Runs Crates.sample .sample
      [.arrive (.uplink (.sample joinFrame [0])), .turn, .timer 0, .timer 0, .turn] s ∧
      ∃ packets, s.bucket ((PacketUp.sample joinFrame [0]).hash Crates.sample) = some packets :=
    ⟨_, run_of_exec rfl, _, rfl⟩
  exact ⟨s, run, (one_lifecycle_per_bucket run _).1.mp hBucket⟩

end Service

end PacketRouter.HttpRoaming
