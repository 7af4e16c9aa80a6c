import Mathlib.Data.List.Flatten
import Mathlib.Data.List.Count

/-! Tasks that put messages into one first-in first-out queue. For an observer
who cares only for some messages, what is still to come is what the queue
holds followed by what the tasks have yet to put there. As long as no two
tasks work for the observer, a task that advances does not change it. -/
namespace Semantics

variable {Message Task View : Type*} (view : Message → Option View) (future : Task → List View)

/-- Everything the observer has yet to see, in the order in which the consumer
of the queue will meet it. -/
def pending (queue : List Message) (tasks : List Task) : List View :=
  queue.filterMap view ++ tasks.flatMap future

variable {view future} {queue : List Message} {tasks before after : List Task}

/-- A message that the observer does not see may arrive from anywhere. -/
theorem pending_arrive {message : Message} (h : view message = none) :
    pending view future (queue ++ [message]) tasks = pending view future queue tasks := by
  simp [pending, h]

/-- The consumer takes the observer's messages in order. -/
theorem pending_take {message : Message} :
    pending view future (message :: queue) tasks =
      (view message).toList ++ pending view future queue tasks := by
  cases h : view message <;> simp [pending, h]

/-- New tasks add their whole future at the end. -/
theorem pending_spawn (spawned : List Task) :
    pending view future queue (tasks ++ spawned) =
      pending view future queue tasks ++ spawned.flatMap future := by
  simp [pending]

/-- A task that puts messages into the queue and keeps the rest of its future
does not change what is to come, provided that the tasks listed before it
have nothing for the observer. -/
theorem pending_advance {task : Task} {next : Option Task} {emitted : List Message}
    (hFuture : future task = emitted.filterMap view ++ next.toList.flatMap future)
    (hBefore : emitted.filterMap view ≠ [] → before.flatMap future = []) :
    pending view future (queue ++ emitted) (before ++ next.toList ++ after) =
      pending view future queue (before ++ task :: after) := by
  simp only [pending, List.filterMap_append, List.flatMap_append, List.flatMap_cons, hFuture]
  by_cases hEmitted : emitted.filterMap view = []
  · simp [hEmitted]
  · simp [hBefore hEmitted]

/-- If every task with a future for the observer has one particular entry in
it, and only one such entry is to come, then the tasks beside one of them have
no future for the observer. -/
theorem flatMap_eq_nil_of_count [DecidableEq View] {task : Task} (mark : View)
    (hMark : ∀ t ∈ before, future t ≠ [] → mark ∈ future t) (hTask : mark ∈ future task)
    (hCount : (pending view future queue (before ++ task :: after)).count mark ≤ 1) :
    before.flatMap future = [] := by
  rw [List.flatMap_eq_nil_iff]
  intro other hOther
  by_contra hFuture
  have hFirst : 0 < (before.flatMap future).count mark :=
    List.count_pos_iff.mpr (List.mem_flatMap.mpr ⟨other, hOther, hMark other hOther hFuture⟩)
  have hSecond : 0 < (future task).count mark := List.count_pos_iff.mpr hTask
  simp only [pending, List.flatMap_append, List.flatMap_cons, List.count_append] at hCount
  omega

end Semantics
