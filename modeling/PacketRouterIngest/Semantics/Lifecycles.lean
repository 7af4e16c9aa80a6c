import Mathlib.Data.List.Count
import Mathlib.Data.List.Flatten

/-! Words made of complete two-stage lifecycles, one after the other. -/
namespace Semantics

variable {Stage : Type*} {first second : Stage}

/-- `n` lifecycles in a row, each a first and a second stage. -/
def lifecycles (first second : Stage) (n : Nat) : List Stage :=
  (List.replicate n [first, second]).flatten

@[simp] theorem lifecycles_zero : lifecycles first second 0 = [] := rfl

theorem lifecycles_succ (n : Nat) :
    lifecycles first second (n + 1) = first :: second :: lifecycles first second n := by
  simp [lifecycles, List.replicate_succ]

theorem lifecycles_succ' (n : Nat) :
    lifecycles first second (n + 1) = lifecycles first second n ++ [first, second] := by
  simp [lifecycles, List.replicate_succ']

/-- A lifecycle is finished before the next one begins. -/
theorem mem_between_of_lifecycles (hNe : first ≠ second) {n : Nat} {before between after : List Stage}
    (h : lifecycles first second n = before ++ first :: between ++ first :: after) :
    second ∈ between := by
  induction n generalizing before with
  | zero => simp at h
  | succ n ih =>
      rw [lifecycles_succ] at h
      cases before with
      | nil =>
          -- The word starts with a complete lifecycle, so `between` starts with its end.
          cases between with
          | nil => simp [Ne.symm hNe] at h
          | cons stage between =>
              simp only [List.nil_append, List.cons_append, List.cons.injEq, true_and] at h
              rw [h.1]
              exact List.mem_cons_self ..
      | cons stage before =>
          cases before with
          | nil => simp [Ne.symm hNe] at h
          | cons stage' before =>
              simp only [List.cons_append, List.cons.injEq] at h
              exact ih h.2.2

/-- What finishes a lifecycle comes right after what began it. -/
theorem getLast?_of_lifecycles (hNe : first ≠ second) {n : Nat} {before after : List Stage}
    (h : lifecycles first second n = before ++ second :: after) : before.getLast? = some first := by
  induction n generalizing before with
  | zero => simp at h
  | succ n ih =>
      rw [lifecycles_succ] at h
      match before with
      | [] => exact absurd (List.cons.inj h).1 hNe
      | [stage] => rw [(List.cons.inj h).1, List.getLast?_singleton]
      | stage :: stage' :: before =>
          simp only [List.cons_append, List.cons.injEq] at h
          rw [List.getLast?_cons, List.getLast?_cons, ih h.2.2]
          rfl

/-- A stretch in which no lifecycle is finished begins at most one. -/
theorem count_first_le_one [DecidableEq Stage] (hNe : first ≠ second) {n : Nat}
    {before stretch after : List Stage}
    (h : lifecycles first second n = before ++ stretch ++ after) (hSecond : second ∉ stretch) :
    stretch.count first ≤ 1 := by
  by_contra hCount
  have hMem : first ∈ stretch := List.count_pos_iff.mp (by omega)
  obtain ⟨left, right, rfl, hLeft⟩ := List.eq_append_cons_of_mem hMem
  have hRest : first ∈ right := by
    rw [List.count_append, List.count_cons_self, List.count_eq_zero_of_not_mem hLeft] at hCount
    exact List.count_pos_iff.mp (by omega)
  obtain ⟨between, right, rfl⟩ := List.append_of_mem hRest
  have hSplit : lifecycles first second n =
      (before ++ left) ++ first :: between ++ first :: (right ++ after) := by
    rw [h]
    simp
  have hBetween : second ∈ between := mem_between_of_lifecycles hNe hSplit
  exact hSecond (by simp [hBetween])

end Semantics
