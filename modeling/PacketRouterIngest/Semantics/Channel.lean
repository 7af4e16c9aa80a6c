import Mathlib.Data.List.Infix

/-! A first-in first-out channel of bounded capacity, with what its reader has
taken so far. Nothing can be put into a full channel. -/
namespace Semantics

structure Channel (Item : Type*) (capacity : Nat) where
  taken : List Item
  buffer : List Item
  fits : buffer.length ≤ capacity

namespace Channel

variable {Item : Type*} {capacity : Nat}

def empty : Channel Item capacity := ⟨[], [], Nat.zero_le _⟩

/-- Everything that was put into the channel, as long as nothing was discarded. -/
def passed (ch : Channel Item capacity) : List Item := ch.taken ++ ch.buffer

def Full (ch : Channel Item capacity) : Prop := ch.buffer.length = capacity

def put (ch : Channel Item capacity) (item : Item) : Option (Channel Item capacity) :=
  if h : ch.buffer.length < capacity then
    some ⟨ch.taken, ch.buffer ++ [item], by rw [List.length_append]; exact h⟩
  else none

def take (ch : Channel Item capacity) : Option (Channel Item capacity) :=
  match h : ch.buffer with
  | [] => none
  | item :: rest =>
      some ⟨ch.taken ++ [item], rest, (Nat.le_succ _).trans (by simpa [h] using ch.fits)⟩

/-- The reader is gone, and with it what it has not taken. -/
def discard (ch : Channel Item capacity) : Channel Item capacity :=
  ⟨ch.taken, [], Nat.zero_le _⟩

variable {ch ch' : Channel Item capacity} {item : Item}

@[simp] theorem passed_empty : (empty : Channel Item capacity).passed = [] := rfl

@[simp] theorem passed_discard (ch : Channel Item capacity) : ch.discard.passed = ch.taken :=
  List.append_nil _

theorem passed_put (h : ch.put item = some ch') :
    ch'.passed = ch.passed ++ [item] ∧ ch'.taken = ch.taken := by
  rw [put] at h
  split_ifs at h
  cases h
  exact ⟨(List.append_assoc ..).symm, rfl⟩

theorem length_put (h : ch.put item = some ch') : ch'.buffer.length = ch.buffer.length + 1 := by
  rw [put] at h
  split_ifs at h
  cases h
  exact List.length_append

/-- Taking an item only moves it. -/
theorem passed_take (h : ch.take = some ch') :
    ch'.passed = ch.passed ∧ ∃ item, ch'.taken = ch.taken ++ [item] := by
  rw [take] at h
  split at h
  · cases h
  · next item rest hBuffer =>
      cases h
      exact ⟨by simp [passed, hBuffer], item, rfl⟩

/-- Only a full channel refuses an item. -/
theorem put_eq_none : ch.put item = none ↔ ch.Full := by
  have hFits := ch.fits
  rw [put, Full]
  split_ifs with hRoom
  · simp only [false_iff]
    omega
  · simp only [true_iff]
    omega

theorem take_eq_none : ch.take = none ↔ ch.buffer = [] := by
  rw [take]
  split
  · next hBuffer => simp [hBuffer]
  · next item rest hBuffer => simp [hBuffer]

/-- Taking an item makes room. -/
theorem Full.not_full_of_take (h : ch.Full) (hTake : ch.take = some ch') : ¬ ch'.Full := by
  rw [take] at hTake
  split at hTake
  · cases hTake
  · next first rest hBuffer =>
      cases hTake
      rw [Full, hBuffer, List.length_cons] at h
      change rest.length ≠ capacity
      omega

theorem Full.exists_take (h : ch.Full) (hCapacity : 0 < capacity) : ∃ ch', ch.take = some ch' := by
  refine Option.ne_none_iff_exists'.mp fun hNone => ?_
  rw [Full, take_eq_none.mp hNone, List.length_nil] at h
  omega

end Channel

end Semantics
