import Mathlib.Data.List.AList

/-! Results of code that may return an error or panic. A panic stops the task
that runs the code; an error is an ordinary value that its caller can match. -/
namespace Rust

/-- A panic of the running task, with the text given to `expect` or produced
by `unwrap` and by an out-of-range slice. -/
structure Panic where
  message : String
deriving DecidableEq, Repr

/-- Code that returns a value or panics. -/
abbrev Panics := Except Panic

/-- Code returning `Result<α, ε>` that may also panic. -/
inductive Outcome (ε α : Type) where
  | ok (value : α)
  | err (error : ε)
  | panic (reason : Panic)
deriving DecidableEq, Repr

namespace Outcome

variable {ε α β : Type}

/-- The `?` operator: an error or a panic ends the enclosing function. -/
def bind (x : Outcome ε α) (next : α → Outcome ε β) : Outcome ε β :=
  match x with
  | .ok value => next value
  | .err error => .err error
  | .panic reason => .panic reason

instance {ε : Type} : Monad (Outcome ε) where
  pure := .ok
  bind := Outcome.bind

/-- Code that may only panic runs unchanged inside code returning a `Result`. -/
def ofPanics (x : Panics α) : Outcome ε α :=
  match x with
  | .ok value => .ok value
  | .error reason => .panic reason

instance {ε : Type} : MonadLift Panics (Outcome ε) where
  monadLift := ofPanics

/-- The code neither returned a value nor an error. -/
def Panicked (x : Outcome ε α) : Prop := ∃ reason, x = .panic reason

/-- The code returned an error. -/
def Failed (x : Outcome ε α) : Prop := ∃ error, x = .err error

@[simp] theorem panicked_ok (value : α) : ¬ Panicked (.ok value : Outcome ε α) := by
  rintro ⟨_, h⟩
  cases h

@[simp] theorem panicked_err (error : ε) : ¬ Panicked (.err error : Outcome ε α) := by
  rintro ⟨_, h⟩
  cases h

@[simp] theorem panicked_panic (reason : Panic) : Panicked (.panic reason : Outcome ε α) :=
  ⟨reason, rfl⟩

@[simp] theorem failed_ok (value : α) : ¬ Failed (.ok value : Outcome ε α) := by
  rintro ⟨_, h⟩
  cases h

@[simp] theorem failed_err (error : ε) : Failed (.err error : Outcome ε α) := ⟨error, rfl⟩

@[simp] theorem failed_panic (reason : Panic) : ¬ Failed (.panic reason : Outcome ε α) := by
  rintro ⟨_, h⟩
  cases h

@[simp] theorem pure_eq (value : α) : (pure value : Outcome ε α) = .ok value := rfl

@[simp] theorem ok_bind (value : α) (next : α → Outcome ε β) :
    ((.ok value : Outcome ε α) >>= next) = next value := rfl

@[simp] theorem err_bind (error : ε) (next : α → Outcome ε β) :
    ((.err error : Outcome ε α) >>= next) = .err error := rfl

@[simp] theorem panic_bind (reason : Panic) (next : α → Outcome ε β) :
    ((.panic reason : Outcome ε α) >>= next) = .panic reason := rfl

@[simp] theorem lift_ok (value : α) :
    (liftM (Except.ok value : Panics α) : Outcome ε α) = .ok value := rfl

@[simp] theorem lift_error (reason : Panic) :
    (liftM (Except.error reason : Panics α) : Outcome ε α) = .panic reason := rfl

/-- A sequence returns a value only if both of its parts did. -/
theorem bind_eq_ok {x : Outcome ε α} {next : α → Outcome ε β} {value : β} :
    (x >>= next) = .ok value ↔ ∃ a, x = .ok a ∧ next a = .ok value := by
  cases x <;> simp

/-- A sequence fails in its first part, or in its second after the first
returned. -/
theorem failed_bind {x : Outcome ε α} {next : α → Outcome ε β} :
    Failed (x >>= next) ↔ Failed x ∨ ∃ a, x = .ok a ∧ Failed (next a) := by
  cases x <;> simp

/-- A panic in the second part is reached only when the first part returned. -/
theorem panicked_bind {x : Outcome ε α} {next : α → Outcome ε β} :
    Panicked (x >>= next) ↔ Panicked x ∨ ∃ a, x = .ok a ∧ Panicked (next a) := by
  cases x <;> simp

theorem not_panicked_bind {x : Outcome ε α} {next : α → Outcome ε β} (hFirst : ¬ Panicked x)
    (hNext : ∀ a, ¬ Panicked (next a)) : ¬ Panicked (x >>= next) := by
  rw [panicked_bind, not_or]
  exact ⟨hFirst, fun ⟨a, _, h⟩ => hNext a h⟩

/-- Two outcomes that differ at most in what was returned, and there as a
relation allows. -/
inductive Similar (R : α → β → Prop) : Outcome ε α → Outcome ε β → Prop where
  | ok {a : α} {b : β} (h : R a b) : Similar R (.ok a) (.ok b)
  | err (error : ε) : Similar R (.err error) (.err error)
  | panic (reason : Panic) : Similar R (.panic reason) (.panic reason)

theorem Similar.refl {R : α → α → Prop} (h : ∀ a, R a a) (x : Outcome ε α) : Similar R x x := by
  cases x with
  | ok value => exact .ok (h value)
  | err error => exact .err error
  | panic reason => exact .panic reason

/-- Similar parts make similar sequences. -/
theorem Similar.bind {α' β' : Type} {R : α → β → Prop} {S : α' → β' → Prop} {x : Outcome ε α}
    {y : Outcome ε β} {next : α → Outcome ε α'} {next' : β → Outcome ε β'} (h : Similar R x y)
    (hNext : ∀ a b, R a b → Similar S (next a) (next' b)) :
    Similar S (x >>= next) (y >>= next') := by
  cases h with
  | ok hValue => exact hNext _ _ hValue
  | err error => exact .err error
  | panic reason => exact .panic reason

theorem lift_eq_ok {x : Panics α} {value : α} :
    (liftM x : Outcome ε α) = .ok value ↔ x = .ok value := by
  cases x <;> simp

@[simp] theorem not_failed_lift (x : Panics α) : ¬ Failed (liftM x : Outcome ε α) := by
  cases x <;> simp

theorem panicked_lift {x : Panics α} :
    Panicked (liftM x : Outcome ε α) ↔ ∃ reason, x = .error reason := by
  cases x <;> simp

/-- Every call ends in exactly one of the three ways. -/
theorem cases_on (x : Outcome ε α) : (∃ value, x = .ok value) ∨ Failed x ∨ Panicked x := by
  cases x <;> simp

end Outcome

/-- A sequence returns a value only if both of its parts did. -/
theorem panics_bind_eq_ok {α β : Type} {x : Panics α} {next : α → Panics β} {value : β} :
    (x >>= next) = .ok value ↔ ∃ a, x = .ok a ∧ next a = .ok value := by
  cases x <;> simp [bind, Except.bind]

/-- Code that does not return panics. -/
theorem panics_iff {α : Type*} {x : Panics α} :
    (∃ reason, x = .error reason) ↔ ¬ ∃ value, x = .ok value := by
  cases x <;> simp

/-- `Option::expect`: an absent value panics with the given text. -/
def expect {α : Type*} (message : String) : Option α → Panics α
  | some value => .ok value
  | none => .error ⟨message⟩

@[simp] theorem expect_some {α : Type*} (message : String) (value : α) :
    expect message (some value) = .ok value := rfl

@[simp] theorem expect_none {α : Type*} (message : String) :
    expect message (none : Option α) = .error ⟨message⟩ := rfl

theorem expect_eq_ok {α : Type*} {message : String} {x : Option α} {value : α} :
    expect message x = .ok value ↔ x = some value := by
  cases x <;> simp

/-- `Result::expect` and `Result::unwrap`: an error value panics. -/
def expectOk {ε α : Type*} (message : String) : Except ε α → Panics α
  | .ok value => .ok value
  | .error _ => .error ⟨message⟩

@[simp] theorem expectOk_ok {ε α : Type*} (message : String) (value : α) :
    expectOk message (.ok value : Except ε α) = .ok value := rfl

@[simp] theorem expectOk_error {ε α : Type*} (message : String) (error : ε) :
    expectOk message (.error error : Except ε α) = .error ⟨message⟩ := rfl

theorem expectOk_eq_ok {ε α : Type*} {message : String} {x : Except ε α} {value : α} :
    expectOk message x = .ok value ↔ x = .ok value := by
  cases x <;> simp

/-- `&slice[start..]`, which panics when `start` lies past the end. -/
def sliceFrom {α : Type*} (start : Nat) (slice : List α) : Panics (List α) :=
  if start ≤ slice.length then .ok (slice.drop start)
  else .error ⟨"range start index out of range for slice"⟩

/-- A loop that collects results returns one for each element, in order. -/
theorem mapM_eq_ok {α β : Type} {f : α → Panics β} {xs : List α} {ys : List β} :
    xs.mapM f = .ok ys ↔ List.Forall₂ (fun x y => f x = .ok y) xs ys := by
  induction xs generalizing ys with
  | nil => simp [pure, Except.pure, eq_comm]
  | cons x xs ih =>
      rw [List.mapM_cons]
      cases hFirst : f x with
      | error reason => simp [bind, Except.bind, hFirst, List.forall₂_cons_left_iff]
      | ok y =>
          cases hRest : xs.mapM f with
          | error reason =>
              have hNone (ys : List β) : ¬ List.Forall₂ (fun x y => f x = .ok y) xs ys := by
                intro h
                rw [← ih, hRest] at h
                cases h
              simp [bind, Except.bind, hFirst, List.forall₂_cons_left_iff, hNone]
          | ok rest =>
              have hSome (ys : List β) :
                  List.Forall₂ (fun x y => f x = .ok y) xs ys ↔ rest = ys := by
                rw [← ih, hRest]
                simp
              simp [bind, Except.bind, pure, Except.pure, hFirst, List.forall₂_cons_left_iff, hSome,
                eq_comm]

/-- Such a loop panics as soon as one element makes it panic. -/
theorem mapM_eq_error {α β : Type} {f : α → Panics β} {xs : List α} :
    (∃ reason, xs.mapM f = .error reason) ↔ ∃ x ∈ xs, ∃ reason, f x = .error reason := by
  induction xs with
  | nil => simp [pure, Except.pure]
  | cons x xs ih =>
      rw [List.mapM_cons]
      cases hFirst : f x with
      | error reason => simp [bind, Except.bind, hFirst]
      | ok y =>
          cases hRest : xs.mapM f <;>
            simp [bind, Except.bind, pure, Except.pure, hFirst, hRest, ← ih]

/-- `std::collections::HashMap`: at most one value for each key. -/
abbrev HashMap (κ υ : Type*) := AList (fun _ : κ => υ)

end Rust
