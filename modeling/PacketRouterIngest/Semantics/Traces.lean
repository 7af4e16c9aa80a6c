import PacketRouterIngest.Semantics.Runs

/-! Behaviours that never end. A trace takes a step or rests at every moment;
what its tasks owe to each other is stated as fairness of the trace. -/
namespace Semantics

variable {State Event : Type*}

/-- A list that only grows keeps its entries where they are. -/
theorem getElem?_of_prefix {Item : Type*} {list grown : List Item} {place : Nat} {item : Item}
    (h : list <+: grown) (hItem : list[place]? = some item) : grown[place]? = some item := by
  obtain ⟨new, rfl⟩ := h
  rw [List.getElem?_append_left (List.getElem?_eq_some_iff.mp hItem).1, hItem]

structure Trace (step : State → Event → Option State) where
  state : Nat → State
  next : ∀ n, state (n + 1) = state n ∨ ∃ event, step (state n) event = some (state (n + 1))

namespace Trace

variable {step : State → Event → Option State} (T : Trace step)

/-- The event is performed at this moment. -/
def Takes (n : Nat) (event : Event) : Prop := step (T.state n) event = some (T.state (n + 1))

/-- Every state of a trace is reached by a run. -/
theorem exists_run (n : Nat) : ∃ events, Run step (T.state 0) events (T.state n) := by
  induction n with
  | zero => exact ⟨[], .nil⟩
  | succ n ih =>
      obtain ⟨events, hRun⟩ := ih
      obtain hRests | ⟨event, hStep⟩ := T.next n
      · exact ⟨events, hRests ▸ hRun⟩
      · exact ⟨events ++ [event], hRun.snoc hStep⟩

variable {T}

/-- What every step keeps holds from then on. -/
theorem persists (p : State → Prop) {n : Nat} (h : p (T.state n))
    (hStep : ∀ s event t, p s → step s event = some t → p t) {m : Nat} (hLater : n ≤ m) :
    p (T.state m) := by
  induction hLater with
  | refl => exact h
  | @step m hLater ih =>
      obtain hRests | ⟨event, hNext⟩ := T.next m
      · rwa [hRests]
      · exact hStep _ event _ ih hNext

/-- What every step keeps until something happens holds when that happens. -/
theorem until_happens (p : State → Prop) (happens : Nat → Prop) {n : Nat} (h : p (T.state n))
    (hKeep : ∀ m, n ≤ m → p (T.state m) → ¬ happens m → p (T.state (m + 1)))
    (hFair : ∃ m, n ≤ m ∧ happens m) : ∃ m, n ≤ m ∧ p (T.state m) ∧ happens m := by
  obtain ⟨last, hLast, hHappens⟩ := hFair
  by_contra hNever
  push Not at hNever
  have hAlways : ∀ m, n ≤ m → p (T.state m) := by
    intro m hLater
    induction hLater with
    | refl => exact h
    | @step m hLater ih => exact hKeep m hLater ih (hNever m hLater ih)
  exact hNever last hLast (hAlways last hLast) hHappens

/-- Where something is taken sooner or later while something waits, everything
that waits is taken in the end. The induction is on how much is not taken yet. -/
theorem flushes {Item : Type*} (taken waiting : State → List Item)
    (hGrows : ∀ s event t, step s event = some t → taken s ++ waiting s <+: taken t ++ waiting t)
    (hTaken : ∀ s event t, step s event = some t → taken s <+: taken t)
    (hFair : ∀ n, waiting (T.state n) ≠ [] →
      ∃ m, n ≤ m ∧ (taken (T.state m)).length < (taken (T.state (m + 1))).length) (n : Nat) :
    ∃ m, n ≤ m ∧ taken (T.state n) ++ waiting (T.state n) <+: taken (T.state m) := by
  have hHistory {m : Nat} (hLater : n ≤ m) :
      taken (T.state n) ++ waiting (T.state n) <+: taken (T.state m) ++ waiting (T.state m) :=
    Trace.persists (fun s => taken (T.state n) ++ waiting (T.state n) <+: taken s ++ waiting s)
      List.prefix_rfl (fun s event t h hStep => h.trans (hGrows s event t hStep)) hLater
  have hProgress (missing : Nat) : ∀ k, n ≤ k →
      (taken (T.state n) ++ waiting (T.state n)).length ≤ (taken (T.state k)).length + missing →
      ∃ m, n ≤ m ∧ (taken (T.state n) ++ waiting (T.state n)).length ≤ (taken (T.state m)).length := by
    induction missing with
    | zero => exact fun k hLater hEnough => ⟨k, hLater, hEnough⟩
    | succ missing ih =>
        intro k hLater hMissing
        by_cases hWaiting : waiting (T.state k) = []
        · refine ⟨k, hLater, ?_⟩
          have hAll := (hHistory hLater).length_le
          rwa [hWaiting, List.append_nil] at hAll
        · obtain ⟨m, hEven, hMore⟩ := hFair k hWaiting
          have hKept : (taken (T.state k)).length ≤ (taken (T.state m)).length :=
            (Trace.persists (fun s => taken (T.state k) <+: taken s) List.prefix_rfl
              (fun s event t h hStep => h.trans (hTaken s event t hStep)) hEven).length_le
          exact ih (m + 1) (by omega) (by omega)
  obtain ⟨m, hLater, hLength⟩ := hProgress _ n (Nat.le_refl n) (Nat.le_add_left _ _)
  exact ⟨m, hLater,
    List.prefix_of_prefix_length_le (hHistory hLater) (List.prefix_append _ _) hLength⟩

/-- Where nothing waits from some moment on, what waited before was taken. -/
theorem taken_of_drained {Item : Type*} (taken waiting : State → List Item)
    (hGrows : ∀ s event t, step s event = some t → taken s ++ waiting s <+: taken t ++ waiting t)
    (hTaken : ∀ s event t, step s event = some t → taken s <+: taken t) {last : Nat}
    (hDrained : ∀ n, last ≤ n → waiting (T.state n) = []) {n : Nat}
    (hWaiting : waiting (T.state n) ≠ []) :
    ∃ m, n ≤ m ∧ (taken (T.state m)).length < (taken (T.state (m + 1))).length := by
  by_contra hNever
  have hRests : ∀ m, n ≤ m → (taken (T.state (m + 1))).length ≤ (taken (T.state m)).length :=
    fun m hLater => Nat.le_of_not_lt fun hMore => hNever ⟨m, hLater, hMore⟩
  have hSame : ∀ m, n ≤ m → taken (T.state m) = taken (T.state n) := by
    intro m hLater
    induction hLater with
    | refl => rfl
    | @step m hLater ih =>
        obtain hStill | ⟨event, hStep⟩ := T.next m
        · rw [hStill, ih]
        · rw [← ih]
          exact ((hTaken _ event _ hStep).eq_of_length_le (hRests m hLater)).symm
  have hHistory : taken (T.state n) ++ waiting (T.state n) <+:
      taken (T.state (max n last)) ++ waiting (T.state (max n last)) :=
    Trace.persists (fun s => taken (T.state n) ++ waiting (T.state n) <+: taken s ++ waiting s)
      List.prefix_rfl (fun s event t h hStep => h.trans (hGrows s event t hStep))
      (Nat.le_max_left n last)
  rw [hSame _ (Nat.le_max_left n last), List.prefix_append_right_inj,
    hDrained _ (Nat.le_max_right n last), List.prefix_nil] at hHistory
  exact hWaiting hHistory

/-- Follow a trace up to some moment, take one more step and rest. -/
def thenRest (T : Trace step) (last : Nat) {finish : State} {event : Event}
    (hStep : step (T.state last) event = some finish) : Trace step where
  state n := if n ≤ last then T.state n else finish
  next n := by
    rcases Nat.lt_trichotomy n last with hBefore | rfl | hAfter
    · rw [if_pos (Nat.succ_le_of_lt hBefore), if_pos (Nat.le_of_lt hBefore)]
      exact T.next n
    · rw [if_neg (Nat.not_succ_le_self n), if_pos (Nat.le_refl n)]
      exact .inr ⟨event, hStep⟩
    · rw [if_neg (by omega), if_neg (by omega)]
      exact .inl rfl

end Trace

/-- A run goes on for ever by resting where it ends. -/
theorem Run.exists_trace {step : State → Event → Option State} {start finish : State}
    {events : List Event} (run : Run step start events finish) :
    ∃ T : Trace step, T.state 0 = start ∧ ∀ n, events.length ≤ n → T.state n = finish := by
  induction run with
  | nil => exact ⟨⟨fun _ => start, fun _ => .inl rfl⟩, rfl, fun _ _ => rfl⟩
  | @snoc events middle finish event prior last ih =>
      obtain ⟨T, hStart, hEnd⟩ := ih
      have hStep : step (T.state events.length) event = some finish := by
        rw [hEnd _ (Nat.le_refl _)]
        exact last
      refine ⟨T.thenRest events.length hStep, ?_, fun n hLater => ?_⟩
      · simpa [Trace.thenRest] using hStart
      · rw [List.length_append, List.length_singleton] at hLater
        exact if_neg (Nat.not_le_of_lt hLater)

end Semantics
