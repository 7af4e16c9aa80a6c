import Mathlib.Data.List.Basic

/-! Systems whose state falls apart into components. Every event is about one
key: it reads and writes the component of that key and what all components
share, and leaves the other components alone. The events of one key can then
be performed by themselves, and events of different keys in any order. -/
namespace Semantics

variable {State Event Output Failure Key Shared : Type*} {View : Key → Type*}

/-- Perform events one after the other, and remember each with its output. The
first failure ends the sequence. -/
def performAll (step : State → Event → Except Failure (State × Output)) :
    State → List Event → Except Failure (State × List (Event × Output))
  | s, [] => .ok (s, [])
  | s, event :: rest =>
      match step s event with
      | .error failure => .error failure
      | .ok (next, output) =>
          match performAll step next rest with
          | .error failure => .error failure
          | .ok (last, trace) => .ok (last, (event, output) :: trace)

/-- Every event is about one key, and cannot tell two states apart that agree
on the component of its key and on what is shared. -/
structure Separable (step : State → Event → Except Failure (State × Output)) (key : Event → Key)
    (view : State → (k : Key) → View k) (shared : State → Shared) : Prop where
  frame : ∀ {s t event output} (k : Key), step s event = .ok (t, output) → k ≠ key event →
    view t k = view s k
  shares : ∀ {s t event output}, step s event = .ok (t, output) → shared t = shared s
  own : ∀ {s s' t event output}, step s event = .ok (t, output) → shared s' = shared s →
    view s' (key event) = view s (key event) →
    ∃ t', step s' event = .ok (t', output) ∧ view t' (key event) = view t (key event)

section

variable {step : State → Event → Except Failure (State × Output)} {s t : State} {event : Event}
  {events : List Event} {trace : List (Event × Output)}

@[simp] theorem performAll_nil : performAll step s [] = .ok (s, []) := rfl

theorem performAll_cons_eq_ok :
    performAll step s (event :: events) = .ok (t, trace) ↔
      ∃ next output rest, step s event = .ok (next, output) ∧
        performAll step next events = .ok (t, rest) ∧ trace = (event, output) :: rest := by
  rw [performAll]
  cases hStep : step s event with
  | error failure => simp
  | ok result =>
      obtain ⟨next, output⟩ := result
      cases hRest : performAll step next events with
      | error failure => simp [hRest]
      | ok last =>
          obtain ⟨last, rest⟩ := last
          simp only [hRest, Except.ok.injEq, Prod.mk.injEq]
          constructor
          · rintro ⟨rfl, rfl⟩
            exact ⟨next, output, rest, ⟨rfl, rfl⟩, hRest, rfl⟩
          · rintro ⟨_, _, _, ⟨rfl, rfl⟩, hOwn, rfl⟩
            rw [hRest] at hOwn
            cases hOwn
            exact ⟨rfl, rfl⟩

/-- Every line of a trace was one step of the system. -/
theorem step_of_mem_trace {output : Output} (h : performAll step s events = .ok (t, trace))
    (hLine : (event, output) ∈ trace) : ∃ before after, step before event = .ok (after, output) := by
  induction events generalizing s trace with
  | nil =>
      cases h
      cases hLine
  | cons first events ih =>
      obtain ⟨next, own, rest, hStep, hRest, rfl⟩ := performAll_cons_eq_ok.mp h
      rcases List.mem_cons.mp hLine with hFirst | hLater
      · cases hFirst
        exact ⟨s, next, hStep⟩
      · exact ih hRest hLater

end

namespace Separable

variable {step : State → Event → Except Failure (State × Output)} {key : Event → Key}
  {view : State → (k : Key) → View k} {shared : State → Shared} {s s' t : State}
  {events events' : List Event} {trace : List (Event × Output)} [DecidableEq Key]

omit [DecidableEq Key] in
theorem shares_all (h : Separable step key view shared)
    (hAll : performAll step s events = .ok (t, trace)) : shared t = shared s := by
  induction events generalizing s trace with
  | nil =>
      cases hAll
      rfl
  | cons event events ih =>
      obtain ⟨next, output, rest, hStep, hRest, -⟩ := performAll_cons_eq_ok.mp hAll
      exact (ih hRest).trans (h.shares hStep)

/-- **Projection.** The events of one key have the same outputs and leave the
same component behind when they are performed alone. -/
theorem project (h : Separable step key view shared)
    (hAll : performAll step s events = .ok (t, trace)) (k : Key)
    (hShared : shared s' = shared s) (hView : view s' k = view s k) :
    ∃ t', performAll step s' (events.filter (fun event => key event = k)) =
        .ok (t', trace.filter (fun line => key line.1 = k)) ∧
      shared t' = shared t ∧ view t' k = view t k := by
  induction events generalizing s s' trace with
  | nil =>
      cases hAll
      exact ⟨s', rfl, hShared, hView⟩
  | cons event events ih =>
      obtain ⟨next, output, rest, hStep, hRest, rfl⟩ := performAll_cons_eq_ok.mp hAll
      by_cases hKey : key event = k
      · subst hKey
        obtain ⟨next', hStep', hNext⟩ := h.own hStep hShared hView
        have hShared' : shared next' = shared next := by
          rw [h.shares hStep', h.shares hStep, hShared]
        obtain ⟨t', hRest', hEnd⟩ := ih hRest hShared' hNext
        refine ⟨t', ?_, hEnd⟩
        rw [List.filter_cons_of_pos (by simp), List.filter_cons_of_pos (by simp)]
        exact performAll_cons_eq_ok.mpr ⟨next', output, _, hStep', hRest', rfl⟩
      · have hView' : view s' k = view next k := by
          rw [hView, h.frame k hStep (Ne.symm hKey)]
        rw [List.filter_cons_of_neg (by simpa using hKey),
          List.filter_cons_of_neg (by simpa using hKey)]
        exact ih hRest (hShared.trans (h.shares hStep).symm) hView'

/-- Events can be performed together if those of every key can be alone. -/
theorem merge (h : Separable step key view shared)
    (hKeys : ∀ k, ∃ result, performAll step s (events.filter (fun event => key event = k)) =
      .ok result) : ∃ result, performAll step s events = .ok result := by
  induction events generalizing s with
  | nil => exact ⟨_, rfl⟩
  | cons event events ih =>
      obtain ⟨⟨last, trace⟩, hOwn⟩ := hKeys (key event)
      rw [List.filter_cons_of_pos (by simp)] at hOwn
      obtain ⟨next, output, rest, hStep, hRest, -⟩ := performAll_cons_eq_ok.mp hOwn
      have hLater (k : Key) : ∃ result, performAll step next
          (events.filter (fun event => key event = k)) = .ok result := by
        by_cases hKey : key event = k
        · rw [← hKey]
          exact ⟨_, hRest⟩
        · obtain ⟨⟨last, trace⟩, hOther⟩ := hKeys k
          rw [List.filter_cons_of_neg (by simpa using hKey)] at hOther
          obtain ⟨t', hNext, -⟩ := h.project hOther k (h.shares hStep)
            (h.frame k hStep (Ne.symm hKey))
          rw [List.filter_filter] at hNext
          simp only [Bool.and_self] at hNext
          exact ⟨_, hNext⟩
      obtain ⟨⟨last', trace'⟩, hTogether⟩ := ih hLater
      exact ⟨_, performAll_cons_eq_ok.mpr ⟨next, output, trace', hStep, hTogether, rfl⟩⟩

/-- **Interleaving.** Another order that keeps the events of every key in
theirs leads to the same components, with the same outputs for every key. -/
theorem interleave (h : Separable step key view shared)
    (hAll : performAll step s events = .ok (t, trace))
    (hSame : ∀ k, events'.filter (fun event => key event = k) =
      events.filter (fun event => key event = k)) :
    ∃ t' trace', performAll step s events' = .ok (t', trace') ∧ shared t' = shared t ∧
      (∀ k, view t' k = view t k) ∧
      ∀ k, trace'.filter (fun line => key line.1 = k) =
        trace.filter (fun line => key line.1 = k) := by
  have hKeys (k : Key) : ∃ result, performAll step s
      (events'.filter (fun event => key event = k)) = .ok result := by
    obtain ⟨own, hOwn, -⟩ := h.project hAll k rfl rfl
    rw [hSame]
    exact ⟨_, hOwn⟩
  obtain ⟨⟨t', trace'⟩, hAll'⟩ := h.merge hKeys
  have hBoth (k : Key) : view t' k = view t k ∧
      trace'.filter (fun line => key line.1 = k) = trace.filter (fun line => key line.1 = k) := by
    obtain ⟨own, hOwn, -, hView⟩ := h.project hAll k rfl rfl
    obtain ⟨own', hOwn', -, hView'⟩ := h.project hAll' k rfl rfl
    rw [hSame, hOwn, Except.ok.injEq, Prod.mk.injEq] at hOwn'
    obtain ⟨rfl, hTrace⟩ := hOwn'
    exact ⟨hView'.symm.trans hView, hTrace.symm⟩
  refine ⟨t', trace', hAll', ?_, fun k => (hBoth k).1, fun k => (hBoth k).2⟩
  rw [h.shares_all hAll', h.shares_all hAll]

end Separable

end Semantics
