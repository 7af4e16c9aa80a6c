import Mathlib.Data.List.Induction

/-! Runs of a deterministic system under a chosen sequence of events. The
environment picks the events; an event that is not enabled has no successor. -/
namespace Semantics

variable {State Event : Type*} (step : State → Event → Option State)

/-- `Run step start events finish`: every event of the sequence was enabled in
its turn, and the last one led to `finish`. -/
inductive Run (start : State) : List Event → State → Prop where
  | nil : Run start [] start
  | snoc {events : List Event} {middle finish : State} {event : Event}
      (prior : Run start events middle) (last : step middle event = some finish) :
      Run start (events ++ [event]) finish

/-- Evaluate a schedule, for closed examples and for runs built by hand. -/
def exec : State → List Event → Option State
  | state, [] => some state
  | state, event :: rest => (step state event).bind (fun next => exec next rest)

variable {step}

/-- An invariant established at the start and kept by every event that the
run performs holds where the run ends. -/
theorem Run.invariant {start finish : State} {events : List Event}
    (run : Run step start events finish) (I : State → Prop) (hStart : I start)
    (hStep : ∀ s e t, e ∈ events → I s → step s e = some t → I t) : I finish := by
  induction run with
  | nil => exact hStart
  | @snoc events middle finish event prior last ih =>
      have hMiddle : I middle := ih (fun s e t he => hStep s e t (List.mem_append_left _ he))
      exact hStep middle event finish (by simp) hMiddle last

/-- Two runs placed end to end. -/
theorem Run.append {start middle finish : State} {first second : List Event}
    (left : Run step start first middle) (right : Run step middle second finish) :
    Run step start (first ++ second) finish := by
  induction right with
  | nil => simpa using left
  | snoc prior last ih => simpa [List.append_assoc] using Run.snoc ih last

theorem Run.single {start finish : State} {event : Event} (h : step start event = some finish) :
    Run step start [event] finish :=
  Run.snoc Run.nil h

/-- A schedule that evaluates to a state is a run to that state. -/
theorem run_of_exec {start finish : State} {events : List Event}
    (h : exec step start events = some finish) : Run step start events finish := by
  induction events generalizing start with
  | nil =>
      simp only [exec, Option.some.injEq] at h
      subst finish
      exact Run.nil
  | cons event rest ih =>
      simp only [exec, Option.bind_eq_some_iff] at h
      obtain ⟨next, hStep, hRest⟩ := h
      exact (Run.single hStep).append (ih hRest)

/-- Every initial part of a schedule was itself a run, and the rest of the
schedule continues from where that part ended. -/
theorem Run.split {start finish : State} {first second : List Event}
    (run : Run step start (first ++ second) finish) :
    ∃ middle, Run step start first middle ∧ Run step middle second finish := by
  induction second using List.reverseRecOn generalizing finish with
  | nil => exact ⟨finish, by simpa using run, Run.nil⟩
  | append_singleton second event ih =>
      rw [← List.append_assoc] at run
      generalize hEvents : first ++ second ++ [event] = events at run
      cases run with
      | nil => simp at hEvents
      | snoc prior last =>
          obtain ⟨hPrior, hLast⟩ := List.append_inj' hEvents rfl
          obtain rfl : event = _ := by simpa using hLast
          subst hPrior
          obtain ⟨middle, hFirst, hSecond⟩ := ih prior
          exact ⟨middle, hFirst, hSecond.snoc last⟩

/-- The events determine where a run ends. -/
theorem Run.unique {start finish finish' : State} {events : List Event}
    (run : Run step start events finish) (run' : Run step start events finish') :
    finish = finish' := by
  induction run generalizing finish' with
  | nil =>
      generalize hEvents : ([] : List Event) = events at run'
      cases run' with
      | nil => rfl
      | snoc => simp at hEvents
  | @snoc events middle finish event prior last ih =>
      generalize hEvents : events ++ [event] = all at run'
      cases run' with
      | nil => simp at hEvents
      | snoc prior' last' =>
          obtain ⟨rfl, hEvent⟩ := List.append_inj' hEvents rfl
          obtain rfl : event = _ := by simpa using hEvent
          obtain rfl := ih prior'
          exact Option.some.inj (last.symm.trans last')

/-- Where an entry of a list with one more at its end can stand. -/
theorem snoc_eq_append_cons {events before after : List Event} {event e : Event} :
    events ++ [event] = before ++ e :: after ↔
      (after = [] ∧ before = events ∧ e = event) ∨
        ∃ final, after = final ++ [event] ∧ events = before ++ e :: final := by
  constructor
  · intro hSplit
    obtain rfl | ⟨final, last, rfl⟩ := after.eq_nil_or_concat
    · obtain ⟨rfl, hEvent⟩ := List.append_inj' hSplit rfl
      exact .inl ⟨rfl, rfl, (List.singleton_inj.mp hEvent).symm⟩
    · rw [List.concat_eq_append, ← List.cons_append, ← List.append_assoc] at hSplit
      obtain ⟨hEvents, hLast⟩ := List.append_inj' hSplit rfl
      obtain rfl := List.singleton_inj.mp hLast
      exact .inr ⟨final, List.concat_eq_append, hEvents⟩
  · rintro (⟨rfl, rfl, rfl⟩ | ⟨final, rfl, rfl⟩) <;> simp

/-- An entry that is not in the second part of a list stands in the first. -/
theorem split_of_append {Entry : Type*} {first second before after : List Entry} {a : Entry}
    (h : first ++ second = before ++ a :: after) (hNot : a ∉ second) :
    ∃ rest, first = before ++ a :: rest := by
  obtain ⟨more, -, hSecond⟩ | ⟨more, hFirst, hRest⟩ := List.append_eq_append_iff.mp h
  · exact absurd (hSecond ▸ List.mem_append_right _ (List.mem_cons_self ..)) hNot
  · cases more with
    | nil =>
        have hSecond : a :: after = second := hRest
        rw [← hSecond] at hNot
        exact absurd (List.mem_cons_self ..) hNot
    | cons own more =>
        obtain ⟨rfl, -⟩ := List.cons.inj hRest
        exact ⟨more, hFirst⟩

/-- Where every event adds one line to a log at most, each line was added by an
event of the run, when the log ended right before it. -/
theorem Run.of_log {Line : Type*} {start finish : State} {events : List Event}
    (run : Run step start events finish) (log : State → List Line) (hStart : log start = [])
    (hStep : ∀ s e t, step s e = some t → log t = log s ∨ ∃ line, log t = log s ++ [line])
    {before after : List Line} {line : Line} (hLog : log finish = before ++ line :: after) :
    ∃ earlier event later middle next, events = earlier ++ event :: later ∧
      Run step start earlier middle ∧ step middle event = some next ∧ log middle = before ∧
      log next = before ++ [line] ∧ Run step next later finish := by
  induction run generalizing after with
  | nil =>
      rw [hStart] at hLog
      simp at hLog
  | @snoc events middle finish event prior last ih =>
      have hEarlier {final : List Line} (hMiddle : log middle = before ++ line :: final) :
          ∃ earlier e later s next, events ++ [event] = earlier ++ e :: later ∧
            Run step start earlier s ∧ step s e = some next ∧ log s = before ∧
            log next = before ++ [line] ∧ Run step next later finish := by
        obtain ⟨earlier, e, later, s, next, rfl, hRun, hNext, hBefore, hLine, hRest⟩ := ih hMiddle
        exact ⟨earlier, e, later ++ [event], s, next, by simp, hRun, hNext, hBefore, hLine,
          hRest.snoc last⟩
      obtain hSame | ⟨own, hOwn⟩ := hStep middle event finish last
      · exact hEarlier (hSame.symm.trans hLog)
      · obtain ⟨-, rfl, rfl⟩ | ⟨final, -, hMiddle⟩ := snoc_eq_append_cons.mp (hOwn.symm.trans hLog)
        · exact ⟨events, event, [], middle, finish, rfl, prior, last, rfl, hOwn, .nil⟩
        · exact hEarlier hMiddle

/-- A component that moves at some of the events and otherwise rests goes
through a run of its own. -/
theorem Run.component {Part Move Label : Type*} {advance : Part → Move → Option Part}
    {start finish : State} {events : List Event} (run : Run step start events finish)
    (part : State → Part) (label : Move → Label) (own : Event → Option Label)
    (hStep : ∀ s e t, step s e = some t → own e = none ∧ part t = part s ∨
      ∃ move, own e = some (label move) ∧ advance (part s) move = some (part t)) :
    ∃ moves, Run advance (part start) moves (part finish) ∧ moves.map label = events.filterMap own := by
  induction run with
  | nil => exact ⟨[], .nil, rfl⟩
  | @snoc events middle finish event prior last ih =>
      obtain ⟨moves, hRun, hMoves⟩ := ih
      obtain ⟨hOwn, hRests⟩ | ⟨move, hOwn, hMove⟩ := hStep middle event finish last
      · exact ⟨moves, hRests ▸ hRun, by simp [hMoves, hOwn]⟩
      · exact ⟨moves ++ [move], hRun.snoc hMove, by simp [hMoves, hOwn]⟩

/-- A property that every event keeps exactly if it is performed in a good
state holds at the end exactly if every event of the run was. -/
theorem Run.iff_every_step {start finish : State} {events : List Event}
    (run : Run step start events finish) {P : State → Prop} {G : State → Event → Prop}
    (hStart : P start) (hStep : ∀ before s e t, Run step start before s → step s e = some t →
      (P t ↔ P s ∧ G s e)) :
    P finish ↔ ∀ before e after s, events = before ++ e :: after →
      Run step start before s → G s e := by
  induction run with
  | nil =>
      refine iff_of_true hStart ?_
      intro before e after s hSplit
      simp at hSplit
  | @snoc events middle finish event prior last ih =>
      rw [hStep events middle event finish prior last, ih]
      constructor
      · rintro ⟨hEvery, hLast⟩ before e after s hSplit hRun
        obtain ⟨rfl, rfl, rfl⟩ | ⟨final, rfl, hEvents⟩ := snoc_eq_append_cons.mp hSplit
        · obtain rfl := prior.unique hRun
          exact hLast
        · exact hEvery before e final s hEvents hRun
      · intro hEvery
        refine ⟨fun before e after s hSplit hRun => ?_, hEvery events event [] middle rfl prior⟩
        exact hEvery before e (after ++ [event]) s (by simp [hSplit]) hRun

end Semantics
