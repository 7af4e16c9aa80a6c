import Mathlib.Logic.Function.Basic
import PacketRouterIngest.Semantics.Runs

/-! Sessions that register under a key and leave it again. A table that keeps
one session for each key knows only the last registration or departure; it
agrees with the sessions themselves unless a departure was stale, that is,
unless another session of the key was still there. -/
namespace Semantics

/-- One line of the registration history. -/
inductive SessionOp (Session Key : Type*) where
  | connect (session : Session) (key : Key)
  | disconnect (session : Session) (key : Key)
deriving DecidableEq

variable {Session Key : Type*}

def SessionOp.key : SessionOp Session Key → Key
  | .connect _ key | .disconnect _ key => key

/-- The session that registers in the line. -/
def SessionOp.connecting : SessionOp Session Key → Option Session
  | .connect session _ => some session
  | .disconnect _ _ => none

/-- The session is registered under the key and has not left. -/
def Live (history : List (SessionOp Session Key)) (session : Session) (key : Key) : Prop :=
  .connect session key ∈ history ∧ .disconnect session key ∉ history

/-- Every session registers once and leaves only what it registered under. -/
inductive Valid : List (SessionOp Session Key) → Prop where
  | nil : Valid []
  | connect {history : List (SessionOp Session Key)} (prior : Valid history) (session : Session)
      (key : Key) (fresh : ∀ other, .connect session other ∉ history ∧
        .disconnect session other ∉ history) : Valid (history ++ [.connect session key])
  | disconnect {history : List (SessionOp Session Key)} (prior : Valid history)
      (session : Session) (key : Key) (live : Live history session key) :
      Valid (history ++ [.disconnect session key])

/-- The last line about the key was a departure, at a moment when another
session of the key was there. -/
def Stale (history : List (SessionOp Session Key)) (key : Key) : Prop :=
  ∃ before session after other, history = before ++ .disconnect session key :: after ∧
    (∀ op ∈ after, op.key ≠ key) ∧ Live before other key ∧ other ≠ session

/-- Every departure left the key without another session. -/
def Orderly (history : List (SessionOp Session Key)) : Prop :=
  ∀ before session key after, history = before ++ .disconnect session key :: after →
    ∀ other, Live before other key → other = session

/-- At no time were two sessions there. -/
def Exclusive (history : List (SessionOp Session Key)) : Prop :=
  ∀ before after, history = before ++ after → ∀ session key other otherKey,
    Live before session key → Live before other otherKey → other = session

variable [DecidableEq Key]

/-- The table after one line: the last registration of a key stands until any
departure of that key. -/
def SessionOp.apply (table : Key → Option Session) :
    SessionOp Session Key → Key → Option Session
  | .connect session key => Function.update table key (some session)
  | .disconnect _ key => Function.update table key none

def holder (history : List (SessionOp Session Key)) : Key → Option Session :=
  history.foldl SessionOp.apply (fun _ => none)

variable {history : List (SessionOp Session Key)} {session other : Session} {key : Key}

theorem holder_append_singleton (op : SessionOp Session Key) :
    holder (history ++ [op]) = op.apply (holder history) := by
  simp [holder]

theorem holder_connect (session : Session) (own key : Key) :
    holder (history ++ [.connect session own]) key =
      if key = own then some session else holder history key := by
  rw [holder_append_singleton, SessionOp.apply, Function.update_apply]

theorem holder_disconnect (session : Session) (own key : Key) :
    holder (history ++ [.disconnect session own]) key =
      if key = own then none else holder history key := by
  rw [holder_append_singleton, SessionOp.apply, Function.update_apply]

omit [DecidableEq Key] in
theorem live_append_of_ne {op : SessionOp Session Key} (hKey : op.key ≠ key) :
    Live (history ++ [op]) session key ↔ Live history session key := by
  have hConnect : op ≠ .connect session key := by
    rintro rfl
    exact hKey rfl
  have hDisconnect : op ≠ .disconnect session key := by
    rintro rfl
    exact hKey rfl
  simp [Live, hConnect.symm, hDisconnect.symm]

/-- The session in the table is there. -/
theorem Valid.live_of_holder (h : Valid history) (hHolder : holder history key = some session) :
    Live history session key := by
  induction h with
  | nil => cases hHolder
  | connect prior own ownKey fresh ih =>
      rw [holder_connect] at hHolder
      split_ifs at hHolder with hKey
      · cases hHolder
        subst hKey
        exact ⟨by simp, by simpa using (fresh key).2⟩
      · exact (live_append_of_ne (Ne.symm hKey)).mpr (ih hHolder)
  | disconnect prior own ownKey live ih =>
      rw [holder_disconnect] at hHolder
      split_ifs at hHolder with hKey
      exact (live_append_of_ne (Ne.symm hKey)).mpr (ih hHolder)

omit [DecidableEq Key] in
/-- The last line about a key of a longer history is its new line, or is the
last one as before. -/
theorem departure_append_singleton {op : SessionOp Session Key} :
    (∃ before session after, history ++ [op] = before ++ .disconnect session key :: after ∧
        ∀ line ∈ after, line.key ≠ key) ↔
      (∃ session, op = .disconnect session key) ∨ op.key ≠ key ∧
        ∃ before session after, history = before ++ .disconnect session key :: after ∧
          ∀ line ∈ after, line.key ≠ key := by
  constructor
  · rintro ⟨before, session, after, hSplit, hAfter⟩
    obtain ⟨-, -, hOp⟩ | ⟨after, rfl, hHistory⟩ := snoc_eq_append_cons.mp hSplit
    · exact .inl ⟨session, hOp.symm⟩
    · have hKey : op.key ≠ key := hAfter op (by simp)
      exact .inr ⟨hKey, before, session, after, hHistory, fun line hLine => hAfter line (by simp [hLine])⟩
  · rintro (⟨session, rfl⟩ | ⟨hKey, before, session, after, rfl, hAfter⟩)
    · exact ⟨history, session, [], rfl, by simp⟩
    · refine ⟨before, session, after ++ [op], by simp, ?_⟩
      intro line hLine
      rcases List.mem_append.mp hLine with hLine | hLine
      · exact hAfter line hLine
      · rwa [List.mem_singleton.mp hLine]

/-- A key without an entry was never registered, or its last line was a
departure. -/
theorem holder_eq_none :
    holder history key = none ↔ (∀ op ∈ history, op.key ≠ key) ∨
      ∃ before session after, history = before ++ .disconnect session key :: after ∧
        ∀ op ∈ after, op.key ≠ key := by
  induction history using List.reverseRecOn with
  | nil => simp [holder]
  | append_singleton history op ih =>
      rw [departure_append_singleton]
      cases op with
      | connect session own =>
          rw [holder_connect]
          by_cases hKey : key = own
          · simp [hKey, SessionOp.key]
          · rw [if_neg hKey, ih]
            simp [SessionOp.key, Ne.symm hKey, or_imp, forall_and]
      | disconnect session own =>
          rw [holder_disconnect]
          by_cases hKey : key = own
          · simp [hKey, SessionOp.key]
          · rw [if_neg hKey, ih]
            simp [SessionOp.key, Ne.symm hKey, or_imp, forall_and]

/-- **A last-writer table.** A key with a session there has an entry, unless
its last line was a stale departure. -/
theorem Valid.holder_isSome_iff (h : Valid history) :
    ((∃ session, Live history session key) ↔ ∃ session, holder history key = some session) ↔
      ¬ Stale history key := by
  have hSome : (∃ session, holder history key = some session) ↔ holder history key ≠ none :=
    Option.ne_none_iff_exists'.symm
  constructor
  · rintro hAgree ⟨before, session, after, other, rfl, hAfter, ⟨hConnect, hStays⟩, hOther⟩
    have hLive : Live (before ++ .disconnect session key :: after) other key := by
      refine ⟨by simp [hConnect], ?_⟩
      simp only [List.mem_append, List.mem_cons, SessionOp.disconnect.injEq, and_true, not_or]
      exact ⟨hStays, hOther, fun hMem => hAfter _ hMem rfl⟩
    exact hSome.mp (hAgree.mp ⟨other, hLive⟩) (holder_eq_none.mpr (.inr ⟨before, session, after, rfl, hAfter⟩))
  · intro hStale
    refine ⟨fun ⟨other, hConnect, hStays⟩ => hSome.mpr fun hNone => ?_,
      fun ⟨session, hHolder⟩ => ⟨session, h.live_of_holder hHolder⟩⟩
    rcases holder_eq_none.mp hNone with hAll | ⟨before, session, after, rfl, hAfter⟩
    · exact hAll _ hConnect rfl
    · have hBefore : .connect other key ∈ before := by
        simp only [List.mem_append, List.mem_cons, reduceCtorEq, false_or] at hConnect
        exact hConnect.resolve_right fun hMem => hAfter _ hMem rfl
      simp only [List.mem_append, List.mem_cons, SessionOp.disconnect.injEq, and_true, not_or] at hStays
      exact hStale ⟨before, session, after, other, rfl, hAfter, ⟨hBefore, hStays.1⟩, hStays.2.1⟩

omit [DecidableEq Key] in
/-- The beginning of a valid history is valid. -/
theorem Valid.of_append {later : List (SessionOp Session Key)} (h : Valid (history ++ later)) :
    Valid history := by
  induction later using List.reverseRecOn with
  | nil => simpa using h
  | append_singleton later op ih =>
      rw [← List.append_assoc] at h
      generalize hAll : history ++ later ++ [op] = all at h
      cases h with
      | nil => simp at hAll
      | connect prior session key fresh =>
          rw [← (List.append_inj' hAll rfl).1] at prior
          exact ih prior
      | disconnect prior session key live =>
          rw [← (List.append_inj' hAll rfl).1] at prior
          exact ih prior

omit [DecidableEq Key] in
theorem Orderly.of_append {later : List (SessionOp Session Key)} (h : Orderly (history ++ later)) :
    Orderly history := by
  rintro before session key after rfl
  exact h before session key (after ++ later) (by simp)

omit [DecidableEq Key] in
theorem orderly_nil : Orderly ([] : List (SessionOp Session Key)) := by
  intro before session key after hSplit
  simp at hSplit

omit [DecidableEq Key] in
theorem Orderly.connect (h : Orderly history) (session : Session) (key : Key) :
    Orderly (history ++ [.connect session key]) := by
  intro before leaving left after hSplit
  obtain ⟨-, -, hOp⟩ | ⟨final, rfl, hHistory⟩ := snoc_eq_append_cons.mp hSplit
  · cases hOp
  · exact h before leaving left final hHistory

omit [DecidableEq Key] in
theorem Orderly.disconnect (h : Orderly history)
    (hAlone : ∀ other, Live history other key → other = session) :
    Orderly (history ++ [.disconnect session key]) := by
  intro before leaving left after hSplit
  obtain ⟨-, rfl, hOp⟩ | ⟨final, rfl, hHistory⟩ := snoc_eq_append_cons.mp hSplit
  · cases hOp
    exact hAlone
  · exact h before leaving left final hHistory

omit [DecidableEq Key] in
/-- In an orderly history no departure is stale. -/
theorem Orderly.not_stale (h : Orderly history) (key : Key) : ¬ Stale history key := by
  rintro ⟨before, session, after, other, hSplit, -, hLive, hOther⟩
  exact hOther (h before session key after hSplit other hLive)

omit [DecidableEq Key] in
theorem Exclusive.of_append {later : List (SessionOp Session Key)}
    (h : Exclusive (history ++ later)) : Exclusive history := by
  rintro before after rfl
  exact h before (after ++ later) (by simp)

omit [DecidableEq Key] in
/-- A session leaves what it is registered under. -/
theorem Valid.live_of_disconnect {before after : List (SessionOp Session Key)}
    (h : Valid (before ++ .disconnect session key :: after)) : Live before session key := by
  have hPrefix : Valid (before ++ [.disconnect session key]) := by
    rw [List.append_cons] at h
    exact h.of_append
  generalize hAll : before ++ [SessionOp.disconnect session key] = all at hPrefix
  cases hPrefix with
  | nil => simp at hAll
  | connect prior own ownKey fresh => simpa using (List.append_inj' hAll rfl).2
  | disconnect prior own ownKey live =>
      obtain ⟨rfl, hLast⟩ := List.append_inj' hAll rfl
      cases List.singleton_inj.mp hLast
      exact live

omit [DecidableEq Key] in
/-- A session is registered under one key only. -/
theorem Valid.connect_unique (h : Valid history) {other : Key} (hKey : .connect session key ∈ history)
    (hOther : .connect session other ∈ history) : other = key := by
  induction h with
  | nil => cases hKey
  | disconnect prior own ownKey live ih =>
      simp only [List.mem_append, List.mem_singleton, reduceCtorEq, or_false] at hKey hOther
      exact ih hKey hOther
  | connect prior own ownKey fresh ih =>
      simp only [List.mem_append, List.mem_singleton, SessionOp.connect.injEq] at hKey hOther
      rcases hKey with hKey | ⟨rfl, rfl⟩ <;> rcases hOther with hOther | ⟨hSame, rfl⟩
      · exact ih hKey hOther
      · rw [hSame] at hKey
        exact absurd hKey (fresh key).1
      · exact absurd hOther (fresh other).1
      · rfl

omit [DecidableEq Key] in
/-- No session registers twice. -/
theorem Valid.nodup_connecting (h : Valid history) :
    (history.filterMap SessionOp.connecting).Nodup := by
  induction h with
  | nil => exact List.nodup_nil
  | disconnect prior session key live ih =>
      rw [List.filterMap_append]
      exact (List.append_nil _).symm ▸ ih
  | @connect history prior session key fresh ih =>
      have hNew : session ∉ history.filterMap SessionOp.connecting := by
        intro hMem
        obtain ⟨op, hOp, hSession⟩ := List.mem_filterMap.mp hMem
        cases op with
        | disconnect => cases hSession
        | connect own other =>
            cases hSession
            exact (fresh other).1 hOp
      rw [List.filterMap_append]
      refine List.nodup_append.mpr ⟨ih, List.pairwise_singleton _ session, ?_⟩
      rintro first hFirst second hSecond rfl
      rw [List.mem_singleton.mp hSecond] at hFirst
      exact hNew hFirst

omit [DecidableEq Key] in
/-- Where no two sessions are there at once, none leaves another behind. -/
theorem Exclusive.orderly (h : Exclusive history) (hValid : Valid history) : Orderly history := by
  rintro before session key after rfl other hOther
  exact h before (.disconnect session key :: after) rfl session key other key
    hValid.live_of_disconnect hOther

/-- The table of one session knows nothing but its key. -/
theorem Exclusive.holder_eq (h : Exclusive history) (hValid : Valid history)
    (hLive : Live history session key) (other : Key) :
    holder history other = if other = key then some session else none := by
  have hOnly (holding : Session) (hHolder : holder history other = some holding) :
      holding = session ∧ other = key := by
    have hOther := hValid.live_of_holder hHolder
    obtain rfl := h history [] (by simp) session key holding other hLive hOther
    exact ⟨rfl, hValid.connect_unique hLive.1 hOther.1⟩
  split_ifs with hKey
  · subst hKey
    obtain ⟨holding, hHolder⟩ := (hValid.holder_isSome_iff.mpr
      ((h.orderly hValid).not_stale other)).mp ⟨session, hLive⟩
    rw [hHolder, (hOnly holding hHolder).1]
  · cases hHolder : holder history other with
    | none => rfl
    | some holding => exact absurd (hOnly holding hHolder).2 hKey

omit [DecidableEq Key] in
/-- A session there is there under its own key only. -/
theorem Valid.live_iff (h : Valid history) (hLive : Live history session key) (other : Key) :
    Live history session other ↔ other = key := by
  constructor
  · intro hOther
    exact h.connect_unique hLive.1 hOther.1
  · rintro rfl
    exact hLive

omit [DecidableEq Key] in
/-- A history of one session is exclusive. -/
theorem exclusive_of_single (h : ∀ op ∈ history, ∃ key, op = .connect session key ∨
    op = .disconnect session key) : Exclusive history := by
  rintro before after rfl first key second otherKey hFirst hSecond
  obtain ⟨_, hOwn | hOwn⟩ := h (.connect first key) (List.mem_append_left _ hFirst.1)
  · obtain ⟨_, hOther | hOther⟩ := h (.connect second otherKey) (List.mem_append_left _ hSecond.1)
    · cases hOwn
      cases hOther
      rfl
    · cases hOther
  · cases hOwn

end Semantics
