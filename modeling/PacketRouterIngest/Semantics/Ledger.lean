import Mathlib.Data.List.AList
import Mathlib.Data.List.Induction

/-! Generations of keyed items. A log opens a generation of a key, adds items
to it, offers what it has collected so far, and closes it. The ledger is what
one reads off the log; items and offers are remembered with their place in it. -/
namespace Semantics

/-- One line of the log. -/
inductive Entry (Key Item Offer : Type*) where
  | opens (key : Key) (item : Item)
  | joins (key : Key) (item : Item)
  | offers (key : Key) (offer : Offer)
  | closes (key : Key)

structure Generation (Key Item Offer : Type*) where
  key : Key
  /-- Items before the offer. -/
  collected : List (Nat × Item)
  offer : Option (Nat × Offer)
  /-- Items after the offer. -/
  late : List (Nat × Item)
  closed : Option Nat

variable {Key Item Offer : Type*}

namespace Generation

variable (g : Generation Key Item Offer) (time : Nat)

def items : List (Nat × Item) := g.collected ++ g.late

/-- Everything that happened to the generation, in the order it keeps. -/
def times : List Nat :=
  g.collected.map Prod.fst ++ (g.offer.map Prod.fst).toList ++ g.late.map Prod.fst ++
    g.closed.toList

def start (key : Key) (item : Item) : Generation Key Item Offer := ⟨key, [(time, item)], none, [], none⟩

def join (item : Item) : Generation Key Item Offer :=
  match g.offer with
  | none => { g with collected := g.collected ++ [(time, item)] }
  | some _ => { g with late := g.late ++ [(time, item)] }

def offerAt (offer : Offer) : Generation Key Item Offer := { g with offer := some (time, offer) }

def close : Generation Key Item Offer := { g with closed := some time }

/-- What the log says about a generation that is read off it. -/
structure Recorded (log : List (Option (Entry Key Item Offer))) (g : Generation Key Item Offer) :
    Prop where
  opened : ∃ opener rest, g.collected = opener :: rest ∧
    log[opener.1]? = some (some (.opens g.key opener.2))
  joined : ∀ x ∈ g.items.tail, log[x.1]? = some (some (.joins g.key x.2))
  offered : ∀ x, g.offer = some x → log[x.1]? = some (some (.offers g.key x.2))
  closed : ∀ time, g.closed = some time → log[time]? = some (some (.closes g.key))
  waits : g.offer = none → g.late = []
  ordered : g.times.Pairwise (· < ·)
  past : ∀ time ∈ g.times, time < log.length

end Generation

/-- Finished generations, and the open one of each key. -/
structure Ledger (Key Item Offer : Type*) where
  finished : List (Generation Key Item Offer)
  current : AList (fun _ : Key => Generation Key Item Offer)

namespace Ledger

def empty : Ledger Key Item Offer := ⟨[], ∅⟩

def generations (l : Ledger Key Item Offer) : List (Generation Key Item Offer) :=
  l.finished ++ l.current.entries.map Sigma.snd

variable [DecidableEq Key]

/-- Change the open generation of a key, if there is one. -/
def update (l : Ledger Key Item Offer) (key : Key)
    (f : Generation Key Item Offer → Generation Key Item Offer) : Ledger Key Item Offer :=
  match l.current.lookup key with
  | none => l
  | some g => { l with current := l.current.insert key (f g) }

def record (l : Ledger Key Item Offer) (time : Nat) :
    Option (Entry Key Item Offer) → Ledger Key Item Offer
  | none => l
  | some (.opens key item) => { l with current := l.current.insert key (.start time key item) }
  | some (.joins key item) => l.update key (fun g => g.join time item)
  | some (.offers key offer) => l.update key (fun g => g.offerAt time offer)
  | some (.closes key) =>
      match l.current.lookup key with
      | none => l
      | some g => ⟨l.finished ++ [g.close time], l.current.erase key⟩

/-- Read a log. -/
def ofLog (log : List (Option (Entry Key Item Offer))) : Ledger Key Item Offer :=
  log.zipIdx.foldl (fun l line => l.record line.2 line.1) empty

theorem ofLog_snoc (log : List (Option (Entry Key Item Offer))) (entry : Option (Entry Key Item Offer)) :
    ofLog (log ++ [entry]) = (ofLog log).record log.length entry := by
  simp [ofLog, List.zipIdx_append]

/-- The line fits the ledger: it opens only an idle key, adds only to an open
generation, and offers no generation twice. -/
def Admits (l : Ledger Key Item Offer) : Option (Entry Key Item Offer) → Prop
  | some (.opens key _) => l.current.lookup key = none
  | some (.joins key _) => ∃ g, l.current.lookup key = some g
  | some (.offers key _) => ∃ g, l.current.lookup key = some g ∧ g.offer = none
  | _ => True

/-- Every line of the log fitted the ledger of the lines before it. -/
inductive Admissible : List (Option (Entry Key Item Offer)) → Prop where
  | nil : Admissible []
  | snoc {log : List (Option (Entry Key Item Offer))} {entry : Option (Entry Key Item Offer)}
      (prior : Admissible log) (fits : (ofLog log).Admits entry) : Admissible (log ++ [entry])

end Ledger

/-- What one line does to one generation. -/
inductive Change (time : Nat) : Option (Entry Key Item Offer) →
    Option (Generation Key Item Offer) → Option (Generation Key Item Offer) → Prop where
  | opens (key : Key) (item : Item) :
      Change time (some (.opens key item)) none (some (.start time key item))
  | joins (g : Generation Key Item Offer) (item : Item) :
      Change time (some (.joins g.key item)) (some g) (some (g.join time item))
  | offers (g : Generation Key Item Offer) (offer : Offer) (hOffer : g.offer = none) :
      Change time (some (.offers g.key offer)) (some g) (some (g.offerAt time offer))
  | closes (g : Generation Key Item Offer) :
      Change time (some (.closes g.key)) (some g) (some (g.close time))
  | closesNothing (key : Key) : Change time (some (.closes key)) none none
  | nothing : Change time none none none

/-- The items and the offers of a log, with their places. -/
def Entry.item : Entry Key Item Offer → Option Item
  | .opens _ item | .joins _ item => some item
  | _ => none

def Entry.offer : Entry Key Item Offer → Option Offer
  | .offers _ offer => some offer
  | _ => none

def Entry.key : Entry Key Item Offer → Key
  | .opens key _ | .joins key _ | .offers key _ | .closes key => key

/-- What a line makes of the open generation of its key. -/
def Entry.apply (time : Nat) :
    Entry Key Item Offer → Option (Generation Key Item Offer) → Option (Generation Key Item Offer)
  | .opens key item, _ => some (.start time key item)
  | .joins _ item, g => g.map (fun g => g.join time item)
  | .offers _ offer, g => g.map (fun g => g.offerAt time offer)
  | .closes _, _ => none

def received (log : List (Option (Entry Key Item Offer))) : List (Nat × Item) :=
  log.zipIdx.filterMap (fun line => (line.1.bind Entry.item).map (line.2, ·))

def offered (log : List (Option (Entry Key Item Offer))) : List (Nat × Offer) :=
  log.zipIdx.filterMap (fun line => (line.1.bind Entry.offer).map (line.2, ·))

section

variable {log : List (Option (Entry Key Item Offer))} {entry : Option (Entry Key Item Offer)}
  {g : Generation Key Item Offer}

theorem received_snoc :
    received (log ++ [entry]) =
      received log ++ ((entry.bind Entry.item).map (log.length, ·)).toList := by
  cases entry with
  | none => simp [received, List.zipIdx_append]
  | some line => cases h : line.item <;> simp [received, List.zipIdx_append, h]

/-- No two items have the same place. -/
theorem received_nodup (log : List (Option (Entry Key Item Offer))) : (received log).Nodup := by
  have hPlaces : ((received log).map Prod.fst).Nodup ∧ ∀ x ∈ received log, x.1 < log.length := by
    induction log using List.reverseRecOn with
    | nil => exact ⟨List.nodup_nil, by simp [received]⟩
    | append_singleton log entry ih =>
        obtain ⟨hNodup, hPast⟩ := ih
        rw [received_snoc]
        cases h : entry.bind Entry.item with
        | none =>
            refine ⟨by simpa using hNodup, fun x hx => ?_⟩
            have := hPast x (by simpa using hx)
            rw [List.length_append]
            omega
        | some item =>
            have hNew : log.length ∉ (received log).map Prod.fst := by
              intro hMem
              obtain ⟨x, hx, hPlace⟩ := List.mem_map.mp hMem
              have := hPast x hx
              omega
            refine ⟨?_, fun x hx => ?_⟩
            · rw [List.map_append]
              exact hNodup.append (by simp) (by simpa using hNew)
            · rw [List.length_append, List.length_singleton]
              rcases List.mem_append.mp hx with hx | hx
              · have := hPast x hx
                omega
              · rw [show x = (log.length, item) by simpa using hx]
                omega
  exact hPlaces.1.of_map _

theorem offered_snoc :
    offered (log ++ [entry]) =
      offered log ++ ((entry.bind Entry.offer).map (log.length, ·)).toList := by
  cases entry with
  | none => simp [offered, List.zipIdx_append]
  | some line => cases h : line.offer <;> simp [offered, List.zipIdx_append, h]

namespace Generation

/-- A line of the log stays where it is when the log grows. -/
theorem getElem?_snoc {time : Nat} {line : Option (Entry Key Item Offer)}
    (h : log[time]? = some line) : (log ++ [entry])[time]? = some line := by
  have hTime : time < log.length := (List.getElem?_eq_some_iff.mp h).1
  rw [List.getElem?_append_left hTime, h]

theorem Recorded.snoc (h : g.Recorded log) : g.Recorded (log ++ [entry]) where
  opened := by
    obtain ⟨opener, rest, hCollected, hLine⟩ := h.opened
    exact ⟨opener, rest, hCollected, getElem?_snoc hLine⟩
  joined x hx := getElem?_snoc (h.joined x hx)
  offered x hx := getElem?_snoc (h.offered x hx)
  closed time ht := getElem?_snoc (h.closed time ht)
  waits := h.waits
  ordered := h.ordered
  past time ht := by
    rw [List.length_append]
    exact Nat.lt_add_right _ (h.past time ht)

/-- The next event of a generation comes after all earlier ones. -/
theorem ordered_snoc (entry : Option (Entry Key Item Offer)) {g' : Generation Key Item Offer}
    (h : g.Recorded log) (hTimes : g'.times = g.times ++ [log.length]) :
    g'.times.Pairwise (· < ·) ∧ ∀ time ∈ g'.times, time < (log ++ [entry]).length := by
  rw [hTimes, List.pairwise_append]
  refine ⟨⟨h.ordered, List.pairwise_singleton _ _, ?_⟩, ?_⟩
  · intro time hTime last hLast
    rw [List.mem_singleton.mp hLast]
    exact h.past time hTime
  · intro time hTime
    rw [List.length_append, List.length_singleton]
    rcases List.mem_append.mp hTime with hOld | hNew
    · have := h.past time hOld
      omega
    · rw [List.mem_singleton.mp hNew]
      omega

theorem items_join (h : g.Recorded log) (time : Nat) (item : Item) :
    (g.join time item).items = g.items ++ [(time, item)] := by
  cases hOffer : g.offer with
  | none => simp [join, hOffer, items, h.waits hOffer]
  | some offer => simp [join, hOffer, items]

theorem times_join (h : g.Recorded log) (hClosed : g.closed = none) (time : Nat) (item : Item) :
    (g.join time item).times = g.times ++ [time] := by
  cases hOffer : g.offer with
  | none => simp [join, hOffer, times, h.waits hOffer, hClosed]
  | some offer => simp [join, hOffer, times, hClosed]

@[simp] theorem offer_join (time : Nat) (item : Item) : (g.join time item).offer = g.offer := by
  cases hOffer : g.offer <;> simp [join, hOffer]

@[simp] theorem key_join (time : Nat) (item : Item) : (g.join time item).key = g.key := by
  cases hOffer : g.offer <;> simp [join, hOffer]

@[simp] theorem closed_join (time : Nat) (item : Item) : (g.join time item).closed = g.closed := by
  cases hOffer : g.offer <;> simp [join, hOffer]

theorem tail_join (h : g.Recorded log) (time : Nat) (item : Item) :
    (g.join time item).items.tail = g.items.tail ++ [(time, item)] := by
  obtain ⟨opener, rest, hCollected, -⟩ := h.opened
  rw [items_join h, items, hCollected]
  simp

theorem recorded_start (key : Key) (item : Item) :
    (start log.length key item : Generation Key Item Offer).Recorded
      (log ++ [some (.opens key item)]) where
  opened := ⟨_, [], rfl, by simp [start]⟩
  joined := by simp [items, start]
  offered := by simp [start]
  closed := by simp [start]
  waits _ := rfl
  ordered := by simp [times, start]
  past := by simp [times, start]

/-- The item of the line is the last of the generation: collected before the
offer, late after it. -/
theorem Recorded.join (h : g.Recorded log) (hClosed : g.closed = none) (item : Item) :
    (g.join log.length item).Recorded (log ++ [some (.joins g.key item)]) := by
  obtain ⟨hOrdered, hPast⟩ := ordered_snoc (some (.joins g.key item)) h
    (times_join h hClosed log.length item)
  obtain ⟨opener, rest, hCollected, hOpener⟩ := h.opened
  exact {
    opened := by
      cases hOffer : g.offer with
      | none =>
          exact ⟨opener, rest ++ [(log.length, item)],
            by simp [Generation.join, hOffer, hCollected], by simpa using getElem?_snoc hOpener⟩
      | some offer =>
          exact ⟨opener, rest, by simp [Generation.join, hOffer, hCollected],
            by simpa using getElem?_snoc hOpener⟩
    joined := by
      intro x hx
      rw [tail_join h] at hx
      rcases List.mem_append.mp hx with hOld | hNew
      · simpa using getElem?_snoc (h.joined x hOld)
      · rw [List.mem_singleton.mp hNew]
        simp
    offered := by
      intro x hx
      rw [offer_join] at hx
      simpa using getElem?_snoc (h.offered x hx)
    closed := by
      intro time hTime
      rw [closed_join, hClosed] at hTime
      cases hTime
    waits := by
      intro hOffer
      rw [offer_join] at hOffer
      simpa [Generation.join, hOffer] using h.waits hOffer
    ordered := hOrdered
    past := hPast }

theorem Recorded.offerAt (h : g.Recorded log) (hClosed : g.closed = none)
    (hOffer : g.offer = none) (offer : Offer) :
    (g.offerAt log.length offer).Recorded (log ++ [some (.offers g.key offer)]) := by
  have hTimes : (g.offerAt log.length offer).times = g.times ++ [log.length] := by
    simp [times, Generation.offerAt, hOffer, h.waits hOffer, hClosed]
  obtain ⟨hOrdered, hPast⟩ := ordered_snoc (some (.offers g.key offer)) h hTimes
  have hNext : g.Recorded (log ++ [some (.offers g.key offer)]) := h.snoc
  exact {
    opened := hNext.opened
    joined := hNext.joined
    offered := by
      intro x hx
      cases hx
      simp [Generation.offerAt]
    closed := hNext.closed
    waits := by
      intro hNone
      cases hNone
    ordered := hOrdered
    past := hPast }

theorem Recorded.close (h : g.Recorded log) (hClosed : g.closed = none) :
    (g.close log.length).Recorded (log ++ [some (.closes g.key)]) := by
  have hTimes : (g.close log.length).times = g.times ++ [log.length] := by
    simp [times, Generation.close, hClosed]
  obtain ⟨hOrdered, hPast⟩ := ordered_snoc (some (.closes g.key)) h hTimes
  have hNext : g.Recorded (log ++ [some (.closes g.key)]) := h.snoc
  exact {
    opened := hNext.opened
    joined := hNext.joined
    offered := hNext.offered
    closed := by
      intro time hTime
      cases hTime
      simp [Generation.close]
    waits := hNext.waits
    ordered := hOrdered
    past := hPast }

end Generation

/-- A line that changes a generation is recorded in it. -/
theorem Change.recorded {old new : Option (Generation Key Item Offer)}
    (h : Change log.length entry old new)
    (hOld : ∀ g, old = some g → g.Recorded log ∧ g.closed = none) :
    ∀ g, new = some g → g.Recorded (log ++ [entry]) := by
  intro g hNew
  cases h with
  | closesNothing | nothing => cases hNew
  | opens key item =>
      cases hNew
      exact Generation.recorded_start key item
  | joins g item =>
      cases hNew
      obtain ⟨hRecorded, hOpen⟩ := hOld g rfl
      exact hRecorded.join hOpen item
  | offers g offer hOffer =>
      cases hNew
      obtain ⟨hRecorded, hOpen⟩ := hOld g rfl
      exact hRecorded.offerAt hOpen hOffer offer
  | closes g =>
      cases hNew
      obtain ⟨hRecorded, hOpen⟩ := hOld g rfl
      exact hRecorded.close hOpen

/-- It adds its own item and its own offer, and nothing else. -/
theorem Change.items {old new : Option (Generation Key Item Offer)}
    (h : Change log.length entry old new) (hOld : ∀ g, old = some g → g.Recorded log) :
    new.toList.flatMap Generation.items =
      old.toList.flatMap Generation.items ++
        ((entry.bind Entry.item).map (log.length, ·)).toList := by
  cases h with
  | opens | closesNothing | nothing => simp [Generation.start, Generation.items, Entry.item]
  | joins g item => simp [Generation.items_join (hOld g rfl), Entry.item]
  | offers | closes => simp [Generation.offerAt, Generation.close, Generation.items, Entry.item]

theorem Change.offers_eq {old new : Option (Generation Key Item Offer)}
    (h : Change log.length entry old new) :
    new.toList.filterMap Generation.offer =
      old.toList.filterMap Generation.offer ++
        ((entry.bind Entry.offer).map (log.length, ·)).toList := by
  cases h with
  | opens | closesNothing | nothing => simp [Generation.start, Entry.offer]
  | joins g item => cases hOffer : g.offer <;> simp [Entry.offer, hOffer]
  | offers g offer hOffer => simp [Generation.offerAt, Entry.offer, hOffer]
  | closes g => cases hOffer : g.offer <;> simp [Generation.close, Entry.offer, hOffer]

end

namespace Ledger

variable [DecidableEq Key] {l : Ledger Key Item Offer} {key : Key} {g : Generation Key Item Offer}

/-- Replace the open generation of a key, or finish it: the other generations
stay as they are. -/
theorem exists_others (h : l.current.lookup key = some g) :
    ∃ others, l.generations.Perm (g :: others) ∧
      (∀ g', ({ l with current := l.current.insert key g' } : Ledger _ _ _).generations.Perm
        (g' :: others)) ∧
      (∀ g', (⟨l.finished ++ [g'], l.current.erase key⟩ : Ledger _ _ _).generations.Perm
        (g' :: others)) := by
  have hKey : key ∈ l.current.keys := AList.mem_keys.mp (AList.lookup_isSome.mp (by simp [h]))
  obtain ⟨found, left, right, hLeft, hEntries, hErase⟩ := List.exists_of_kerase hKey
  have hFound : found = g := by
    have hMem : (⟨key, found⟩ : Sigma fun _ : Key => Generation Key Item Offer) ∈ l.current.entries := by
      rw [hEntries]
      simp
    have hLookup := AList.mem_lookup_iff.mpr hMem
    rw [h] at hLookup
    exact (Option.some.inj hLookup).symm
  subst hFound
  refine ⟨l.finished ++ (left ++ right).map Sigma.snd, ?_, ?_, ?_⟩
  · rw [generations, hEntries]
    simp only [List.map_append, List.map_cons]
    rw [← List.append_assoc, ← List.append_assoc]
    exact List.perm_middle
  · intro g'
    rw [generations, AList.entries_insert, hErase]
    simp only [List.map_append, List.map_cons]
    exact List.perm_middle
  · intro g'
    have hCurrent : (l.current.erase key).entries = left ++ right := hErase
    rw [generations, hCurrent, List.append_assoc]
    exact List.perm_middle

/-- A line that fits changes one generation at most. -/
theorem change_of_admits (time : Nat) {entry : Option (Entry Key Item Offer)}
    (hKeyed : ∀ key g, l.current.lookup key = some g → g.key = key) (h : l.Admits entry) :
    ∃ old new others, Change time entry old new ∧
      l.generations.Perm (old.toList ++ others) ∧
      (l.record time entry).generations.Perm (new.toList ++ others) ∧
      ∀ g, old = some g → l.current.lookup g.key = some g := by
  cases entry with
  | none => exact ⟨none, none, l.generations, .nothing, .rfl, .rfl, by simp⟩
  | some entry =>
      cases entry with
      | opens key item =>
          refine ⟨none, _, l.generations, .opens key item, .rfl, ?_, by simp⟩
          have hNot : key ∉ l.current := AList.lookup_eq_none.mp h
          simp only [record, generations, AList.entries_insert_of_notMem hNot, List.map_cons]
          exact List.perm_middle
      | joins key item =>
          obtain ⟨g, hLookup⟩ := h
          obtain rfl := hKeyed key g hLookup
          obtain ⟨others, hOld, hInsert, -⟩ := exists_others hLookup
          refine ⟨some g, some _, others, .joins g item, hOld, ?_, by simpa using hLookup⟩
          simp only [record, update, hLookup]
          exact hInsert _
      | offers key offer =>
          obtain ⟨g, hLookup, hOffer⟩ := h
          obtain rfl := hKeyed key g hLookup
          obtain ⟨others, hOld, hInsert, -⟩ := exists_others hLookup
          refine ⟨some g, some _, others, .offers g offer hOffer, hOld, ?_, by simpa using hLookup⟩
          simp only [record, update, hLookup]
          exact hInsert _
      | closes key =>
          cases hLookup : l.current.lookup key with
          | none =>
              refine ⟨none, none, l.generations, .closesNothing key, .rfl, ?_, by simp⟩
              simp only [record, hLookup]
              exact .rfl
          | some g =>
              obtain rfl := hKeyed key g hLookup
              obtain ⟨others, hOld, -, hErase⟩ := exists_others hLookup
              refine ⟨some g, some _, others, .closes g, hOld, ?_, by simpa using hLookup⟩
              simp only [record, hLookup]
              exact hErase _

/-- What the ledger of a log says about the log. -/
structure Faithful (log : List (Option (Entry Key Item Offer))) (l : Ledger Key Item Offer) :
    Prop where
  keyed : ∀ key g, l.current.lookup key = some g → g.key = key ∧ g.closed = none
  closed : ∀ g ∈ l.finished, g.closed ≠ none
  items : (l.generations.flatMap Generation.items).Perm (received log)
  offers : (l.generations.filterMap Generation.offer).Perm (offered log)
  recorded : ∀ g ∈ l.generations, g.Recorded log

theorem faithful_empty : (empty : Ledger Key Item Offer).Faithful [] where
  keyed := by
    intro key g h
    cases h
  closed := by
    intro g hg
    cases hg
  items := .rfl
  offers := .rfl
  recorded := by
    intro g hg
    cases hg

theorem lookup_update {f : Generation Key Item Offer → Generation Key Item Offer} {other : Key} :
    (l.update key f).current.lookup other =
      if other = key then (l.current.lookup key).map f else l.current.lookup other := by
  cases h : l.current.lookup key with
  | none =>
      simp only [update, h, Option.map_none]
      split_ifs with hKey
      · rw [hKey, h]
      · rfl
  | some g =>
      simp only [update, h, Option.map_some]
      split_ifs with hKey
      · rw [hKey]
        exact AList.lookup_insert _
      · exact AList.lookup_insert_ne hKey

/-- A line touches the open generation of its own key only. -/
theorem lookup_record {time : Nat} {entry : Entry Key Item Offer} {other : Key} :
    (l.record time (some entry)).current.lookup other =
      if other = entry.key then entry.apply time (l.current.lookup entry.key)
      else l.current.lookup other := by
  cases entry with
  | opens key item =>
      split_ifs with hKey
      · rw [hKey]
        exact AList.lookup_insert _
      · exact AList.lookup_insert_ne hKey
  | joins key item => exact lookup_update
  | offers key offer => exact lookup_update
  | closes key =>
      by_cases hKey : other = key
      · subst hKey
        cases h : l.current.lookup other <;> simp [record, h, Entry.key, Entry.apply]
      · cases h : l.current.lookup key <;>
          simp [record, h, Entry.key, hKey, AList.lookup_erase_ne hKey]

theorem lookup_record_of_eq {time : Nat} (entry : Entry Key Item Offer) {other : Key}
    (h : other = entry.key) :
    (l.record time (some entry)).current.lookup other =
      entry.apply time (l.current.lookup other) := by
  rw [lookup_record, if_pos h, h]

theorem lookup_record_ne {time : Nat} {entry : Entry Key Item Offer} {other : Key}
    (h : other ≠ entry.key) :
    (l.record time (some entry)).current.lookup other = l.current.lookup other := by
  rw [lookup_record, if_neg h]

/-- What a line leaves open is open under its own key. -/
theorem keyed_apply {time : Nat} {entry : Entry Key Item Offer} {g' : Generation Key Item Offer}
    (hKeyed : ∀ g, l.current.lookup entry.key = some g → g.key = entry.key ∧ g.closed = none)
    (h : entry.apply time (l.current.lookup entry.key) = some g') :
    g'.key = entry.key ∧ g'.closed = none := by
  cases entry with
  | opens key item =>
      cases h
      exact ⟨rfl, rfl⟩
  | joins key item =>
      obtain ⟨g, hLookup, rfl⟩ := Option.map_eq_some_iff.mp h
      rw [Generation.key_join, Generation.closed_join]
      exact hKeyed g hLookup
  | offers key offer =>
      obtain ⟨g, hLookup, rfl⟩ := Option.map_eq_some_iff.mp h
      exact hKeyed g hLookup
  | closes key => cases h

/-- A line finishes no generation but one that it closes. -/
theorem mem_finished_record {time : Nat} {entry : Option (Entry Key Item Offer)}
    (h : g ∈ (l.record time entry).finished) :
    g ∈ l.finished ∨ ∃ time, g.closed = some time := by
  have hUpdate (key : Key) (f : Generation Key Item Offer → Generation Key Item Offer) :
      (l.update key f).finished = l.finished := by
    unfold update
    split <;> rfl
  cases entry with
  | none => exact .inl h
  | some entry =>
      cases entry with
      | opens key item => exact .inl h
      | joins key item => exact .inl (by rwa [record, hUpdate] at h)
      | offers key offer => exact .inl (by rwa [record, hUpdate] at h)
      | closes key =>
          cases hLookup : l.current.lookup key with
          | none =>
              simp only [record, hLookup] at h
              exact .inl h
          | some last =>
              simp only [record, hLookup, List.mem_append, List.mem_singleton] at h
              rcases h with h | rfl
              · exact .inl h
              · exact .inr ⟨time, rfl⟩

/-- A line that fits keeps the ledger faithful. -/
theorem Faithful.record {log : List (Option (Entry Key Item Offer))}
    {entry : Option (Entry Key Item Offer)} (h : l.Faithful log) (hFits : l.Admits entry) :
    (l.record log.length entry).Faithful (log ++ [entry]) := by
  obtain ⟨old, new, others, hChange, hOld, hNew, hCurrent⟩ :=
    change_of_admits log.length (fun key g hg => (h.keyed key g hg).1) hFits
  have hRecorded : ∀ g, old = some g → g.Recorded log ∧ g.closed = none := by
    intro g hg
    refine ⟨h.recorded g (hOld.symm.subset ?_), (h.keyed _ g (hCurrent g hg)).2⟩
    simp [hg]
  exact {
    keyed := by
      intro key g hg
      cases entry with
      | none => exact h.keyed key g hg
      | some entry =>
          rw [lookup_record] at hg
          split_ifs at hg with hKey
          · rw [hKey]
            exact keyed_apply (h.keyed entry.key) hg
          · exact h.keyed key g hg
    closed := by
      intro g hg
      rcases mem_finished_record hg with hg | ⟨time, hClosed⟩
      · exact h.closed g hg
      · rw [hClosed]
        exact Option.some_ne_none time
    items := by
      have hItems := hChange.items (fun g hg => (hRecorded g hg).1)
      have hBefore := (hOld.symm.flatMap_right Generation.items).trans h.items
      rw [List.flatMap_append] at hBefore
      refine (hNew.flatMap_right _).trans ?_
      rw [received_snoc, List.flatMap_append, hItems, List.append_assoc]
      refine (List.perm_append_comm.append_left _).trans ?_
      rw [← List.append_assoc]
      exact hBefore.append_right _
    offers := by
      have hBefore := (hOld.symm.filterMap Generation.offer).trans h.offers
      rw [List.filterMap_append] at hBefore
      refine (hNew.filterMap _).trans ?_
      rw [offered_snoc, List.filterMap_append, hChange.offers_eq, List.append_assoc]
      refine (List.perm_append_comm.append_left _).trans ?_
      rw [← List.append_assoc]
      exact hBefore.append_right _
    recorded := by
      intro g hg
      rcases List.mem_append.mp (hNew.subset hg) with hg | hg
      · exact hChange.recorded hRecorded g (by simpa using hg)
      · exact (h.recorded g (hOld.symm.subset (List.mem_append_right _ hg))).snoc }

/-- The generations that are not closed are the open ones of their keys. -/
theorem Faithful.filter_closed {log : List (Option (Entry Key Item Offer))} (h : l.Faithful log) :
    l.generations.filter (fun g => g.closed.isNone) = l.current.entries.map Sigma.snd := by
  have hFinished : l.finished.filter (fun g => g.closed.isNone) = [] := by
    rw [List.filter_eq_nil_iff]
    intro g hg hNone
    exact h.closed g hg (Option.isNone_iff_eq_none.mp hNone)
  have hCurrent : (l.current.entries.map Sigma.snd).filter (fun g => g.closed.isNone) =
      l.current.entries.map Sigma.snd := by
    rw [List.filter_eq_self]
    intro g hg
    obtain ⟨entry, hEntry, rfl⟩ := List.mem_map.mp hg
    have hLookup : l.current.lookup entry.1 = some entry.2 := AList.mem_lookup_iff.mpr hEntry
    rw [(h.keyed _ _ hLookup).2]
    rfl
  rw [generations, List.filter_append, hFinished, hCurrent, List.nil_append]

/-- The ledger of an admissible log is faithful to it. -/
theorem Admissible.faithful {log : List (Option (Entry Key Item Offer))} (h : Admissible log) :
    (ofLog log).Faithful log := by
  induction h with
  | nil => exact faithful_empty
  | snoc prior fits ih =>
      rw [ofLog_snoc]
      exact ih.record fits

end Ledger

/-- The first generation was closed before anything happened to the second. -/
def Generation.Precedes (g g' : Generation Key Item Offer) : Prop :=
  ∃ time, g.closed = some time ∧ ∀ later ∈ g'.times, time < later

/-- Generations of one key do not overlap. -/
def Generation.Apart (g g' : Generation Key Item Offer) : Prop :=
  g.key = g'.key → g.Precedes g' ∨ g'.Precedes g

theorem Generation.Apart.symm {g g' : Generation Key Item Offer} (h : g.Apart g') : g'.Apart g :=
  fun hKey => (h hKey.symm).symm

theorem Generation.mem_times_of_item {g : Generation Key Item Offer} {x : Nat × Item}
    (h : x ∈ g.items) : x.1 ∈ g.times := by
  rw [times, List.mem_append, List.mem_append, List.mem_append]
  rcases List.mem_append.mp h with hCollected | hLate
  · exact .inl (.inl (.inl (List.mem_map_of_mem hCollected)))
  · exact .inl (.inr (List.mem_map_of_mem hLate))

theorem Generation.mem_times_of_offer {g : Generation Key Item Offer} {x : Nat × Offer}
    (h : g.offer = some x) : x.1 ∈ g.times := by
  simp [times, h]

/-- Late items come after the offer. -/
theorem Generation.offer_lt_late {g : Generation Key Item Offer} {x : Nat × Offer}
    {y : Nat × Item} (hOrdered : g.times.Pairwise (· < ·)) (hOffer : g.offer = some x)
    (hLate : y ∈ g.late) : x.1 < y.1 := by
  rw [times, List.pairwise_append, List.pairwise_append] at hOrdered
  obtain ⟨⟨-, -, hBeforeLate⟩, -, -⟩ := hOrdered
  exact hBeforeLate x.1 (by simp [hOffer]) y.1 (List.mem_map_of_mem hLate)

/-- The closing comes last. -/
theorem Generation.le_closed {g : Generation Key Item Offer} {time last : Nat}
    (hOrdered : g.times.Pairwise (· < ·)) (hClosed : g.closed = some last)
    (hTime : time ∈ g.times) : time ≤ last := by
  rw [times, hClosed] at hOrdered hTime
  rcases List.mem_append.mp hTime with hEarlier | hLast
  · exact Nat.le_of_lt ((List.pairwise_append.mp hOrdered).2.2 time hEarlier last (by simp))
  · exact Nat.le_of_eq (List.mem_singleton.mp hLast)

/-- All of the first generation happened before all of the second. -/
theorem Generation.Precedes.lt {g g' : Generation Key Item Offer} (h : g.Precedes g')
    (hOrdered : g.times.Pairwise (· < ·)) {time later : Nat} (hTime : time ∈ g.times)
    (hLater : later ∈ g'.times) : time < later := by
  obtain ⟨last, hClosed, hAfter⟩ := h
  exact Nat.lt_of_le_of_lt (le_closed hOrdered hClosed hTime) (hAfter later hLater)

/-- A line adds its own place to the times of a generation that it changes. -/
theorem Change.times {log : List (Option (Entry Key Item Offer))}
    {entry : Option (Entry Key Item Offer)} {g g' : Generation Key Item Offer}
    (h : Change log.length entry (some g) (some g')) (hRecorded : g.Recorded log)
    (hOpen : g.closed = none) : g'.key = g.key ∧ g'.times = g.times ++ [log.length] := by
  cases h with
  | joins g item => exact ⟨Generation.key_join .., Generation.times_join hRecorded hOpen _ _⟩
  | offers g offer hOffer =>
      refine ⟨rfl, ?_⟩
      simp [Generation.times, Generation.offerAt, hOffer, hRecorded.waits hOffer, hOpen]
  | closes g =>
      refine ⟨rfl, ?_⟩
      simp [Generation.times, Generation.close, hOpen]

namespace Ledger

variable [DecidableEq Key] {l : Ledger Key Item Offer} {log : List (Option (Entry Key Item Offer))}

/-- While a key is idle, all of its generations are closed. -/
theorem Faithful.closed_of_idle (h : l.Faithful log) {g : Generation Key Item Offer}
    (hMem : g ∈ l.generations) (hIdle : l.current.lookup g.key = none) :
    ∃ time, g.closed = some time := by
  rcases List.mem_append.mp hMem with hFinished | hCurrent
  · exact Option.ne_none_iff_exists'.mp (h.closed g hFinished)
  · obtain ⟨entry, hEntry, rfl⟩ := List.mem_map.mp hCurrent
    have hLookup : l.current.lookup entry.1 = some entry.2 := AList.mem_lookup_iff.mpr hEntry
    rw [(h.keyed _ _ hLookup).1, hLookup] at hIdle
    cases hIdle

/-- A line that fits keeps the generations of each key apart. -/
theorem Faithful.apart_record {entry : Option (Entry Key Item Offer)} (h : l.Faithful log)
    (hApart : l.generations.Pairwise Generation.Apart) (hFits : l.Admits entry) :
    (l.record log.length entry).generations.Pairwise Generation.Apart := by
  obtain ⟨old, new, others, hChange, hOld, hNew, hCurrent⟩ :=
    change_of_admits log.length (fun key g hg => (h.keyed key g hg).1) hFits
  have hPast {o : Generation Key Item Offer} {time : Nat} (ho : o ∈ others)
      (hClosed : o.closed = some time) : time < log.length := by
    refine (h.recorded o (hOld.symm.subset (List.mem_append_right _ ho))).past time ?_
    simp [Generation.times, hClosed]
  rw [hOld.pairwise_iff Generation.Apart.symm, List.pairwise_append] at hApart
  obtain ⟨-, hOthers, hBeside⟩ := hApart
  rw [hNew.pairwise_iff Generation.Apart.symm, List.pairwise_append]
  refine ⟨by cases new <;> simp, hOthers, fun g hg o ho hKey => .inr ?_⟩
  obtain rfl : new = some g := by simpa using hg
  cases old with
  | none =>
      -- Only an opening line makes a generation, and it found its key idle.
      cases hChange with
      | opens key item =>
          have hIdle : l.current.lookup o.key = none := hKey ▸ hFits
          obtain ⟨time, hClosed⟩ := h.closed_of_idle (hOld.symm.subset ho) hIdle
          refine ⟨time, hClosed, fun later hLater => ?_⟩
          obtain rfl : later = log.length := by
            simpa [Generation.start, Generation.times] using hLater
          exact hPast ho hClosed
  | some before =>
      have hOpen := (h.keyed _ before (hCurrent before rfl)).2
      have hRecorded := h.recorded before (hOld.symm.subset (by simp))
      obtain ⟨hSame, hTimes⟩ := hChange.times hRecorded hOpen
      rcases hBeside before (by simp) o ho (hSame.symm.trans hKey) with ⟨time, hClosed, -⟩ |
        ⟨time, hClosed, hLater⟩
      · rw [hOpen] at hClosed
        cases hClosed
      · refine ⟨time, hClosed, fun later hTime => ?_⟩
        rw [hTimes] at hTime
        rcases List.mem_append.mp hTime with hTime | hTime
        · exact hLater later hTime
        · rw [List.mem_singleton.mp hTime]
          exact hPast ho hClosed

theorem Admissible.pairwise_apart (h : Admissible log) :
    (ofLog log).generations.Pairwise Generation.Apart := by
  induction h with
  | nil => exact .nil
  | snoc prior fits ih =>
      rw [ofLog_snoc]
      exact prior.faithful.apart_record ih fits

/-- In the ledger of an admissible log the generations of a key follow one
another. -/
theorem Admissible.apart (h : Admissible log) {g g' : Generation Key Item Offer}
    (hg : g ∈ (ofLog log).generations) (hg' : g' ∈ (ofLog log).generations) (hNe : g ≠ g') :
    g.Apart g' :=
  have : Std.Symm (@Generation.Apart Key Item Offer) := ⟨fun _ _ h => h.symm⟩
  h.pairwise_apart.forall hg hg' hNe

end Ledger

end Semantics
