import PacketRouterIngest.Serde.Derive

/-! `serde_json::Value` and the reading of its parts at the types of Rust. -/
namespace Serde

open Rust

/-- `serde_json::Number`: the negative integers are those below zero. -/
inductive Number where
  | posInt (n : UInt64)
  | negInt (n : Int64)
  | float (x : Float)

/-- `serde_json::Value`. The members of an object are in the order of its map. -/
inductive Value where
  | null
  | bool (b : Bool)
  | number (n : Number)
  | string (s : String)
  | array (elements : List Value)
  | object (members : List (String × Value))

namespace Value

def readString : Value → Outcome Error String
  | .string s => .ok s
  | _ => .err ⟨"invalid type, expected a string"⟩

def readU64 : Value → Outcome Error UInt64
  | .number (.posInt n) => .ok n
  | _ => .err ⟨"expected u64"⟩

def readU8 : Value → Outcome Error UInt8
  | .number (.posInt n) => if n ≤ 255 then .ok n.toUInt8 else .err ⟨"expected u8"⟩
  | _ => .err ⟨"expected u8"⟩

/-- Integers are converted; the nearest double is taken. -/
def readF64 : Value → Outcome Error Float
  | .number (.posInt n) => .ok n.toFloat
  | .number (.negInt n) => .ok n.toFloat
  | .number (.float x) => .ok x
  | _ => .err ⟨"expected f64"⟩

def readOption {α : Type} (read : Value → Outcome Error α) : Value → Outcome Error (Option α)
  | .null => .ok none
  | value => do
      let a ← read value
      return some a

/-- A variant without data: its name, or an object whose only member is that
name with `null`. -/
def readUnitVariant {α : Type} (ofName : String → Option α) : Value → Outcome Error α
  | .string name =>
      match ofName name with
      | some a => .ok a
      | none => .err ⟨"unknown variant"⟩
  | .object [(name, content)] =>
      match ofName name, content with
      | some a, .null => .ok a
      | some _, _ => .err ⟨"invalid type, expected unit"⟩
      | none, _ => .err ⟨"unknown variant"⟩
  | _ => .err ⟨"expected a variant"⟩

/-- The value that a member of an object has. -/
def member (name : String) : Value → Option Value
  | .object members => members.lookup name
  | _ => none

/-- The names of an object differ, as those of a map do. -/
def Distinct : Value → Prop
  | .object members => (members.map Prod.fst).Nodup
  | _ => True

/-- The members of a record in the order in which they are visited: a sequence
gives its elements to the fields in their order. -/
def members (fields : List (FieldReader Value)) : Value → Option (List (String × Value))
  | .object members => some members
  | .array elements => some ((fields.map Prod.fst).zip elements)
  | _ => none

/-- The value that a record's field gets. -/
def given (fields : List (FieldReader Value)) (name : String) (value : Value) : Option Value :=
  (value.members fields).bind (fun members => members.lookup name)

/-- A sequence has exactly one element for each field. -/
def fits (fields : List (FieldReader Value)) : Value → Bool
  | .array elements => elements.length == fields.length
  | _ => true

/-- The derived `Deserialize` of a record: all members are visited before the
record is built from them. -/
def readRecord {α : Type} (fields : List (FieldReader Value))
    (build : List (String × Value) → Outcome Error α) (value : Value) : Outcome Error α :=
  match value.members fields with
  | some members => do
      visitMembers fields [] members
      if value.fits fields then build members else .err ⟨"invalid length"⟩
  | none => .err ⟨"invalid type, expected a struct"⟩

section

variable {α : Type} {fields : List (FieldReader Value)}
  {build : List (String × Value) → Outcome Error α} {value : Value}

theorem readRecord_eq_ok {a : α} :
    readRecord fields build value = .ok a ↔
      ∃ members, value.members fields = some members ∧ value.fits fields ∧
        visitMembers fields [] members = .ok () ∧ build members = .ok a := by
  cases hMembers : value.members fields with
  | none => simp [readRecord, hMembers]
  | some members =>
      cases hVisit : visitMembers fields [] members <;> cases hFits : value.fits fields <;>
        simp [readRecord, hMembers, hVisit, hFits]

/-- An object with different names is read as a record if the record can be
built, since then all values that are visited can be read. -/
theorem readRecord_object {members : List (String × Value)} {a : α}
    (hDistinct : (members.map Prod.fst).Nodup)
    (hRead : ∀ name value read, build members = .ok a → members.lookup name = some value →
      fields.lookup name = some read → read value = .ok ()) :
    readRecord fields build (.object members) = .ok a ↔ build members = .ok a := by
  rw [readRecord_eq_ok]
  constructor
  · rintro ⟨_, ⟨⟩, -, -, hBuild⟩
    exact hBuild
  · intro hBuild
    exact ⟨members, rfl, rfl, visitMembers_of_distinct hDistinct
      fun name value read => hRead name value read hBuild, hBuild⟩

/-- Reading a record panics exactly while one of its members is visited. -/
theorem readRecord_panicked (hBuild : ∀ members, visitMembers fields [] members = .ok () →
    ¬ (build members).Panicked) :
    (readRecord fields build value).Panicked ↔
      ∃ members name content read, value.members fields = some members ∧
        Reaches fields members name content ∧ fields.lookup name = some read ∧
        (read content).Panicked := by
  cases hMembers : value.members fields with
  | none => simp [readRecord, hMembers]
  | some members =>
      have hAfter (done : Unit) (hVisit : visitMembers fields [] members = .ok done) :
          ¬ (if value.fits fields then build members else .err ⟨"invalid length"⟩).Panicked := by
        split
        · exact hBuild members hVisit
        · exact Outcome.panicked_err _
      simp only [readRecord, hMembers, Outcome.panicked_bind, visitMembers_panicked,
        Option.some.injEq]
      constructor
      · rintro (⟨name, content, read, h⟩ | ⟨done, hVisit, hPanic⟩)
        · exact ⟨members, name, content, read, rfl, h⟩
        · exact absurd hPanic (hAfter done hVisit)
      · rintro ⟨_, name, content, read, rfl, h⟩
        exact .inl ⟨name, content, read, h⟩

theorem not_panicked_readRecord
    (hBuild : ∀ members, visitMembers fields [] members = .ok () → ¬ (build members).Panicked)
    (hFields : ∀ name read, (name, read) ∈ fields → ∀ content, ¬ (read content).Panicked) :
    ¬ (readRecord fields build value).Panicked := by
  rw [readRecord_panicked hBuild]
  rintro ⟨members, name, content, read, -, -, hLookup, hPanic⟩
  exact hFields name read (mem_of_lookup hLookup) content hPanic

/-- In a sequence a field gets the element at its place. -/
theorem given_array {elements : List Value} {name : String}
    (hName : name ∈ fields.map Prod.fst) :
    given fields name (.array elements) = elements[(fields.map Prod.fst).idxOf name]? := by
  rw [given, members, Option.bind_some, lookup_zip hName]

/-- A field gets the same value in a record with more fields behind it. -/
theorem given_append {more : List (FieldReader Value)} {name : String}
    (hName : name ∈ fields.map Prod.fst) :
    value.given (fields ++ more) name = value.given fields name := by
  cases value with
  | array elements =>
      have hLonger : name ∈ (fields ++ more).map Prod.fst := by
        rw [List.map_append]
        exact List.mem_append_left _ hName
      rw [given_array hName, given_array hLonger, List.map_append, List.idxOf_append_of_mem hName]
  | _ => rfl

/-- Where only one field's reader can panic, the record does when its visit
gets to that field. -/
theorem readRecord_panicked_at {β : Type} {name : String} {read : Value → Outcome Error β}
    (hBuild : ∀ members, visitMembers fields [] members = .ok () → ¬ (build members).Panicked)
    (hKnown : fields.lookup name = some (check read))
    (hOther : ∀ other readOther, (other, readOther) ∈ fields → other ≠ name →
      ∀ content, ¬ (readOther content).Panicked) :
    (readRecord fields build value).Panicked ↔
      ∃ members content, value.members fields = some members ∧
        Reaches fields members name content ∧ (read content).Panicked := by
  rw [readRecord_panicked hBuild]
  constructor
  · rintro ⟨members, other, content, readOther, hMembers, hReach, hLookup, hPanic⟩
    by_cases hName : other = name
    · subst hName
      obtain rfl := Option.some.inj (hLookup.symm.trans hKnown)
      exact ⟨members, content, hMembers, hReach, panicked_check.mp hPanic⟩
    · exact absurd hPanic (hOther other readOther (mem_of_lookup hLookup) hName content)
  · rintro ⟨members, content, hMembers, hReach, hPanic⟩
    exact ⟨members, name, content, check read, hMembers, hReach, hKnown, panicked_check.mpr hPanic⟩

end

/-- Another text where there is a text. -/
def retext (text : String) : Value → Value
  | .string _ => .string text
  | value => value

/-- Another value in a field of a record. -/
def modify (fields : List (FieldReader Value)) (name : String) (f : Value → Value) : Value → Value
  | .object members =>
      .object (members.map fun member => (member.1, if member.1 = name then f member.2 else member.2))
  | .array elements => .array (elements.modify ((fields.map Prod.fst).idxOf name) f)
  | value => value

/-- The names that a record has for what is modified in another: the name, or in
a sequence the name at its place. -/
def AtPlace (fields other : List (FieldReader Value)) (name own : String) : Prop :=
  own = name ∨ (other.map Prod.fst)[(fields.map Prod.fst).idxOf name]? = some own

theorem alters_zip (names : List String) (elements : List Value) (place : Nat)
    (f : Value → Value) :
    Alters (fun own => names[place]? = some own) f (names.zip elements)
      (names.zip (elements.modify place f)) := by
  induction names generalizing elements place with
  | nil => exact .nil
  | cons name names ih =>
      cases elements with
      | nil =>
          rw [List.modify_nil]
          exact Alters.refl _
      | cons element elements =>
          cases place with
          | zero =>
              refine .cons ⟨rfl, .inr ⟨rfl, rfl⟩⟩ (List.forall₂_same.mpr fun _ _ => ?_)
              exact ⟨rfl, .inl rfl⟩
          | succ place => exact .cons ⟨rfl, .inl rfl⟩ (ih elements place)

/-- The members of a modified value are those of the value, with other contents
in one place. -/
theorem alters_modify {fields other : List (FieldReader Value)} {name : String}
    {f : Value → Value} {value : Value} {members : List (String × Value)}
    (h : value.members other = some members) :
    ∃ members', (value.modify fields name f).members other = some members' ∧
      Alters (AtPlace fields other name) f members members' := by
  cases value with
  | object own =>
      obtain rfl := Option.some.inj h
      refine ⟨_, rfl, List.forall₂_map_right_iff.mpr (List.forall₂_same.mpr fun member _ => ?_)⟩
      refine ⟨rfl, ?_⟩
      dsimp only
      split_ifs with hName
      · exact .inr ⟨.inl hName, rfl⟩
      · exact .inl rfl
  | array elements =>
      obtain rfl := Option.some.inj h
      refine ⟨_, rfl, (alters_zip _ elements _ f).imp fun _ _ hMember => ⟨hMember.1, ?_⟩⟩
      exact hMember.2.imp_right fun hOther => ⟨.inr hOther.1, hOther.2⟩
  | _ => cases h

/-- A record is read alike from a modified value if its fields are. -/
theorem readRecord_modify {α : Type} {fields other : List (FieldReader Value)} {name : String}
    {f : Value → Value} {build : List (String × Value) → Outcome Error α} {R : α → α → Prop}
    (value : Value)
    (hRead : ∀ own read, AtPlace fields other name own → other.lookup own = some read →
      ∀ content, read (f content) = read content)
    (hBuild : ∀ members members', Alters (AtPlace fields other name) f members members' →
      Outcome.Similar R (build members) (build members')) :
    Outcome.Similar R (readRecord other build value)
      (readRecord other build (value.modify fields name f)) := by
  cases hMembers : value.members other with
  | none =>
      have hSame : value.modify fields name f = value := by
        cases value with
        | array | object => cases hMembers
        | _ => rfl
      rw [hSame, readRecord, hMembers]
      exact .err _
  | some members =>
      obtain ⟨members', hMembers', hAlters⟩ :
          ∃ members', (value.modify fields name f).members other = some members' ∧
            Alters (AtPlace fields other name) f members members' := alters_modify hMembers
      have hFits : (value.modify fields name f).fits other = value.fits other := by
        cases value with
        | array elements => simp [modify, fits]
        | _ => rfl
      simp only [readRecord, hMembers, hMembers', hFits, hAlters.visitMembers hRead]
      refine (Outcome.Similar.refl (R := Eq) (fun _ => rfl) _).bind fun _ _ _ => ?_
      split_ifs
      · exact hBuild members members' hAlters
      · exact .err _

section

variable {value : Value}

@[simp] theorem not_panicked_readString : ¬ (readString value).Panicked := by
  cases value <;> simp [readString]

@[simp] theorem not_panicked_readU64 : ¬ (readU64 value).Panicked := by
  fun_cases readU64 value <;> simp

@[simp] theorem not_panicked_readU8 : ¬ (readU8 value).Panicked := by
  fun_cases readU8 value <;> simp

@[simp] theorem not_panicked_readF64 : ¬ (readF64 value).Panicked := by
  fun_cases readF64 value <;> simp

@[simp] theorem not_panicked_readUnitVariant {α : Type} {ofName : String → Option α} :
    ¬ (readUnitVariant ofName value).Panicked := by
  fun_cases readUnitVariant ofName value <;> simp

theorem not_panicked_readOption {α : Type} {read : Value → Outcome Error α}
    (h : ∀ value, ¬ (read value).Panicked) : ¬ (readOption read value).Panicked := by
  fun_cases readOption read value
  · simp
  · simp [Outcome.panicked_bind, h value]

theorem readU64_eq_ok {n : UInt64} : readU64 value = .ok n ↔ value = .number (.posInt n) := by
  fun_cases readU64 value
  · simp
  · simp_all

theorem readString_eq_ok {s : String} : readString value = .ok s ↔ value = .string s := by
  cases value <;> simp [readString]

end

end Value

end Serde
