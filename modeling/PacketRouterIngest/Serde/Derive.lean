import Mathlib.Data.List.Induction
import PacketRouterIngest.Rust.Outcome

/-! What a derived `Deserialize` does with a record, over any type of values:
the members of an object are visited in their order, those of a sequence by
their position. An error or a panic in one member ends the visit there. -/
namespace Serde

open Rust

/-- An error of a deserializer. Only its text is kept. -/
structure Error where
  message : String
deriving DecidableEq, Repr

variable {ν α : Type}

/-- A field of a record: its name, and how a value under that name is read. -/
abbrev FieldReader (ν : Type) := String × (ν → Outcome Error Unit)

/-- Read a value only for its effect. -/
def check (read : ν → Outcome Error α) (value : ν) : Outcome Error Unit := do
  let _ ← read value
  return ()

/-- `visit_map`: unknown names are skipped, a known name may occur once. -/
def visitMembers (fields : List (FieldReader ν)) : List String → List (String × ν) → Outcome Error Unit
  | _, [] => .ok ()
  | seen, (name, value) :: rest =>
      match fields.lookup name with
      | none => visitMembers fields seen rest
      | some read =>
          if name ∈ seen then .err ⟨"duplicate field"⟩
          else do
            read value
            visitMembers fields (name :: seen) rest

/-- A field without which the record is incomplete. -/
def field (read : ν → Outcome Error α) (name : String) (members : List (String × ν)) :
    Outcome Error α :=
  match members.lookup name with
  | some value => read value
  | none => .err ⟨"missing field"⟩

/-- A field of type `Option`, which is `none` when it is missing. -/
def optionalField (read : ν → Outcome Error (Option α)) (name : String)
    (members : List (String × ν)) : Outcome Error (Option α) :=
  match members.lookup name with
  | some value => read value
  | none => .ok none

/-- `visit_seq`: the next element, which must be there. -/
def element (read : ν → Outcome Error α) : List ν → Outcome Error (α × List ν)
  | [] => .err ⟨"invalid length"⟩
  | value :: rest => do
      let a ← read value
      return (a, rest)

/-- The sequence must be used up. -/
def endOfSequence : List ν → Outcome Error Unit
  | [] => .ok ()
  | _ :: _ => .err ⟨"invalid length"⟩

theorem mem_of_lookup {β : Type} {entries : List (String × β)} {name : String} {b : β}
    (h : entries.lookup name = some b) : (name, b) ∈ entries := by
  obtain ⟨before, after, rfl, -⟩ := List.lookup_eq_some_iff.mp h
  simp

/-- Where names differ, an entry is found under its name. -/
theorem lookup_of_mem {β : Type} {entries : List (String × β)} {name : String} {b : β}
    (h : (entries.map Prod.fst).Nodup) (hMem : (name, b) ∈ entries) :
    entries.lookup name = some b := by
  induction entries with
  | nil => cases hMem
  | cons entry rest ih =>
      obtain ⟨own, content⟩ := entry
      rw [List.map_cons, List.nodup_cons] at h
      rcases List.mem_cons.mp hMem with hFirst | hRest
      · cases hFirst
        exact List.lookup_cons_self
      · have hName : name ≠ own := by
          rintro rfl
          exact h.1 (List.mem_map.mpr ⟨(name, b), hRest, rfl⟩)
        rw [List.lookup_cons, beq_false_of_ne hName]
        exact ih h.2 hRest

/-- A name gets the element at its place among the names. -/
theorem lookup_zip {β : Type} {names : List String} {elements : List β} {name : String}
    (hName : name ∈ names) : (names.zip elements).lookup name = elements[names.idxOf name]? := by
  induction names generalizing elements with
  | nil => cases hName
  | cons first names ih =>
      cases elements with
      | nil => simp
      | cons element elements =>
          rw [List.zip_cons_cons, List.lookup_cons]
          by_cases hFirst : name = first
          · simp [hFirst]
          · rw [beq_false_of_ne hFirst, List.idxOf_cons_ne names (Ne.symm hFirst)]
            exact ih ((List.mem_cons.mp hName).resolve_left hFirst)

/-- What a visit does with a member after members of these names. -/
def visitNext (fields : List (FieldReader ν)) (names : List String) (name : String) (value : ν) :
    Outcome Error Unit :=
  match fields.lookup name with
  | none => .ok ()
  | some read => if name ∈ names then .err ⟨"duplicate field"⟩ else read value

section

variable {fields : List (FieldReader ν)} {members : List (String × ν)} {names : List String}
  {name : String} {value : ν} {read : ν → Outcome Error Unit}

theorem visitNext_of_unknown (hUnknown : fields.lookup name = none) :
    visitNext fields names name value = .ok () := by
  rw [visitNext, hUnknown]

theorem visitNext_of_known (hKnown : fields.lookup name = some read) :
    visitNext fields names name value =
      if name ∈ names then .err ⟨"duplicate field"⟩ else read value := by
  rw [visitNext, hKnown]

theorem visitNext_eq_ok :
    visitNext fields names name value = .ok () ↔
      ∀ read, fields.lookup name = some read → name ∉ names ∧ read value = .ok () := by
  cases hLookup : fields.lookup name with
  | none => simp [visitNext_of_unknown hLookup]
  | some read =>
      rw [visitNext_of_known hLookup]
      split <;> simp_all

theorem visitNext_panicked :
    (visitNext fields names name value).Panicked ↔
      ∃ read, fields.lookup name = some read ∧ name ∉ names ∧ (read value).Panicked := by
  cases hLookup : fields.lookup name with
  | none => simp [visitNext_of_unknown hLookup]
  | some read =>
      rw [visitNext_of_known hLookup]
      split <;> simp_all

/-- Only the names that have fields matter to it. -/
theorem visitNext_congr {names' : List String}
    (h : (fields.lookup name).isSome → (name ∈ names ↔ name ∈ names')) :
    visitNext fields names name value = visitNext fields names' name value := by
  cases hLookup : fields.lookup name with
  | none => rw [visitNext_of_unknown hLookup, visitNext_of_unknown hLookup]
  | some read =>
      rw [visitNext_of_known hLookup, visitNext_of_known hLookup]
      exact if_congr (h (by simp [hLookup])) rfl rfl

/-- The last member is visited after all others. -/
theorem visitMembers_concat (seen : List String) :
    visitMembers fields seen (members ++ [(name, value)]) =
      (visitMembers fields seen members >>= fun _ =>
        visitNext fields (seen ++ members.map Prod.fst) name value) := by
  induction members generalizing seen with
  | nil =>
      cases hLookup : fields.lookup name with
      | none => simp [visitMembers, hLookup, visitNext_of_unknown hLookup]
      | some read =>
          rw [visitNext_of_known hLookup]
          cases hRead : read value <;> simp [visitMembers, hLookup, hRead]
  | cons member rest ih =>
      obtain ⟨own, content⟩ := member
      cases hOwn : fields.lookup own with
      | none =>
          have hSame : visitNext fields (seen ++ rest.map Prod.fst) name value =
              visitNext fields (seen ++ ((own, content) :: rest).map Prod.fst) name value := by
            refine visitNext_congr fun hKnown => ?_
            have hName : name ≠ own := by
              rintro rfl
              simp [hOwn] at hKnown
            simp [hName]
          rw [List.cons_append, visitMembers, hOwn, visitMembers, hOwn, ← hSame]
          exact ih seen
      | some readOwn =>
          by_cases hSeen : own ∈ seen
          · simp [visitMembers, hOwn, hSeen]
          · have hSame : visitNext fields (own :: seen ++ rest.map Prod.fst) name value =
                visitNext fields (seen ++ ((own, content) :: rest).map Prod.fst) name value :=
              visitNext_congr fun _ => by simp [or_left_comm]
            rw [List.cons_append, visitMembers, hOwn, visitMembers, hOwn]
            simp only [if_neg hSeen, ih, hSame]
            cases readOwn content <;> rfl

/-- A visit accepts exactly the members whose known names occur once and whose
values can be read. -/
theorem visitMembers_eq_ok :
    visitMembers fields [] members = .ok () ↔
      (∀ name value read, (name, value) ∈ members → fields.lookup name = some read →
        read value = .ok ()) ∧
      members.Pairwise (fun m m' => (fields.lookup m'.1).isSome → m.1 ≠ m'.1) := by
  induction members using List.reverseRecOn with
  | nil => simp [visitMembers]
  | append_singleton init last ih =>
      obtain ⟨own, content⟩ := last
      rw [visitMembers_concat, Outcome.bind_eq_ok, List.nil_append, List.pairwise_append]
      constructor
      · rintro ⟨⟨⟩, hInit, hLast⟩
        obtain ⟨hRead, hOnce⟩ := ih.mp hInit
        refine ⟨fun name value read hMem hKnown => ?_, hOnce, List.pairwise_singleton .., ?_⟩
        · rcases List.mem_append.mp hMem with hOld | hNew
          · exact hRead name value read hOld hKnown
          · cases List.mem_singleton.mp hNew
            exact (visitNext_eq_ok.mp hLast read hKnown).2
        · intro m hMem m' hNew hKnown hSame
          cases List.mem_singleton.mp hNew
          obtain ⟨read, hRead⟩ := Option.isSome_iff_exists.mp hKnown
          exact (visitNext_eq_ok.mp hLast read hRead).1 (List.mem_map.mpr ⟨m, hMem, hSame⟩)
      · rintro ⟨hRead, hOnce, -, hNew⟩
        refine ⟨(), ih.mpr ⟨fun name value read hMem => ?_, hOnce⟩, ?_⟩
        · exact hRead name value read (List.mem_append_left _ hMem)
        · refine visitNext_eq_ok.mpr fun read hKnown => ⟨fun hOld => ?_, ?_⟩
          · obtain ⟨m, hMem, hSame⟩ := List.mem_map.mp hOld
            exact hNew m hMem (own, content) List.mem_cons_self (by simp [hKnown]) hSame
          · exact hRead own content read (by simp) hKnown

end

/-- After a visit the value of every known name can be read. -/
theorem read_of_visited {fields : List (FieldReader ν)} {members : List (String × ν)}
    {name : String} {value : ν} {read : ν → Outcome Error Unit}
    (h : visitMembers fields [] members = .ok ()) (hKnown : fields.lookup name = some read)
    (hValue : members.lookup name = some value) : read value = .ok () :=
  (visitMembers_eq_ok.mp h).1 name value read (mem_of_lookup hValue) hKnown

/-- Where names differ, a visit accepts the members whose known names have
values that can be read. -/
theorem visitMembers_of_distinct {fields : List (FieldReader ν)} {members : List (String × ν)}
    (hDistinct : (members.map Prod.fst).Nodup)
    (hRead : ∀ name value read, members.lookup name = some value →
      fields.lookup name = some read → read value = .ok ()) :
    visitMembers fields [] members = .ok () := by
  refine visitMembers_eq_ok.mpr ⟨fun name value read hMem hKnown => ?_, ?_⟩
  · exact hRead name value read (lookup_of_mem hDistinct hMem) hKnown
  · rw [List.Nodup, List.pairwise_map] at hDistinct
    apply hDistinct.imp
    intro m m' hNe _
    exact hNe

@[simp] theorem check_eq_ok {read : ν → Outcome Error α} {value : ν} :
    check read value = .ok () ↔ ∃ a, read value = .ok a := by
  cases hRead : read value <;> simp [check, hRead]

@[simp] theorem panicked_check {read : ν → Outcome Error α} {value : ν} :
    (check read value).Panicked ↔ (read value).Panicked := by
  cases hRead : read value <;> simp [check, hRead]

theorem field_eq_ok {read : ν → Outcome Error α} {name : String} {members : List (String × ν)}
    {a : α} : field read name members = .ok a ↔
      ∃ value, members.lookup name = some value ∧ read value = .ok a := by
  cases hValue : members.lookup name <;> simp [field, hValue]

theorem read_of_field {read : ν → Outcome Error α} {name : String} {members : List (String × ν)}
    {a : α} {value : ν} (h : field read name members = .ok a)
    (hValue : members.lookup name = some value) : check read value = .ok () := by
  obtain ⟨_, hSame, hRead⟩ := field_eq_ok.mp h
  obtain rfl := Option.some.inj (hSame.symm.trans hValue)
  exact check_eq_ok.mpr ⟨a, hRead⟩

/-- Reading a visited field again does not panic. -/
theorem not_panicked_field {fields : List (FieldReader ν)} {members : List (String × ν)}
    {name : String} {read : ν → Outcome Error α} (h : visitMembers fields [] members = .ok ())
    (hKnown : fields.lookup name = some (check read)) : ¬ (field read name members).Panicked := by
  cases hValue : members.lookup name with
  | none => simp [field, hValue]
  | some value =>
      obtain ⟨a, hRead⟩ := check_eq_ok.mp (read_of_visited h hKnown hValue)
      simp [field, hValue, hRead]

theorem not_panicked_optionalField {fields : List (FieldReader ν)} {members : List (String × ν)}
    {name : String} {read : ν → Outcome Error (Option α)}
    (h : visitMembers fields [] members = .ok ())
    (hKnown : fields.lookup name = some (check read)) :
    ¬ (optionalField read name members).Panicked := by
  cases hValue : members.lookup name with
  | none => simp [optionalField, hValue]
  | some value =>
      obtain ⟨a, hRead⟩ := check_eq_ok.mp (read_of_visited h hKnown hValue)
      simp [optionalField, hValue, hRead]

/-- The visit gets to this member: everything before it was accepted. -/
def Reaches (fields : List (FieldReader ν)) (members : List (String × ν)) (name : String)
    (value : ν) : Prop :=
  ∃ before after, members = before ++ (name, value) :: after ∧
    visitMembers fields [] before = .ok () ∧ name ∉ before.map Prod.fst

/-- A visit panics exactly in the reader of a member that it gets to. -/
theorem visitMembers_panicked {fields : List (FieldReader ν)} {members : List (String × ν)} :
    (visitMembers fields [] members).Panicked ↔
      ∃ name value read, Reaches fields members name value ∧ fields.lookup name = some read ∧
        (read value).Panicked := by
  induction members using List.reverseRecOn with
  | nil => simp [visitMembers, Reaches]
  | append_singleton init last ih =>
      obtain ⟨own, content⟩ := last
      rw [visitMembers_concat, Outcome.panicked_bind, ih, List.nil_append]
      constructor
      · rintro (⟨name, value, read, ⟨before, after, rfl, hBefore, hFirst⟩, hKnown, hPanic⟩ |
          ⟨⟨⟩, hInit, hLast⟩)
        · exact ⟨name, value, read, ⟨before, after ++ [(own, content)], by simp, hBefore, hFirst⟩,
            hKnown, hPanic⟩
        · obtain ⟨read, hKnown, hFirst, hPanic⟩ := visitNext_panicked.mp hLast
          exact ⟨own, content, read, ⟨init, [], rfl, hInit, hFirst⟩, hKnown, hPanic⟩
      · rintro ⟨name, value, read, ⟨before, after, hSplit, hBefore, hFirst⟩, hKnown, hPanic⟩
        obtain rfl | ⟨after, final, rfl⟩ := after.eq_nil_or_concat
        · obtain ⟨rfl, hLast⟩ := List.append_inj' hSplit rfl
          cases hLast
          exact .inr ⟨(), hBefore, visitNext_panicked.mpr ⟨read, hKnown, hFirst, hPanic⟩⟩
        · rw [List.concat_eq_append, ← List.cons_append, ← List.append_assoc] at hSplit
          obtain ⟨rfl, -⟩ := List.append_inj' hSplit rfl
          exact .inl ⟨name, value, read, ⟨before, after, rfl, hBefore, hFirst⟩, hKnown, hPanic⟩

/-- The second list is the first with other values under some of its names. -/
def Alters (changed : String → Prop) (f : ν → ν) : List (String × ν) → List (String × ν) → Prop :=
  List.Forall₂ fun member member' =>
    member'.1 = member.1 ∧ (member'.2 = member.2 ∨ changed member.1 ∧ member'.2 = f member.2)

section

variable {changed : String → Prop} {f : ν → ν} {fields : List (FieldReader ν)}
  {members members' : List (String × ν)} {name : String}

theorem Alters.refl (members : List (String × ν)) : Alters changed f members members :=
  List.forall₂_same.mpr fun _ _ => ⟨rfl, .inl rfl⟩

/-- A visit does not notice values that are read alike. -/
theorem Alters.visitMembers (h : Alters changed f members members')
    (hRead : ∀ name read, changed name → fields.lookup name = some read →
      ∀ value, read (f value) = read value) (seen : List String) :
    visitMembers fields seen members' = visitMembers fields seen members := by
  induction h generalizing seen with
  | nil => rfl
  | @cons member member' rest rest' hMember hRest ih =>
      obtain ⟨own, value⟩ := member
      obtain ⟨own', value'⟩ := member'
      obtain ⟨rfl, hValue⟩ : own' = own ∧ (value' = value ∨ changed own ∧ value' = f value) := hMember
      rw [Serde.visitMembers, Serde.visitMembers]
      cases hKnown : fields.lookup own' with
      | none => exact ih seen
      | some read =>
          have hSame : read value' = read value := by
            obtain rfl | ⟨hChanged, rfl⟩ := hValue
            · rfl
            · exact hRead own' read hChanged hKnown value
          simp only [hSame, ih]

/-- What stands under a name is the same, or the value is another one there. -/
theorem Alters.lookup (h : Alters changed f members members') (name : String) :
    members'.lookup name = members.lookup name ∨ changed name ∧
      ∃ value, members.lookup name = some value ∧ members'.lookup name = some (f value) := by
  induction h with
  | nil => exact .inl rfl
  | @cons member member' rest rest' hMember hRest ih =>
      obtain ⟨own, value⟩ := member
      obtain ⟨own', value'⟩ := member'
      obtain ⟨rfl, hValue⟩ : own' = own ∧ (value' = value ∨ changed own ∧ value' = f value) := hMember
      by_cases hName : name = own'
      · subst hName
        obtain rfl | ⟨hChanged, rfl⟩ := hValue
        · exact .inl (by rw [List.lookup_cons_self, List.lookup_cons_self])
        · exact .inr ⟨hChanged, value, List.lookup_cons_self, List.lookup_cons_self⟩
      · simp only [List.lookup_cons, beq_false_of_ne hName]
        exact ih

/-- A field is read alike if its values are. -/
theorem Alters.field {R : α → α → Prop} {read : ν → Outcome Error α}
    (h : Alters changed f members members') (hRefl : ∀ a, R a a)
    (hRead : changed name → ∀ value, Outcome.Similar R (read value) (read (f value))) :
    Outcome.Similar R (field read name members) (field read name members') := by
  rw [Serde.field, Serde.field]
  obtain hSame | ⟨hChanged, value, hValue, hValue'⟩ := h.lookup name
  · rw [hSame]
    exact .refl hRefl _
  · rw [hValue, hValue']
    exact hRead hChanged value

/-- A field under another name is read as before. -/
theorem Alters.field_eq {read : ν → Outcome Error α} (h : Alters changed f members members')
    (hName : ¬ changed name) :
    Outcome.Similar Eq (Serde.field read name members) (Serde.field read name members') :=
  h.field (fun _ => rfl) (fun hChanged => absurd hChanged hName)

end

/-- Values that a visit reads alike differ only in what they are read as. -/
theorem check_eq_check {read : ν → Outcome Error α} {value value' : ν} :
    check read value' = check read value ↔
      Outcome.Similar (fun _ _ => True) (read value) (read value') := by
  constructor
  · intro h
    cases hRead : read value <;> cases hRead' : read value' <;> simp [check, hRead, hRead'] at h
    · exact .ok trivial
    · rw [h]
      exact .err _
    · rw [h]
      exact .panic _
  · intro h
    rw [check, check]
    generalize read value = x, read value' = x' at h
    cases h <;> rfl

/-- A visited field is read alike but for its value. -/
theorem Alters.field_any {changed : String → Prop} {f : ν → ν} {fields : List (FieldReader ν)}
    {members members' : List (String × ν)} {name : String} {read : ν → Outcome Error α}
    (h : Alters changed f members members')
    (hRead : ∀ name read, changed name → fields.lookup name = some read →
      ∀ value, read (f value) = read value) (hKnown : fields.lookup name = some (check read)) :
    Outcome.Similar (fun _ _ => True) (Serde.field read name members)
      (Serde.field read name members') :=
  h.field (fun _ => trivial) fun hChanged value =>
    check_eq_check.mp (hRead name _ hChanged hKnown value)

end Serde
