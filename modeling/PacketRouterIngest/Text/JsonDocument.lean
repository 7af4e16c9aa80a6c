import PacketRouterIngest.Text.JsonWriter

/-! Compact JSON text of any document, nested to any depth. The reader returns
what was written, and two documents with one text are the same document. -/
namespace Json

/-- The state that the first byte of a number leads to. -/
def NumberMode.start (byte : UInt8) : Option NumberMode :=
  if byte = 0x2D then some .minus
  else if byte = 0x30 then some (.zero false)
  else if isDigit byte then some (.digits false (byte.toNat - 0x30))
  else none

/-- The number that a text is, when it is one from its first to its last byte. -/
def readNumber : List UInt8 → Option Number
  | [] => none
  | byte :: rest => do
      let first ← NumberMode.start byte
      let last ← rest.foldlM NumberMode.step first
      last.finish

/-- A number as it is written, with the number that its text is read as. -/
structure NumberText where
  bytes : List UInt8
  value : Number
  reads : readNumber bytes = some value

/-- A number is known by its text. -/
theorem NumberText.eq_of_bytes {a b : NumberText} (h : a.bytes = b.bytes) : a = b := by
  obtain ⟨bytes, value, hReads⟩ := a
  obtain ⟨_, value', hReads'⟩ := b
  obtain rfl : bytes = _ := h
  obtain rfl : value = value' := Option.some.inj (hReads.symm.trans hReads')
  rfl

theorem isDigit_eq_true {byte : UInt8} (h : isDigit byte = true) :
    ∃ d, d < 10 ∧ byte = digitByte d := by
  simp only [isDigit, Bool.and_eq_true, decide_eq_true_eq, UInt8.le_iff_toNat_le] at h
  obtain ⟨hLow, hHigh⟩ : 48 ≤ byte.toNat ∧ byte.toNat ≤ 57 := h
  refine ⟨byte.toNat - 48, by omega, UInt8.toNat_inj.mp ?_⟩
  rw [digitByte, UInt8.toNat_ofNat']
  omega

/-- Where a value may stand, the first byte of a number starts that number. -/
theorem stepValue_number {byte : UInt8} {m : NumberMode} (h : NumberMode.start byte = some m)
    (frames : List Frame) (first : Bool) :
    Reader.stepValue frames first byte = some ⟨frames, .number m⟩ := by
  by_cases hMinus : byte = 0x2D
  · subst byte
    cases h
    rfl
  · by_cases hDigit : isDigit byte = true
    · obtain ⟨d, hd, rfl⟩ := isDigit_eq_true hDigit
      interval_cases d <;>
        · cases h
          rfl
    · have hZero : byte ≠ 0x30 := by
        rintro rfl
        exact hDigit rfl
      simp [NumberMode.start, hMinus, hZero, hDigit] at h

/-- The reader goes through the bytes of a number as the number does. -/
theorem run_number {m last : NumberMode} {bytes : List UInt8}
    (h : bytes.foldlM NumberMode.step m = some last) (frames : List Frame) :
    Reader.run ⟨frames, .number m⟩ bytes = some ⟨frames, .number last⟩ := by
  induction bytes generalizing m with
  | nil =>
      cases h
      rfl
  | cons byte rest ih =>
      obtain ⟨next, hStep, hRest⟩ := Option.bind_eq_some_iff.mp h
      have hReader : Reader.step ⟨frames, .number m⟩ byte = some ⟨frames, .number next⟩ := by
        simp [Reader.step, hStep]
      rw [Reader.run_cons, hReader, Option.bind_some, ih hRest]

/-- Decimal digits continue a number by Horner's scheme. -/
theorem foldlM_digits (negative : Bool) (n : Nat) (ds : List Nat) (h : ∀ d ∈ ds, d < 10) :
    (ds.map digitByte).foldlM NumberMode.step (.digits negative n) =
      some (.digits negative (ds.foldl (fun n d => 10 * n + d) n)) := by
  induction ds generalizing n with
  | nil => rfl
  | cons d rest ih =>
      have hd : d < 10 := h d (List.mem_cons_self ..)
      have hStep : NumberMode.step (.digits negative n) (digitByte d) =
          some (.digits negative (10 * n + d)) := by
        simp [NumberMode.step, isDigit_digitByte hd, toNat_digitByte hd]
      rw [List.map_cons, List.foldlM_cons, hStep, Option.bind_eq_bind, Option.bind_some,
        ih _ (fun d hm => h d (List.mem_cons_of_mem _ hm)), List.foldl_cons]

/-- The number that whole digits are read as. -/
def Number.ofDigits (negative : Bool) (n : Nat) : Number :=
  if negative ∨ UInt64.size ≤ n then .other else .unsigned (UInt64.ofNat n)

theorem readNumber_writeUnsigned (n : Nat) :
    readNumber (writeUnsigned n) = some (.ofDigits false n) := by
  by_cases hn : n = 0
  · subst n
    rfl
  · obtain ⟨d, rest, hNonzero, hd, hRest, hBytes, hFold⟩ := writeUnsigned_of_ne_zero hn
    have hStart : NumberMode.start (digitByte d) = some (.digits false d) := by
      interval_cases d <;> first | exact absurd rfl hNonzero | rfl
    rw [hBytes, readNumber, hStart, Option.bind_eq_bind, Option.bind_some,
      foldlM_digits _ _ _ hRest, hFold]
    rfl

theorem readNumber_negative {n : Nat} (hn : n ≠ 0) :
    readNumber (0x2D :: writeUnsigned n) = some .other := by
  obtain ⟨d, rest, hNonzero, hd, hRest, hBytes, hFold⟩ := writeUnsigned_of_ne_zero hn
  have hStart : NumberMode.start 0x2D = some .minus := rfl
  have hStep : NumberMode.step .minus (digitByte d) = some (.digits true d) := by
    interval_cases d <;> first | exact absurd rfl hNonzero | rfl
  rw [hBytes, readNumber, hStart, Option.bind_eq_bind, Option.bind_some, List.foldlM_cons, hStep,
    Option.bind_eq_bind, Option.bind_some, foldlM_digits _ _ _ hRest, hFold]
  rfl

/-- Different numbers are written differently, since the reader computes the
number from its digits. -/
theorem writeUnsigned_injective {n n' : Nat} (h : writeUnsigned n = writeUnsigned n') :
    n = n' := by
  have hZero : Reader.run Reader.start (writeUnsigned 0) = some ⟨[], .number (.zero false)⟩ := rfl
  by_cases hn : n = 0
  · by_cases hn' : n' = 0
    · rw [hn, hn']
    · rw [← hn, h, Reader.start, run_writeUnsigned hn'] at hZero
      simp at hZero
  · by_cases hn' : n' = 0
    · rw [← hn', ← h, Reader.start, run_writeUnsigned hn] at hZero
      simp at hZero
    · have hRun := run_writeUnsigned hn [] false
      rw [h, run_writeUnsigned hn'] at hRun
      simpa [eq_comm] using hRun

/-- No digits begin with a sign. -/
theorem writeUnsigned_ne_minus (n : Nat) (rest : List UInt8) :
    writeUnsigned n ≠ 0x2D :: rest := by
  by_cases hn : n = 0
  · subst n
    simp [writeUnsigned]
  · obtain ⟨d, digits, -, hd, -, hBytes, -⟩ := writeUnsigned_of_ne_zero hn
    rw [hBytes]
    intro hMinus
    have hFirst : digitByte d = 0x2D := (List.cons.inj hMinus).1
    interval_cases d <;> cases hFirst

namespace NumberText

/-- A number that is not negative, in decimal. -/
def ofNat (n : Nat) : NumberText where
  bytes := writeUnsigned n
  value := .ofDigits false n
  reads := readNumber_writeUnsigned n

/-- A negative number is its sign and its amount. -/
def ofInt : Int → NumberText
  | .ofNat n => ofNat n
  | .negSucc n => ⟨0x2D :: writeUnsigned (n + 1), .other, readNumber_negative n.succ_ne_zero⟩

theorem ofNat_injective {n n' : Nat} (h : ofNat n = ofNat n') : n = n' :=
  writeUnsigned_injective (congrArg NumberText.bytes h)

theorem ofInt_injective {i i' : Int} (h : ofInt i = ofInt i') : i = i' := by
  have hBytes : (ofInt i).bytes = (ofInt i').bytes := by rw [h]
  cases i with
  | ofNat n =>
      cases i' with
      | ofNat n' => rw [writeUnsigned_injective hBytes]
      | negSucc n' => exact absurd hBytes (writeUnsigned_ne_minus n _)
  | negSucc n =>
      cases i' with
      | ofNat n' => exact absurd hBytes.symm (writeUnsigned_ne_minus n' _)
      | negSucc n' => rw [Nat.succ.inj (writeUnsigned_injective (List.cons.inj hBytes).2)]

end NumberText

/-- A JSON text, as it is written. -/
inductive Document where
  | null
  | bool (b : Bool)
  | number (n : NumberText)
  | string (s : String)
  | array (elements : List Document)
  | object (members : List (String × Document))

/-! A list is written from behind its first element or member to its closing
bracket. -/
mutual

def Document.write : Document → List UInt8
  | .null => utf8 "null"
  | .bool true => utf8 "true"
  | .bool false => utf8 "false"
  | .number n => n.bytes
  | .string s => writeString s
  | .array [] => [0x5B, 0x5D]
  | .array (d :: rest) => 0x5B :: (d.write ++ writeElements rest)
  | .object [] => [0x7B, 0x7D]
  | .object ((name, d) :: rest) =>
      0x7B :: (writeString name ++ 0x3A :: (d.write ++ writeMembers rest))

def writeElements : List Document → List UInt8
  | [] => [0x5D]
  | d :: rest => 0x2C :: (d.write ++ writeElements rest)

def writeMembers : List (String × Document) → List UInt8
  | [] => [0x7D]
  | (name, d) :: rest => 0x2C :: (writeString name ++ 0x3A :: (d.write ++ writeMembers rest))

end

/-! What the reader returns for a written document. -/
mutual

def Document.toSyntax : Document → Syntax
  | .null => .null
  | .bool b => .bool b
  | .number n => .number n.value
  | .string s => .string (some s)
  | .array elements => .array (elementsSyntax elements)
  | .object members => .object (membersSyntax members)

def elementsSyntax : List Document → List Syntax
  | [] => []
  | d :: rest => d.toSyntax :: elementsSyntax rest

def membersSyntax : List (String × Document) → List (Option String × Syntax)
  | [] => []
  | (name, d) :: rest => (some name, d.toSyntax) :: membersSyntax rest

end

/-- The first member of an object with this name. -/
def Syntax.member (name : String) : Syntax → Option Syntax
  | .object members => members.lookup (some name)
  | _ => none

def Syntax.text : Syntax → Option String
  | .string s => s
  | _ => none

/-- A byte that may stand behind a value. -/
def Closes (byte : UInt8) : Prop := byte = 0x2C ∨ byte = 0x3A ∨ byte = 0x5D ∨ byte = 0x7D

/-- The reader has this value at this place, or has it with the end of the
value: the end of a number shows only in what follows it. -/
structure Reads (r : Reader) (value : Syntax) (frames : List Frame) : Prop where
  closes : ∀ byte, Closes byte → r.step byte = (Reader.complete value frames).stepComplete byte
  finishes : r.finish = (Reader.complete value frames).finish

theorem reads_complete (value : Syntax) (frames : List Frame) :
    Reads (Reader.complete value frames) value frames := by
  refine ⟨fun byte _ => ?_, rfl⟩
  cases frames with
  | nil => rfl
  | cons frame rest => cases frame <;> rfl

/-- No number goes on with a byte that may stand behind it. -/
theorem step_closes (m : NumberMode) {byte : UInt8} (h : Closes byte) : m.step byte = none := by
  rcases h with rfl | rfl | rfl | rfl <;> cases m <;> rfl

theorem reads_number {m : NumberMode} {value : Number} (h : m.finish = some value)
    (frames : List Frame) : Reads ⟨frames, .number m⟩ (.number value) frames := by
  constructor
  · intro byte hByte
    simp only [Reader.step, step_closes m hByte, h, Option.bind_some]
  · cases frames with
    | nil => simp [Reader.finish, Reader.complete, h]
    | cons frame rest => cases frame <;> rfl

theorem reads_literal (value : Syntax) (frames : List Frame) :
    Reads ⟨frames, .literal [] value⟩ value frames := by
  constructor
  · intro byte hByte
    rfl
  · cases frames with
    | nil => rfl
    | cons frame rest => cases frame <;> rfl

/-- A number in the place of a value. -/
theorem run_numberText (n : NumberText) (frames : List Frame) (first : Bool) :
    ∃ r, Reader.run ⟨frames, .value first⟩ n.bytes = some r ∧
      Reads r (.number n.value) frames := by
  obtain ⟨bytes, value, hReads⟩ := n
  cases bytes with
  | nil => cases hReads
  | cons byte rest =>
      obtain ⟨m, hStart, hRest⟩ := Option.bind_eq_some_iff.mp hReads
      obtain ⟨last, hLast, hFinish⟩ := Option.bind_eq_some_iff.mp hRest
      refine ⟨⟨frames, .number last⟩, ?_, reads_number hFinish frames⟩
      have hStep : Reader.step ⟨frames, .value first⟩ byte = some ⟨frames, .number m⟩ :=
        stepValue_number hStart frames first
      rw [Reader.run_cons, hStep, Option.bind_some, run_number hLast]

mutual

/-- A written document in the place of a value. -/
theorem run_write : ∀ (d : Document) (frames : List Frame) (first : Bool),
    ∃ r, Reader.run ⟨frames, .value first⟩ d.write = some r ∧ Reads r d.toSyntax frames
  | .null, frames, first => ⟨_, rfl, reads_literal .null frames⟩
  | .bool true, frames, first => ⟨_, rfl, reads_literal (.bool true) frames⟩
  | .bool false, frames, first => ⟨_, rfl, reads_literal (.bool false) frames⟩
  | .number n, frames, first => run_numberText n frames first
  | .string s, frames, first => ⟨_, run_writeString_value frames first s, reads_complete _ frames⟩
  | .array [], frames, first => ⟨_, rfl, reads_complete (.array []) frames⟩
  | .array (d :: rest), frames, first => by
      obtain ⟨r, hRun, hReads⟩ := run_write d (.array [] :: frames) true
      have hOpen : Reader.step ⟨frames, .value first⟩ 0x5B =
          some ⟨.array [] :: frames, .value true⟩ := rfl
      refine ⟨_, ?_, reads_complete _ frames⟩
      rw [Document.write, Reader.run_cons, hOpen, Option.bind_some, Reader.run_append, hRun,
        Option.bind_some, run_writeElements rest [] frames hReads]
      rfl
  | .object [], frames, first => ⟨_, rfl, reads_complete (.object []) frames⟩
  | .object ((name, d) :: rest), frames, first => by
      obtain ⟨r, hRun, hReads⟩ := run_write d (.object [] (some name) :: frames) false
      have hOpen : Reader.step ⟨frames, .value first⟩ 0x7B =
          some ⟨.object [] none :: frames, .name true⟩ := rfl
      have hColon : Reader.step ⟨.object [] (some name) :: frames, .colon⟩ 0x3A =
          some ⟨.object [] (some name) :: frames, .value false⟩ := rfl
      refine ⟨_, ?_, reads_complete _ frames⟩
      rw [Document.write, Reader.run_cons, hOpen, Option.bind_some, Reader.run_append,
        run_writeString_name, Option.bind_some, Reader.run_cons, hColon, Option.bind_some,
        Reader.run_append, hRun, Option.bind_some, run_writeMembers rest [] (some name) frames hReads]
      rfl

/-- From an element to the end of its array. -/
theorem run_writeElements : ∀ (rest : List Document) (elements : List Syntax)
    (frames : List Frame) {r : Reader} {value : Syntax},
    Reads r value (.array elements :: frames) →
    Reader.run r (writeElements rest) =
      some (Reader.complete (.array (elements.reverse ++ value :: elementsSyntax rest)) frames)
  | [], elements, frames, r, value, h => by
      rw [writeElements, Reader.run_cons, h.closes _ (.inr (.inr (.inl rfl)))]
      simp [Reader.complete, Reader.stepComplete, Reader.stepAfter, isSpace, elementsSyntax]
  | d :: rest, elements, frames, r, value, h => by
      obtain ⟨next, hRun, hReads⟩ := run_write d (.array (value :: elements) :: frames) false
      have hComma : (Reader.complete value (.array elements :: frames)).stepComplete 0x2C =
          some ⟨.array (value :: elements) :: frames, .value false⟩ := rfl
      rw [writeElements, Reader.run_cons, h.closes _ (.inl rfl), hComma, Option.bind_some,
        Reader.run_append, hRun, Option.bind_some,
        run_writeElements rest (value :: elements) frames hReads]
      simp [elementsSyntax]

/-- From a member to the end of its object. -/
theorem run_writeMembers : ∀ (rest : List (String × Document))
    (members : List (Option String × Syntax)) (name : Option String) (frames : List Frame)
    {r : Reader} {value : Syntax}, Reads r value (.object members name :: frames) →
    Reader.run r (writeMembers rest) =
      some (Reader.complete
        (.object (members.reverse ++ (name, value) :: membersSyntax rest)) frames)
  | [], members, name, frames, r, value, h => by
      rw [writeMembers, Reader.run_cons, h.closes _ (.inr (.inr (.inr rfl)))]
      simp [Reader.complete, Reader.stepComplete, Reader.stepAfter, isSpace, membersSyntax]
  | (own, d) :: rest, members, name, frames, r, value, h => by
      obtain ⟨next, hRun, hReads⟩ :=
        run_write d (.object ((name, value) :: members) (some own) :: frames) false
      have hComma : (Reader.complete value (.object members name :: frames)).stepComplete 0x2C =
          some ⟨.object ((name, value) :: members) none :: frames, .name false⟩ := rfl
      have hColon : Reader.step
          ⟨.object ((name, value) :: members) (some own) :: frames, .colon⟩ 0x3A =
          some ⟨.object ((name, value) :: members) (some own) :: frames, .value false⟩ := rfl
      rw [writeMembers, Reader.run_cons, h.closes _ (.inl rfl), hComma, Option.bind_some,
        Reader.run_append, run_writeString_name, Option.bind_some, Reader.run_cons, hColon,
        Option.bind_some, Reader.run_append, hRun, Option.bind_some,
        run_writeMembers rest ((name, value) :: members) (some own) frames hReads]
      simp [membersSyntax]

end

/-- Reading undoes writing on every document. -/
theorem parse_write (d : Document) : parse d.write = some d.toSyntax := by
  obtain ⟨r, hRun, hReads⟩ := run_write d [] false
  change (Reader.run Reader.start d.write).bind Reader.finish = _
  rw [Reader.start, hRun, Option.bind_some, hReads.finishes]
  rfl

/-- Nothing can follow a document but white space: it ends where it is
complete. So one document cannot be the beginning of another. -/
theorem eq_nil_of_write_append {d d' : Document} {byte : UInt8} {rest : List UInt8}
    (hByte : Closes byte) : d'.write ≠ d.write ++ byte :: rest := by
  intro hWrite
  obtain ⟨r, hRun, hReads⟩ := run_write d [] false
  obtain ⟨r', hRun', -⟩ := run_write d' [] false
  have hStop : (Reader.complete d.toSyntax []).stepComplete byte = none := by
    rcases hByte with rfl | rfl | rfl | rfl <;> rfl
  rw [hWrite, Reader.run_append, hRun, Option.bind_some, Reader.run_cons, hReads.closes _ hByte,
    hStop] at hRun'
  cases hRun'

/-- A document in front of a closing byte is found again. -/
theorem write_append_inj (d d' : Document) {byte byte' : UInt8} {rest rest' : List UInt8}
    (hByte : Closes byte) (hByte' : Closes byte')
    (h : d.write ++ byte :: rest = d'.write ++ byte' :: rest') :
    d.write = d'.write ∧ byte :: rest = byte' :: rest' := by
  obtain ⟨more, hMore, hRest⟩ | ⟨more, hMore, hRest⟩ := List.append_eq_append_iff.mp h
  · cases more with
    | nil => exact ⟨by simpa using hMore.symm, hRest⟩
    | cons first more =>
        obtain ⟨rfl, -⟩ := List.cons.inj hRest
        exact absurd hMore (eq_nil_of_write_append hByte)
  · cases more with
    | nil => exact ⟨by simpa using hMore, hRest.symm⟩
    | cons first more =>
        obtain ⟨rfl, -⟩ := List.cons.inj hRest
        exact absurd hMore (eq_nil_of_write_append hByte')

theorem writeElements_closes (ds : List Document) :
    ∃ byte rest, Closes byte ∧ writeElements ds = byte :: rest := by
  cases ds with
  | nil => exact ⟨0x5D, _, .inr (.inr (.inl rfl)), by rw [writeElements]⟩
  | cons d rest => exact ⟨0x2C, _, .inl rfl, by rw [writeElements]⟩

theorem writeMembers_closes (ms : List (String × Document)) :
    ∃ byte rest, Closes byte ∧ writeMembers ms = byte :: rest := by
  cases ms with
  | nil => exact ⟨0x7D, _, .inr (.inr (.inr rfl)), by rw [writeMembers]⟩
  | cons member rest => exact ⟨0x2C, _, .inl rfl, by rw [writeMembers]⟩

/-- An element is found again in front of those behind it. -/
theorem write_elements_inj {d d' : Document} {ds ds' : List Document}
    (h : d.write ++ writeElements ds = d'.write ++ writeElements ds') :
    d.write = d'.write ∧ writeElements ds = writeElements ds' := by
  obtain ⟨byte, rest, hByte, hBytes⟩ := writeElements_closes ds
  obtain ⟨byte', rest', hByte', hBytes'⟩ := writeElements_closes ds'
  rw [hBytes, hBytes'] at h ⊢
  exact write_append_inj d d' hByte hByte' h

/-- So is a member, whose name is a document too. -/
theorem write_members_inj {name name' : String} {d d' : Document}
    {ms ms' : List (String × Document)}
    (h : writeString name ++ 0x3A :: (d.write ++ writeMembers ms) =
      writeString name' ++ 0x3A :: (d'.write ++ writeMembers ms')) :
    writeString name = writeString name' ∧ d.write = d'.write ∧
      writeMembers ms = writeMembers ms' := by
  obtain ⟨byte, rest, hByte, hBytes⟩ := writeMembers_closes ms
  obtain ⟨byte', rest', hByte', hBytes'⟩ := writeMembers_closes ms'
  have hName := write_append_inj (.string name) (.string name') (.inr (.inl rfl))
    (.inr (.inl rfl)) h
  have hRest := (List.cons.inj hName.2).2
  rw [hBytes, hBytes'] at hRest ⊢
  exact ⟨hName.1, write_append_inj d d' hByte hByte' hRest⟩

theorem writeString_injective {s s' : String} (h : writeString s = writeString s') : s = s' := by
  have hParse := parse_write (.string s)
  have hParse' := parse_write (.string s')
  rw [Document.write] at hParse hParse'
  rw [h, hParse'] at hParse
  simpa [Document.toSyntax, eq_comm] using hParse

/-- Texts that are equal are read as the same value. -/
theorem toSyntax_of_write {d d' : Document} (h : d.write = d'.write) :
    d.toSyntax = d'.toSyntax := by
  have hParse := parse_write d
  rw [h, parse_write] at hParse
  exact (Option.some.inj hParse).symm

mutual

/-- The text of a document determines it, down to how its numbers are written:
its value tells the kind, and elements are compared one after the other. -/
theorem write_injective : ∀ (d d' : Document), d.write = d'.write → d = d'
  | .null, d', h => by
      have hValue := toSyntax_of_write h
      cases d' <;> simp [Document.toSyntax] at hValue ⊢
  | .bool b, d', h => by
      have hValue := toSyntax_of_write h
      cases d' <;> simp [Document.toSyntax] at hValue ⊢
      exact hValue
  | .string s, d', h => by
      have hValue := toSyntax_of_write h
      cases d' <;> simp [Document.toSyntax] at hValue ⊢
      exact hValue
  | .number n, d', h => by
      have hValue := toSyntax_of_write h
      cases d' with
      | number n' =>
          have hBytes : n.bytes = n'.bytes := by simpa [Document.write] using h
          rw [NumberText.eq_of_bytes hBytes]
      | null | bool | string | array | object => simp [Document.toSyntax] at hValue
  | .array elements, d', h => by
      have hValue := toSyntax_of_write h
      cases d' with
      | array elements' =>
          cases elements with
          | nil => cases elements' <;> simp [Document.toSyntax, elementsSyntax] at hValue ⊢
          | cons d rest =>
              cases elements' with
              | nil => simp [Document.toSyntax, elementsSyntax] at hValue
              | cons d' rest' =>
                  rw [Document.write, Document.write] at h
                  obtain ⟨hFirst, hRest⟩ := write_elements_inj (List.cons.inj h).2
                  rw [write_injective d d' hFirst, writeElements_injective rest rest' hRest]
      | null | bool | string | number | object => simp [Document.toSyntax] at hValue
  | .object members, d', h => by
      have hValue := toSyntax_of_write h
      cases d' with
      | object members' =>
          cases members with
          | nil => cases members' <;> simp [Document.toSyntax, membersSyntax] at hValue ⊢
          | cons member rest =>
              cases members' with
              | nil => simp [Document.toSyntax, membersSyntax] at hValue
              | cons member' rest' =>
                  obtain ⟨name, d⟩ := member
                  obtain ⟨name', d'⟩ := member'
                  rw [Document.write, Document.write] at h
                  obtain ⟨hName, hFirst, hRest⟩ := write_members_inj (List.cons.inj h).2
                  rw [writeString_injective hName, write_injective d d' hFirst,
                    writeMembers_injective rest rest' hRest]
      | null | bool | string | number | array => simp [Document.toSyntax] at hValue

theorem writeElements_injective : ∀ (ds ds' : List Document),
    writeElements ds = writeElements ds' → ds = ds'
  | [], [], _ => rfl
  | [], d' :: rest', h => by simp [writeElements] at h
  | d :: rest, [], h => by simp [writeElements] at h
  | d :: rest, d' :: rest', h => by
      rw [writeElements, writeElements] at h
      obtain ⟨hFirst, hRest⟩ := write_elements_inj (List.cons.inj h).2
      rw [write_injective d d' hFirst, writeElements_injective rest rest' hRest]

theorem writeMembers_injective : ∀ (ms ms' : List (String × Document)),
    writeMembers ms = writeMembers ms' → ms = ms'
  | [], [], _ => rfl
  | [], member' :: rest', h => by simp [writeMembers] at h
  | member :: rest, [], h => by simp [writeMembers] at h
  | (name, d) :: rest, (name', d') :: rest', h => by
      rw [writeMembers, writeMembers] at h
      obtain ⟨hName, hFirst, hRest⟩ := write_members_inj (List.cons.inj h).2
      rw [writeString_injective hName, write_injective d d' hFirst,
        writeMembers_injective rest rest' hRest]

end

end Json
