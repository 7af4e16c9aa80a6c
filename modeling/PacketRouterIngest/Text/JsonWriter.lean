import PacketRouterIngest.Text.JsonReader
import Mathlib.Data.Nat.Digits.Lemmas
import Mathlib.Tactic.IntervalCases

/-! A writer of compact JSON text for flat objects of strings and unsigned
numbers. The reader returns what the writer wrote, for every object. -/
namespace Json

/-- A member value that the writer supports. -/
inductive Scalar where
  | unsigned (n : UInt64)
  | string (s : String)

/-- Lower-case hexadecimal digit of a value below sixteen. -/
def hexDigit (n : Nat) : UInt8 := UInt8.ofNat (if n < 10 then 0x30 + n else 0x57 + n)

/-- Quotes, backslashes and control characters are escaped; every other byte
of a text stands for itself. -/
def escapeByte (byte : UInt8) : List UInt8 :=
  if byte = 0x22 then [0x5C, 0x22]
  else if byte = 0x5C then [0x5C, 0x5C]
  else if byte = 0x08 then [0x5C, 0x62]
  else if byte = 0x09 then [0x5C, 0x74]
  else if byte = 0x0A then [0x5C, 0x6E]
  else if byte = 0x0C then [0x5C, 0x66]
  else if byte = 0x0D then [0x5C, 0x72]
  else if byte < 0x20 then
    [0x5C, 0x75, 0x30, 0x30, hexDigit (byte.toNat / 16), hexDigit (byte.toNat % 16)]
  else [byte]

def writeString (s : String) : List UInt8 :=
  0x22 :: ((utf8 s).flatMap escapeByte ++ [0x22])

/-- Decimal digit of a value below ten. -/
def digitByte (d : Nat) : UInt8 := UInt8.ofNat (0x30 + d)

/-- Decimal digits, most significant first, without leading zeros. -/
def writeUnsigned (n : Nat) : List UInt8 :=
  if n = 0 then [0x30] else (Nat.digits 10 n).reverse.map digitByte

def Scalar.write : Scalar → List UInt8
  | .unsigned n => writeUnsigned n.toNat
  | .string s => writeString s

def writeMember (member : String × Scalar) : List UInt8 :=
  writeString member.1 ++ 0x3A :: member.2.write

/-- Members after the first, each behind its comma. -/
def writeRest (members : List (String × Scalar)) : List UInt8 :=
  members.flatMap (fun member => 0x2C :: writeMember member)

/-- Compact text of an object. -/
def writeObject : List (String × Scalar) → List UInt8
  | [] => [0x7B, 0x7D]
  | member :: rest => 0x7B :: (writeMember member ++ writeRest rest ++ [0x7D])

/-- What the reader returns for a written member value. -/
def Scalar.toSyntax : Scalar → Syntax
  | .unsigned n => .number (.unsigned n)
  | .string s => .string (some s)

def memberSyntax (member : String × Scalar) : Option String × Syntax :=
  (some member.1, member.2.toSyntax)

/-- Run the reader over some bytes. -/
def Reader.run (r : Reader) (bytes : List UInt8) : Option Reader :=
  bytes.foldlM Reader.step r

@[simp] theorem Reader.run_nil (r : Reader) : r.run [] = some r := rfl

theorem Reader.run_cons (r : Reader) (byte : UInt8) (bytes : List UInt8) :
    r.run (byte :: bytes) = (r.step byte).bind (fun next => next.run bytes) := rfl

theorem Reader.run_append (r : Reader) (first second : List UInt8) :
    r.run (first ++ second) = (r.run first).bind (fun next => next.run second) := by
  simp [Reader.run, List.foldlM_append, Option.bind_eq_bind]

/-- Printable bytes other than the quote and the backslash are not escaped. -/
theorem escapeByte_verbatim {byte : UInt8} (hControl : ¬ byte < 0x20) (hQuote : byte ≠ 0x22)
    (hSlash : byte ≠ 0x5C) : escapeByte byte = [byte] := by
  have hNot (c : UInt8) (hc : c < 0x20) : byte ≠ c := by
    rintro rfl
    exact hControl hc
  simp [escapeByte, hQuote, hSlash, hControl, hNot 0x08 (by decide), hNot 0x09 (by decide),
    hNot 0x0A (by decide), hNot 0x0C (by decide), hNot 0x0D (by decide)]

/-- Inside a string the bytes written for one byte are read as that byte. -/
theorem run_escapeByte (frames : List Frame) (isName : Bool) (decoded : List UInt8)
    (byte : UInt8) :
    Reader.run ⟨frames, .string isName ⟨some decoded, none, .plain⟩⟩ (escapeByte byte) =
      some ⟨frames, .string isName ⟨some (byte :: decoded), none, .plain⟩⟩ := by
  by_cases hControl : byte < 0x20
  · have hNat : byte.toNat < 32 := by simpa [UInt8.lt_iff_toNat_lt] using hControl
    obtain ⟨n, hn, rfl⟩ : ∃ n, n < 32 ∧ byte = UInt8.ofNat n := ⟨byte.toNat, hNat, by simp⟩
    interval_cases n <;> rfl
  · by_cases hQuote : byte = 0x22
    · subst byte
      rfl
    · by_cases hSlash : byte = 0x5C
      · subst byte
        rfl
      · rw [escapeByte_verbatim hControl hQuote hSlash]
        simp [Reader.run_cons, Reader.step, StringReader.step, StringReader.push, hControl,
          hQuote, hSlash]

/-- The body of a written string is read back byte for byte. -/
theorem run_escaped (frames : List Frame) (isName : Bool) (decoded bytes : List UInt8) :
    Reader.run ⟨frames, .string isName ⟨some decoded, none, .plain⟩⟩
        (bytes.flatMap escapeByte) =
      some ⟨frames, .string isName ⟨some (bytes.reverse ++ decoded), none, .plain⟩⟩ := by
  induction bytes generalizing decoded with
  | nil => rfl
  | cons byte rest ih =>
      rw [List.flatMap_cons, Reader.run_append, run_escapeByte, Option.bind_some, ih]
      simp

theorem close_utf8 (s : String) :
    StringReader.close ⟨some ((utf8 s).reverse ++ []), none, .plain⟩ = some s := by
  simp [StringReader.close]

/-- A written string in the place of a value. -/
theorem run_writeString_value (frames : List Frame) (first : Bool) (s : String) :
    Reader.run ⟨frames, .value first⟩ (writeString s) =
      some (Reader.complete (.string (some s)) frames) := by
  have hOpen : Reader.step ⟨frames, .value first⟩ 0x22 =
      some ⟨frames, .string false ⟨some [], none, .plain⟩⟩ := rfl
  rw [writeString, Reader.run_cons, hOpen, Option.bind_some, Reader.run_append, run_escaped,
    Option.bind_some, Reader.run_cons]
  simp only [Reader.step, and_self, ↓reduceIte, Bool.false_eq_true, close_utf8,
    Option.bind_some, Reader.run_nil]

/-- A written string in the place of a member's name. -/
theorem run_writeString_name (members : List (Option String × Syntax)) (name : Option String)
    (frames : List Frame) (first : Bool) (s : String) :
    Reader.run ⟨.object members name :: frames, .name first⟩ (writeString s) =
      some ⟨.object members (some s) :: frames, .colon⟩ := by
  have hOpen : Reader.step ⟨.object members name :: frames, .name first⟩ 0x22 =
      some ⟨.object members name :: frames, .string true ⟨some [], none, .plain⟩⟩ := rfl
  rw [writeString, Reader.run_cons, hOpen, Option.bind_some, Reader.run_append, run_escaped,
    Option.bind_some, Reader.run_cons]
  simp only [Reader.step, and_self, ↓reduceIte, close_utf8, Option.bind_some, Reader.run_nil]

theorem isDigit_digitByte {d : Nat} (h : d < 10) : isDigit (digitByte d) = true := by
  interval_cases d <;> decide

theorem toNat_digitByte {d : Nat} (h : d < 10) : (digitByte d).toNat - 0x30 = d := by
  interval_cases d <;> rfl

/-- Reading decimal digits computes Horner's scheme. -/
theorem run_digits (frames : List Frame) (n : Nat) (ds : List Nat) (h : ∀ d ∈ ds, d < 10) :
    Reader.run ⟨frames, .number (.digits false n)⟩ (ds.map digitByte) =
      some ⟨frames, .number (.digits false (ds.foldl (fun n d => 10 * n + d) n))⟩ := by
  induction ds generalizing n with
  | nil => rfl
  | cons d rest ih =>
      have hd : d < 10 := h d (List.mem_cons_self ..)
      have hStep : Reader.step ⟨frames, .number (.digits false n)⟩ (digitByte d) =
          some ⟨frames, .number (.digits false (10 * n + d))⟩ := by
        simp [Reader.step, NumberMode.step, isDigit_digitByte hd, toNat_digitByte hd]
      rw [List.map_cons, Reader.run_cons, hStep, Option.bind_some,
        ih _ (fun d hm => h d (List.mem_cons_of_mem _ hm)), List.foldl_cons]

theorem foldl_digits (n : Nat) :
    (Nat.digits 10 n).reverse.foldl (fun n d => 10 * n + d) 0 = n := by
  rw [List.foldl_reverse]
  conv_rhs => rw [← Nat.ofDigits_digits 10 n, Nat.ofDigits_eq_foldr]
  simp only [Nat.cast_id, Nat.add_comm]

/-- A positive number is written as a nonzero digit and further digits. -/
theorem writeUnsigned_of_ne_zero {n : Nat} (hn : n ≠ 0) :
    ∃ (d : Nat) (rest : List Nat), d ≠ 0 ∧ d < 10 ∧ (∀ e ∈ rest, e < 10) ∧
      writeUnsigned n = digitByte d :: rest.map digitByte ∧
      rest.foldl (fun n d => 10 * n + d) d = n := by
  have hFold := foldl_digits n
  have hDigits : ∀ d ∈ (Nat.digits 10 n).reverse, d < 10 := by
    intro d hd
    exact Nat.digits_lt_base (by decide) (List.mem_reverse.mp hd)
  have hHead : ∀ d ∈ (Nat.digits 10 n).reverse.head?, d ≠ 0 := by
    intro d hd
    rw [List.head?_reverse, Option.mem_def, List.getLast?_eq_some_getLast
      (Nat.digits_ne_nil_iff_ne_zero.mpr hn)] at hd
    cases hd
    exact Nat.getLast_digit_ne_zero 10 hn
  rw [writeUnsigned, if_neg hn]
  cases hReverse : (Nat.digits 10 n).reverse with
  | nil =>
      rw [hReverse] at hFold
      exact absurd hFold.symm hn
  | cons d rest =>
      rw [hReverse] at hFold hDigits hHead
      refine ⟨d, rest, hHead d rfl, hDigits d (List.mem_cons_self ..),
        fun e he => hDigits e (List.mem_cons_of_mem _ he), rfl, ?_⟩
      simpa using hFold

/-- A positive number is read from its first digit on without leaving the
state for whole numbers. -/
theorem run_writeUnsigned {n : Nat} (hn : n ≠ 0) (frames : List Frame) (first : Bool) :
    Reader.run ⟨frames, .value first⟩ (writeUnsigned n) =
      some ⟨frames, .number (.digits false n)⟩ := by
  obtain ⟨d, rest, hNonzero, hd, hRest, hBytes, hFold⟩ := writeUnsigned_of_ne_zero hn
  have hStep : Reader.step ⟨frames, .value first⟩ (digitByte d) =
      some ⟨frames, .number (.digits false d)⟩ := by
    interval_cases d <;> first | exact absurd rfl hNonzero | rfl
  rw [hBytes, Reader.run_cons, hStep, Option.bind_some, run_digits _ _ _ hRest, hFold]

/-- A written value in the place of an object member, and the comma or brace
behind it: both kinds of value end there, a number only because of that byte. -/
theorem run_write_punctuation (v : Scalar) (members : List (Option String × Syntax))
    (name : Option String) (frames : List Frame) {byte : UInt8} (h : byte = 0x2C ∨ byte = 0x7D) :
    Reader.run ⟨.object members name :: frames, .value false⟩ (v.write ++ [byte]) =
      Reader.stepAfter (.object ((name, v.toSyntax) :: members) none :: frames) byte := by
  rw [Reader.run_append]
  cases v with
  | string s =>
      rw [Scalar.write, run_writeString_value, Option.bind_some, Reader.run_cons]
      rcases h with rfl | rfl <;> rfl
  | unsigned n =>
      by_cases hZero : n.toNat = 0
      · obtain rfl : n = 0 := UInt64.toNat_inj.mp hZero
        rcases h with rfl | rfl <;> rfl
      · have hSmall : ¬ 2 ^ 64 ≤ n.toNat := Nat.not_le.mpr n.toNat_lt
        have hFinish : NumberMode.finish (.digits false n.toNat) = some (.unsigned n) := by
          simpa [NumberMode.finish] using n.toNat_lt
        have hStop : NumberMode.step (.digits false n.toNat) byte = none := by
          rcases h with rfl | rfl <;> rfl
        rw [Scalar.write, run_writeUnsigned hZero, Option.bind_some, Reader.run_cons]
        simp only [Reader.step, hStop, hFinish, Option.bind_some, Reader.run_nil,
          Option.bind_fun_some]
        rfl

/-- From the value of one member to the end of the object. -/
theorem run_members (v : Scalar) (rest : List (String × Scalar))
    (members : List (Option String × Syntax)) (name : Option String) (frames : List Frame) :
    Reader.run ⟨.object members name :: frames, .value false⟩
        (v.write ++ writeRest rest ++ [0x7D]) =
      some (Reader.complete
        (.object (members.reverse ++ (name, v.toSyntax) :: rest.map memberSyntax)) frames) := by
  induction rest generalizing v members name with
  | nil =>
      rw [writeRest, List.flatMap_nil, List.append_nil, run_write_punctuation _ _ _ _ (.inr rfl)]
      simp [Reader.stepAfter, isSpace]
  | cons member rest ih =>
      have hBytes : v.write ++ writeRest (member :: rest) ++ [0x7D] =
          (v.write ++ [0x2C]) ++ (writeString member.1 ++
            (0x3A :: (member.2.write ++ writeRest rest ++ [0x7D]))) := by
        simp [writeRest, writeMember]
      have hComma : Reader.stepAfter (.object ((name, v.toSyntax) :: members) none :: frames) 0x2C =
          some ⟨.object ((name, v.toSyntax) :: members) none :: frames, .name false⟩ := rfl
      have hColon : Reader.step ⟨.object ((name, v.toSyntax) :: members) (some member.1) :: frames,
          .colon⟩ 0x3A = some ⟨.object ((name, v.toSyntax) :: members) (some member.1) :: frames,
            .value false⟩ := rfl
      rw [hBytes, Reader.run_append, run_write_punctuation _ _ _ _ (.inl rfl), hComma,
        Option.bind_some, Reader.run_append, run_writeString_name, Option.bind_some,
        Reader.run_cons, hColon, Option.bind_some, ih]
      simp [memberSyntax]

/-- Reading undoes writing on every flat object, whatever its names and
strings contain and however large its numbers are. -/
theorem parse_writeObject (members : List (String × Scalar)) :
    parse (writeObject members) = some (.object (members.map memberSyntax)) := by
  change (Reader.run Reader.start (writeObject members)).bind Reader.finish = _
  cases members with
  | nil => rfl
  | cons member rest =>
      have hBytes : writeObject (member :: rest) = 0x7B :: (writeString member.1 ++
          (0x3A :: (member.2.write ++ writeRest rest ++ [0x7D]))) := by
        simp [writeObject, writeMember]
      have hOpen : Reader.step Reader.start 0x7B = some ⟨[.object [] none], .name true⟩ := rfl
      have hColon : Reader.step ⟨[.object [] (some member.1)], .colon⟩ 0x3A =
          some ⟨[.object [] (some member.1)], .value false⟩ := rfl
      rw [hBytes, Reader.run_cons, hOpen, Option.bind_some, Reader.run_append,
        run_writeString_name, Option.bind_some, Reader.run_cons, hColon, Option.bind_some,
        run_members]
      simp [Reader.complete, Reader.finish, memberSyntax]

end Json
