import Mathlib.Data.List.Basic

/-! JSON text over bytes: a reader for the whole grammar, as a pushdown machine
fed one byte at a time. -/
namespace Json

/-- The bytes of a text. -/
def utf8 (text : String) : List UInt8 := text.toByteArray.data.toList

/-- The text with these bytes, when they are well-formed UTF-8. -/
def fromUtf8 (bytes : List UInt8) : Option String := String.fromUTF8? ⟨bytes.toArray⟩

@[simp] theorem fromUtf8_utf8 (text : String) : fromUtf8 (utf8 text) = some text := by
  have hBytes : (⟨(utf8 text).toArray⟩ : ByteArray) = text.toByteArray := by simp [utf8]
  rw [fromUtf8, hBytes, String.fromUTF8?, dif_pos text.isValidUTF8]
  rfl

/-- A number of the text. Only whole numbers of 64 bits are told apart. -/
inductive Number where
  | unsigned (n : UInt64)
  | other
deriving DecidableEq, Repr

/-- Syntax of a JSON text. A string that is lexically closed but encodes no
text (a lone surrogate, bytes that are not UTF-8) is `none`: skipping it is
allowed, reading it is an error. Members keep their order and repetitions. -/
inductive Syntax where
  | null
  | bool (b : Bool)
  | number (n : Number)
  | string (s : Option String)
  | array (elements : List Syntax)
  | object (members : List (Option String × Syntax))

inductive StringMode where
  | plain
  | escape
  | unicode (missing : Nat) (code : Nat)
deriving DecidableEq, Repr

/-- Bytes decoded so far, last first, or `none` once they cannot be a text;
`surrogate` is a first half that still waits for its second. -/
structure StringReader where
  decoded : Option (List UInt8)
  surrogate : Option Nat
  mode : StringMode
deriving DecidableEq, Repr

def StringReader.start : StringReader := ⟨some [], none, .plain⟩

/-- Append decoded bytes. A waiting first half makes the string unreadable. -/
def StringReader.push (r : StringReader) (bytes : List UInt8) : StringReader :=
  match r.surrogate with
  | none => ⟨r.decoded.map (bytes.reverse ++ ·), none, .plain⟩
  | some _ => ⟨none, none, .plain⟩

/-- One code unit written as four hexadecimal digits. -/
def StringReader.pushUnit (r : StringReader) (code : Nat) : StringReader :=
  match r.surrogate with
  | some high =>
      if 0xDC00 ≤ code ∧ code ≤ 0xDFFF then
        let point := 0x10000 + (high - 0xD800) * 0x400 + (code - 0xDC00)
        ⟨r.decoded.map ((String.utf8EncodeChar (Char.ofNat point)).reverse ++ ·), none, .plain⟩
      else ⟨none, none, .plain⟩
  | none =>
      if 0xDC00 ≤ code ∧ code ≤ 0xDFFF then ⟨none, none, .plain⟩
      else if 0xD800 ≤ code ∧ code ≤ 0xDBFF then ⟨r.decoded, some code, .plain⟩
      else r.push (String.utf8EncodeChar (Char.ofNat code))

def hexValue (byte : UInt8) : Option Nat :=
  if 0x30 ≤ byte ∧ byte ≤ 0x39 then some (byte.toNat - 0x30)
  else if 0x61 ≤ byte ∧ byte ≤ 0x66 then some (byte.toNat - 0x57)
  else if 0x41 ≤ byte ∧ byte ≤ 0x46 then some (byte.toNat - 0x37)
  else none

/-- The byte named by a one-letter escape. -/
def escaped (byte : UInt8) : Option UInt8 :=
  if byte = 0x22 ∨ byte = 0x5C ∨ byte = 0x2F then some byte
  else if byte = 0x62 then some 0x08
  else if byte = 0x66 then some 0x0C
  else if byte = 0x6E then some 0x0A
  else if byte = 0x72 then some 0x0D
  else if byte = 0x74 then some 0x09
  else none

/-- One byte inside a string, its closing quote excepted. -/
def StringReader.step (r : StringReader) (byte : UInt8) : Option StringReader :=
  match r.mode with
  | .plain =>
      if byte = 0x5C then some { r with mode := .escape }
      else if byte < 0x20 then none
      else some (r.push [byte])
  | .escape =>
      if byte = 0x75 then some { r with mode := .unicode 4 0 }
      else (escaped byte).map (fun b => r.push [b])
  | .unicode missing code =>
      (hexValue byte).map (fun digit =>
        if missing ≤ 1 then r.pushUnit (16 * code + digit)
        else { r with mode := .unicode (missing - 1) (16 * code + digit) })

/-- The text between the quotes. -/
def StringReader.close (r : StringReader) : Option String :=
  match r.surrogate with
  | some _ => none
  | none => r.decoded.bind (fun bytes => fromUtf8 bytes.reverse)

inductive NumberMode where
  | minus
  | zero (negative : Bool)
  | digits (negative : Bool) (n : Nat)
  | point
  | fraction
  | exponent
  | exponentSign
  | exponentDigits
deriving DecidableEq, Repr

def isDigit (byte : UInt8) : Bool := 0x30 ≤ byte && byte ≤ 0x39

/-- One byte of a number; `none` when the byte does not continue it. -/
def NumberMode.step (m : NumberMode) (byte : UInt8) : Option NumberMode :=
  match m with
  | .minus =>
      if byte = 0x30 then some (.zero true)
      else if isDigit byte then some (.digits true (byte.toNat - 0x30)) else none
  | .zero _ =>
      if byte = 0x2E then some .point
      else if byte = 0x65 ∨ byte = 0x45 then some .exponent else none
  | .digits negative n =>
      if isDigit byte then some (.digits negative (10 * n + (byte.toNat - 0x30)))
      else if byte = 0x2E then some .point
      else if byte = 0x65 ∨ byte = 0x45 then some .exponent else none
  | .point => if isDigit byte then some .fraction else none
  | .fraction =>
      if isDigit byte then some .fraction
      else if byte = 0x65 ∨ byte = 0x45 then some .exponent else none
  | .exponent =>
      if isDigit byte then some .exponentDigits
      else if byte = 0x2B ∨ byte = 0x2D then some .exponentSign else none
  | .exponentSign | .exponentDigits =>
      if isDigit byte then some .exponentDigits else none

/-- The number read so far, when it may end here. A zero that a digit follows
never ends, since the byte after it must be punctuation or white space. -/
def NumberMode.finish : NumberMode → Option Number
  | .zero negative => some (if negative then .other else .unsigned 0)
  | .digits negative n =>
      some (if negative ∨ UInt64.size ≤ n then .other else .unsigned (UInt64.ofNat n))
  | .fraction | .exponentDigits => some .other
  | .minus | .point | .exponent | .exponentSign => none

/-- An unfinished array, or an unfinished object with the name of the member
being read. Both lists are kept last first. -/
inductive Frame where
  | array (elements : List Syntax)
  | object (members : List (Option String × Syntax)) (name : Option String)

inductive Mode where
  | value (first : Bool)
  | name (first : Bool)
  | string (isName : Bool) (reader : StringReader)
  | colon
  | number (m : NumberMode)
  | literal (rest : List UInt8) (result : Syntax)
  | afterValue
  | done (result : Syntax)

structure Reader where
  frames : List Frame
  mode : Mode

def Reader.start : Reader := ⟨[], .value false⟩

/-- A finished value goes to the innermost unfinished array or object. -/
def Reader.complete (result : Syntax) : List Frame → Reader
  | [] => ⟨[], .done result⟩
  | .array elements :: frames => ⟨.array (result :: elements) :: frames, .afterValue⟩
  | .object members name :: frames =>
      ⟨.object ((name, result) :: members) none :: frames, .afterValue⟩

def isSpace (byte : UInt8) : Bool :=
  byte = 0x20 || byte = 0x09 || byte = 0x0A || byte = 0x0D

/-- The first byte of a value. -/
def Reader.stepValue (frames : List Frame) (first : Bool) (byte : UInt8) : Option Reader :=
  if isSpace byte then some ⟨frames, .value first⟩
  else if byte = 0x7B then some ⟨.object [] none :: frames, .name true⟩
  else if byte = 0x5B then some ⟨.array [] :: frames, .value true⟩
  else if byte = 0x22 then some ⟨frames, .string false .start⟩
  else if byte = 0x2D then some ⟨frames, .number .minus⟩
  else if byte = 0x30 then some ⟨frames, .number (.zero false)⟩
  else if isDigit byte then some ⟨frames, .number (.digits false (byte.toNat - 0x30))⟩
  else if byte = 0x6E then some ⟨frames, .literal (utf8 "ull") .null⟩
  else if byte = 0x74 then some ⟨frames, .literal (utf8 "rue") (.bool true)⟩
  else if byte = 0x66 then some ⟨frames, .literal (utf8 "alse") (.bool false)⟩
  else if byte = 0x5D ∧ first then
    match frames with
    | .array elements :: frames => some (Reader.complete (.array elements.reverse) frames)
    | _ => none
  else none

/-- A byte after a complete element or member. -/
def Reader.stepAfter (frames : List Frame) (byte : UInt8) : Option Reader :=
  if isSpace byte then some ⟨frames, .afterValue⟩
  else
    match frames with
    | [] => none
    | .array elements :: rest =>
        if byte = 0x2C then some ⟨.array elements :: rest, .value false⟩
        else if byte = 0x5D then some (Reader.complete (.array elements.reverse) rest)
        else none
    | .object members name :: rest =>
        if byte = 0x2C then some ⟨.object members name :: rest, .name false⟩
        else if byte = 0x7D then some (Reader.complete (.object members.reverse) rest)
        else none

/-- The byte after a value whose end only that byte shows. -/
def Reader.stepComplete (r : Reader) (byte : UInt8) : Option Reader :=
  match r.mode with
  | .afterValue => Reader.stepAfter r.frames byte
  | .done result => if isSpace byte then some ⟨r.frames, .done result⟩ else none
  | _ => none

/-- One byte of text; `none` when no JSON text continues with it. -/
def Reader.step (r : Reader) (byte : UInt8) : Option Reader :=
  match r.mode with
  | .value first => Reader.stepValue r.frames first byte
  | .name first =>
      if isSpace byte then some r
      else if byte = 0x22 then some { r with mode := .string true .start }
      else if byte = 0x7D ∧ first then
        match r.frames with
        | .object _ _ :: frames => some (Reader.complete (.object []) frames)
        | _ => none
      else none
  | .string isName reader =>
      if byte = 0x22 ∧ reader.mode = .plain then
        if isName then
          match r.frames with
          | .object members _ :: frames =>
              some ⟨.object members reader.close :: frames, .colon⟩
          | _ => none
        else some (Reader.complete (.string reader.close) r.frames)
      else (reader.step byte).map (fun next => { r with mode := .string isName next })
  | .colon =>
      if isSpace byte then some r
      else if byte = 0x3A then some { r with mode := .value false } else none
  | .number m =>
      match m.step byte with
      | some next => some { r with mode := .number next }
      | none =>
          m.finish.bind (fun n => (Reader.complete (.number n) r.frames).stepComplete byte)
  | .literal rest result =>
      match rest with
      | [] => (Reader.complete result r.frames).stepComplete byte
      | expected :: rest =>
          if byte = expected then some { r with mode := .literal rest result } else none
  | .afterValue | .done _ => r.stepComplete byte

/-- The value of a text that ends here. -/
def Reader.finish (r : Reader) : Option Syntax :=
  match r.frames, r.mode with
  | [], .done result => some result
  | [], .number m => m.finish.map .number
  | [], .literal [] result => some result
  | _, _ => none

/-- Read one JSON value and nothing after it but white space. -/
def parse (bytes : List UInt8) : Option Syntax :=
  (bytes.foldlM Reader.step Reader.start).bind Reader.finish

end Json
