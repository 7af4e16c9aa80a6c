import Mathlib.Tactic.IntervalCases

/-! Lower-case hexadecimal text over bytes: every byte list is recovered from
the text it was written as. -/
namespace Hex

/-- The lower-case digit of a value below sixteen. -/
def digit (n : Nat) : Char :=
  if n < 10 then Char.ofNat (48 + n) else Char.ofNat (87 + n)

/-- The value of a digit of either case. -/
def value (c : Char) : Option Nat :=
  if '0' ≤ c ∧ c ≤ '9' then some (c.toNat - 48)
  else if 'a' ≤ c ∧ c ≤ 'f' then some (c.toNat - 87)
  else if 'A' ≤ c ∧ c ≤ 'F' then some (c.toNat - 55)
  else none

/-- The two digits of one byte, high half first. -/
def digits (byte : UInt8) : List Char :=
  [digit (byte.toNat / 16), digit (byte.toNat % 16)]

/-- Text of a byte list, two digits a byte. -/
def encode (bytes : List UInt8) : String :=
  String.ofList (bytes.flatMap digits)

/-- Read digits in pairs. A lone last digit and any other character fail. -/
def decodeChars : List Char → Option (List UInt8)
  | [] => some []
  | [_] => none
  | high :: low :: rest => do
      let h ← value high
      let l ← value low
      let bytes ← decodeChars rest
      return UInt8.ofNat (16 * h + l) :: bytes

/-- Bytes of a hexadecimal text of even length; any other text has none. -/
def decode (text : String) : Option (List UInt8) :=
  decodeChars text.toList

theorem value_digit {n : Nat} (h : n < 16) : value (digit n) = some n := by
  interval_cases n <;> decide

/-- One byte in front of a text is read back in front of its bytes. -/
theorem decodeChars_digits (byte : UInt8) (rest : List Char) :
    decodeChars (digits byte ++ rest) = (decodeChars rest).map (byte :: ·) := by
  have hByte : byte.toNat < 256 := byte.toNat_lt
  have hHigh : value (digit (byte.toNat / 16)) = some (byte.toNat / 16) :=
    value_digit (by omega)
  have hLow : value (digit (byte.toNat % 16)) = some (byte.toNat % 16) :=
    value_digit (by omega)
  have hWhole : UInt8.ofNat (16 * (byte.toNat / 16) + byte.toNat % 16) = byte := by
    rw [Nat.div_add_mod, UInt8.ofNat_toNat]
  simp only [digits, List.cons_append, List.nil_append, decodeChars, hHigh, hLow, hWhole,
    Option.bind_eq_bind, Option.bind_some]
  cases decodeChars rest <;> rfl

/-- Decoding undoes encoding on every byte list. -/
@[simp] theorem decode_encode (bytes : List UInt8) : decode (encode bytes) = some bytes := by
  simp only [decode, encode, String.toList_ofList]
  induction bytes with
  | nil => rfl
  | cons byte rest ih => rw [List.flatMap_cons, decodeChars_digits, ih, Option.map_some]

example : decode "2A0f" = some [42, 15] := by decide

example : decode "abc" = none := by decide

end Hex
