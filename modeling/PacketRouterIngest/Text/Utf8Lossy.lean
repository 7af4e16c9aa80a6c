import Mathlib.Data.List.Basic

/-! Lossy decoding of bytes as UTF-8, with the replacement policy of the Rust
standard library: a maximal ill-formed sequence becomes one U+FFFD. -/
namespace Utf8

def replacement : Char := '\uFFFD'

/-- A continuation byte `10xxxxxx`. -/
def isContinuation (byte : UInt8) : Bool := byte &&& 0xC0 = 0x80

/-- Length of the sequence that a lead byte announces; `0` for a byte that
cannot lead one. -/
def charWidth (byte : UInt8) : Nat :=
  if byte < 0x80 then 1
  else if 0xC2 ≤ byte ∧ byte ≤ 0xDF then 2
  else if 0xE0 ≤ byte ∧ byte ≤ 0xEF then 3
  else if 0xF0 ≤ byte ∧ byte ≤ 0xF4 then 4
  else 0

/-- The second byte of a three-byte sequence excludes overlong forms and
surrogates. -/
def secondOfThree (lead second : UInt8) : Bool :=
  if lead = 0xE0 then 0xA0 ≤ second && second ≤ 0xBF
  else if lead = 0xED then 0x80 ≤ second && second ≤ 0x9F
  else isContinuation second

/-- The second byte of a four-byte sequence excludes overlong forms and
points past U+10FFFF. -/
def secondOfFour (lead second : UInt8) : Bool :=
  if lead = 0xF0 then 0x90 ≤ second && second ≤ 0xBF
  else if lead = 0xF4 then 0x80 ≤ second && second ≤ 0x8F
  else isContinuation second

/-- The low six bits of a continuation byte. -/
def payloadBits (byte : UInt8) : Nat := (byte &&& 0x3F).toNat

/-- Characters of `String::from_utf8_lossy`. A sequence that breaks off is
replaced up to the byte that broke it, which is then read again as a lead. -/
def lossy : List UInt8 → List Char
  | [] => []
  | lead :: rest =>
      match charWidth lead with
      | 1 => Char.ofNat lead.toNat :: lossy rest
      | 2 =>
          match rest with
          | second :: tail =>
              if isContinuation second then
                Char.ofNat ((lead &&& 0x1F).toNat * 64 + payloadBits second) :: lossy tail
              else replacement :: lossy (second :: tail)
          | [] => [replacement]
      | 3 =>
          match rest with
          | second :: tail =>
              if secondOfThree lead second then
                match tail with
                | third :: tail =>
                    if isContinuation third then
                      Char.ofNat (((lead &&& 0x0F).toNat * 64 + payloadBits second) * 64 +
                        payloadBits third) :: lossy tail
                    else replacement :: lossy (third :: tail)
                | [] => [replacement]
              else replacement :: lossy (second :: tail)
          | [] => [replacement]
      | 4 =>
          match rest with
          | second :: tail =>
              if secondOfFour lead second then
                match tail with
                | third :: tail =>
                    if isContinuation third then
                      match tail with
                      | fourth :: tail =>
                          if isContinuation fourth then
                            Char.ofNat ((((lead &&& 0x07).toNat * 64 + payloadBits second) * 64 +
                              payloadBits third) * 64 + payloadBits fourth) :: lossy tail
                          else replacement :: lossy (fourth :: tail)
                      | [] => [replacement]
                    else replacement :: lossy (third :: tail)
                | [] => [replacement]
              else replacement :: lossy (second :: tail)
          | [] => [replacement]
      | _ => replacement :: lossy rest

/-- `String::from_utf8_lossy`. -/
def fromUtf8Lossy (bytes : List UInt8) : String := String.ofList (lossy bytes)

example : lossy [0x41, 0xE2, 0x82, 0xAC, 0xE2, 0x82, 0x41, 0xFF] =
    ['A', '€', replacement, 'A', replacement] := by decide

end Utf8
