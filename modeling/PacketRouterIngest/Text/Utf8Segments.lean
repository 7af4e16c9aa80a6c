import PacketRouterIngest.Text.Utf8Lossy

/-! What lossy decoding keeps of the bytes. They fall into well-formed
sequences, which can be told apart, and broken ones, which cannot: two texts
come out the same exactly if they have the same well-formed sequences in the
same places. -/
namespace Utf8

/-- A piece of a text: a well-formed sequence, or bytes that one replacement
stands for. -/
inductive Segment where
  | legible (bytes : List UInt8)
  | broken (bytes : List UInt8)
deriving DecidableEq

/-- The character of a well-formed sequence. -/
def decode : List UInt8 → Char
  | [first] => Char.ofNat first.toNat
  | [lead, second] => Char.ofNat ((lead &&& 0x1F).toNat * 64 + payloadBits second)
  | [lead, second, third] =>
      Char.ofNat (((lead &&& 0x0F).toNat * 64 + payloadBits second) * 64 + payloadBits third)
  | [lead, second, third, fourth] =>
      Char.ofNat ((((lead &&& 0x07).toNat * 64 + payloadBits second) * 64 + payloadBits third) * 64 +
        payloadBits fourth)
  | _ => replacement

/-- A lead byte with the bytes that it announces. -/
inductive WellFormed : List UInt8 → Prop where
  | one {first : UInt8} : charWidth first = 1 → WellFormed [first]
  | two {lead second : UInt8} : charWidth lead = 2 → isContinuation second = true →
      WellFormed [lead, second]
  | three {lead second third : UInt8} : charWidth lead = 3 → secondOfThree lead second = true →
      isContinuation third = true → WellFormed [lead, second, third]
  | four {lead second third fourth : UInt8} : charWidth lead = 4 → secondOfFour lead second = true →
      isContinuation third = true → isContinuation fourth = true →
      WellFormed [lead, second, third, fourth]

namespace Segment

/-- What is shown for a segment. -/
def shown : Segment → Char
  | legible bytes => decode bytes
  | broken _ => replacement

/-- The bytes that can be read off what is shown: none for a replacement. -/
def text : Segment → Option (List UInt8)
  | legible bytes => if bytes = [0xEF, 0xBF, 0xBD] then none else some bytes
  | broken _ => none

end Segment

/-- The segments of a text, in order. -/
def segments : List UInt8 → List Segment
  | [] => []
  | lead :: rest =>
      match charWidth lead with
      | 1 => .legible [lead] :: segments rest
      | 2 =>
          match rest with
          | second :: tail =>
              if isContinuation second then .legible [lead, second] :: segments tail
              else .broken [lead] :: segments (second :: tail)
          | [] => [.broken [lead]]
      | 3 =>
          match rest with
          | second :: tail =>
              if secondOfThree lead second then
                match tail with
                | third :: tail =>
                    if isContinuation third then .legible [lead, second, third] :: segments tail
                    else .broken [lead, second] :: segments (third :: tail)
                | [] => [.broken [lead, second]]
              else .broken [lead] :: segments (second :: tail)
          | [] => [.broken [lead]]
      | 4 =>
          match rest with
          | second :: tail =>
              if secondOfFour lead second then
                match tail with
                | third :: tail =>
                    if isContinuation third then
                      match tail with
                      | fourth :: tail =>
                          if isContinuation fourth then
                            .legible [lead, second, third, fourth] :: segments tail
                          else .broken [lead, second, third] :: segments (fourth :: tail)
                      | [] => [.broken [lead, second, third]]
                    else .broken [lead, second] :: segments (third :: tail)
                | [] => [.broken [lead, second]]
              else .broken [lead] :: segments (second :: tail)
          | [] => [.broken [lead]]
      | _ => .broken [lead] :: segments rest

/-- Lossy decoding shows the segments one by one. -/
theorem lossy_eq (bytes : List UInt8) : lossy bytes = (segments bytes).map Segment.shown := by
  fun_induction segments bytes <;> rw [lossy.eq_def] <;> simp_all [Segment.shown, decode]

/-- What counts as legible is well-formed. -/
theorem wellFormed_of_legible {bytes sequence : List UInt8}
    (h : .legible sequence ∈ segments bytes) : WellFormed sequence := by
  fun_induction segments bytes with
  | case2 lead rest hLead ih =>
      rcases List.mem_cons.mp h with hOwn | hRest
      · cases hOwn
        exact .one hLead
      · exact ih hRest
  | case3 lead hLead second tail hSecond ih =>
      rcases List.mem_cons.mp h with hOwn | hRest
      · cases hOwn
        exact .two hLead hSecond
      · exact ih hRest
  | case6 lead hLead second hSecond third tail hThird ih =>
      rcases List.mem_cons.mp h with hOwn | hRest
      · cases hOwn
        exact .three hLead hSecond hThird
      · exact ih hRest
  | case11 lead hLead second hSecond third hThird fourth tail hFourth ih =>
      rcases List.mem_cons.mp h with hOwn | hRest
      · cases hOwn
        exact .four hLead hSecond hThird hFourth
      · exact ih hRest
  | _ => simp_all

/-- A property of bytes is checked on the numbers below 256. -/
theorem forall_byte {p : UInt8 → Prop} (h : ∀ n < 256, p (UInt8.ofNat n)) (byte : UInt8) :
    p byte := by
  rw [← UInt8.ofNat_toNat (x := byte)]
  exact h byte.toNat byte.toNat_lt

theorem toNat_of_width_one : ∀ byte : UInt8, charWidth byte = 1 → byte.toNat < 0x80 :=
  forall_byte (by decide +kernel)

theorem toNat_of_width_two : ∀ byte : UInt8, charWidth byte = 2 →
    0xC2 ≤ byte.toNat ∧ byte.toNat ≤ 0xDF ∧ (byte &&& 0x1F).toNat = byte.toNat - 0xC0 :=
  forall_byte (by decide +kernel)

theorem toNat_of_width_three : ∀ byte : UInt8, charWidth byte = 3 →
    0xE0 ≤ byte.toNat ∧ byte.toNat ≤ 0xEF ∧ (byte &&& 0x0F).toNat = byte.toNat - 0xE0 :=
  forall_byte (by decide +kernel)

theorem toNat_of_width_four : ∀ byte : UInt8, charWidth byte = 4 →
    0xF0 ≤ byte.toNat ∧ byte.toNat ≤ 0xF4 ∧ (byte &&& 0x07).toNat = byte.toNat - 0xF0 :=
  forall_byte (by decide +kernel)

theorem toNat_of_continuation : ∀ byte : UInt8, isContinuation byte = true →
    0x80 ≤ byte.toNat ∧ byte.toNat ≤ 0xBF ∧ payloadBits byte = byte.toNat - 0x80 :=
  forall_byte (by decide +kernel)

/-- A byte from a range of continuation bytes is one. -/
theorem isContinuation_of_range {low high second : UInt8} (hLow : 0x80 ≤ low.toNat)
    (hHigh : high.toNat ≤ 0xBF) (h : (low ≤ second && second ≤ high) = true) :
    isContinuation second = true ∧ low.toNat ≤ second.toNat ∧ second.toNat ≤ high.toNat := by
  have hAll : ∀ byte : UInt8, 0x80 ≤ byte.toNat ∧ byte.toNat ≤ 0xBF → isContinuation byte = true :=
    forall_byte (by decide +kernel)
  simp only [Bool.and_eq_true, decide_eq_true_eq, UInt8.le_iff_toNat_le] at h
  exact ⟨hAll second ⟨Nat.le_trans hLow h.1, Nat.le_trans h.2 hHigh⟩, h⟩

/-- The second of three bytes is a continuation byte that keeps the sequence
from being overlong or a surrogate. -/
theorem toNat_of_secondOfThree {lead second : UInt8} (h : secondOfThree lead second = true) :
    isContinuation second = true ∧ (lead.toNat = 0xE0 → 0xA0 ≤ second.toNat) ∧
      (lead.toNat = 0xED → second.toNat ≤ 0x9F) := by
  rw [secondOfThree] at h
  split_ifs at h with hE0 hED
  · obtain ⟨hSecond, hLow, -⟩ := isContinuation_of_range (by decide) (by decide) h
    subst hE0
    exact ⟨hSecond, fun _ => hLow, fun hOther => absurd hOther (by decide)⟩
  · obtain ⟨hSecond, -, hHigh⟩ := isContinuation_of_range (by decide) (by decide) h
    subst hED
    exact ⟨hSecond, fun hOther => absurd hOther (by decide), fun _ => hHigh⟩
  · exact ⟨h, fun hLead => absurd (UInt8.toNat_inj.mp hLead) hE0,
      fun hLead => absurd (UInt8.toNat_inj.mp hLead) hED⟩

/-- The second of four bytes is a continuation byte that keeps the sequence
from being overlong or past U+10FFFF. -/
theorem toNat_of_secondOfFour {lead second : UInt8} (h : secondOfFour lead second = true) :
    isContinuation second = true ∧ (lead.toNat = 0xF0 → 0x90 ≤ second.toNat) ∧
      (lead.toNat = 0xF4 → second.toNat ≤ 0x8F) := by
  rw [secondOfFour] at h
  split_ifs at h with hF0 hF4
  · obtain ⟨hSecond, hLow, -⟩ := isContinuation_of_range (by decide) (by decide) h
    subst hF0
    exact ⟨hSecond, fun _ => hLow, fun hOther => absurd hOther (by decide)⟩
  · obtain ⟨hSecond, -, hHigh⟩ := isContinuation_of_range (by decide) (by decide) h
    subst hF4
    exact ⟨hSecond, fun hOther => absurd hOther (by decide), fun _ => hHigh⟩
  · exact ⟨h, fun hLead => absurd (UInt8.toNat_inj.mp hLead) hF0,
      fun hLead => absurd (UInt8.toNat_inj.mp hLead) hF4⟩

theorem byte_eq (byte : UInt8) {n : Nat} (h : byte.toNat = n) : UInt8.ofNat n = byte := by
  rw [← h, UInt8.ofNat_toNat]

variable {n : Nat}

theorem val_ofNat (hValid : n.isValidChar) : (Char.ofNat n).val.toNat = n := by
  rw [Char.ofNat, dif_pos hValid]
  rfl

theorem encode_one (hHigh : n < 0x80) : String.utf8EncodeChar (Char.ofNat n) = [UInt8.ofNat n] := by
  simp only [String.utf8EncodeChar, val_ofNat (.inl (by omega : n < 0xD800))]
  rw [if_pos (by omega)]

theorem encode_two (hLow : 0x80 ≤ n) (hHigh : n ≤ 0x7FF) :
    String.utf8EncodeChar (Char.ofNat n) =
      [UInt8.ofNat (n / 64 + 0xC0), UInt8.ofNat (n % 64 + 0x80)] := by
  simp only [String.utf8EncodeChar, val_ofNat (.inl (by omega : n < 0xD800))]
  rw [if_neg (by omega), if_pos hHigh, Nat.mod_eq_of_lt (by omega)]

theorem encode_three (hValid : n.isValidChar) (hLow : 0x800 ≤ n) (hHigh : n ≤ 0xFFFF) :
    String.utf8EncodeChar (Char.ofNat n) =
      [UInt8.ofNat (n / 4096 + 0xE0), UInt8.ofNat (n / 64 % 64 + 0x80),
        UInt8.ofNat (n % 64 + 0x80)] := by
  simp only [String.utf8EncodeChar, val_ofNat hValid]
  have hLead : n / 4096 % 0x10 = n / 4096 := Nat.mod_eq_of_lt (by omega)
  rw [if_neg (by omega), if_neg (by omega), if_pos hHigh, hLead]

theorem encode_four (hLow : 0x10000 ≤ n) (hHigh : n < 0x110000) :
    String.utf8EncodeChar (Char.ofNat n) =
      [UInt8.ofNat (n / 262144 + 0xF0), UInt8.ofNat (n / 4096 % 64 + 0x80),
        UInt8.ofNat (n / 64 % 64 + 0x80), UInt8.ofNat (n % 64 + 0x80)] := by
  simp only [String.utf8EncodeChar, val_ofNat (.inr ⟨by omega, hHigh⟩)]
  have hLead : n / 262144 % 0x08 = n / 262144 := Nat.mod_eq_of_lt (by omega)
  rw [if_neg (by omega), if_neg (by omega), if_neg (by omega), hLead]

/-- A well-formed sequence is the encoding of its character. -/
theorem WellFormed.encode_decode {bytes : List UInt8} (h : WellFormed bytes) :
    String.utf8EncodeChar (decode bytes) = bytes := by
  cases h with
  | @one first hFirst =>
      rw [decode, encode_one (toNat_of_width_one _ hFirst), UInt8.ofNat_toNat]
  | @two lead second hLead hSecond =>
      obtain ⟨hLow, hHigh, hBits⟩ := toNat_of_width_two _ hLead
      obtain ⟨hLow₂, hHigh₂, hBits₂⟩ := toNat_of_continuation _ hSecond
      rw [decode, hBits, hBits₂, encode_two (by omega) (by omega), byte_eq lead (by omega),
        byte_eq second (by omega)]
  | @three lead second third hLead hSecond hThird =>
      obtain ⟨hLow, hHigh, hBits⟩ := toNat_of_width_three _ hLead
      obtain ⟨hSecond, hOverlong, hSurrogate⟩ := toNat_of_secondOfThree hSecond
      obtain ⟨hLow₂, hHigh₂, hBits₂⟩ := toNat_of_continuation _ hSecond
      obtain ⟨hLow₃, hHigh₃, hBits₃⟩ := toNat_of_continuation _ hThird
      rw [decode, hBits, hBits₂, hBits₃, encode_three ?valid (by omega) (by omega),
        byte_eq lead (by omega), byte_eq second (by omega),
        byte_eq third (by omega)]
      case valid =>
        rw [Nat.isValidChar]
        omega
  | @four lead second third fourth hLead hSecond hThird hFourth =>
      obtain ⟨hLow, hHigh, hBits⟩ := toNat_of_width_four _ hLead
      obtain ⟨hSecond, hOverlong, hLast⟩ := toNat_of_secondOfFour hSecond
      obtain ⟨hLow₂, hHigh₂, hBits₂⟩ := toNat_of_continuation _ hSecond
      obtain ⟨hLow₃, hHigh₃, hBits₃⟩ := toNat_of_continuation _ hThird
      obtain ⟨hLow₄, hHigh₄, hBits₄⟩ := toNat_of_continuation _ hFourth
      rw [decode, hBits, hBits₂, hBits₃, hBits₄, encode_four (by omega) (by omega),
        byte_eq lead (by omega), byte_eq second (by omega),
        byte_eq third (by omega), byte_eq fourth (by omega)]

theorem encode_injective : Function.Injective String.utf8EncodeChar := by
  intro first second hEncodings
  have hStrings : String.ofList [first] = String.ofList [second] := by
    rw [← String.toByteArray_inj, String.toByteArray_ofList, String.toByteArray_ofList,
      List.utf8Encode_singleton, List.utf8Encode_singleton, hEncodings]
  exact List.singleton_inj.mp (String.ofList_inj.mp hStrings)

/-- What a shown character says about the bytes. -/
def textOf (shown : Char) : Option (List UInt8) :=
  if shown = replacement then none else some (String.utf8EncodeChar shown)

theorem textOf_injective : Function.Injective textOf := by
  intro first second hTexts
  rw [textOf, textOf] at hTexts
  split_ifs at hTexts with hFirst hSecond hSecond
  · rw [hFirst, hSecond]
  · exact encode_injective (Option.some.inj hTexts)

theorem text_eq {bytes : List UInt8} {segment : Segment} (h : segment ∈ segments bytes) :
    segment.text = textOf segment.shown := by
  cases segment with
  | broken _ => rfl
  | legible sequence =>
      have hEncoding := (wellFormed_of_legible h).encode_decode
      have hReplacement : sequence = [0xEF, 0xBF, 0xBD] ↔ decode sequence = replacement :=
        ⟨fun hBytes => hBytes ▸ by decide, fun hShown => by rw [← hEncoding, hShown]; decide⟩
      simp only [Segment.text, Segment.shown, textOf, hReplacement, hEncoding]

/-- Two byte strings with the same well-formed sequences in the same places,
where EF BF BD counts as broken. -/
def SameText (first second : List UInt8) : Prop :=
  (segments first).map Segment.text = (segments second).map Segment.text

instance (first second : List UInt8) : Decidable (SameText first second) :=
  inferInstanceAs (Decidable ((segments first).map Segment.text = _))

/-- **Collisions of lossy decoding.** Exactly the byte strings with the same
text decode to the same characters. -/
theorem lossy_eq_iff (first second : List UInt8) :
    lossy first = lossy second ↔ SameText first second := by
  have hText (bytes : List UInt8) :
      (segments bytes).map Segment.text = (lossy bytes).map textOf := by
    rw [lossy_eq, List.map_map]
    exact List.map_congr_left fun segment hSegment => text_eq hSegment
  rw [SameText, hText, hText]
  exact (List.map_injective_iff.mpr textOf_injective).eq_iff.symm

theorem fromUtf8Lossy_eq_iff (first second : List UInt8) :
    fromUtf8Lossy first = fromUtf8Lossy second ↔ SameText first second :=
  String.ofList_inj.trans (lossy_eq_iff first second)

end Utf8
