import PacketRouterIngest.HttpRoaming.Dispatch
import PacketRouterIngest.HttpRoaming.RoundTrip

/-! The receive windows of a downlink: which of them there are, and when they
open. -/
namespace PacketRouter.HttpRoaming

open Rust Serde

namespace DLMetaData

variable {m : DLMetaData}

/-- The delay after the uplink is known: that of a join, or the one given. -/
def DelayKnown (m : DLMetaData) : Prop :=
  m.fnsUlToken.packetType = .join ∨ m.rxDelay1.isSome

/-- A window is there exactly if its own parts are, and opens so many seconds
after the delay, by a counter of microseconds with 32 bits. -/
structure OnTime (m : DLMetaData) (timestamp : UInt64) (freq : Option Float) (dataRate : Option DR)
    (extra : Nat) (window : Option WindowV1) : Prop where
  exists_iff : window.isSome ↔ freq.isSome ∧ dataRate.isSome ∧ m.DelayKnown
  opens : ∀ w ∈ window, ∃ seconds, delaySeconds m.fnsUlToken.packetType m.rxDelay1 = some seconds ∧
    w.timestamp.toNat = (timestamp.toNat + 1000000 * (seconds + extra)) % 2 ^ 32

theorem isSome_delaySeconds (m : DLMetaData) :
    (delaySeconds m.fnsUlToken.packetType m.rxDelay1).isSome ↔ m.DelayKnown := by
  cases hType : m.fnsUlToken.packetType <;> simp [delaySeconds, DelayKnown, hType]

theorem isSome_rxDelay (m : DLMetaData) : m.rxDelay.isSome ↔ m.DelayKnown := by
  cases hType : m.fnsUlToken.packetType <;> simp [rxDelay, DelayKnown, hType]

theorem toNat_later (timestamp : UInt64) (seconds : Nat) :
    (later timestamp seconds).toNat = (timestamp.toNat + 1000000 * seconds) % 2 ^ 32 := by
  rw [later, UInt64.toNat_ofNat']
  omega

/-- A window whose data rate is valid is there with all of its parts. -/
theorem isSome_promised {freq : Option Float} {dataRate : Option DR} {timestamp : Option UInt64}
    {immediate : Bool} (hValid : timestamp.isSome → m.RateValid freq dataRate) :
    (promised m.fnsUlToken.region freq dataRate timestamp immediate).isSome ↔
      freq.isSome ∧ dataRate.isSome ∧ timestamp.isSome := by
  cases freq with
  | none => simp [promised]
  | some freq =>
      cases dataRate with
      | none => simp [promised]
      | some dr =>
          cases timestamp with
          | none => simp [promised]
          | some timestamp =>
              obtain ⟨rate, hRate⟩ := hValid rfl rfl dr rfl
              simp [promised, hRate]

/-- What was promised is on time. -/
theorem onTime_promised (timestamp : UInt64) (extra : Nat) {freq : Option Float}
    {dataRate : Option DR} (hValid : m.RateValid freq dataRate) :
    m.OnTime timestamp freq dataRate extra (promised m.fnsUlToken.region freq dataRate
      ((delaySeconds m.fnsUlToken.packetType m.rxDelay1).map fun seconds =>
        later timestamp (seconds + extra)) false) where
  exists_iff := by
    rw [isSome_promised (fun _ => hValid), Option.isSome_map, isSome_delaySeconds]
  opens := by
    intro w hWindow
    obtain ⟨-, -, hTimestamp, -⟩ := promised_eq_some.mp hWindow
    obtain ⟨seconds, hSeconds, hLater⟩ := Option.map_eq_some_iff.mp hTimestamp
    exact ⟨seconds, hSeconds, by rw [← hLater, toNat_later]⟩

/-- **Times.** With data rates of the region both windows of class A are made;
each is there exactly if its own parts are, the first opens with the delay and
the second a second later, modulo 2^32. -/
theorem windows_onTime (timestamp : UInt64) (hRx1 : m.RateValid m.dlFreq1 m.dataRate1)
    (hRx2 : m.RateValid m.dlFreq2 m.dataRate2) :
    ∃ rx1 rx2, m.rx1Window timestamp = .ok rx1 ∧ m.rx2Window timestamp = .ok rx2 ∧
      m.OnTime timestamp m.dlFreq1 m.dataRate1 0 rx1 ∧
      m.OnTime timestamp m.dlFreq2 m.dataRate2 1 rx2 ∧
      (∀ first ∈ rx1, first.timestamp.toNat < 2 ^ 32) ∧
      (∀ second ∈ rx2, second.timestamp.toNat < 2 ^ 32) ∧
      ∀ first ∈ rx1, ∀ second ∈ rx2,
        second.timestamp.toNat = (first.timestamp.toNat + 1000000) % 2 ^ 32 := by
  have hFirst := onTime_promised timestamp 0 hRx1
  have hSecond := onTime_promised timestamp 1 hRx2
  refine ⟨_, _, rx1Window_eq_ok.mpr ⟨fun _ => hRx1, rfl⟩, rx2Window_eq_ok.mpr ⟨fun _ => hRx2, rfl⟩,
    hFirst, hSecond, fun first hMem => ?_, fun second hMem => ?_, fun first hMem second hMem' => ?_⟩
  · obtain ⟨seconds, -, hOpens⟩ := hFirst.opens first hMem
    rw [hOpens]
    exact Nat.mod_lt _ (Nat.two_pow_pos 32)
  · obtain ⟨seconds, -, hOpens⟩ := hSecond.opens second hMem
    rw [hOpens]
    exact Nat.mod_lt _ (Nat.two_pow_pos 32)
  · obtain ⟨seconds, hSeconds, hOpens⟩ := hFirst.opens first hMem
    obtain ⟨seconds', hSeconds', hOpens'⟩ := hSecond.opens second hMem'
    obtain rfl : seconds = seconds' := Option.some.inj (hSeconds.symm.trans hSeconds')
    have hShift : timestamp.toNat + 1000000 * (seconds + 1) =
        timestamp.toNat + 1000000 * (seconds + 0) + 1000000 := by ring
    rw [hOpens', hOpens, Nat.mod_add_mod, hShift]

/-- Metadata at the end of both counters. -/
def sampleLate : DLMetaData where
  devEui := "0000000000000003"
  fnsUlToken := ⟨18446744073709551615, ⟨"gateway"⟩, .us915, .data⟩
  classMode := .a
  dlFreq1 := some 925.1
  dataRate1 := some 10
  rxDelay1 := some 18446744073709551615
  dlFreq2 := some 923.3
  dataRate2 := some 8

theorem sampleLate_onTime :
    ∃ rx1 rx2, sampleLate.rx1Window 18446744073709551615 = .ok (some rx1) ∧
      sampleLate.rx2Window 18446744073709551615 = .ok (some rx2) ∧
      rx1.timestamp.toNat = 4293967295 ∧ rx2.timestamp.toNat = 4294967295 := by
  have hRx1 : sampleLate.RateValid sampleLate.dlFreq1 sampleLate.dataRate1 := by
    rintro - dr hDr
    cases hDr
    exact ⟨_, rfl⟩
  have hRx2 : sampleLate.RateValid sampleLate.dlFreq2 sampleLate.dataRate2 := by
    rintro - dr hDr
    cases hDr
    exact ⟨_, rfl⟩
  obtain ⟨rx1, rx2, hWindow, hWindow', hFirst, hSecond, -⟩ :=
    windows_onTime 18446744073709551615 hRx1 hRx2
  obtain ⟨first, rfl⟩ := Option.isSome_iff_exists.mp (hFirst.exists_iff.mpr ⟨rfl, rfl, .inr rfl⟩)
  obtain ⟨second, rfl⟩ := Option.isSome_iff_exists.mp (hSecond.exists_iff.mpr ⟨rfl, rfl, .inr rfl⟩)
  refine ⟨first, second, hWindow, hWindow', ?_, ?_⟩
  · obtain ⟨seconds, hSeconds, hOpens⟩ := hFirst.opens first rfl
    obtain rfl : 18446744073709551615 = seconds := by simpa [delaySeconds, sampleLate] using hSeconds
    exact hOpens
  · obtain ⟨seconds, hSeconds, hOpens⟩ := hSecond.opens second rfl
    obtain rfl : 18446744073709551615 = seconds := by simpa [delaySeconds, sampleLate] using hSeconds
    exact hOpens

/-- At least one window of class A will be there. -/
def PlansClassA (m : DLMetaData) : Prop :=
  ((m.dlFreq1.isSome ∧ m.dataRate1.isSome) ∨ (m.dlFreq2.isSome ∧ m.dataRate2.isSome)) ∧
    m.DelayKnown

/-- The window of class C will be there. -/
def PlansClassC (m : DLMetaData) : Prop := m.dlFreq2.isSome ∧ m.dataRate2.isSome

theorem isSome_rx1Window {timestamp : UInt64} {w : Option WindowV1}
    (h : m.rx1Window timestamp = .ok w) :
    w.isSome ↔ m.dlFreq1.isSome ∧ m.dataRate1.isSome ∧ m.DelayKnown := by
  obtain ⟨hValid, rfl⟩ := rx1Window_eq_ok.mp h
  rw [isSome_promised, Option.isSome_map, isSome_delaySeconds]
  rwa [Option.isSome_map, isSome_delaySeconds, ← isSome_rxDelay]

theorem isSome_rx2Window {timestamp : UInt64} {w : Option WindowV1}
    (h : m.rx2Window timestamp = .ok w) :
    w.isSome ↔ m.dlFreq2.isSome ∧ m.dataRate2.isSome ∧ m.DelayKnown := by
  obtain ⟨hValid, rfl⟩ := rx2Window_eq_ok.mp h
  rw [isSome_promised, Option.isSome_map, isSome_delaySeconds]
  rwa [Option.isSome_map, isSome_delaySeconds, ← isSome_rxDelay]

theorem isSome_classCWindow {w : Option WindowV1} (h : m.classCWindow = .ok w) :
    w.isSome ↔ m.PlansClassC := by
  obtain ⟨hValid, rfl⟩ := classCWindow_eq_ok.mp h
  rw [isSome_promised (fun _ => hValid), PlansClassC]
  simp

theorem classA_window_iff {timestamp : UInt64} {rx1 rx2 : Option WindowV1}
    (hRx1 : m.rx1Window timestamp = .ok rx1) (hRx2 : m.rx2Window timestamp = .ok rx2) :
    rx1.isSome ∨ rx2.isSome ↔ m.PlansClassA := by
  rw [isSome_rx1Window hRx1, isSome_rx2Window hRx2, PlansClassA, or_and_right, and_assoc, and_assoc]

end DLMetaData

/-- The message has what a window of its device's class needs. -/
def XmitDataReq.PlansWindow (m : XmitDataReq) : Prop :=
  match m.dlMetaData.classMode with
  | .a => m.dlMetaData.PlansClassA
  | .c => m.dlMetaData.PlansClassC

theorem PRStartAns.plansWindow_iff {m : PRStartAns} {down : PacketRouterPacketDownV1}
    (h : m.toPacketDown = .ok down) :
    down.rx1.isSome ∨ down.rx2.isSome ↔ m.dlMetaData.PlansClassA := by
  obtain ⟨-, hRx1, hRx2⟩ := toPacketDown_eq_ok.mp h
  exact DLMetaData.classA_window_iff hRx1 hRx2

theorem XmitDataReq.plansWindow_iff {m : XmitDataReq} {down : PacketRouterPacketDownV1}
    (h : m.toPacketDown = .ok down) : down.rx1.isSome ∨ down.rx2.isSome ↔ m.PlansWindow := by
  cases hClass : m.dlMetaData.classMode with
  | a =>
      obtain ⟨-, hRx1, hRx2⟩ := (toPacketDown_of_a hClass).mp h
      rw [DLMetaData.classA_window_iff hRx1 hRx2, PlansWindow, hClass]
  | c =>
      obtain ⟨-, hRx1, hRx2⟩ := (toPacketDown_of_c hClass).mp h
      rw [hRx2, DLMetaData.isSome_classCWindow hRx1, PlansWindow, hClass]
      simp

/-- The message that a value is read as has what a window needs. -/
def PlansWindow (value : Value) : Prop :=
  (∃ m, PRStartAns.fromValue value = .ok m ∧ m.dlMetaData.PlansClassA) ∨
    (PRStartAns.fromValue value).Failed ∧ ∃ m, XmitDataReq.fromValue value = .ok m ∧ m.PlansWindow

/-- The message that a value is read as has a payload that is hexadecimal. -/
def HexPayload (value : Value) : Prop :=
  (∃ m, PRStartAns.fromValue value = .ok m ∧ ∃ bytes, Hex.decode m.phyPayload = some bytes) ∨
    (PRStartAns.fromValue value).Failed ∧ ∃ m, XmitDataReq.fromValue value = .ok m ∧
      ∃ bytes, Hex.decode m.phyPayload = some bytes

/-- The message that a value is read as can be transmitted. -/
def TransmittableValue (value : Value) : Prop :=
  (∃ m, PRStartAns.fromValue value = .ok m ∧ m.Transmittable) ∨
    (PRStartAns.fromValue value).Failed ∧
      ∃ m, XmitDataReq.fromValue value = .ok m ∧ m.Transmittable

/-- No data rate is looked up for a window that lacks a part. -/
theorem DLMetaData.classAValid_of_not_plans {m : DLMetaData} (h : ¬ m.PlansClassA) :
    m.ClassAValid := by
  intro hDelay
  have hKnown : m.DelayKnown := m.isSome_rxDelay.mp hDelay
  constructor
  · intro hFreq dr hRate
    exact absurd ⟨.inl ⟨hFreq, by simp [hRate]⟩, hKnown⟩ h
  · intro hFreq dr hRate
    exact absurd ⟨.inr ⟨hFreq, by simp [hRate]⟩, hKnown⟩ h

theorem DLMetaData.classCValid_of_not_plans {m : DLMetaData} (h : ¬ m.PlansClassC) :
    m.ClassCValid := by
  intro hFreq dr hRate
  exact absurd ⟨hFreq, by simp [hRate]⟩ h

/-- Without the parts of a window only the payload can be wrong. -/
theorem PRStartAns.transmittable_of_not_plans {m : PRStartAns} (h : ¬ m.dlMetaData.PlansClassA) :
    m.Transmittable ↔ ∃ bytes, Hex.decode m.phyPayload = some bytes :=
  and_iff_left (DLMetaData.classAValid_of_not_plans h)

theorem XmitDataReq.transmittable_of_not_plans {m : XmitDataReq} (h : ¬ m.PlansWindow) :
    m.Transmittable ↔ ∃ bytes, Hex.decode m.phyPayload = some bytes := by
  rw [PlansWindow] at h
  rw [Transmittable]
  cases hClass : m.dlMetaData.classMode with
  | a =>
      rw [hClass] at h
      exact and_iff_left (DLMetaData.classAValid_of_not_plans h)
  | c =>
      rw [hClass] at h
      exact and_iff_left (DLMetaData.classCValid_of_not_plans h)

theorem transmittable_iff_hexPayload {value : Value} (h : ¬ PlansWindow value) :
    TransmittableValue value ↔ HexPayload value := by
  constructor
  · rintro (⟨m, hRead, hValid⟩ | ⟨hFailed, m, hRead, hValid⟩)
    · have hPlans : ¬ m.dlMetaData.PlansClassA := fun hPlans => h (.inl ⟨m, hRead, hPlans⟩)
      exact .inl ⟨m, hRead, (PRStartAns.transmittable_of_not_plans hPlans).mp hValid⟩
    · have hPlans : ¬ m.PlansWindow := fun hPlans => h (.inr ⟨hFailed, m, hRead, hPlans⟩)
      exact .inr ⟨hFailed, m, hRead, (XmitDataReq.transmittable_of_not_plans hPlans).mp hValid⟩
  · rintro (⟨m, hRead, hHex⟩ | ⟨hFailed, m, hRead, hHex⟩)
    · have hPlans : ¬ m.dlMetaData.PlansClassA := fun hPlans => h (.inl ⟨m, hRead, hPlans⟩)
      exact .inl ⟨m, hRead, (PRStartAns.transmittable_of_not_plans hPlans).mpr hHex⟩
    · have hPlans : ¬ m.PlansWindow := fun hPlans => h (.inr ⟨hFailed, m, hRead, hPlans⟩)
      exact .inr ⟨hFailed, m, hRead, (XmitDataReq.transmittable_of_not_plans hPlans).mpr hHex⟩

/-- A value yields a downlink exactly if its message can be transmitted. -/
theorem accepted_iff {value : Value} {settings : RoamingSettings} :
    (∃ pd, parseHttpPayload value settings = .ok (some pd)) ↔ TransmittableValue value := by
  constructor
  · rintro ⟨pd, hParse⟩
    obtain ⟨m, hRead, hDown, -⟩ | ⟨hFailed, m, hRead, hDown, -⟩ := parseHttpPayload_eq_some.mp hParse
    · exact .inl ⟨m, hRead, PRStartAns.toPacketDown_returns.mp ⟨_, hDown⟩⟩
    · exact .inr ⟨hFailed, m, hRead, XmitDataReq.toPacketDown_returns.mp ⟨_, hDown⟩⟩
  · rintro (⟨m, hRead, hValid⟩ | ⟨hFailed, m, hRead, hValid⟩)
    · obtain ⟨down, hDown⟩ := PRStartAns.toPacketDown_returns.mpr hValid
      exact ⟨⟨down, m.gateway, m.httpBody settings⟩,
        (PRStartAns.parse_eq_some hRead).mpr ⟨hDown, rfl, rfl⟩⟩
    · obtain ⟨down, hDown⟩ := XmitDataReq.toPacketDown_returns.mpr hValid
      exact ⟨⟨down, m.gateway, m.httpBody settings⟩,
        (XmitDataReq.parse_eq_some hFailed hRead).mpr ⟨hDown, rfl, rfl⟩⟩

/-- An accepted downlink has a window exactly if its message has the parts of one. -/
theorem plansWindow_iff {value : Value} {settings : RoamingSettings} {pd : PacketDown}
    (h : parseHttpPayload value settings = .ok (some pd)) :
    pd.downlink.rx1.isSome ∨ pd.downlink.rx2.isSome ↔ PlansWindow value := by
  obtain ⟨m, hRead, hDown, -⟩ | ⟨hFailed, m, hRead, hDown, -⟩ := parseHttpPayload_eq_some.mp h
  · rw [PRStartAns.plansWindow_iff hDown, PlansWindow, hRead]
    simp
  · have hNot : ∀ m, PRStartAns.fromValue value ≠ .ok m := by
      intro m' hOk
      simp [hOk] at hFailed
    rw [XmitDataReq.plansWindow_iff hDown, PlansWindow, hRead]
    simp [hFailed, hNot]

/-- For class C the window is immediate, and the only one. -/
theorem immediate_of_classC {value : Value} {settings : RoamingSettings} {pd : PacketDown}
    (h : parseHttpPayload value settings = .ok (some pd)) {m : XmitDataReq}
    (hFailed : (PRStartAns.fromValue value).Failed) (hRead : XmitDataReq.fromValue value = .ok m)
    (hClass : m.dlMetaData.classMode = .c) :
    pd.downlink.rx2 = none ∧ ∀ w ∈ pd.downlink.rx1, w.immediate = true := by
  obtain ⟨hDown, -⟩ := (XmitDataReq.parse_eq_some hFailed hRead).mp h
  obtain ⟨-, hRx1, hRx2⟩ := (XmitDataReq.toPacketDown_of_c hClass).mp hDown
  obtain ⟨-, hPromised⟩ := DLMetaData.classCWindow_eq_ok.mp hRx1
  refine ⟨hRx2, fun w hWindow => ?_⟩
  rw [hPromised] at hWindow
  obtain ⟨-, -, -, hImmediate⟩ := DLMetaData.promised_eq_some.mp hWindow
  exact hImmediate

/-- **Windows.** A value yields a downlink exactly if its message can be
transmitted. The downlink has a window exactly if the message has the parts of
one; for class C the window is immediate, and the only one. A value without the
parts of a window is accepted all the same, and without a window, as soon as its
payload is hexadecimal. -/
theorem window_iff (value : Value) (settings : RoamingSettings) :
    ((∃ pd, parseHttpPayload value settings = .ok (some pd)) ↔ TransmittableValue value) ∧
    (∀ pd, parseHttpPayload value settings = .ok (some pd) →
      (pd.downlink.rx1.isSome ∨ pd.downlink.rx2.isSome ↔ PlansWindow value) ∧
      ∀ m, (PRStartAns.fromValue value).Failed → XmitDataReq.fromValue value = .ok m →
        m.dlMetaData.classMode = .c →
        pd.downlink.rx2 = none ∧ ∀ w ∈ pd.downlink.rx1, w.immediate = true) ∧
    (¬ PlansWindow value →
      ((∃ pd, parseHttpPayload value settings = .ok (some pd) ∧
        pd.downlink.rx1 = none ∧ pd.downlink.rx2 = none) ↔ HexPayload value)) := by
  refine ⟨accepted_iff, fun pd hParse => ⟨plansWindow_iff hParse, fun m hFailed hRead hClass =>
    immediate_of_classC hParse hFailed hRead hClass⟩, fun hNot => ?_⟩
  rw [← transmittable_iff_hexPayload hNot]
  constructor
  · rintro ⟨pd, hParse, -⟩
    exact accepted_iff.mp ⟨pd, hParse⟩
  · intro hTransmittable
    obtain ⟨pd, hParse⟩ := accepted_iff.mpr hTransmittable
    have hNone := (plansWindow_iff hParse).not.mpr hNot
    rw [not_or, Option.not_isSome_iff_eq_none, Option.not_isSome_iff_eq_none] at hNone
    exact ⟨pd, hParse, hNone⟩

/-- An answer without frequencies is accepted, and no window is made for it. -/
theorem windowless_accepted :
    ∃ pd, parseHttpPayload (sampleMessage "PRStartAns" (sampleResult "Success") "00"
        (sampleMetaData "A" sampleToken)) HttpSettings.sample.roaming = .ok (some pd) ∧
      ¬ (pd.downlink.rx1.isSome ∨ pd.downlink.rx2.isSome) := by
  obtain ⟨pd, hParse, -, hDown⟩ :=
    parse_sampleMessage "PRStartAns" "Success" HttpSettings.sample.roaming
  exact ⟨pd, hParse, by simp [hDown]⟩

/-- An answer is accepted without windows, and with both. -/
theorem sample_window :
    (∃ pd, parseHttpPayload (sampleMessage "PRStartAns" (sampleResult "Success") "00"
        (sampleMetaData "A" sampleToken)) HttpSettings.sample.roaming = .ok (some pd) ∧
      pd.downlink.rx1 = none ∧ pd.downlink.rx2 = none) ∧
    ∃ pd, parseHttpPayload (sampleMessage "PRStartAns" (sampleResult "Success") "00"
        (sampleWindows "A" sampleToken)) HttpSettings.sample.roaming = .ok (some pd) ∧
      (pd.downlink.rx1.isSome ∨ pd.downlink.rx2.isSome) := by
  have hBare : PRStartAns.fromValue (sampleMessage "PRStartAns" (sampleResult "Success") "00"
      (sampleMetaData "A" sampleToken)) = _ :=
    fromValue_sampleMessage (fromValue_sampleMetaData decodes_sampleToken)
  obtain ⟨m, hFull, -, hMeta, hValid⟩ := transmittable_sampleWindows decodes_sampleToken
  constructor
  · refine ((window_iff _ HttpSettings.sample.roaming).2.2 ?_).mpr
      (.inl ⟨_, hBare, [0], by decide⟩)
    rintro (⟨m, hRead, ⟨⟨hFreq, -⟩ | ⟨hFreq, -⟩, -⟩⟩ | ⟨⟨error, hFailed⟩, -⟩)
    · obtain rfl := Outcome.ok.inj (hBare.symm.trans hRead)
      cases hFreq
    · obtain rfl := Outcome.ok.inj (hBare.symm.trans hRead)
      cases hFreq
    · rw [hBare] at hFailed
      cases hFailed
  · obtain ⟨hAccepted, hWindows, -⟩ := window_iff (sampleMessage "PRStartAns"
      (sampleResult "Success") "00" (sampleWindows "A" sampleToken)) HttpSettings.sample.roaming
    obtain ⟨pd, hParse⟩ := hAccepted.mpr (.inl ⟨m, hFull, hValid⟩)
    have hPlans : m.dlMetaData.PlansClassA := by
      rw [hMeta]
      exact ⟨.inl ⟨rfl, rfl⟩, .inl rfl⟩
    exact ⟨pd, hParse, (hWindows pd hParse).1.mpr (.inl ⟨m, hFull, hPlans⟩)⟩

end PacketRouter.HttpRoaming
