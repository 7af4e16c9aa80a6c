import PacketRouterIngest.HttpRoaming.Messages
import PacketRouterIngest.HttpRoaming.Payload

/-! What becomes of a message of the network server: a packet for a gateway and
the response to the server. Arithmetic wraps, as it does in the release build. -/
namespace PacketRouter.HttpRoaming

open Rust Serde

def mhzToHz (mhz : Float) : UInt32 := (mhz * 1000000.0).toUInt32

/-- The timestamp is truncated into 32 bits. -/
def addDelay (timestamp add : UInt64) : UInt64 := (timestamp + add).toUInt32.toUInt64

namespace DLMetaData

variable (m : DLMetaData)

def datarate (dr : DR) : Panics DataRate :=
  expect "valid dr" (downlinkDatarate m.fnsUlToken.region dr)

def rxDelay : Option UInt64 :=
  match m.fnsUlToken.packetType with
  | .join => some 5
  | .data => m.rxDelay1

/-- Delays below two seconds are one second. -/
def clampDelay (rxDelay : UInt64) : UInt64 := if rxDelay < 2 then 1 else rxDelay

/-- A receive window, if all of its parts are there. -/
def window (freq : Option Float) (dataRate : Option DR) (timestamp : Option UInt64)
    (immediate : Bool) : Panics (Option WindowV1) :=
  match freq, dataRate, timestamp with
  | some freq, some dataRate, some timestamp => do
      let datarate ← m.datarate dataRate
      return some { timestamp, frequency := mhzToHz freq, datarate, immediate }
  | _, _, _ => .ok none

def rx1Window (timestamp : UInt64) : Panics (Option WindowV1) :=
  m.window m.dlFreq1 m.dataRate1
    (m.rxDelay.map fun rxDelay => addDelay timestamp (clampDelay rxDelay * 1000000)) false

def rx2Window (timestamp : UInt64) : Panics (Option WindowV1) :=
  m.window m.dlFreq2 m.dataRate2
    (m.rxDelay.map fun rxDelay => addDelay timestamp ((clampDelay rxDelay + 1) * 1000000)) false

def classCWindow : Panics (Option WindowV1) :=
  m.window m.dlFreq2 m.dataRate2 (some 0) true

end DLMetaData

/-- `ToPacketDown::payload`. -/
def payload (phyPayload : String) : Panics (List UInt8) :=
  expect "encoded payload" (Hex.decode phyPayload)

namespace PRStartAns

variable (m : PRStartAns)

def gateway : GatewayB58 := m.dlMetaData.fnsUlToken.gateway

/-- The class of the device is not looked at. -/
def toPacketDown : Panics PacketRouterPacketDownV1 := do
  return {
    payload := ← payload m.phyPayload
    rx1 := ← m.dlMetaData.rx1Window m.dlMetaData.fnsUlToken.timestamp
    rx2 := ← m.dlMetaData.rx2Window m.dlMetaData.fnsUlToken.timestamp }

/-- PRStartReq was a join request, PRStartAns was a join accept; PRStartNotif
says that the join accept was forwarded to the gateway. -/
def httpBody (settings : RoamingSettings) : HttpResponse where
  protocolVersion := "1.1"
  senderId := settings.senderNetId
  receiverId := settings.receiverNetId
  transactionId := m.transactionId
  messageType := .prStartNotif
  senderNsid := settings.senderNsid
  receiverNsid := settings.receiverNsid
  result := .success

end PRStartAns

namespace XmitDataReq

variable (m : XmitDataReq)

def gateway : GatewayB58 := m.dlMetaData.fnsUlToken.gateway

def toPacketDown : Panics PacketRouterPacketDownV1 :=
  match m.dlMetaData.classMode with
  | .c => do
      return {
        payload := ← payload m.phyPayload
        rx1 := ← m.dlMetaData.classCWindow
        rx2 := none }
  | .a => do
      return {
        payload := ← payload m.phyPayload
        rx1 := ← m.dlMetaData.rx1Window m.dlMetaData.fnsUlToken.timestamp
        rx2 := ← m.dlMetaData.rx2Window m.dlMetaData.fnsUlToken.timestamp }

/-- Downlink was received and forwarded to the gateway. -/
def httpBody (settings : RoamingSettings) : HttpResponse where
  protocolVersion := "1.1"
  senderId := settings.senderNetId
  receiverId := settings.receiverNetId
  transactionId := m.transactionId
  messageType := .xmitDataAns
  senderNsid := settings.senderNsid
  receiverNsid := settings.receiverNsid
  result := .success

end XmitDataReq

/-- `parse_http_payload`: the first of three records that the value can be read
as decides. A panic while it is read is not an error, and ends the attempts. -/
def parseHttpPayload (value : Value) (settings : RoamingSettings) :
    Outcome Error (Option PacketDown) :=
  match PRStartAns.fromValue value with
  | .panic reason => .panic reason
  | .ok prStart => do
      let downlink ← (prStart.toPacketDown : Panics PacketRouterPacketDownV1)
      return some {
        downlink
        gatewayB58 := prStart.gateway
        httpResponse := prStart.httpBody settings }
  | .err _ =>
      match XmitDataReq.fromValue value with
      | .panic reason => .panic reason
      | .ok xmit => do
          let downlink ← (xmit.toPacketDown : Panics PacketRouterPacketDownV1)
          return some {
            downlink
            gatewayB58 := xmit.gateway
            httpResponse := xmit.httpBody settings }
      | .err _ =>
          match PRStartAnsPlain.fromValue value with
          | .panic reason => .panic reason
          | .ok _ => .ok none
          | .err _ => .err ⟨"unparseable message"⟩

inductive StatusCode where
  | accepted
  | badRequest
deriving DecidableEq, Repr

/-- `downlink_post`: the answer, and the message that goes to the service's queue. -/
def downlinkPost (settings : RoamingSettings) (downlink : Value) :
    Panics (StatusCode × String × Option Msg) :=
  match parseHttpPayload downlink settings with
  | .ok (some packetDown) => .ok (.accepted, "Downlink Accepted", some (.downlink packetDown))
  | .ok none => .ok (.accepted, "Answer Accepted", none)
  | .err _ => .ok (.badRequest, "Unknown", none)
  | .panic reason => .error reason

/-- A downlink comes from the first record that the value can be read as. -/
theorem parseHttpPayload_eq_some {value : Value} {settings : RoamingSettings} {pd : PacketDown} :
    parseHttpPayload value settings = .ok (some pd) ↔
      (∃ m, PRStartAns.fromValue value = .ok m ∧ m.toPacketDown = .ok pd.downlink ∧
        pd.gatewayB58 = m.gateway ∧ pd.httpResponse = m.httpBody settings) ∨
      ((PRStartAns.fromValue value).Failed ∧
        ∃ m, XmitDataReq.fromValue value = .ok m ∧ m.toPacketDown = .ok pd.downlink ∧
          pd.gatewayB58 = m.gateway ∧ pd.httpResponse = m.httpBody settings) := by
  obtain ⟨downlink, gateway, response⟩ := pd
  cases hPrStart : PRStartAns.fromValue value with
  | panic reason => simp [parseHttpPayload, hPrStart]
  | ok m =>
      simp [parseHttpPayload, hPrStart, Outcome.bind_eq_ok, Outcome.lift_eq_ok,
        @eq_comm _ gateway, @eq_comm _ response]
  | err error =>
      cases hXmit : XmitDataReq.fromValue value with
      | panic reason => simp [parseHttpPayload, hPrStart, hXmit]
      | ok m =>
          simp [parseHttpPayload, hPrStart, hXmit, Outcome.bind_eq_ok, Outcome.lift_eq_ok,
            @eq_comm _ gateway, @eq_comm _ response]
      | err error =>
          cases hPlain : PRStartAnsPlain.fromValue value <;>
            simp [parseHttpPayload, hPrStart, hXmit, hPlain]

/-- For a value that is read as an answer, the downlink is that of the answer. -/
theorem PRStartAns.parse_eq_some {value : Value} {settings : RoamingSettings} {m : PRStartAns}
    {pd : PacketDown} (hRead : PRStartAns.fromValue value = .ok m) :
    parseHttpPayload value settings = .ok (some pd) ↔ m.toPacketDown = .ok pd.downlink ∧
      pd.gatewayB58 = m.gateway ∧ pd.httpResponse = m.httpBody settings := by
  rw [parseHttpPayload_eq_some, hRead]
  simp

/-- For a value that is no answer, it is that of the request. -/
theorem XmitDataReq.parse_eq_some {value : Value} {settings : RoamingSettings} {m : XmitDataReq}
    {pd : PacketDown} (hFailed : (PRStartAns.fromValue value).Failed)
    (hRead : XmitDataReq.fromValue value = .ok m) :
    parseHttpPayload value settings = .ok (some pd) ↔ m.toPacketDown = .ok pd.downlink ∧
      pd.gatewayB58 = m.gateway ∧ pd.httpResponse = m.httpBody settings := by
  have hNot : ∀ other, PRStartAns.fromValue value ≠ .ok other := by
    intro other hOk
    simp [hOk] at hFailed
  rw [parseHttpPayload_eq_some, hRead]
  simp [hFailed, hNot]

/-- Only a plain answer is accepted without a downlink. -/
theorem parseHttpPayload_eq_none {value : Value} {settings : RoamingSettings} :
    parseHttpPayload value settings = .ok none ↔
      (PRStartAns.fromValue value).Failed ∧ (XmitDataReq.fromValue value).Failed ∧
        ∃ m, PRStartAnsPlain.fromValue value = .ok m := by
  cases hPrStart : PRStartAns.fromValue value with
  | panic reason => simp [parseHttpPayload, hPrStart]
  | ok m => simp [parseHttpPayload, hPrStart, Outcome.bind_eq_ok]
  | err error =>
      cases hXmit : XmitDataReq.fromValue value with
      | panic reason => simp [parseHttpPayload, hPrStart, hXmit]
      | ok m => simp [parseHttpPayload, hPrStart, hXmit, Outcome.bind_eq_ok]
      | err error =>
          cases hPlain : PRStartAnsPlain.fromValue value <;>
            simp [parseHttpPayload, hPrStart, hXmit, hPlain]

namespace DLMetaData

variable {m : DLMetaData}

/-- The region of the token has a data rate for this index, if a window with
this frequency is made. -/
def RateValid (m : DLMetaData) (freq : Option Float) (dataRate : Option DR) : Prop :=
  freq.isSome → ∀ dr, dataRate = some dr → ∃ rate, downlinkDatarate m.fnsUlToken.region dr = some rate

/-- Both windows of class A can be made. -/
def ClassAValid (m : DLMetaData) : Prop :=
  m.rxDelay.isSome → m.RateValid m.dlFreq1 m.dataRate1 ∧ m.RateValid m.dlFreq2 m.dataRate2

def ClassCValid (m : DLMetaData) : Prop := m.RateValid m.dlFreq2 m.dataRate2

/-- The window that a message asks for: none where a part is missing. -/
def promised (region : Region) (freq : Option Float) (dataRate : Option DR)
    (timestamp : Option UInt64) (immediate : Bool) : Option WindowV1 := do
  let freq ← freq
  let dr ← dataRate
  let timestamp ← timestamp
  let datarate ← downlinkDatarate region dr
  return { timestamp, frequency := mhzToHz freq, datarate, immediate }

/-- Each field of a promised window comes from its own part. -/
theorem promised_eq_some {region : Region} {freq : Option Float} {dataRate : Option DR}
    {timestamp : Option UInt64} {immediate : Bool} {w : WindowV1} :
    promised region freq dataRate timestamp immediate = some w ↔
      (∃ mhz, freq = some mhz ∧ w.frequency = mhzToHz mhz) ∧
        (∃ dr, dataRate = some dr ∧ downlinkDatarate region dr = some w.datarate) ∧
        timestamp = some w.timestamp ∧ w.immediate = immediate := by
  simp only [promised, Option.bind_eq_bind, Option.bind_eq_some_iff, Option.pure_def,
    Option.some.injEq]
  constructor
  · rintro ⟨mhz, hFreq, dr, hIndex, own, hTimestamp, datarate, hRate, rfl⟩
    exact ⟨⟨mhz, hFreq, rfl⟩, ⟨dr, hIndex, hRate⟩, hTimestamp, rfl⟩
  · rintro ⟨⟨mhz, hFreq, hFrequency⟩, ⟨dr, hIndex, hRate⟩, hTimestamp, rfl⟩
    refine ⟨mhz, hFreq, dr, hIndex, w.timestamp, hTimestamp, w.datarate, hRate, ?_⟩
    rw [← hFrequency]

/-- A window is made without a panic exactly if its data rate is one of the
region's, and then it is the one that was asked for. -/
theorem window_eq_ok {freq : Option Float} {dataRate : Option DR} {timestamp : Option UInt64}
    {immediate : Bool} {w : Option WindowV1} :
    m.window freq dataRate timestamp immediate = .ok w ↔
      (timestamp.isSome → m.RateValid freq dataRate) ∧
        w = promised m.fnsUlToken.region freq dataRate timestamp immediate := by
  have hNone : (Except.ok none : Panics (Option WindowV1)) = .ok w ↔ w = none := by
    rw [Except.ok.injEq, eq_comm]
  cases freq with
  | none => simpa [window, RateValid, promised] using hNone
  | some freq =>
      cases dataRate with
      | none => simpa [window, RateValid, promised] using hNone
      | some dr =>
          cases timestamp with
          | none => simpa [window, promised] using hNone
          | some timestamp =>
              cases hRate : downlinkDatarate m.fnsUlToken.region dr with
              | none =>
                  simp [window, RateValid, datarate, hRate, bind, Except.bind]
              | some rate =>
                  simp only [window, RateValid, promised, datarate, hRate, expect_some, bind,
                    Except.bind, Option.bind, pure, Except.pure, Except.ok.injEq]
                  simp [eq_comm, hRate]

theorem window_returns {freq : Option Float} {dataRate : Option DR} {timestamp : Option UInt64}
    {immediate : Bool} : (∃ w, m.window freq dataRate timestamp immediate = .ok w) ↔
      (timestamp.isSome → m.RateValid freq dataRate) := by
  simp [window_eq_ok]

theorem rx1Window_returns {timestamp : UInt64} : (∃ w, m.rx1Window timestamp = .ok w) ↔
    (m.rxDelay.isSome → m.RateValid m.dlFreq1 m.dataRate1) := by
  rw [rx1Window, window_returns, Option.isSome_map]

theorem rx2Window_returns {timestamp : UInt64} : (∃ w, m.rx2Window timestamp = .ok w) ↔
    (m.rxDelay.isSome → m.RateValid m.dlFreq2 m.dataRate2) := by
  rw [rx2Window, window_returns, Option.isSome_map]

theorem classCWindow_returns : (∃ w, m.classCWindow = .ok w) ↔ m.ClassCValid := by
  rw [classCWindow, window_returns]
  simp [ClassCValid]

end DLMetaData

/-- The payload is hexadecimal and every window has a data rate. -/
def PRStartAns.Transmittable (m : PRStartAns) : Prop :=
  (∃ bytes, Hex.decode m.phyPayload = some bytes) ∧ m.dlMetaData.ClassAValid

/-- The payload is hexadecimal and every window of the device's class has a
data rate. -/
def XmitDataReq.Transmittable (m : XmitDataReq) : Prop :=
  (∃ bytes, Hex.decode m.phyPayload = some bytes) ∧
    match m.dlMetaData.classMode with
    | .a => m.dlMetaData.ClassAValid
    | .c => m.dlMetaData.ClassCValid

theorem PRStartAns.toPacketDown_eq_ok {m : PRStartAns} {down : PacketRouterPacketDownV1} :
    m.toPacketDown = .ok down ↔
      Hex.decode m.phyPayload = some down.payload ∧
      m.dlMetaData.rx1Window m.dlMetaData.fnsUlToken.timestamp = .ok down.rx1 ∧
      m.dlMetaData.rx2Window m.dlMetaData.fnsUlToken.timestamp = .ok down.rx2 := by
  obtain ⟨bytes, rx1, rx2⟩ := down
  simp [toPacketDown, payload, panics_bind_eq_ok, expect_eq_ok, pure, Except.pure]

theorem XmitDataReq.toPacketDown_of_a {m : XmitDataReq} {down : PacketRouterPacketDownV1}
    (hClass : m.dlMetaData.classMode = .a) :
    m.toPacketDown = .ok down ↔
      Hex.decode m.phyPayload = some down.payload ∧
      m.dlMetaData.rx1Window m.dlMetaData.fnsUlToken.timestamp = .ok down.rx1 ∧
      m.dlMetaData.rx2Window m.dlMetaData.fnsUlToken.timestamp = .ok down.rx2 := by
  obtain ⟨bytes, rx1, rx2⟩ := down
  simp [toPacketDown, hClass, payload, panics_bind_eq_ok, expect_eq_ok, pure, Except.pure]

theorem XmitDataReq.toPacketDown_of_c {m : XmitDataReq} {down : PacketRouterPacketDownV1}
    (hClass : m.dlMetaData.classMode = .c) :
    m.toPacketDown = .ok down ↔
      Hex.decode m.phyPayload = some down.payload ∧
      m.dlMetaData.classCWindow = .ok down.rx1 ∧ down.rx2 = none := by
  obtain ⟨bytes, rx1, rx2⟩ := down
  simp [toPacketDown, hClass, payload, panics_bind_eq_ok, expect_eq_ok, pure, Except.pure,
    @eq_comm _ none rx2]

/-- Two windows of class A are made together. -/
theorem DLMetaData.classA_returns {m : DLMetaData} {timestamp : UInt64} :
    ((∃ w, m.rx1Window timestamp = .ok w) ∧ ∃ w, m.rx2Window timestamp = .ok w) ↔
      m.ClassAValid := by
  rw [rx1Window_returns, rx2Window_returns, ClassAValid]
  exact forall_and.symm

theorem PRStartAns.toPacketDown_returns {m : PRStartAns} :
    (∃ down, m.toPacketDown = .ok down) ↔ m.Transmittable := by
  rw [Transmittable, ← DLMetaData.classA_returns]
  constructor
  · rintro ⟨down, hDown⟩
    obtain ⟨hPayload, hRx1, hRx2⟩ := toPacketDown_eq_ok.mp hDown
    exact ⟨⟨_, hPayload⟩, ⟨_, hRx1⟩, ⟨_, hRx2⟩⟩
  · rintro ⟨⟨bytes, hPayload⟩, ⟨rx1, hRx1⟩, ⟨rx2, hRx2⟩⟩
    exact ⟨⟨bytes, rx1, rx2⟩, toPacketDown_eq_ok.mpr ⟨hPayload, hRx1, hRx2⟩⟩

theorem XmitDataReq.toPacketDown_returns {m : XmitDataReq} :
    (∃ down, m.toPacketDown = .ok down) ↔ m.Transmittable := by
  cases hClass : m.dlMetaData.classMode with
  | a =>
      rw [Transmittable, hClass, ← DLMetaData.classA_returns]
      constructor
      · rintro ⟨down, hDown⟩
        obtain ⟨hPayload, hRx1, hRx2⟩ := (toPacketDown_of_a hClass).mp hDown
        exact ⟨⟨_, hPayload⟩, ⟨_, hRx1⟩, ⟨_, hRx2⟩⟩
      · rintro ⟨⟨bytes, hPayload⟩, ⟨rx1, hRx1⟩, ⟨rx2, hRx2⟩⟩
        exact ⟨⟨bytes, rx1, rx2⟩, (toPacketDown_of_a hClass).mpr ⟨hPayload, hRx1, hRx2⟩⟩
  | c =>
      rw [Transmittable, hClass, ← DLMetaData.classCWindow_returns]
      constructor
      · rintro ⟨down, hDown⟩
        obtain ⟨hPayload, hRx1, -⟩ := (toPacketDown_of_c hClass).mp hDown
        exact ⟨⟨_, hPayload⟩, ⟨_, hRx1⟩⟩
      · rintro ⟨⟨bytes, hPayload⟩, ⟨rx1, hRx1⟩⟩
        exact ⟨⟨bytes, rx1, none⟩, (toPacketDown_of_c hClass).mpr ⟨hPayload, hRx1, rfl⟩⟩

/-- Every token text that the readers of the value get to decodes, and the
message that the value is read as can be transmitted. -/
structure Digestible (value : Value) : Prop where
  prStartToken : ∀ text, ReachesToken PRStartAns.fields value text →
    ∃ token, Token.Decodes text token
  prStart : ∀ m, PRStartAns.fromValue value = .ok m → m.Transmittable
  xmitToken : (PRStartAns.fromValue value).Failed →
    ∀ text, ReachesToken XmitDataReq.fields value text → ∃ token, Token.Decodes text token
  xmit : (PRStartAns.fromValue value).Failed →
    ∀ m, XmitDataReq.fromValue value = .ok m → m.Transmittable

/-- The tokens that a reader gets to decode unless reading panics. -/
theorem tokens_decode_iff {α : Type} {x : Outcome Error α} {fields : List (FieldReader Value)}
    {value : Value} (h : x.Panicked ↔
      ∃ text, ReachesToken fields value text ∧ ¬ ∃ token, Token.Decodes text token) :
    (∀ text, ReachesToken fields value text → ∃ token, Token.Decodes text token) ↔
      ¬ x.Panicked := by
  rw [h]
  push Not
  rfl

theorem digestible_of_prStart {value : Value} {m : PRStartAns}
    (hRead : PRStartAns.fromValue value = .ok m) : Digestible value ↔ m.Transmittable := by
  constructor
  · intro h
    exact h.prStart m hRead
  · intro h
    have hFailed : ¬ (PRStartAns.fromValue value).Failed := by simp [hRead]
    refine ⟨?_, fun m' hRead' => ?_, fun hErr => absurd hErr hFailed, fun hErr => absurd hErr hFailed⟩
    · rw [tokens_decode_iff PRStartAns.fromValue_panicked, hRead]
      simp
    · obtain rfl := Outcome.ok.inj (hRead.symm.trans hRead')
      exact h

theorem digestible_of_xmit {value : Value} (hFailed : (PRStartAns.fromValue value).Failed)
    {m : XmitDataReq} (hRead : XmitDataReq.fromValue value = .ok m) :
    Digestible value ↔ m.Transmittable := by
  obtain ⟨error, hError⟩ := hFailed
  constructor
  · intro h
    exact h.xmit ⟨error, hError⟩ m hRead
  · intro h
    refine ⟨?_, fun m' hRead' => ?_, fun _ => ?_, fun _ m' hRead' => ?_⟩
    · rw [tokens_decode_iff PRStartAns.fromValue_panicked, hError]
      simp
    · rw [hError] at hRead'
      cases hRead'
    · rw [tokens_decode_iff XmitDataReq.fromValue_panicked, hRead]
      simp
    · obtain rfl := Outcome.ok.inj (hRead.symm.trans hRead')
      exact h

theorem digestible_of_failed {value : Value} (hFailed : (PRStartAns.fromValue value).Failed)
    (hXmit : (XmitDataReq.fromValue value).Failed) : Digestible value := by
  obtain ⟨error, hError⟩ := hFailed
  obtain ⟨error', hError'⟩ := hXmit
  refine ⟨?_, fun m hRead => ?_, fun _ => ?_, fun _ m hRead => ?_⟩
  · rw [tokens_decode_iff PRStartAns.fromValue_panicked, hError]
    simp
  · rw [hError] at hRead
    cases hRead
  · rw [tokens_decode_iff XmitDataReq.fromValue_panicked, hError']
    simp
  · rw [hError'] at hRead
    cases hRead

/-- Parsing a message panics exactly if it is not digestible. -/
theorem parseHttpPayload_panicked {value : Value} {settings : RoamingSettings} :
    (parseHttpPayload value settings).Panicked ↔ ¬ Digestible value := by
  cases hPrStart : PRStartAns.fromValue value with
  | panic reason =>
      have hNot : ¬ Digestible value := by
        intro h
        exact (tokens_decode_iff PRStartAns.fromValue_panicked).mp h.prStartToken ⟨reason, hPrStart⟩
      simp [parseHttpPayload, hPrStart, hNot]
  | ok m =>
      rw [digestible_of_prStart hPrStart, ← PRStartAns.toPacketDown_returns, ← panics_iff]
      simp [parseHttpPayload, hPrStart, Outcome.panicked_bind, Outcome.panicked_lift]
  | err error =>
      have hFailed : (PRStartAns.fromValue value).Failed := ⟨error, hPrStart⟩
      cases hXmit : XmitDataReq.fromValue value with
      | panic reason =>
          have hNot : ¬ Digestible value := by
            intro h
            exact (tokens_decode_iff XmitDataReq.fromValue_panicked).mp (h.xmitToken hFailed)
              ⟨reason, hXmit⟩
          simp [parseHttpPayload, hPrStart, hXmit, hNot]
      | ok m =>
          rw [digestible_of_xmit hFailed hXmit, ← XmitDataReq.toPacketDown_returns, ← panics_iff]
          simp [parseHttpPayload, hPrStart, hXmit, Outcome.panicked_bind, Outcome.panicked_lift]
      | err error' =>
          have hPlain : ¬ (PRStartAnsPlain.fromValue value).Panicked :=
            PRStartAnsPlain.not_panicked_fromValue
          have hDigestible := digestible_of_failed hFailed ⟨error', hXmit⟩
          cases hRead : PRStartAnsPlain.fromValue value <;>
            simp_all [parseHttpPayload]

/-- The handler answers whenever parsing returns. -/
theorem downlinkPost_returns {value : Value} {settings : RoamingSettings} :
    (∃ answer, downlinkPost settings value = .ok answer) ↔
      ¬ (parseHttpPayload value settings).Panicked := by
  cases hParse : parseHttpPayload value settings with
  | panic reason => simp [downlinkPost, hParse]
  | err error => simp [downlinkPost, hParse]
  | ok result => cases result <;> simp [downlinkPost, hParse]

/-- **Totality.** Parsing returns, and the handler answers, exactly for the
digestible values. -/
theorem downlink_total_iff (value : Value) (settings : RoamingSettings) :
    (¬ (parseHttpPayload value settings).Panicked ↔ Digestible value) ∧
    ((∃ answer, downlinkPost settings value = .ok answer) ↔ Digestible value) := by
  have hParse : ¬ (parseHttpPayload value settings).Panicked ↔ Digestible value := by
    rw [parseHttpPayload_panicked, not_not]
  exact ⟨hParse, downlinkPost_returns.trans hParse⟩

/-- A token that is not hexadecimal makes the handler panic. -/
theorem badToken_panics :
    (parseHttpPayload (sampleMessage "XmitDataReq" [] "00" (sampleMetaData "A" "zz"))
      HttpSettings.sample.roaming).Panicked ∧
    ¬ ∃ answer, downlinkPost HttpSettings.sample.roaming
      (sampleMessage "XmitDataReq" [] "00" (sampleMetaData "A" "zz")) = .ok answer := by
  have hPanic : (parseHttpPayload (sampleMessage "XmitDataReq" [] "00" (sampleMetaData "A" "zz"))
      HttpSettings.sample.roaming).Panicked := ⟨_, rfl⟩
  exact ⟨hPanic, fun hAnswer => downlinkPost_returns.mp hAnswer hPanic⟩

/-- The sample answer with the parts of both windows can be transmitted. -/
theorem transmittable_sampleWindows {text : String} {gateway : GatewayB58}
    (h : Token.Decodes text ⟨100, gateway, .us915, .join⟩) :
    ∃ m, PRStartAns.fromValue (sampleMessage "PRStartAns" (sampleResult "Success") "00"
        (sampleWindows "A" text)) = .ok m ∧ m.phyPayload = "00" ∧
      m.dlMetaData = ⟨"0000000000000003", ⟨100, gateway, .us915, .join⟩, .a,
        some 925.1, some 10, some 1, some 923.3, some 8⟩ ∧ m.Transmittable := by
  have hHex : Hex.decode "00" = some [0] := by decide
  refine ⟨_, fromValue_sampleMessage (fromValue_sampleWindows h), rfl, rfl, ⟨_, hHex⟩, fun _ => ?_⟩
  constructor <;>
    · rintro - dr hRate
      cases hRate
      exact ⟨_, rfl⟩

end PacketRouter.HttpRoaming
