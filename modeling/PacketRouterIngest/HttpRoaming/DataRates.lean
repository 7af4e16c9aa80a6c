import PacketRouterIngest.HttpRoaming.Windows

/-! The way of a data rate: the index of an uplink goes to the network server
beside the token, and an answer that brings both back opens its first window at
what the index stands for in the region of the token. -/
namespace PacketRouter.HttpRoaming

open Rust Serde Serde.Value

/-- The message brings back the token and the index of an uplink, and asks for
a first window. -/
structure BringsBack (fields : List (FieldReader Value)) (value : Value) (m : DLMetaData)
    (uplink : ULMetaData) : Prop where
  token : CarriesToken fields value uplink.fnsUlToken
  dataRate : m.dataRate1 = some uplink.dataRate
  freq : m.dlFreq1.isSome
  delay : m.DelayKnown

/-- The first window is made, at this data rate. -/
def DLMetaData.OpensAt (m : DLMetaData) (datarate : DataRate) : Prop :=
  ∃ w, m.rx1Window m.fnsUlToken.timestamp = .ok (some w) ∧ w.datarate = datarate

/-- The value is accepted as a downlink whose first window has this data rate. -/
def AcceptedAt (value : Value) (settings : RoamingSettings) (datarate : DataRate) : Prop :=
  ∃ pd w, parseHttpPayload value settings = .ok (some pd) ∧ pd.downlink.rx1 = some w ∧
    w.datarate = datarate

/-- What else is converted with the first window: the payload and the second. -/
structure DLMetaData.RestValid (m : DLMetaData) (phyPayload : String) : Prop where
  payload : ∃ bytes, Hex.decode phyPayload = some bytes
  rx2 : m.RateValid m.dlFreq2 m.dataRate2

/-- The uplink was received at the data rate whose two rows differ. -/
def Drifts (packet : PacketUp) : Prop :=
  packet.region = .cn779 ∧ packet.packet.datarate = .sf7bw250

namespace DLMetaData

variable {m : DLMetaData} {datarate : DataRate} {phyPayload : String}

/-- A first window with all of its parts opens at what its index stands for. -/
theorem opensAt_iff {dr : DR} (hIndex : m.dataRate1 = some dr) (hFreq : m.dlFreq1.isSome)
    (hDelay : m.DelayKnown) :
    m.OpensAt datarate ↔ downlinkDatarate m.fnsUlToken.region dr = some datarate := by
  obtain ⟨freq, hFreq⟩ := Option.isSome_iff_exists.mp hFreq
  obtain ⟨seconds, hSeconds⟩ := Option.isSome_iff_exists.mp (m.isSome_delaySeconds.mpr hDelay)
  constructor
  · rintro ⟨w, hWindow, rfl⟩
    obtain ⟨-, hPromised⟩ := rx1Window_eq_ok.mp hWindow
    obtain ⟨-, ⟨own, hOwn, hRate⟩, -⟩ := promised_eq_some.mp hPromised.symm
    obtain rfl := Option.some.inj (hIndex.symm.trans hOwn)
    exact hRate
  · intro hRate
    refine ⟨⟨later m.fnsUlToken.timestamp seconds, mhzToHz freq, datarate, false⟩,
      rx1Window_eq_ok.mpr ⟨fun _ _ own hOwn => ?_, ?_⟩, rfl⟩
    · obtain rfl := Option.some.inj (hIndex.symm.trans hOwn)
      exact ⟨datarate, hRate⟩
    · rw [hSeconds, eq_comm, promised_eq_some]
      exact ⟨⟨freq, hFreq, rfl⟩, ⟨dr, hIndex, hRate⟩, rfl, rfl⟩

/-- A message of class A is converted with a first window at a data rate
exactly if that window opens there and the rest is valid. -/
theorem exists_downlink_iff (hDelay : m.DelayKnown) :
    (∃ (down : PacketRouterPacketDownV1) (w : WindowV1),
      (Hex.decode phyPayload = some down.payload ∧
        m.rx1Window m.fnsUlToken.timestamp = .ok down.rx1 ∧
        m.rx2Window m.fnsUlToken.timestamp = .ok down.rx2) ∧
      down.rx1 = some w ∧ w.datarate = datarate) ↔
      m.OpensAt datarate ∧ m.RestValid phyPayload := by
  constructor
  · rintro ⟨down, w, ⟨hPayload, hRx1, hRx2⟩, hWindow, hRate⟩
    rw [hWindow] at hRx1
    exact ⟨⟨w, hRx1, hRate⟩, ⟨_, hPayload⟩,
      rx2Window_returns.mp ⟨_, hRx2⟩ (m.isSome_rxDelay.mpr hDelay)⟩
  · rintro ⟨⟨w, hRx1, hRate⟩, ⟨bytes, hPayload⟩, hValid⟩
    obtain ⟨rx2, hRx2⟩ : ∃ rx2, m.rx2Window m.fnsUlToken.timestamp = .ok rx2 :=
      rx2Window_returns.mpr fun _ => hValid
    exact ⟨⟨bytes, some w, rx2⟩, w, ⟨hPayload, hRx1, hRx2⟩, rfl, hRate⟩

end DLMetaData

section

variable {value : Value} {settings : RoamingSettings} {datarate : DataRate}

theorem PRStartAns.acceptedAt_iff {m : PRStartAns} (hRead : PRStartAns.fromValue value = .ok m)
    (hDelay : m.dlMetaData.DelayKnown) :
    AcceptedAt value settings datarate ↔
      m.dlMetaData.OpensAt datarate ∧ m.dlMetaData.RestValid m.phyPayload := by
  rw [← DLMetaData.exists_downlink_iff hDelay]
  constructor
  · rintro ⟨pd, w, hParse, hWindow⟩
    obtain ⟨hDown, -⟩ := (parse_eq_some hRead).mp hParse
    exact ⟨pd.downlink, w, toPacketDown_eq_ok.mp hDown, hWindow⟩
  · rintro ⟨down, w, hDown, hWindow⟩
    exact ⟨⟨down, m.gateway, m.httpBody settings⟩, w,
      (parse_eq_some hRead).mpr ⟨toPacketDown_eq_ok.mpr hDown, rfl, rfl⟩, hWindow⟩

theorem XmitDataReq.acceptedAt_iff {m : XmitDataReq}
    (hFailed : (PRStartAns.fromValue value).Failed) (hRead : XmitDataReq.fromValue value = .ok m)
    (hClass : m.dlMetaData.classMode = .a) (hDelay : m.dlMetaData.DelayKnown) :
    AcceptedAt value settings datarate ↔
      m.dlMetaData.OpensAt datarate ∧ m.dlMetaData.RestValid m.phyPayload := by
  rw [← DLMetaData.exists_downlink_iff hDelay]
  constructor
  · rintro ⟨pd, w, hParse, hWindow⟩
    obtain ⟨hDown, -⟩ := (parse_eq_some hFailed hRead).mp hParse
    exact ⟨pd.downlink, w, (toPacketDown_of_a hClass).mp hDown, hWindow⟩
  · rintro ⟨down, w, hDown, hWindow⟩
    exact ⟨⟨down, m.gateway, m.httpBody settings⟩, w,
      (parse_eq_some hFailed hRead).mpr ⟨(toPacketDown_of_a hClass).mpr hDown, rfl, rfl⟩, hWindow⟩

end

section

variable {c : Crates} {config : RoamingSettings} {packet : PacketUp} {rest : List PacketUp}
  {request : PRStartReq}

/-- A request names the data rate of the first copy by its index. -/
theorem index_of_request (hRequest : makePrStartReq c (packet :: rest) config = .ok request) :
    uplinkDatarate packet.region packet.packet.datarate = some request.ulMetaData.dataRate := by
  obtain ⟨_, _, _, _, dataRate, _, -, -, hIndex, -, rfl⟩ := makePrStartReq_eq_ok.mp hRequest
  exact expect_eq_ok.mp hIndex

/-- The metadata of an answer opens the first window at the data rate of the
uplink exactly if that rate does not drift. -/
theorem opensAt_uplink_iff (hRequest : makePrStartReq c (packet :: rest) config = .ok request)
    (hTable : packet.region.OneTable) (hLrfhss : packet.packet.datarate.isLrfhss = false)
    {m : DLMetaData} {packetType : PacketType}
    (hToken : m.fnsUlToken = uplinkToken c packet packetType)
    (hIndex : m.dataRate1 = some request.ulMetaData.dataRate) (hFreq : m.dlFreq1.isSome)
    (hDelay : m.DelayKnown) : m.OpensAt packet.packet.datarate ↔ ¬ Drifts packet := by
  have hRate := downlinkDatarate_of_uplink hTable hLrfhss (index_of_request hRequest)
  have hRegion : m.fnsUlToken.region = packet.region := by
    rw [hToken]
    rfl
  rw [DLMetaData.opensAt_iff hIndex hFreq hDelay, hRegion, hRate, Drifts]
  split_ifs with hDrifts
  · simp [hDrifts]
  · simp [hDrifts]

/-- **Data rates.** A message that brings back the token and the index of a
request opens its first window at the data rate of the uplink, exactly if that
rate does not drift. It is accepted so exactly if its other parts are valid too. -/
theorem datarate_returns_iff (hRequest : makePrStartReq c (packet :: rest) config = .ok request)
    (hTable : packet.region.OneTable) (hLrfhss : packet.packet.datarate.isLrfhss = false) :
    (∀ value (m : PRStartAns), PRStartAns.fromValue value = .ok m →
      BringsBack PRStartAns.fields value m.dlMetaData request.ulMetaData →
      (m.dlMetaData.OpensAt packet.packet.datarate ↔ ¬ Drifts packet) ∧
      ∀ settings, AcceptedAt value settings packet.packet.datarate ↔
        ¬ Drifts packet ∧ m.dlMetaData.RestValid m.phyPayload) ∧
    ∀ value (m : XmitDataReq), XmitDataReq.fromValue value = .ok m →
      m.dlMetaData.classMode = .a →
      BringsBack XmitDataReq.fields value m.dlMetaData request.ulMetaData →
      (m.dlMetaData.OpensAt packet.packet.datarate ↔ ¬ Drifts packet) ∧
      ∀ settings, (PRStartAns.fromValue value).Failed →
        (AcceptedAt value settings packet.packet.datarate ↔
          ¬ Drifts packet ∧ m.dlMetaData.RestValid m.phyPayload) := by
  obtain ⟨-, hToken⟩ := token_of_request hRequest
  refine ⟨fun value m hRead hBack => ?_, fun value m hRead hClass hBack => ?_⟩
  · have hOwn := PRStartAns.token_of_carries hRead hBack.token hToken
    have hOpens := opensAt_uplink_iff hRequest hTable hLrfhss hOwn hBack.dataRate hBack.freq
      hBack.delay
    refine ⟨hOpens, fun settings => ?_⟩
    rw [PRStartAns.acceptedAt_iff hRead hBack.delay, hOpens]
  · have hOwn := XmitDataReq.token_of_carries hRead hBack.token hToken
    have hOpens := opensAt_uplink_iff hRequest hTable hLrfhss hOwn hBack.dataRate hBack.freq
      hBack.delay
    refine ⟨hOpens, fun settings hFailed => ?_⟩
    rw [XmitDataReq.acceptedAt_iff hFailed hRead hClass hBack.delay, hOpens]

end

/-- The sample join, received in this region at this data rate. -/
def samplePacket (region : Region) (datarate : DataRate) : PacketUp :=
  let first := PacketUp.sample joinFrame [0]
  { first with packet := { first.packet with region, datarate } }

/-- Metadata that asks for a first window at an index. -/
def sampleWindowMetaData (token : String) (dr : DR) : Value :=
  .object [("ClassMode", .string "A"), ("DLFreq1", .number (.float 786.5)),
    ("DataRate1", .number (.posInt dr.toUInt64)), ("DevEUI", .string "0000000000000003"),
    ("FNSULToken", .string token), ("RXDelay1", .number (.posInt 1))]

/-- The answer to a request with its token and its index. -/
def sampleAnswer (request : PRStartReq) : Value :=
  sampleMessage "PRStartAns" (sampleResult "Success") "00"
    (sampleWindowMetaData request.ulMetaData.fnsUlToken request.ulMetaData.dataRate)

theorem fromValue_sampleWindowMetaData {text : String} {token : Token}
    (h : Token.Decodes text token) (dr : DR) :
    DLMetaData.fromValue (sampleWindowMetaData text dr) =
      .ok ⟨"0000000000000003", token, .a, some 786.5, some dr, some 1, none, none⟩ := by
  have hToken : Token.fromValue (.string text) = .ok token :=
    Token.fromValue_eq_ok.mpr ⟨text, rfl, h⟩
  have hByte : dr.toUInt64 ≤ 255 := by
    rw [UInt64.le_iff_toNat_le, UInt8.toNat_toUInt64]
    exact Nat.le_of_lt_succ dr.toNat_lt
  have hIndex : readU8 (.number (.posInt dr.toUInt64)) = .ok dr := by
    rw [readU8, if_pos hByte, UInt8.toUInt8_toUInt64]
  simp [sampleWindowMetaData, DLMetaData.fromValue, readRecord, members, fits, visitMembers,
    DLMetaData.fields, DLMetaData.build, field, optionalField, List.lookup_cons, check, hToken,
    readString, readUnitVariant, ClassMode.ofName, readOption, readF64, readU64, hIndex]

/-- The answer brings both back, and the rest of it is valid. -/
theorem exists_sampleAnswer {packet : PacketUp} {config : RoamingSettings} {request : PRStartReq}
    (hRequest : makePrStartReq Crates.sample [packet] config = .ok request) :
    ∃ m, PRStartAns.fromValue (sampleAnswer request) = .ok m ∧
      BringsBack PRStartAns.fields (sampleAnswer request) m.dlMetaData request.ulMetaData ∧
      m.dlMetaData.RestValid m.phyPayload := by
  obtain ⟨-, hToken⟩ := token_of_request hRequest
  have hMeta := fromValue_sampleWindowMetaData (Token.fromHex_eq_ok.mp hToken)
    request.ulMetaData.dataRate
  have hPayload : Hex.decode "00" = some [0] := by decide
  have hNoSecond (m : DLMetaData) (hNone : m.dlFreq2 = none) :
      m.RateValid m.dlFreq2 m.dataRate2 := by
    intro hFreq
    simp [hNone] at hFreq
  exact ⟨_, fromValue_sampleMessage hMeta, ⟨⟨_, rfl, rfl⟩, rfl, rfl, .inr rfl⟩, ⟨_, hPayload⟩,
    hNoSecond _ rfl⟩

/-- An uplink from `Cn779` at 250 kHz is answered at 500 kHz, where its device
does not listen. -/
theorem cn779_drifts :
    Region.cn779.OneTable ∧ DataRate.sf7bw250.isLrfhss = false ∧
    ∃ request, makePrStartReq Crates.sample [samplePacket .cn779 .sf7bw250]
        HttpSettings.sample.roaming = .ok request ∧
      ∃ m, PRStartAns.fromValue (sampleAnswer request) = .ok m ∧
        BringsBack PRStartAns.fields (sampleAnswer request) m.dlMetaData request.ulMetaData ∧
        m.dlMetaData.OpensAt .sf7bw500 ∧ ¬ m.dlMetaData.OpensAt .sf7bw250 ∧
        AcceptedAt (sampleAnswer request) HttpSettings.sample.roaming .sf7bw500 := by
  have hTable : Region.cn779.OneTable := ⟨⟨.sf7bw250, 6, rfl⟩, by decide⟩
  refine ⟨hTable, rfl, ?_⟩
  obtain ⟨request, hRequest⟩ : ∃ request, makePrStartReq Crates.sample
      [samplePacket .cn779 .sf7bw250] HttpSettings.sample.roaming = .ok request := ⟨_, rfl⟩
  obtain ⟨m, hRead, hBack, hValid⟩ := exists_sampleAnswer hRequest
  obtain ⟨-, hToken⟩ := token_of_request hRequest
  have hOwn := PRStartAns.token_of_carries hRead hBack.token hToken
  have hRegion : m.dlMetaData.fnsUlToken.region = .cn779 := by
    rw [hOwn]
    rfl
  have hRate : downlinkDatarate .cn779 request.ulMetaData.dataRate = some .sf7bw500 :=
    downlinkDatarate_of_uplink hTable rfl (index_of_request hRequest)
  have hOpens (datarate : DataRate) : m.dlMetaData.OpensAt datarate ↔ .sf7bw500 = datarate := by
    rw [DLMetaData.opensAt_iff hBack.dataRate hBack.freq hBack.delay, hRegion, hRate,
      Option.some.injEq]
  refine ⟨request, hRequest, m, hRead, hBack, (hOpens _).mpr rfl, ?_, ?_⟩
  · rw [hOpens]
    decide
  · exact (PRStartAns.acceptedAt_iff hRead hBack.delay).mpr ⟨(hOpens _).mpr rfl, hValid⟩

/-- An uplink from `Eu868` is answered at its own data rate. -/
theorem sample_returns :
    ∃ request, makePrStartReq Crates.sample [samplePacket .eu868 .sf10bw125]
        HttpSettings.sample.roaming = .ok request ∧
      AcceptedAt (sampleAnswer request) HttpSettings.sample.roaming .sf10bw125 := by
  obtain ⟨request, hRequest⟩ : ∃ request, makePrStartReq Crates.sample
      [samplePacket .eu868 .sf10bw125] HttpSettings.sample.roaming = .ok request := ⟨_, rfl⟩
  have hTable : Region.eu868.OneTable := ⟨⟨.sf10bw125, 2, rfl⟩, by decide⟩
  obtain ⟨m, hRead, hBack, hValid⟩ := exists_sampleAnswer hRequest
  obtain ⟨hAnswers, -⟩ := datarate_returns_iff hRequest hTable rfl
  obtain ⟨-, hAccepted⟩ := hAnswers _ m hRead hBack
  have hStays : ¬ Drifts (samplePacket .eu868 .sf10bw125) := by
    rintro ⟨hRegion, -⟩
    exact absurd hRegion (by decide)
  exact ⟨request, hRequest, (hAccepted _).mpr ⟨hStays, hValid⟩⟩

end PacketRouter.HttpRoaming
