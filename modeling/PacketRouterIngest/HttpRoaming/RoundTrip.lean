import PacketRouterIngest.HttpRoaming.App
import PacketRouterIngest.HttpRoaming.Downlink

/-! The way of a token: made from the first copy of an uplink, sent to the
network server in a request, and brought back by a downlink to the gateway of
that copy. -/
namespace PacketRouter.HttpRoaming

open Rust Serde Serde.Value

/-- Seconds after an uplink at which its first receive window opens. -/
def delaySeconds (packetType : PacketType) (rxDelay1 : Option UInt64) : Option Nat :=
  match packetType with
  | .join => some 5
  | .data => rxDelay1.map fun rxDelay => max 1 rxDelay.toNat

/-- A counter of microseconds with 32 bits, some seconds later. -/
def later (timestamp : UInt64) (seconds : Nat) : UInt64 :=
  UInt64.ofNat ((timestamp.toNat + 1000000 * seconds) % 2 ^ 32)

/-- Wrapping at 64 bits does not show in the lower 32. -/
theorem addDelay_eq_later {timestamp add : UInt64} {seconds : Nat}
    (h : add.toNat = 1000000 * seconds % 2 ^ 64) : addDelay timestamp add = later timestamp seconds := by
  apply UInt64.toNat_inj.mp
  rw [addDelay, later]
  simp [h]
  omega

theorem toNat_clampDelay (rxDelay : UInt64) :
    (DLMetaData.clampDelay rxDelay).toNat = max 1 rxDelay.toNat := by
  rw [DLMetaData.clampDelay]
  split
  · next hSmall =>
      have hSmall : rxDelay.toNat < 2 := hSmall
      rw [UInt64.toNat_one]
      omega
  · next hLarge =>
      have hLarge : ¬ rxDelay.toNat < 2 := hLarge
      omega

namespace DLMetaData

variable {m : DLMetaData}

/-- The windows of class A that a token and the metadata promise. -/
structure ClassAWindows (m : DLMetaData) (token : Token) (down : PacketRouterPacketDownV1) :
    Prop where
  rx1 : down.rx1 = promised token.region m.dlFreq1 m.dataRate1
    ((delaySeconds token.packetType m.rxDelay1).map (later token.timestamp)) false
  rx2 : down.rx2 = promised token.region m.dlFreq2 m.dataRate2
    ((delaySeconds token.packetType m.rxDelay1).map fun seconds =>
      later token.timestamp (seconds + 1)) false

/-- The one window of class C, at once. -/
structure ClassCWindow (m : DLMetaData) (token : Token) (down : PacketRouterPacketDownV1) :
    Prop where
  rx1 : down.rx1 = promised token.region m.dlFreq2 m.dataRate2 (some 0) true
  rx2 : down.rx2 = none

/-- The times of both windows, which are one second apart. -/
theorem map_rxDelay (m : DLMetaData) (timestamp extra : UInt64) :
    (m.rxDelay.map fun rxDelay => addDelay timestamp ((clampDelay rxDelay + extra) * 1000000)) =
      (delaySeconds m.fnsUlToken.packetType m.rxDelay1).map fun seconds =>
        later timestamp (seconds + extra.toNat) := by
  have hDelay (rxDelay : UInt64) :
      ((clampDelay rxDelay + extra) * 1000000).toNat =
        1000000 * (max 1 rxDelay.toNat + extra.toNat) % 2 ^ 64 := by
    have hMillion : (1000000 : UInt64).toNat = 1000000 := rfl
    rw [UInt64.toNat_mul, UInt64.toNat_add, toNat_clampDelay, hMillion]
    omega
  cases hType : m.fnsUlToken.packetType with
  | join =>
      simp only [rxDelay, hType, delaySeconds, Option.map_some]
      rw [addDelay_eq_later (hDelay 5)]
      rfl
  | data =>
      simp only [rxDelay, hType, delaySeconds, Option.map_map]
      congr 1
      funext delay
      exact addDelay_eq_later (hDelay delay)

theorem rx1Window_eq_ok {timestamp : UInt64} {w : Option WindowV1} :
    m.rx1Window timestamp = .ok w ↔
      (m.rxDelay.isSome → m.RateValid m.dlFreq1 m.dataRate1) ∧
        w = promised m.fnsUlToken.region m.dlFreq1 m.dataRate1
          ((delaySeconds m.fnsUlToken.packetType m.rxDelay1).map (later timestamp)) false := by
  have hTimes := m.map_rxDelay timestamp 0
  simp only [UInt64.add_zero, UInt64.toNat_zero, Nat.add_zero] at hTimes
  rw [rx1Window, window_eq_ok, Option.isSome_map, hTimes]

theorem rx2Window_eq_ok {timestamp : UInt64} {w : Option WindowV1} :
    m.rx2Window timestamp = .ok w ↔
      (m.rxDelay.isSome → m.RateValid m.dlFreq2 m.dataRate2) ∧
        w = promised m.fnsUlToken.region m.dlFreq2 m.dataRate2
          ((delaySeconds m.fnsUlToken.packetType m.rxDelay1).map fun seconds =>
            later timestamp (seconds + 1)) false := by
  rw [rx2Window, window_eq_ok, Option.isSome_map, m.map_rxDelay timestamp 1]
  rfl

theorem classCWindow_eq_ok {w : Option WindowV1} :
    m.classCWindow = .ok w ↔
      m.ClassCValid ∧ w = promised m.fnsUlToken.region m.dlFreq2 m.dataRate2 (some 0) true := by
  rw [classCWindow, window_eq_ok]
  simp [ClassCValid]

end DLMetaData

/-- The message has this token text in its metadata. -/
def CarriesToken (fields : List (FieldReader Value)) (value : Value) (text : String) : Prop :=
  ∃ metaData, value.given fields "DLMetaData" = some metaData ∧
    metaData.given DLMetaData.fields "FNSULToken" = some (.string text)

/-- The field of a record is read from the value it is given. -/
theorem read_of_given {α : Type} {fields : List (FieldReader Value)} {value content : Value}
    {members : List (String × Value)} {name : String} {read : Value → Outcome Error α} {a : α}
    (hMembers : value.members fields = some members) (hField : field read name members = .ok a)
    (hGiven : value.given fields name = some content) : read content = .ok a := by
  obtain ⟨_, hLookup, hRead⟩ := field_eq_ok.mp hField
  rw [given, hMembers, Option.bind_some, hLookup] at hGiven
  obtain rfl := Option.some.inj hGiven
  exact hRead

theorem token_of_metaData {metaData : Value} {m : DLMetaData} {text : String} {token : Token}
    (hRead : DLMetaData.fromValue metaData = .ok m)
    (hGiven : metaData.given DLMetaData.fields "FNSULToken" = some (.string text))
    (hToken : Token.fromHex text = .ok token) : m.fnsUlToken = token := by
  obtain ⟨members, hMembers, -, -, hBuild⟩ := readRecord_eq_ok.mp hRead
  obtain ⟨-, hField, -⟩ := DLMetaData.build_eq_ok.mp hBuild
  have hOwn := read_of_given hMembers hField hGiven
  obtain ⟨_, ⟨⟩, hDecodes⟩ := Token.fromValue_eq_ok.mp hOwn
  rw [Token.fromHex_eq_ok.mpr hDecodes] at hToken
  exact Outcome.ok.inj hToken

variable {value : Value} {text : String} {token : Token}

theorem PRStartAns.token_of_carries {m : PRStartAns} (hRead : PRStartAns.fromValue value = .ok m)
    (hCarries : CarriesToken PRStartAns.fields value text)
    (hToken : Token.fromHex text = .ok token) : m.dlMetaData.fnsUlToken = token := by
  obtain ⟨metaData, hMeta, hText⟩ := hCarries
  obtain ⟨members, hMembers, -, -, hBuild⟩ := readRecord_eq_ok.mp hRead
  obtain ⟨-, -, -, hField⟩ := PRStartAns.build_eq_ok.mp hBuild
  exact token_of_metaData (read_of_given hMembers hField hMeta) hText hToken

theorem XmitDataReq.token_of_carries {m : XmitDataReq}
    (hRead : XmitDataReq.fromValue value = .ok m)
    (hCarries : CarriesToken XmitDataReq.fields value text)
    (hToken : Token.fromHex text = .ok token) : m.dlMetaData.fnsUlToken = token := by
  obtain ⟨metaData, hMeta, hText⟩ := hCarries
  obtain ⟨members, hMembers, -, -, hBuild⟩ := readRecord_eq_ok.mp hRead
  obtain ⟨-, -, hField⟩ := XmitDataReq.build_eq_ok.mp hBuild
  exact token_of_metaData (read_of_given hMembers hField hMeta) hText hToken

/-- The downlink goes to this gateway with the payload of the message, on the
channel that any app has stored for the gateway. -/
structure Addressed (c : Crates) (gw : GatewayB58) (phyPayload : String) (pd : PacketDown) :
    Prop where
  gateway : pd.gatewayB58 = gw
  payload : Hex.decode phyPayload = some pd.downlink.payload
  sent : ∀ (app : App) tx, app.gatewayMap.lookup gw = some tx →
    handleMessage c app (.downlink pd) = .ok (app, .downlinkSend tx pd pd.httpResponse.success)

theorem addressed {c : Crates} {pd : PacketDown} {gw : GatewayB58} {phyPayload : String}
    (hGateway : pd.gatewayB58 = gw) (hPayload : Hex.decode phyPayload = some pd.downlink.payload) :
    Addressed c gw phyPayload pd where
  gateway := hGateway
  payload := hPayload
  sent := by
    intro app tx hTx
    rw [← hGateway] at hTx
    simp [handleMessage, hTx]

/-- A `PRStartAns` with a token becomes a downlink to the token's gateway. -/
theorem PRStartAns.answers (c : Crates) {m : PRStartAns} (settings : RoamingSettings)
    (hRead : PRStartAns.fromValue value = .ok m) (hToken : m.dlMetaData.fnsUlToken = token)
    (hValid : m.Transmittable) :
    ∃ pd, parseHttpPayload value settings = .ok (some pd) ∧
      Addressed c token.gateway m.phyPayload pd ∧
      m.dlMetaData.ClassAWindows token pd.downlink := by
  obtain ⟨down, hDown⟩ := PRStartAns.toPacketDown_returns.mpr hValid
  obtain ⟨hPayload, hRx1, hRx2⟩ := PRStartAns.toPacketDown_eq_ok.mp hDown
  rw [DLMetaData.rx1Window_eq_ok, hToken] at hRx1
  rw [DLMetaData.rx2Window_eq_ok, hToken] at hRx2
  refine ⟨⟨down, m.gateway, m.httpBody settings⟩,
    (parse_eq_some hRead).mpr ⟨hDown, rfl, rfl⟩, addressed ?_ hPayload,
    hRx1.2, hRx2.2⟩
  rw [PRStartAns.gateway, hToken]

/-- So does an `XmitDataReq`, at the times of the device's class. -/
theorem XmitDataReq.answers (c : Crates) {m : XmitDataReq} (settings : RoamingSettings)
    (hFailed : (PRStartAns.fromValue value).Failed)
    (hRead : XmitDataReq.fromValue value = .ok m) (hToken : m.dlMetaData.fnsUlToken = token)
    (hValid : m.Transmittable) :
    ∃ pd, parseHttpPayload value settings = .ok (some pd) ∧
      Addressed c token.gateway m.phyPayload pd ∧
      (m.dlMetaData.classMode = .a → m.dlMetaData.ClassAWindows token pd.downlink) ∧
      (m.dlMetaData.classMode = .c → m.dlMetaData.ClassCWindow token pd.downlink) := by
  obtain ⟨down, hDown⟩ := XmitDataReq.toPacketDown_returns.mpr hValid
  have hParse : parseHttpPayload value settings =
      .ok (some ⟨down, m.gateway, m.httpBody settings⟩) :=
    (parse_eq_some hFailed hRead).mpr ⟨hDown, rfl, rfl⟩
  have hGateway : m.gateway = token.gateway := by rw [XmitDataReq.gateway, hToken]
  refine ⟨_, hParse, ?_⟩
  cases hClass : m.dlMetaData.classMode with
  | a =>
      obtain ⟨hPayload, hRx1, hRx2⟩ := (XmitDataReq.toPacketDown_of_a hClass).mp hDown
      rw [DLMetaData.rx1Window_eq_ok, hToken] at hRx1
      rw [DLMetaData.rx2Window_eq_ok, hToken] at hRx2
      exact ⟨addressed hGateway hPayload, fun _ => ⟨hRx1.2, hRx2.2⟩, nofun⟩
  | c =>
      obtain ⟨hPayload, hRx1, hRx2⟩ := (XmitDataReq.toPacketDown_of_c hClass).mp hDown
      rw [DLMetaData.classCWindow_eq_ok, hToken] at hRx1
      exact ⟨addressed hGateway hPayload, nofun, fun _ => ⟨hRx1.2, hRx2⟩⟩

/-- The token of an uplink: time, gateway and region of its first copy. -/
def uplinkToken (c : Crates) (packet : PacketUp) (packetType : PacketType) : Token where
  timestamp := packet.timestamp
  gateway := packet.gatewayB58 c
  region := packet.region
  packetType

/-- The kind of an uplink for which a request was made. -/
def ULMetaData.packetType (metaData : ULMetaData) : PacketType :=
  if metaData.devEui.isSome then .join else .data

/-- A request names its device once and carries the token of the first copy. -/
theorem token_of_request {c : Crates} {config : RoamingSettings} {packet : PacketUp}
    {rest : List PacketUp} {request : PRStartReq}
    (hRequest : makePrStartReq c (packet :: rest) config = .ok request) :
    (request.ulMetaData.devaddr.isSome ↔ ¬ request.ulMetaData.devEui.isSome) ∧
      Token.fromHex request.ulMetaData.fnsUlToken =
        .ok (uplinkToken c packet request.ulMetaData.packetType) := by
  obtain ⟨devaddr, devEui, text, entries, dataRate, recvTime, hRouting, -, -, -, rfl⟩ :=
    makePrStartReq_eq_ok.mp hRequest
  obtain ⟨-, -, dev, -, -, rfl, rfl, rfl⟩ | ⟨addr, -, rfl, rfl, rfl⟩ := routing_eq_ok hRouting
  · exact ⟨by simp, Token.fromHex_encode (uplinkToken c packet .join)⟩
  · exact ⟨by simp, Token.fromHex_encode (uplinkToken c packet .data)⟩

/-- **Round trip.** A request names its device once and carries a token that
decodes to time, gateway and region of the first copy, of type join exactly if
the device is named by its EUI. Every message that carries this token and can
be transmitted becomes a downlink to the gateway of that copy, with the windows
of the device's class counted from its time, at data rates of its region. -/
theorem token_closes_loop {c : Crates} {config : RoamingSettings} {packet : PacketUp}
    {rest : List PacketUp} {request : PRStartReq}
    (hRequest : makePrStartReq c (packet :: rest) config = .ok request) :
    (request.ulMetaData.devaddr.isSome ↔ ¬ request.ulMetaData.devEui.isSome) ∧
    ∃ token, Token.fromHex request.ulMetaData.fnsUlToken = .ok token ∧
      token = uplinkToken c packet token.packetType ∧
      (token.packetType = .join ↔ request.ulMetaData.devEui.isSome) ∧
      (∀ value settings (m : PRStartAns), PRStartAns.fromValue value = .ok m →
        CarriesToken PRStartAns.fields value request.ulMetaData.fnsUlToken → m.Transmittable →
        ∃ pd, parseHttpPayload value settings = .ok (some pd) ∧
          Addressed c (packet.gatewayB58 c) m.phyPayload pd ∧
          m.dlMetaData.ClassAWindows token pd.downlink) ∧
      ∀ value settings (m : XmitDataReq), (PRStartAns.fromValue value).Failed →
        XmitDataReq.fromValue value = .ok m →
        CarriesToken XmitDataReq.fields value request.ulMetaData.fnsUlToken → m.Transmittable →
        ∃ pd, parseHttpPayload value settings = .ok (some pd) ∧
          Addressed c (packet.gatewayB58 c) m.phyPayload pd ∧
          (m.dlMetaData.classMode = .a → m.dlMetaData.ClassAWindows token pd.downlink) ∧
          (m.dlMetaData.classMode = .c → m.dlMetaData.ClassCWindow token pd.downlink) := by
  obtain ⟨hOnce, hToken⟩ := token_of_request hRequest
  refine ⟨hOnce, _, hToken, rfl, ?_, ?_, ?_⟩
  · rw [uplinkToken, ULMetaData.packetType]
    split <;> simp_all
  · intro value settings m hRead hCarries hValid
    exact PRStartAns.answers c settings hRead (PRStartAns.token_of_carries hRead hCarries hToken)
      hValid
  · intro value settings m hFailed hRead hCarries hValid
    exact XmitDataReq.answers c settings hFailed hRead
      (XmitDataReq.token_of_carries hRead hCarries hToken) hValid

/-- A later copy of the sample join, from another gateway. -/
def sampleSecond : PacketUp :=
  let copy := PacketUp.sample joinFrame [0, 1]
  { copy with packet := { copy.packet with timestamp := 250 } }

/-- Two copies of a join and the answer that brings the token of the first back:
its windows open five and six seconds after the first copy, at the data rates
that the answer asks for. -/
theorem sample_closes_loop :
    ∃ request, makePrStartReq Crates.sampleGateways [.sample joinFrame [0, 0], sampleSecond]
        HttpSettings.sample.roaming = .ok request ∧
      ∃ pd, parseHttpPayload (sampleMessage "PRStartAns" (sampleResult "Success") "00"
          (sampleWindows "A" request.ulMetaData.fnsUlToken)) HttpSettings.sample.roaming =
            .ok (some pd) ∧
        Addressed Crates.sampleGateways ⟨"11146EAsf"⟩ "00" pd ∧
        pd.downlink.rx1 = some ⟨5000100, mhzToHz 925.1, .sf10bw500, false⟩ ∧
        pd.downlink.rx2 = some ⟨6000100, mhzToHz 923.3, .sf12bw500, false⟩ := by
  obtain ⟨request, hRequest, hText⟩ : ∃ request, makePrStartReq Crates.sampleGateways
      [.sample joinFrame [0, 0], sampleSecond] HttpSettings.sample.roaming = .ok request ∧
      request.ulMetaData.fnsUlToken = makeJoinToken ⟨"11146EAsf"⟩ 100 .us915 := ⟨_, rfl, rfl⟩
  have hJoin : Token.Decodes request.ulMetaData.fnsUlToken
      ⟨100, ⟨"11146EAsf"⟩, .us915, .join⟩ := by
    rw [hText]
    exact Token.decodes_makeJoinToken ..
  obtain ⟨-, token, hToken, -, -, hPrStart, -⟩ := token_closes_loop hRequest
  obtain rfl : token = ⟨100, ⟨"11146EAsf"⟩, .us915, .join⟩ :=
    Outcome.ok.inj (hToken.symm.trans (Token.fromHex_eq_ok.mpr hJoin))
  obtain ⟨m, hRead, hPayload, hMeta, hValid⟩ := transmittable_sampleWindows hJoin
  have hCarries : CarriesToken PRStartAns.fields (sampleMessage "PRStartAns"
      (sampleResult "Success") "00" (sampleWindows "A" request.ulMetaData.fnsUlToken))
      request.ulMetaData.fnsUlToken := ⟨_, rfl, rfl⟩
  obtain ⟨pd, hParse, hAddressed, hWindows⟩ :=
    hPrStart _ HttpSettings.sample.roaming m hRead hCarries hValid
  rw [hMeta] at hWindows
  rw [hPayload] at hAddressed
  exact ⟨request, hRequest, pd, hParse, hAddressed, hWindows.rx1, hWindows.rx2⟩

end PacketRouter.HttpRoaming
