import PacketRouterIngest.HttpRoaming.UlToken
import PacketRouterIngest.Uplink.Packet

/-! Settings, and the messages exchanged with the network server. -/
namespace PacketRouter.HttpRoaming

open Rust Serde

inductive ProtocolVersion where
  | v1_0
  | v1_1
deriving DecidableEq, Repr

/-- A duration under the text it was configured with. -/
structure DurationString where
  text : String
deriving DecidableEq, Repr

structure RoamingSettings where
  protocolVersion : ProtocolVersion
  senderNetId : String
  receiverNetId : String
  senderNsid : String
  receiverNsid : String
  dedupWindow : DurationString
deriving DecidableEq, Repr

structure HttpSettings where
  roaming : RoamingSettings
deriving DecidableEq, Repr

def HttpSettings.sample : HttpSettings where
  roaming := {
    protocolVersion := .v1_1
    senderNetId := "000024"
    receiverNetId := "c00053"
    senderNsid := "6081fffe12345678"
    receiverNsid := "0000000000000000"
    dedupWindow := ⟨"200ms"⟩ }

structure GWInfo where
  id : GatewayMac
  region : Region
  rssi : Int32
  snr : Float32
  dlAllowed : Bool

structure ULMetaData where
  devaddr : Option DevAddr
  devEui : Option Eui
  dataRate : DR
  ulFreq : Float
  recvTime : String
  rfRegion : Region
  fnsUlToken : String
  gwCnt : Nat
  gwInfo : List GWInfo

structure PRStartReq where
  protocolVersion : String
  senderNsid : String
  receiverNsid : String
  dedupWindowSize : String
  senderId : String
  receiverId : String
  phyPayload : String
  ulMetaData : ULMetaData

/-- The entry of one copy of the packet. -/
def gwInfo (c : Crates) (packet : PacketUp) : Panics GWInfo := do
  return {
    id := ← packet.gatewayMac c
    region := packet.region
    rssi := packet.rssi
    snr := packet.snr
    dlAllowed := true }

/-- Identity and token of the packet that opened the group. -/
def routing (c : Crates) (packet : PacketUp) :
    Outcome Error (Option DevAddr × Option Eui × String) := do
  match ← packet.routingInfo c with
  | .eui _ dev =>
      return (none, some dev,
        makeJoinToken (packet.gatewayB58 c) packet.timestamp packet.region)
  | .devAddr devaddr =>
      return (some devaddr, none,
        makeDataToken (packet.gatewayB58 c) packet.timestamp packet.region)
  | .unknown => .err ⟨"packet contains unparseable routing information"⟩

/-- `make_pr_start_req`: one request for all copies, described by the first. -/
def makePrStartReq (c : Crates) (packets : List PacketUp) (config : RoamingSettings) :
    Outcome Error PRStartReq := do
  let packet ← expect "at least one packet" packets.head?
  let (devaddr, devEui, token) ← routing c packet
  let gwInfo ← (packets.mapM (gwInfo c) : Panics (List GWInfo))
  let dataRate ← packet.datarateIndex
  let recvTime ← packet.recvTimeText c
  return {
    protocolVersion := "1.1"
    senderNsid := config.senderNsid
    receiverNsid := config.receiverNsid
    dedupWindowSize := config.dedupWindow.text
    senderId := config.senderNetId
    receiverId := config.receiverNetId
    phyPayload := packet.jsonPayload
    ulMetaData := {
      devaddr, devEui, dataRate, recvTime, gwInfo
      ulFreq := packet.frequencyMhz
      rfRegion := packet.region
      fnsUlToken := token
      gwCnt := gwInfo.length } }

section

variable {c : Crates} {config : RoamingSettings} {packet : PacketUp}

/-- The entry of a copy is read off its fields; only the gateway's bytes can
make that panic. -/
theorem gwInfo_eq_ok {info : GWInfo} :
    gwInfo c packet = .ok info ↔ ∃ id, packet.gatewayMac c = .ok id ∧
      info = ⟨id, packet.region, packet.rssi, packet.snr, true⟩ := by
  cases h : packet.gatewayMac c <;>
    simp [gwInfo, h, bind, Except.bind, pure, Except.pure, eq_comm]

theorem gwInfo_eq_error :
    (∃ reason, gwInfo c packet = .error reason) ↔ packet.packet.gateway = [] := by
  rw [← GatewayMac.fromBytes_eq_error c]
  cases h : GatewayMac.fromBytes c packet.packet.gateway <;>
    simp [gwInfo, PacketUp.gatewayMac, h, bind, Except.bind, pure, Except.pure]

/-- The three ways in which the routing of a packet can end. -/
theorem routing_cases (c : Crates) (packet : PacketUp) :
    (∃ e, c.parse packet.packet.payload = .error e ∧ (routing c packet).Panicked) ∨
    (packet.Routable c ∧ ∃ result, routing c packet = .ok result) ∨
    (¬ packet.Routable c ∧ (∃ phy, c.parse packet.packet.payload = .ok phy) ∧
      (routing c packet).Failed) := by
  obtain ⟨e, hParse, hInfo⟩ | ⟨hRoutable, info, hInfo, hKnown⟩ | ⟨hNot, hParse, hInfo⟩ :=
    packet.routingInfo_cases c
  · exact .inl ⟨e, hParse, by simp [routing, hInfo]⟩
  · refine .inr (.inl ⟨hRoutable, ?_⟩)
    cases info with
    | unknown => exact absurd rfl hKnown
    | eui | devAddr => simp [routing, hInfo]
  · exact .inr (.inr ⟨hNot, hParse, by simp [routing, hInfo]⟩)

/-- A routed packet names its device once, by what its frame says, and its token
says how. -/
theorem routing_eq_ok {devaddr : Option DevAddr} {devEui : Option Eui} {token : String}
    (h : routing c packet = .ok (devaddr, devEui, token)) :
    (∃ app dev eui, c.parse packet.packet.payload = .ok (.joinRequest app dev) ∧
      Eui.from c dev = .ok eui ∧ devaddr = none ∧ devEui = some eui ∧
      token = makeJoinToken (packet.gatewayB58 c) packet.timestamp packet.region) ∨
    (∃ addr, c.parse packet.packet.payload = .ok (.data (.encrypted addr)) ∧
      devaddr = some (DevAddr.from c addr) ∧ devEui = none ∧
      token = makeDataToken (packet.gatewayB58 c) packet.timestamp packet.region) := by
  cases hInfo : packet.routingInfo c with
  | error reason => simp [routing, hInfo] at h
  | ok info =>
      have hFrame := packet.frame_of_routingInfo c hInfo
      cases info with
      | unknown => simp [routing, hInfo] at h
      | eui app dev =>
          simp only [routing, hInfo, Outcome.lift_ok, Outcome.ok_bind, Outcome.pure_eq,
            Outcome.ok.injEq, Prod.mk.injEq] at h
          obtain ⟨rfl, rfl, rfl⟩ := h
          obtain ⟨appEui, devEui, hParse, hEui⟩ := hFrame
          exact .inl ⟨appEui, devEui, dev, hParse, hEui, rfl, rfl, rfl⟩
      | devAddr addr =>
          simp only [routing, hInfo, Outcome.lift_ok, Outcome.ok_bind, Outcome.pure_eq,
            Outcome.ok.injEq, Prod.mk.injEq] at h
          obtain ⟨rfl, rfl, rfl⟩ := h
          obtain ⟨devaddr, hParse, rfl⟩ := hFrame
          exact .inr ⟨devaddr, hParse, rfl, rfl, rfl⟩

/-- A request is made from the routing of the first copy, the entries of all
copies and the description of the first. -/
theorem makePrStartReq_eq_ok {rest : List PacketUp} {request : PRStartReq} :
    makePrStartReq c (packet :: rest) config = .ok request ↔
      ∃ devaddr devEui token entries dataRate recvTime,
        routing c packet = .ok (devaddr, devEui, token) ∧
        (packet :: rest).mapM (gwInfo c) = .ok entries ∧
        packet.datarateIndex = .ok dataRate ∧ packet.recvTimeText c = .ok recvTime ∧
        request = {
          protocolVersion := "1.1"
          senderNsid := config.senderNsid
          receiverNsid := config.receiverNsid
          dedupWindowSize := config.dedupWindow.text
          senderId := config.senderNetId
          receiverId := config.receiverNetId
          phyPayload := packet.jsonPayload
          ulMetaData := {
            devaddr, devEui, dataRate, recvTime
            gwInfo := entries
            ulFreq := packet.frequencyMhz
            rfRegion := packet.region
            fnsUlToken := token
            gwCnt := entries.length } } := by
  simp only [makePrStartReq, List.head?_cons, expect_some, Outcome.bind_eq_ok, Outcome.lift_eq_ok,
    Except.ok.injEq, exists_eq_left', Prod.exists, Outcome.pure_eq, Outcome.ok.injEq]
  constructor
  · rintro ⟨devaddr, devEui, token, hRouting, entries, hEntries, dataRate, hRate, recvTime, hTime, rfl⟩
    exact ⟨devaddr, devEui, token, entries, dataRate, recvTime, hRouting, hEntries, hRate, hTime, rfl⟩
  · rintro ⟨devaddr, devEui, token, entries, dataRate, recvTime, hRouting, hEntries, hRate, hTime, rfl⟩
    exact ⟨devaddr, devEui, token, hRouting, entries, hEntries, dataRate, hRate, recvTime, hTime, rfl⟩

/-- Making the request panics exactly on a group without a first copy, on a
first frame that does not parse, and on a routable first frame that cannot be
described or has a copy without gateway bytes. -/
theorem makePrStartReq_panicked {packets : List PacketUp} :
    (makePrStartReq c packets config).Panicked ↔
      ∀ first, packets.head? = some first →
        (∃ e, c.parse first.packet.payload = .error e) ∨
          first.Routable c ∧
            (¬ first.Describable c ∨ ∃ copy ∈ packets, copy.packet.gateway = []) := by
  cases packets with
  | nil => simp [makePrStartReq]
  | cons first rest =>
      simp only [List.head?_cons, Option.some.injEq, forall_eq']
      obtain ⟨e, hParse, reason, hRouting⟩ | ⟨hRoutable, result, hRouting⟩ |
        ⟨hNot, ⟨phy, hParse⟩, error, hRouting⟩ := routing_cases c first
      · simp [makePrStartReq, hRouting, hParse]
      · obtain ⟨phy, hParse⟩ : ∃ phy, c.parse first.packet.payload = .ok phy := by
          obtain ⟨_, _, h⟩ | ⟨_, h⟩ := hRoutable <;> exact ⟨_, h⟩
        have hEntries : (∃ reason, (first :: rest).mapM (gwInfo c) = .error reason) ↔
            ∃ copy ∈ first :: rest, copy.packet.gateway = [] := by
          simp only [mapM_eq_error, gwInfo_eq_error]
        rw [← hEntries]
        cases hInfos : (first :: rest).mapM (gwInfo c) with
        | error reason => simp [makePrStartReq, hRouting, hInfos, hRoutable]
        | ok infos =>
            cases hRate : uplinkDatarate first.region first.packet.datarate <;>
              cases hTime : c.rfc3339FromMillis first.recvTime.toInt64 <;>
                simp [makePrStartReq, hRouting, hInfos, hRoutable, hParse, PacketUp.datarateIndex,
                  PacketUp.recvTimeText, PacketUp.Describable, hRate, hTime]
      · simp [makePrStartReq, hRouting, hParse, hNot]

/-- It returns an error exactly for a first frame that parses and names no
device. -/
theorem makePrStartReq_failed {rest : List PacketUp} :
    (makePrStartReq c (packet :: rest) config).Failed ↔
      ¬ packet.Routable c ∧ ∃ phy, c.parse packet.packet.payload = .ok phy := by
  obtain ⟨e, hParse, reason, hRouting⟩ | ⟨hRoutable, result, hRouting⟩ |
    ⟨hNot, hParse, error, hRouting⟩ := routing_cases c packet
  · simp [makePrStartReq, hRouting, hParse]
  · simp [makePrStartReq, hRouting, hRoutable, Outcome.failed_bind]
  · simp [makePrStartReq, hRouting, hNot, hParse]

end

inductive HttpResponseMessageType where
  | prStartNotif
  | xmitDataAns
deriving DecidableEq, Repr

inductive HttpResponseResult where
  | success
  | micFailed
  | xmitFailed
deriving DecidableEq, Repr

structure HttpResponse where
  protocolVersion : String
  messageType : HttpResponseMessageType
  senderId : String
  receiverId : String
  transactionId : UInt64
  senderNsid : String
  receiverNsid : String
  result : HttpResponseResult
deriving DecidableEq, Repr

namespace HttpResponse

def success (r : HttpResponse) : HttpResponse := { r with result := .success }

def xmitFailed (r : HttpResponse) : HttpResponse := { r with result := .xmitFailed }

def shouldSendForProtocol (r : HttpResponse) (version : ProtocolVersion) : Bool :=
  match r.messageType, version with
  | .prStartNotif, .v1_0 => false
  | .prStartNotif, .v1_1 => true
  | .xmitDataAns, .v1_0 => true
  | .xmitDataAns, .v1_1 => true

@[simp] theorem success_result (r : HttpResponse) : r.success.result = .success := rfl

@[simp] theorem xmitFailed_result (r : HttpResponse) : r.xmitFailed.result = .xmitFailed := rfl

@[simp] theorem success_success (r : HttpResponse) : r.success.success = r.success := rfl

end HttpResponse

structure PacketDown where
  downlink : PacketRouterPacketDownV1
  gatewayB58 : GatewayB58
  httpResponse : HttpResponse
deriving DecidableEq, Repr

/-- The messages of the service's queue. -/
inductive Msg where
  /-- Incoming packet from a gateway. -/
  | uplinkReceive (packet : PacketUp)
  /-- Deduplication timer has elapsed. -/
  | uplinkSend (hash : PacketHash)
  /-- Cleanup timer has elapsed. -/
  | uplinkCleanup (hash : PacketHash)
  /-- Downlink received for gateway from HTTP handler. -/
  | downlink (packet : PacketDown)
  /-- Gateway has connected. -/
  | gatewayConnect (gw : GatewayB58) (tx : GatewayTx)
  /-- Gateway has disconnected. -/
  | gatewayDisconnect (gw : GatewayB58)

end PacketRouter.HttpRoaming
