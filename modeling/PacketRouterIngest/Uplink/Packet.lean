import PacketRouterIngest.Uplink.Gateway
import PacketRouterIngest.Text.Utf8Lossy

/-! Uplink packets as they leave the gRPC stream, and what is read from them. -/
namespace PacketRouter

open Rust

/-- `helium_proto`'s uplink message. `datarate` and `region` hold what the
generated getters return for the numbers on the wire. -/
structure PacketRouterPacketUpV1 where
  payload : List UInt8
  timestamp : UInt64
  rssi : Int32
  frequency : UInt32
  datarate : DataRate
  snr : Float32
  region : Region
  gateway : List UInt8

/-- A packet with the time in milliseconds at which it was received. -/
structure PacketUp where
  packet : PacketRouterPacketUpV1
  recvTime : UInt64

inductive RoutingInfo where
  | eui (app dev : Eui)
  | devAddr (devaddr : DevAddr)
  | unknown
deriving DecidableEq, Repr

namespace PacketUp

variable (c : Crates) (p : PacketUp)

def gatewayB58 : GatewayB58 := GatewayB58.fromBytes c p.packet.gateway

def gatewayMac : Panics GatewayMac := GatewayMac.fromBytes c p.packet.gateway

/-- Deduplication key: the SHA-256 digest of the payload, decoded lossily. -/
def hash : PacketHash := ⟨Utf8.fromUtf8Lossy (c.sha256 p.packet.payload).toList⟩

def routingInfo : Panics RoutingInfo := do
  match ← expectOk "valid packet" (c.parse p.packet.payload) with
  | .joinAccept => return .unknown
  | .joinRequest appEui devEui => return .eui (← Eui.from c appEui) (← Eui.from c devEui)
  | .data (.encrypted devaddr) => return .devAddr (DevAddr.from c devaddr)
  | .data (.decrypted _) => return .unknown

def region : Region := p.packet.region

def rssi : Int32 := p.packet.rssi

def snr : Float32 := p.packet.snr

def jsonPayload : String := Hex.encode p.packet.payload

def datarateIndex : Panics DR :=
  expect "valid uplink datarate index" (uplinkDatarate p.region p.packet.datarate)

end PacketUp

/-- Truncate to whole kilohertz, then divide once in double precision. -/
def hzToMhz (hz : UInt32) : Float := (hz / 1000).toFloat / 1000.0

namespace PacketUp

variable (c : Crates) (p : PacketUp)

def frequencyMhz : Float := hzToMhz p.packet.frequency

/-- The time the network server received the packet. -/
def recvTimeText : Panics String :=
  expect "valid timestamp" (c.rfc3339FromMillis p.recvTime.toInt64)

def timestamp : UInt64 := p.packet.timestamp

/-- The frame is a join request or an encrypted data frame. -/
def Routable : Prop :=
  (∃ app dev, c.parse p.packet.payload = .ok (.joinRequest app dev)) ∨
    ∃ devaddr, c.parse p.packet.payload = .ok (.data (.encrypted devaddr))

/-- The fields that describe the frame in a request have a value. -/
def Describable : Prop :=
  (uplinkDatarate p.region p.packet.datarate).isSome ∧
    (c.rfc3339FromMillis p.recvTime.toInt64).isSome

/-- Reading the routing information panics exactly on a frame that does not
parse; of the frames that parse, the routable ones give an identity. -/
theorem routingInfo_cases :
    (∃ e, c.parse p.packet.payload = .error e ∧
      p.routingInfo c = .error ⟨"valid packet"⟩) ∨
    (p.Routable c ∧ ∃ info, p.routingInfo c = .ok info ∧ info ≠ .unknown) ∨
    (¬ p.Routable c ∧ (∃ phy, c.parse p.packet.payload = .ok phy) ∧
      p.routingInfo c = .ok .unknown) := by
  cases hParse : c.parse p.packet.payload with
  | error e =>
      left
      exact ⟨e, rfl, by rw [routingInfo, hParse]; rfl⟩
  | ok phy =>
      right
      cases phy with
      | joinAccept =>
          right
          refine ⟨?_, ⟨_, rfl⟩, by rw [routingInfo, hParse]; rfl⟩
          simp [Routable, hParse]
      | joinRequest appEui devEui =>
          left
          obtain ⟨app, hApp⟩ := Eui.from_isOk c appEui
          obtain ⟨dev, hDev⟩ := Eui.from_isOk c devEui
          refine ⟨.inl ⟨appEui, devEui, hParse⟩, .eui app dev, ?_, by simp⟩
          rw [routingInfo, hParse]
          simp only [expectOk_ok, bind, Except.bind, hApp, hDev]
          rfl
      | data payload =>
          cases payload with
          | encrypted devaddr =>
              left
              exact ⟨.inr ⟨devaddr, hParse⟩, .devAddr (DevAddr.from c devaddr),
                by rw [routingInfo, hParse]; rfl, by simp⟩
          | decrypted devaddr =>
              right
              refine ⟨?_, ⟨_, rfl⟩, by rw [routingInfo, hParse]; rfl⟩
              simp [Routable, hParse]

/-- The identity of a device stands in the frame. -/
theorem frame_of_routingInfo {info : RoutingInfo} (h : p.routingInfo c = .ok info) :
    match info with
    | .eui _ dev => ∃ appEui devEui, c.parse p.packet.payload = .ok (.joinRequest appEui devEui) ∧
        Eui.from c devEui = .ok dev
    | .devAddr devaddr => ∃ addr, c.parse p.packet.payload = .ok (.data (.encrypted addr)) ∧
        devaddr = DevAddr.from c addr
    | .unknown => True := by
  cases hParse : c.parse p.packet.payload with
  | error e => simp [routingInfo, hParse, bind, Except.bind] at h
  | ok phy =>
      cases phy with
      | joinAccept =>
          rw [routingInfo, hParse] at h
          cases h
          trivial
      | joinRequest appEui devEui =>
          obtain ⟨app, hApp⟩ := Eui.from_isOk c appEui
          obtain ⟨dev, hDev⟩ := Eui.from_isOk c devEui
          simp only [routingInfo, hParse, expectOk_ok, bind, Except.bind, hApp, hDev, pure,
            Except.pure, Except.ok.injEq] at h
          subst h
          exact ⟨appEui, devEui, rfl, hDev⟩
      | data payload =>
          cases payload <;>
            · rw [routingInfo, hParse] at h
              cases h
              simp

end PacketUp

/-- `Gateway::new`: the identity of a stream, taken from its first packet. -/
def Gateway.new (c : Crates) (packet : PacketUp) (downlinkSender : GatewayTx) :
    Panics Gateway := do
  return {
    b58 := packet.gatewayB58 c
    mac := ← packet.gatewayMac c
    region := packet.region
    tx := downlinkSender }

theorem Gateway.new_eq_ok {c : Crates} {packet : PacketUp} {tx : GatewayTx} {gw : Gateway} :
    Gateway.new c packet tx = .ok gw ↔ gw.b58 = packet.gatewayB58 c ∧
      packet.gatewayMac c = .ok gw.mac ∧ gw.region = packet.region ∧ gw.tx = tx := by
  obtain ⟨b58, mac, region, own⟩ := gw
  cases hMac : packet.gatewayMac c <;>
    simp [Gateway.new, hMac, bind, Except.bind, pure, Except.pure, @eq_comm _ b58, @eq_comm _ region,
      @eq_comm _ own]

/-- The frame of a join request of device `0000000000000003`. -/
def joinFrame : List UInt8 :=
  [0, 0, 0, 0, 0, 0, 0, 0, 0, 3, 0, 0, 0, 0, 0, 0, 0, 196, 160, 173, 225, 146, 91]

/-- What the crates compute on the join request, on the empty frame and on the
gateway whose only byte is zero. -/
def Crates.sample : Crates where
  parse payload :=
    if payload = joinFrame then
      .ok (.joinRequest ⟨[0, 0, 0, 0, 0, 0, 0, 0], rfl⟩ ⟨[3, 0, 0, 0, 0, 0, 0, 0], rfl⟩)
    else .error "not a frame"
  euiToString eui := Hex.encode eui.bytes
  devAddrToString devaddr := Hex.encode devaddr.bytes
  publicKeyToString _ := "112edB6q"
  publicKeyFromStr _ := .ok [0]
  xxh64 _ _ := 0xef46db3751d8e999
  sha256 payload :=
    if payload = joinFrame then
      ⟨[10, 15, 99, 240, 66, 246, 161, 17, 235, 130, 89, 238, 239, 25, 168, 106, 140, 107, 157, 149,
        4, 48, 251, 246, 82, 160, 42, 245, 98, 201, 153, 11], rfl⟩
    else
      ⟨[227, 176, 196, 66, 152, 252, 28, 20, 154, 251, 244, 200, 153, 111, 185, 36, 39, 174, 65, 228,
        100, 155, 147, 76, 164, 149, 153, 27, 120, 82, 184, 85], rfl⟩
  rfc3339FromMillis _ := some "1970-01-01T00:00:00+00:00"

def PacketUp.sample (payload gateway : List UInt8) : PacketUp where
  packet := {
    payload, gateway
    timestamp := 100
    rssi := -35
    frequency := 904300000
    datarate := .sf10bw125
    snr := 5
    region := .us915 }
  recvTime := 0

/-- The gateway of such a packet on a stream with this channel. -/
def Gateway.sample (tx : GatewayTx) : Gateway := ⟨⟨"112edB6q"⟩, ⟨"ef46db3751d8e999"⟩, .us915, tx⟩

/-- The way through the text and the way from the bytes hash the same bytes:
they give the same MAC under any hash. -/
def GatewayMac.SameBytes (c : Crates) (value : List UInt8) : Prop :=
  ∀ xxh64 : List UInt8 → UInt64 → UInt64,
    GatewayMac.fromB58 { c with xxh64 } (GatewayB58.fromBytes c value) =
      GatewayMac.fromBytes { c with xxh64 } value

/-- If reading the text of a key gives its bytes, the two ways lead to the same
MAC exactly if the bytes and the bytes without the first collide. -/
theorem GatewayMac.fromB58_eq_fromBytes {c : Crates} {value : List UInt8} (hValue : value ≠ [])
    (hText : c.publicKeyFromStr (c.publicKeyToString value) = .ok value) :
    GatewayMac.fromB58 c (GatewayB58.fromBytes c value) = GatewayMac.fromBytes c value ↔
      c.xxh64 value 0 = c.xxh64 value.tail 0 := by
  have hBytes := (GatewayMac.fromBytes_eq_ok c).mpr ⟨hValue, rfl⟩
  rw [hBytes, GatewayMac.fromB58, GatewayB58.fromBytes, hText]
  simp [bind, Except.bind, pure, Except.pure, encode_toBeBytes_inj]

/-- **Two ways to a MAC.** On no key with bytes do they hash the same bytes;
the MACs are the same only where the hash collides. -/
theorem GatewayMac.never_sameBytes {c : Crates} {value : List UInt8} (hValue : value ≠ [])
    (hText : c.publicKeyFromStr (c.publicKeyToString value) = .ok value) :
    ¬ GatewayMac.SameBytes c value ∧
      (GatewayMac.fromB58 c (GatewayB58.fromBytes c value) = GatewayMac.fromBytes c value ↔
        c.xxh64 value 0 = c.xxh64 value.tail 0) := by
  refine ⟨fun hSame => ?_, GatewayMac.fromB58_eq_fromBytes hValue hText⟩
  -- A hash that tells the whole key from its tail.
  have hCollide := (GatewayMac.fromB58_eq_fromBytes
    (c := { c with xxh64 := fun bytes _ => if bytes = value then 1 else 0 }) hValue hText).mp (hSame _)
  have hTail : value.tail ≠ value := by
    intro hEq
    have hLength := congrArg List.length hEq
    have hPos := List.length_pos_iff.mpr hValue
    rw [List.length_tail] at hLength
    omega
  simp [hTail] at hCollide

/-- What the crates compute on the gateways `[0, 0]` and `[0, 1]`. -/
def Crates.sampleGateways : Crates :=
  { Crates.sample with
    publicKeyToString := fun key => if key = [0, 0] then "11146EAsf" else "11BwW2qR"
    publicKeyFromStr := fun text => .ok (if text = "11146EAsf" then [0, 0] else [0, 1])
    xxh64 := fun bytes _ =>
      if bytes = [0] then 0xe934a84adb052768
      else if bytes = [1] then 0x8a4127811b21e730
      else if bytes = [0, 0] then 0x9aaba41ffa2da101
      else 0x4865a00ba85b7cd6 }

/-- The gateway `[0, 0]` has one MAC by its bytes and another by its text. -/
theorem twoMacs :
    Crates.sampleGateways.publicKeyFromStr (Crates.sampleGateways.publicKeyToString [0, 0]) =
        .ok [0, 0] ∧
      GatewayMac.fromBytes Crates.sampleGateways [0, 0] = .ok ⟨"e934a84adb052768"⟩ ∧
      GatewayMac.fromB58 Crates.sampleGateways
        (GatewayB58.fromBytes Crates.sampleGateways [0, 0]) = .ok ⟨"9aaba41ffa2da101"⟩ ∧
      GatewayMac.fromB58 Crates.sampleGateways (GatewayB58.fromBytes Crates.sampleGateways [0, 0]) ≠
        GatewayMac.fromBytes Crates.sampleGateways [0, 0] :=
  ⟨rfl, rfl, rfl, by decide⟩

/-- The gateway `[0, 1]` has two as well. -/
theorem sample_never_sameBytes :
    ¬ GatewayMac.SameBytes Crates.sampleGateways [0, 1] :=
  (GatewayMac.never_sameBytes (by simp) rfl).1

end PacketRouter
