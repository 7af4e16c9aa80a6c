import PacketRouterIngest.Uplink.Packet

/-! Packets as the UDP side knows them, and their conversion from and to the
packets of the gRPC streams. -/
namespace PacketRouter.Gwmp

open Rust

/-- `semtech_udp::MacAddress`. -/
structure MacAddress where
  bytes : List UInt8
deriving DecidableEq, Repr

/-- `semtech_udp::DataRate`: a LoRa rate. -/
structure SemtechDataRate where
  spreadingFactor : Nat
  bandwidth : Nat
deriving DecidableEq, Repr

/-- Text conversions of third-party crates. -/
structure UdpCrates where
  /-- `FromStr` of `semtech_udp::MacAddress` -/
  macFromStr : String → Except String MacAddress
  /-- `FromStr` of `semtech_udp::DataRate` -/
  semtechFromStr : String → Except String SemtechDataRate
  /-- `Display` of `semtech_udp::DataRate` -/
  semtechToString : SemtechDataRate → String
  /-- `FromStr` of `helium_proto::DataRate` -/
  datarateFromStr : String → Except String DataRate
  /-- `Display` of `helium_proto::DataRate` -/
  datarateToString : DataRate → String

/-- When a downlink is to be sent. -/
structure TxTime where
  immediate : Bool
  tmst : Option UInt32

/-- `semtech_udp::pull_resp::TxPk`, as far as it is read. -/
structure TxPk where
  datr : SemtechDataRate
  data : List UInt8
  time : TxTime
  freq : Float

structure DownlinkRequest where
  txpk : TxPk

/-- `semtech_udp::push_data::RxPkV1`, without the fields that are constant. -/
structure RxPkV1 where
  size : Nat
  data : List UInt8
  datr : SemtechDataRate
  freq : Float
  lsnr : Float32
  rssi : Int32
  tmst : UInt32

/-- `semtech_udp::push_data::Packet`. -/
structure PushData where
  gatewayMac : MacAddress
  rxpk : List RxPkV1

variable (u : UdpCrates)

/-- `impl From<GatewayMac> for MacAddress`. -/
def MacAddress.from (value : GatewayMac) : Panics MacAddress :=
  expectOk "mac address from GatewayMac" (u.macFromStr value.text)

def toPacketDown (value : TxPk) : Panics PacketRouterPacketDownV1 := do
  let datarate ← expectOk "valid downlink datarate" (u.datarateFromStr (u.semtechToString value.datr))
  return {
    payload := value.data
    rx1 := some {
      timestamp :=
        if value.time.immediate then 0
        else
          match value.time.tmst with
          | some tmst => tmst.toUInt64
          | none => 0
      frequency := (value.freq * 1000000.0).toUInt32
      datarate
      immediate := value.time.immediate }
    rx2 := none }

/-- `impl From<PacketUp> for push_data::Packet`. -/
def PushData.from (c : Crates) (value : PacketUp) : Panics PushData := do
  let gatewayMac ← MacAddress.from u (← value.gatewayMac c)
  let freq := value.frequencyMhz
  let packet := value.packet
  let datr ← expectOk "something" (u.semtechFromStr (u.datarateToString packet.datarate))
  return {
    gatewayMac
    rxpk := [{
      size := packet.payload.length
      data := packet.payload
      datr, freq
      lsnr := packet.snr
      rssi := packet.rssi
      tmst := packet.timestamp.toUInt32 }] }

/-- What the crates compute for the gateway whose only byte is zero and for one
data rate. -/
def UdpCrates.sample : UdpCrates where
  macFromStr text :=
    if text = "ef46db3751d8e999" then .ok ⟨[239, 70, 219, 55, 81, 216, 233, 153]⟩
    else .error "not a sample"
  semtechFromStr text :=
    if text = "SF10BW125" then .ok ⟨10, 125⟩ else .error "not a sample"
  semtechToString _ := "SF10BW125"
  datarateFromStr text :=
    if text = "SF10BW125" then .ok .sf10bw125 else .error "not a sample"
  datarateToString _ := "SF10BW125"

/-- The same for the gateway `[0, 0]`. -/
def UdpCrates.sampleGateways : UdpCrates :=
  { UdpCrates.sample with
    macFromStr := fun text =>
      if text = "e934a84adb052768" then .ok ⟨[233, 52, 168, 74, 219, 5, 39, 104]⟩
      else .error "not a sample" }

end PacketRouter.Gwmp
