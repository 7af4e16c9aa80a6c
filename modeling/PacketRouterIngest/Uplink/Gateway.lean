import PacketRouterIngest.Rust.Outcome
import PacketRouterIngest.Text.Hex
import PacketRouterIngest.Region
import Mathlib.Data.Vector.Basic

/-! Identities of gateways, devices and packets, and the third-party functions
they are computed with. -/
namespace PacketRouter

open Rust

/-- `lorawan::parser::EUI64`: eight bytes, in the order of the frame. -/
structure LoraEui where
  bytes : List UInt8
  length_eq : bytes.length = 8
deriving DecidableEq

/-- `lorawan::parser::DevAddr`: four bytes, in the order of the frame. -/
structure LoraDevAddr where
  bytes : List UInt8
  length_eq : bytes.length = 4
deriving DecidableEq

/-- `lorawan::parser::DataPayload`, with the address that the header carries. -/
inductive DataPayload where
  | encrypted (devAddr : LoraDevAddr)
  | decrypted (devAddr : LoraDevAddr)
deriving DecidableEq

/-- `lorawan::parser::PhyPayload`, with the identifiers that are read from it. -/
inductive PhyPayload where
  | joinAccept
  | joinRequest (appEui devEui : LoraEui)
  | data (payload : DataPayload)
deriving DecidableEq

/-- Functions of third-party crates. Nothing is assumed of them here; a result
that relies on one of them says so. -/
structure Crates where
  /-- `lorawan::parser::parse` -/
  parse : List UInt8 → Except String PhyPayload
  /-- `Display` of `lorawan::parser::EUI64` -/
  euiToString : LoraEui → String
  /-- `Display` of `lorawan::parser::DevAddr` -/
  devAddrToString : LoraDevAddr → String
  /-- `Display` of `helium_crypto::PublicKeyBinary` -/
  publicKeyToString : List UInt8 → String
  /-- `FromStr` of `helium_crypto::PublicKeyBinary` -/
  publicKeyFromStr : String → Except String (List UInt8)
  /-- `xxhash_rust::xxh64::xxh64` -/
  xxh64 : List UInt8 → UInt64 → UInt64
  /-- `sha2::Sha256::digest` -/
  sha256 : List UInt8 → List.Vector UInt8 32
  /-- `NaiveDateTime::from_timestamp_millis` and, on its result taken as UTC,
  `to_rfc3339` -/
  rfc3339FromMillis : Int64 → Option String

structure PacketHash where
  text : String
deriving DecidableEq, Repr

structure Eui where
  text : String
deriving DecidableEq, Repr

structure DevAddr where
  text : String
deriving DecidableEq, Repr

structure GatewayB58 where
  text : String
deriving DecidableEq, Repr

structure GatewayMac where
  text : String
deriving DecidableEq, Repr

/-- Sending half of the downlink channel of one gRPC stream. Clones of it are
the same channel. -/
structure GatewayTx where
  channel : Nat
deriving DecidableEq, Repr

structure Gateway where
  b58 : GatewayB58
  mac : GatewayMac
  region : Region
  tx : GatewayTx
deriving DecidableEq, Repr

/-- `helium_proto`'s receive window, with the data rate behind its number. -/
structure WindowV1 where
  timestamp : UInt64
  frequency : UInt32
  datarate : DataRate
  immediate : Bool
deriving DecidableEq, Repr

structure PacketRouterPacketDownV1 where
  payload : List UInt8
  rx1 : Option WindowV1
  rx2 : Option WindowV1
deriving DecidableEq, Repr

/-- `GatewayTx::send_downlink`: nothing is enqueued once the receiver has been
dropped, and the result of the send is discarded. -/
def GatewayTx.sendDownlink (closed : GatewayTx → Bool) (tx : GatewayTx)
    (downlink : PacketRouterPacketDownV1) : List (GatewayTx × PacketRouterPacketDownV1) :=
  if closed tx then [] else [(tx, downlink)]

/-- `lorawan::parser::EUI64::new`, which rejects any other number of bytes. -/
def LoraEui.new (bytes : List UInt8) : Option LoraEui :=
  if h : bytes.length = 8 then some ⟨bytes, h⟩ else none

variable (c : Crates)

/-- `impl From<LoraEui<&[u8]>> for Eui`: the bytes are reversed before they
are displayed. -/
def Eui.from (value : LoraEui) : Panics Eui := do
  let rev ← expect "called `Option::unwrap()` on a `None` value" (LoraEui.new value.bytes.reverse)
  return ⟨c.euiToString rev⟩

/-- Reversing keeps the eight bytes, so the conversion of an identifier never
panics. -/
theorem Eui.from_isOk (value : LoraEui) : ∃ eui, Eui.from c value = .ok eui := by
  have hLength : value.bytes.reverse.length = 8 := by
    rw [List.length_reverse, value.length_eq]
  refine ⟨⟨c.euiToString ⟨value.bytes.reverse, hLength⟩⟩, ?_⟩
  rw [Eui.from, LoraEui.new, dif_pos hLength]
  rfl

/-- `impl From<LoraDevAddr<&[u8]>> for DevAddr`. -/
def DevAddr.from (value : LoraDevAddr) : DevAddr := ⟨c.devAddrToString value⟩

/-- `impl From<&Vec<u8>> for GatewayB58`. -/
def GatewayB58.fromBytes (value : List UInt8) : GatewayB58 := ⟨c.publicKeyToString value⟩

/-- Big-endian bytes of a 64-bit word. -/
def toBeBytes (word : UInt64) : List UInt8 :=
  ([56, 48, 40, 32, 24, 16, 8, 0] : List UInt64).map (fun shift => (word >>> shift).toUInt8)

theorem toNat_shifted (word : UInt64) {shift : UInt64} (h : shift.toNat < 64) :
    ((word >>> shift).toUInt8).toNat = word.toNat / 2 ^ shift.toNat % 256 := by
  rw [UInt64.toNat_toUInt8, UInt64.toNat_shiftRight, Nat.mod_eq_of_lt h, Nat.shiftRight_eq_div_pow]

/-- A number is known by its digits. -/
theorem eq_of_digits {a b : Nat} (n : Nat) (hA : a < 256 ^ n) (hB : b < 256 ^ n)
    (h : ∀ i < n, a / 256 ^ i % 256 = b / 256 ^ i % 256) : a = b := by
  induction n generalizing a b with
  | zero =>
      rw [pow_zero] at hA hB
      omega
  | succ n ih =>
      rw [pow_succ] at hA hB
      have hRest : a / 256 = b / 256 := by
        refine ih (by omega) (by omega) fun i hi => ?_
        rw [Nat.div_div_eq_div_mul, Nat.div_div_eq_div_mul, ← pow_succ']
        exact h (i + 1) (by omega)
      have hLast : a % 256 = b % 256 := by simpa using h 0 n.succ_pos
      omega

/-- A word is known by its bytes. -/
theorem toBeBytes_injective {a b : UInt64} (h : toBeBytes a = toBeBytes b) : a = b := by
  apply UInt64.toNat_inj.mp
  refine eq_of_digits 8 a.toNat_lt b.toNat_lt fun i hi => ?_
  obtain ⟨shift, hShift, hSmall, hPower⟩ :
      ∃ shift ∈ ([56, 48, 40, 32, 24, 16, 8, 0] : List UInt64), shift.toNat < 64 ∧
        2 ^ shift.toNat = 256 ^ i := by
    revert i
    decide
  rw [← hPower, ← toNat_shifted a hSmall, ← toNat_shifted b hSmall, List.map_inj_left.mp h shift hShift]

/-- The text of a MAC determines the hash that it was made of. -/
theorem encode_toBeBytes_inj {a b : UInt64} :
    Hex.encode (toBeBytes a) = Hex.encode (toBeBytes b) ↔ a = b := by
  refine ⟨fun h => toBeBytes_injective ?_, fun h => by rw [h]⟩
  have hDecode : Hex.decode (Hex.encode (toBeBytes a)) = Hex.decode (Hex.encode (toBeBytes b)) := by
    rw [h]
  simpa using hDecode

/-- `impl From<&Vec<u8>> for GatewayMac`: the first byte is left out of the
hash, and without a first byte the slice panics. -/
def GatewayMac.fromBytes (value : List UInt8) : Panics GatewayMac := do
  let data ← sliceFrom 1 value
  return ⟨Hex.encode (toBeBytes (c.xxh64 data 0))⟩

/-- `impl From<GatewayB58> for GatewayMac`. -/
def GatewayMac.fromB58 (value : GatewayB58) : Panics GatewayMac := do
  let data ← expectOk "valid b58" (c.publicKeyFromStr value.text)
  return ⟨Hex.encode (toBeBytes (c.xxh64 data 0))⟩

/-- The bytes of a gateway give a MAC exactly when there are any. -/
theorem GatewayMac.fromBytes_eq_ok {value : List UInt8} {mac : GatewayMac} :
    GatewayMac.fromBytes c value = .ok mac ↔
      value ≠ [] ∧ mac = ⟨Hex.encode (toBeBytes (c.xxh64 value.tail 0))⟩ := by
  cases value with
  | nil => simp [GatewayMac.fromBytes, sliceFrom, bind, Except.bind]
  | cons head tail =>
      simp [GatewayMac.fromBytes, sliceFrom, bind, Except.bind, pure, Except.pure, eq_comm]

theorem GatewayMac.fromBytes_eq_error {value : List UInt8} :
    (∃ reason, GatewayMac.fromBytes c value = .error reason) ↔ value = [] := by
  cases value <;>
    simp [GatewayMac.fromBytes, sliceFrom, bind, Except.bind, pure, Except.pure]

end PacketRouter
