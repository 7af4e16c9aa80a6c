import PacketRouterIngest.Serde.Syntax
import PacketRouterIngest.Text.JsonWriter
import PacketRouterIngest.Uplink.Gateway

/-! The token that travels with an uplink to the network server and comes back
with a downlink: hexadecimal text of a JSON object. -/
namespace PacketRouter.HttpRoaming

open Rust Serde Serde.Syntax

inductive PacketType where
  | join
  | data
deriving DecidableEq, Repr

def PacketType.name : PacketType → String
  | .join => "Join"
  | .data => "Data"

def PacketType.ofName (name : String) : Option PacketType :=
  if name = "Join" then some .join else if name = "Data" then some .data else none

structure Token where
  timestamp : UInt64
  gateway : GatewayB58
  region : Region
  packetType : PacketType
deriving DecidableEq, Repr

namespace Token

def fields : List (FieldReader Json.Syntax) :=
  [("timestamp", check readU64), ("gateway", check readString),
    ("region", check (readUnitVariant Region.ofName)),
    ("packet_type", check (readUnitVariant PacketType.ofName))]

/-- The derived `Deserialize`. -/
def deserialize : Json.Syntax → Outcome Error Token
  | .object members => do
      let members ← readNames members
      visitMembers fields [] members
      return {
        timestamp := ← field readU64 "timestamp" members
        gateway := ⟨← field readString "gateway" members⟩
        region := ← field (readUnitVariant Region.ofName) "region" members
        packetType := ← field (readUnitVariant PacketType.ofName) "packet_type" members }
  | .array elements => do
      let (timestamp, rest) ← element readU64 elements
      let (gateway, rest) ← element readString rest
      let (region, rest) ← element (readUnitVariant Region.ofName) rest
      let (packetType, rest) ← element (readUnitVariant PacketType.ofName) rest
      endOfSequence rest
      return { timestamp, gateway := ⟨gateway⟩, region, packetType }
  | _ => .err ⟨"expected struct Token"⟩

/-- `serde_json::from_slice`. -/
def fromSlice (bytes : List UInt8) : Outcome Error Token :=
  match Json.parse bytes with
  | some value => deserialize value
  | none => .err ⟨"invalid JSON"⟩

/-- `serde_json::to_string`, as bytes. -/
def toJson (token : Token) : List UInt8 :=
  Json.writeObject
    [("timestamp", .unsigned token.timestamp), ("gateway", .string token.gateway.text),
      ("region", .string token.region.name), ("packet_type", .string token.packetType.name)]

/-- `impl FromHex for Token`: both steps are unwrapped, so text that is not
the hexadecimal form of a token panics and no error is ever returned. -/
def fromHex (hex : String) : Outcome Error Token := do
  let s ← expect "called `Result::unwrap()` on an `Err` value" (Hex.decode hex)
  match fromSlice s with
  | .ok token => .ok token
  | .err _ => .panic ⟨"called `Result::unwrap()` on an `Err` value"⟩
  | .panic reason => .panic reason

end Token

def makeJoinToken (gateway : GatewayB58) (timestamp : UInt64) (region : Region) : String :=
  let token : Token := { gateway, timestamp, region, packetType := .join }
  Hex.encode token.toJson

def makeDataToken (gateway : GatewayB58) (timestamp : UInt64) (region : Region) : String :=
  let token : Token := { gateway, timestamp, region, packetType := .data }
  Hex.encode token.toJson

@[simp] theorem PacketType.ofName_name (packetType : PacketType) :
    PacketType.ofName packetType.name = some packetType := by
  cases packetType <;> decide

/-- A serialized token is deserialized to itself, whatever characters the
gateway's text contains. -/
theorem Token.fromSlice_toJson (token : Token) : fromSlice token.toJson = .ok token := by
  obtain ⟨timestamp, ⟨gateway⟩, region, packetType⟩ := token
  simp [fromSlice, toJson, Json.parse_writeObject, Json.memberSyntax, Json.Scalar.toSyntax,
    deserialize, readNames, visitMembers, fields, check, field, readU64, readString,
    readUnitVariant, List.lookup_cons]

/-- Text that decodes as a token. -/
def Token.Decodes (hex : String) (token : Token) : Prop :=
  ∃ bytes, Hex.decode hex = some bytes ∧ fromSlice bytes = .ok token

/-- The decoder returns the token of a text that has one. -/
theorem Token.fromHex_eq_ok {hex : String} {token : Token} :
    fromHex hex = .ok token ↔ Decodes hex token := by
  cases hDecode : Hex.decode hex with
  | none => simp [fromHex, hDecode, Decodes]
  | some bytes =>
      cases hSlice : fromSlice bytes <;> simp [fromHex, hDecode, hSlice, Decodes]

/-- It panics on every other text. -/
theorem Token.fromHex_panicked {hex : String} :
    (fromHex hex).Panicked ↔ ¬ ∃ token, Decodes hex token := by
  cases hDecode : Hex.decode hex with
  | none => simp [fromHex, hDecode, Decodes]
  | some bytes =>
      cases hSlice : fromSlice bytes <;> simp [fromHex, hDecode, hSlice, Decodes]

/-- A token made from an uplink is read back with every field. -/
theorem Token.fromHex_encode (token : Token) : fromHex (Hex.encode token.toJson) = .ok token :=
  fromHex_eq_ok.mpr ⟨token.toJson, Hex.decode_encode _, fromSlice_toJson token⟩

theorem Token.decodes_makeJoinToken (gateway : GatewayB58) (timestamp : UInt64)
    (region : Region) :
    Decodes (makeJoinToken gateway timestamp region) ⟨timestamp, gateway, region, .join⟩ :=
  fromHex_eq_ok.mp (fromHex_encode _)

end PacketRouter.HttpRoaming
