import PacketRouterIngest.Serde.Derive
import PacketRouterIngest.Text.JsonReader

/-! The reading of the parts of a JSON text at the types of Rust. -/
namespace Serde.Syntax

open Rust

def readU64 : Json.Syntax → Outcome Error UInt64
  | .number (.unsigned n) => .ok n
  | _ => .err ⟨"expected u64"⟩

def readString : Json.Syntax → Outcome Error String
  | .string (some s) => .ok s
  | _ => .err ⟨"expected a string"⟩

def readUnitVariant {α : Type} (ofName : String → Option α) : Json.Syntax → Outcome Error α
  | .string (some name) =>
      match ofName name with
      | some a => .ok a
      | none => .err ⟨"unknown variant"⟩
  | .object [(some name, .null)] =>
      match ofName name with
      | some a => .ok a
      | none => .err ⟨"unknown variant"⟩
  | _ => .err ⟨"expected a variant"⟩

/-- The names of an object's members, all of which must be texts. -/
def readNames : List (Option String × Json.Syntax) → Outcome Error (List (String × Json.Syntax))
  | [] => .ok []
  | (none, _) :: _ => .err ⟨"invalid string"⟩
  | (some name, value) :: rest => do
      let rest ← readNames rest
      return (name, value) :: rest

end Serde.Syntax
