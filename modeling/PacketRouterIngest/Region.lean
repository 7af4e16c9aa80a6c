import Mathlib.Data.Option.Basic

/-! Regional parameters: the index under which an uplink's data rate is
reported to the network server, and the data rate a downlink index stands for.
The two tables are written separately, as in the source. -/
namespace PacketRouter

/-- `helium_proto::Region`. -/
inductive Region where
  | us915 | eu868 | eu433 | cn470 | cn779 | au915
  | as9231 | kr920 | in865 | as9232 | as9233 | as9234
  | as9231a | as9231b | as9231c | as9231d | as9231e | as9231f
  | cd9001a | ru864 | eu868A | eu868B | eu868C | eu868D
  | eu868E | eu868F | au915Sb1 | au915Sb2 | unknown
deriving DecidableEq, Repr

/-- `helium_proto::DataRate`. -/
inductive DataRate where
  | sf12bw125 | sf11bw125 | sf10bw125 | sf9bw125 | sf8bw125 | sf7bw125
  | sf12bw250 | sf11bw250 | sf10bw250 | sf9bw250 | sf8bw250 | sf7bw250
  | sf12bw500 | sf11bw500 | sf10bw500 | sf9bw500 | sf8bw500 | sf7bw500
  | lrfhss1bw137 | lrfhss2bw137 | lrfhss1bw336 | lrfhss2bw336 | lrfhss1bw1523 | lrfhss2bw1523
  | fsk50
deriving DecidableEq, Repr

/-- Data rate index of the regional parameters. -/
abbrev DR := UInt8

def uplinkUs915 : DataRate → Option DR
  | .sf10bw125 => some 0
  | .sf9bw125 => some 1
  | .sf8bw125 => some 2
  | .sf7bw125 => some 3
  | .sf8bw500 => some 4
  | .lrfhss1bw1523 => some 5
  | .lrfhss2bw1523 => some 6
  | _ => none

def uplinkEu868 : DataRate → Option DR
  | .sf12bw125 => some 0
  | .sf11bw125 => some 1
  | .sf10bw125 => some 2
  | .sf9bw125 => some 3
  | .sf8bw125 => some 4
  | .sf7bw125 => some 5
  | .sf7bw250 => some 6
  | .lrfhss1bw137 => some 8
  | .lrfhss2bw137 => some 9
  | .lrfhss1bw336 => some 10
  | .lrfhss2bw336 => some 11
  | .fsk50 => some 7
  | _ => none

def uplinkEu433 : DataRate → Option DR
  | .sf12bw125 => some 0
  | .sf11bw125 => some 1
  | .sf10bw125 => some 2
  | .sf9bw125 => some 3
  | .sf8bw125 => some 4
  | .sf7bw125 => some 5
  | .sf7bw250 => some 6
  | .fsk50 => some 7
  | _ => none

def uplinkCn470 : DataRate → Option DR
  | .sf12bw125 => some 0
  | .sf11bw125 => some 1
  | .sf10bw125 => some 2
  | .sf9bw125 => some 3
  | .sf8bw125 => some 4
  | .sf7bw125 => some 5
  | .sf7bw500 => some 6
  | .fsk50 => some 7
  | _ => none

def uplinkCn779 : DataRate → Option DR
  | .sf12bw125 => some 0
  | .sf11bw125 => some 1
  | .sf10bw125 => some 2
  | .sf9bw125 => some 3
  | .sf8bw125 => some 4
  | .sf7bw125 => some 5
  | .sf7bw250 => some 6
  | .fsk50 => some 7
  | _ => none

def uplinkAu915 : DataRate → Option DR
  | .sf12bw125 => some 0
  | .sf11bw125 => some 1
  | .sf10bw125 => some 2
  | .sf9bw125 => some 3
  | .sf8bw125 => some 4
  | .sf7bw125 => some 5
  | .sf8bw500 => some 6
  | .lrfhss1bw1523 => some 7
  | _ => none

def uplinkAs9231 : DataRate → Option DR
  | .sf12bw125 => some 0
  | .sf11bw125 => some 1
  | .sf10bw125 => some 2
  | .sf9bw125 => some 3
  | .sf8bw125 => some 4
  | .sf7bw125 => some 5
  | .sf7bw250 => some 6
  | .fsk50 => some 7
  | _ => none

def uplinkKr920 : DataRate → Option DR
  | .sf12bw125 => some 0
  | .sf11bw125 => some 1
  | .sf10bw125 => some 2
  | .sf9bw125 => some 3
  | .sf8bw125 => some 4
  | .sf7bw125 => some 5
  | _ => none

def uplinkIn865 : DataRate → Option DR
  | .sf12bw125 => some 0
  | .sf11bw125 => some 1
  | .sf10bw125 => some 2
  | .sf9bw125 => some 3
  | .sf8bw125 => some 4
  | .sf7bw125 => some 5
  | .fsk50 => some 7
  | _ => none

def uplinkRu864 : DataRate → Option DR
  | .sf12bw125 => some 0
  | .sf11bw125 => some 1
  | .sf10bw125 => some 2
  | .sf9bw125 => some 3
  | .sf8bw125 => some 4
  | .sf7bw125 => some 5
  | .sf7bw250 => some 6
  | .fsk50 => some 7
  | _ => none

/-- Sub-regions use the table of the region they belong to. -/
def uplinkDatarate (region : Region) (datarate : DataRate) : Option DR :=
  match region with
  | .us915 => uplinkUs915 datarate
  | .eu868A | .eu868B | .eu868C | .eu868D | .eu868E | .eu868F | .eu868 => uplinkEu868 datarate
  | .eu433 => uplinkEu433 datarate
  | .cn470 => uplinkCn470 datarate
  | .cn779 => uplinkCn779 datarate
  | .au915Sb1 | .au915Sb2 | .au915 => uplinkAu915 datarate
  | .as9232 | .as9233 | .as9234 | .as9231a | .as9231b | .as9231c | .as9231d | .as9231e
  | .as9231f | .as9231 => uplinkAs9231 datarate
  | .kr920 => uplinkKr920 datarate
  | .in865 => uplinkIn865 datarate
  | .ru864 => uplinkRu864 datarate
  | .cd9001a | .unknown => none

def downlinkEu868 (dr : DR) : Option DataRate :=
  match dr.toNat with
  | 0 => some .sf12bw125
  | 1 => some .sf11bw125
  | 2 => some .sf10bw125
  | 3 => some .sf9bw125
  | 4 => some .sf8bw125
  | 5 => some .sf7bw125
  | 6 => some .sf7bw250
  | 7 => some .fsk50
  | _ => none

def downlinkUs915 (dr : DR) : Option DataRate :=
  match dr.toNat with
  | 8 => some .sf12bw500
  | 9 => some .sf11bw500
  | 10 => some .sf10bw500
  | 11 => some .sf9bw500
  | 12 => some .sf8bw500
  | 13 => some .sf7bw500
  | _ => none

def downlinkCn779 (dr : DR) : Option DataRate :=
  match dr.toNat with
  | 0 => some .sf12bw125
  | 1 => some .sf11bw125
  | 2 => some .sf10bw125
  | 3 => some .sf9bw125
  | 4 => some .sf8bw125
  | 5 => some .sf7bw125
  | 6 => some .sf7bw500
  | 7 => some .fsk50
  | _ => none

def downlinkEu433 (dr : DR) : Option DataRate :=
  match dr.toNat with
  | 0 => some .sf12bw125
  | 1 => some .sf11bw125
  | 2 => some .sf10bw125
  | 3 => some .sf9bw125
  | 4 => some .sf8bw125
  | 5 => some .sf7bw125
  | 6 => some .sf7bw250
  | 7 => some .fsk50
  | _ => none

def downlinkAu915 (dr : DR) : Option DataRate :=
  match dr.toNat with
  | 8 => some .sf12bw500
  | 9 => some .sf11bw500
  | 10 => some .sf10bw500
  | 11 => some .sf9bw500
  | 12 => some .sf8bw500
  | 13 => some .sf7bw500
  | _ => none

def downlinkCn470 (dr : DR) : Option DataRate :=
  match dr.toNat with
  | 0 => some .sf12bw125
  | 1 => some .sf11bw125
  | 2 => some .sf10bw125
  | 3 => some .sf9bw125
  | 4 => some .sf8bw125
  | 5 => some .sf7bw125
  | 6 => some .sf7bw500
  | 7 => some .fsk50
  | _ => none

def downlinkAs9231 (dr : DR) : Option DataRate :=
  match dr.toNat with
  | 0 => some .sf12bw125
  | 1 => some .sf11bw125
  | 2 => some .sf10bw125
  | 3 => some .sf9bw125
  | 4 => some .sf8bw125
  | 5 => some .sf7bw125
  | 6 => some .sf7bw250
  | 7 => some .fsk50
  | _ => none

def downlinkKr920 (dr : DR) : Option DataRate :=
  match dr.toNat with
  | 0 => some .sf12bw125
  | 1 => some .sf11bw125
  | 2 => some .sf10bw125
  | 3 => some .sf9bw125
  | 4 => some .sf8bw125
  | 5 => some .sf7bw125
  | _ => none

def downlinkIn865 (dr : DR) : Option DataRate :=
  match dr.toNat with
  | 0 => some .sf12bw125
  | 1 => some .sf11bw125
  | 2 => some .sf10bw125
  | 3 => some .sf9bw125
  | 4 => some .sf8bw125
  | 5 => some .sf7bw125
  | 7 => some .fsk50
  | _ => none

def downlinkRu864 (dr : DR) : Option DataRate :=
  match dr.toNat with
  | 0 => some .sf12bw125
  | 1 => some .sf11bw125
  | 2 => some .sf10bw125
  | 3 => some .sf9bw125
  | 4 => some .sf8bw125
  | 5 => some .sf7bw125
  | 6 => some .sf7bw250
  | 7 => some .fsk50
  | _ => none

def downlinkDatarate (region : Region) (dr : DR) : Option DataRate :=
  match region with
  | .unknown | .cd9001a => none
  | .eu868 | .eu868A | .eu868B | .eu868C | .eu868D | .eu868E | .eu868F => downlinkEu868 dr
  | .us915 => downlinkUs915 dr
  | .cn779 => downlinkCn779 dr
  | .eu433 => downlinkEu433 dr
  | .au915 | .au915Sb1 | .au915Sb2 => downlinkAu915 dr
  | .cn470 => downlinkCn470 dr
  | .as9231 | .as9232 | .as9233 | .as9234 | .as9231a | .as9231b | .as9231c | .as9231d
  | .as9231e | .as9231f => downlinkAs9231 dr
  | .kr920 => downlinkKr920 dr
  | .in865 => downlinkIn865 dr
  | .ru864 => downlinkRu864 dr

/-- Long-range frequency hopping, which devices only send with. -/
def DataRate.isLrfhss : DataRate → Bool
  | .lrfhss1bw137 | .lrfhss2bw137 | .lrfhss1bw336 | .lrfhss2bw336 | .lrfhss1bw1523
  | .lrfhss2bw1523 => true
  | _ => false

/-- The region has indices, and the same ones for both directions. -/
def Region.OneTable (region : Region) : Prop :=
  (∃ datarate dr, uplinkDatarate region datarate = some dr) ∧
    region ∉ [us915, au915, au915Sb1, au915Sb2]

/-- Where a region has one table, the index of an uplink stands for its data
rate again, but for one row of `Cn779`. -/
theorem downlinkDatarate_of_uplink {region : Region} {datarate : DataRate} {dr : DR}
    (hTable : region.OneTable) (hLrfhss : datarate.isLrfhss = false)
    (hIndex : uplinkDatarate region datarate = some dr) :
    downlinkDatarate region dr =
      if region = .cn779 ∧ datarate = .sf7bw250 then some .sf7bw500 else some datarate := by
  cases region with
  | us915 | au915 | au915Sb1 | au915Sb2 => exact absurd hTable.2 (by decide)
  | cd9001a | unknown => cases hIndex
  | _ => cases datarate <;> cases hLrfhss <;> cases hIndex <;> rfl

/-- The variant's name, as serde writes it. -/
def Region.name : Region → String
  | .us915 => "Us915"
  | .eu868 => "Eu868"
  | .eu433 => "Eu433"
  | .cn470 => "Cn470"
  | .cn779 => "Cn779"
  | .au915 => "Au915"
  | .as9231 => "As9231"
  | .kr920 => "Kr920"
  | .in865 => "In865"
  | .as9232 => "As9232"
  | .as9233 => "As9233"
  | .as9234 => "As9234"
  | .as9231a => "As9231a"
  | .as9231b => "As9231b"
  | .as9231c => "As9231c"
  | .as9231d => "As9231d"
  | .as9231e => "As9231e"
  | .as9231f => "As9231f"
  | .cd9001a => "Cd9001a"
  | .ru864 => "Ru864"
  | .eu868A => "Eu868A"
  | .eu868B => "Eu868B"
  | .eu868C => "Eu868C"
  | .eu868D => "Eu868D"
  | .eu868E => "Eu868E"
  | .eu868F => "Eu868F"
  | .au915Sb1 => "Au915Sb1"
  | .au915Sb2 => "Au915Sb2"
  | .unknown => "Unknown"

/-- Every region, to search a name in. -/
def Region.all : List Region :=
  [.us915, .eu868, .eu433, .cn470, .cn779, .au915, .as9231, .kr920, .in865, .as9232,
    .as9233, .as9234, .as9231a, .as9231b, .as9231c, .as9231d, .as9231e, .as9231f, .cd9001a,
    .ru864, .eu868A, .eu868B, .eu868C, .eu868D, .eu868E, .eu868F, .au915Sb1, .au915Sb2,
    .unknown]

def Region.ofName (name : String) : Option Region :=
  Region.all.find? (fun region => region.name = name)

/-- A region is found again under the name it was written as. -/
@[simp] theorem Region.ofName_name (region : Region) : Region.ofName region.name = some region := by
  cases region <;> decide

/-- A region is known by its name. -/
theorem Region.name_injective {region region' : Region} (h : region.name = region'.name) :
    region = region' := by
  have hOwn := Region.ofName_name region
  rw [h, Region.ofName_name] at hOwn
  exact (Option.some.inj hOwn).symm

end PacketRouter
