import PacketRouterIngest.HttpRoaming.Messages

/-! Groups of copies of one packet, under the hash of its payload. -/
namespace PacketRouter.HttpRoaming

open Rust

structure Deduplicator where
  packets : HashMap PacketHash (List PacketUp)

inductive HandlePacket where
  | new (hash : PacketHash)
  | existing
deriving DecidableEq, Repr

namespace Deduplicator

def new : Deduplicator := ⟨∅⟩

variable (c : Crates)

/-- A packet joins the bucket of its hash, or opens it. -/
def handlePacket (d : Deduplicator) (packet : PacketUp) : Deduplicator × HandlePacket :=
  let hash := packet.hash c
  match d.packets.lookup hash with
  | some bucket => (⟨d.packets.insert hash (bucket ++ [packet])⟩, .existing)
  | none => (⟨d.packets.insert hash [packet]⟩, .new hash)

def getPackets (d : Deduplicator) (hash : PacketHash) : Option (List PacketUp) :=
  d.packets.lookup hash

def removePackets (d : Deduplicator) (hash : PacketHash) : Deduplicator :=
  ⟨d.packets.erase hash⟩

/-- How many packet hashes are stored. -/
def currentPacketCount (d : Deduplicator) : Nat := d.packets.entries.length

/-- How many packets are stored, copies included. -/
def totalCurrentPacketCount (d : Deduplicator) : Nat :=
  (d.packets.entries.map (fun entry => entry.2.length)).sum

@[simp] theorem getPackets_new (hash : PacketHash) : new.getPackets hash = none := rfl

variable {d : Deduplicator} {packet : PacketUp} {hash : PacketHash}

/-- A packet whose hash has no bucket opens one and is announced. -/
theorem handlePacket_of_none (h : d.getPackets (packet.hash c) = none) :
    d.handlePacket c packet =
      (⟨d.packets.insert (packet.hash c) [packet]⟩, .new (packet.hash c)) := by
  rw [getPackets] at h
  simp only [handlePacket, h]

/-- A packet whose hash has a bucket becomes its last copy. -/
theorem handlePacket_of_some {bucket : List PacketUp}
    (h : d.getPackets (packet.hash c) = some bucket) :
    d.handlePacket c packet =
      (⟨d.packets.insert (packet.hash c) (bucket ++ [packet])⟩, .existing) := by
  rw [getPackets] at h
  simp only [handlePacket, h]

/-- A packet changes only the bucket of its own hash, by one copy at its end. -/
theorem getPackets_handlePacket :
    (d.handlePacket c packet).1.getPackets hash =
      if hash = packet.hash c then some ((d.getPackets hash).getD [] ++ [packet])
      else d.getPackets hash := by
  cases hBucket : d.getPackets (packet.hash c) with
  | none =>
      rw [handlePacket_of_none c hBucket]
      split_ifs with hHash
      · rw [hHash, hBucket]
        exact AList.lookup_insert _
      · exact AList.lookup_insert_ne hHash
  | some bucket =>
      rw [handlePacket_of_some c hBucket]
      split_ifs with hHash
      · rw [hHash, hBucket]
        exact AList.lookup_insert _
      · exact AList.lookup_insert_ne hHash

/-- Removal empties one hash and leaves the others as they are. -/
theorem getPackets_removePackets (removed : PacketHash) :
    (d.removePackets removed).getPackets hash =
      if hash = removed then none else d.getPackets hash := by
  split_ifs with hHash
  · subst hash
    exact AList.lookup_erase _ _
  · exact AList.lookup_erase_ne hHash

end Deduplicator

end PacketRouter.HttpRoaming
