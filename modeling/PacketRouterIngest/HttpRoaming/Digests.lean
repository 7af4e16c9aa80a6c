import PacketRouterIngest.HttpRoaming.Deduplicator
import PacketRouterIngest.Semantics.Runs
import PacketRouterIngest.Text.Utf8Segments

/-! Which packets the deduplicator takes for copies of each other. The key is
the digest of the payload, decoded lossily: digests with the same text share
one key, and their packets share one bucket. -/
namespace PacketRouter

/-- The key of a digest. -/
def PacketHash.ofDigest (digest : List.Vector UInt8 32) : PacketHash :=
  ⟨Utf8.fromUtf8Lossy digest.toList⟩

/-- Two digests have the same well-formed sequences in the same places. -/
def SameText (first second : List.Vector UInt8 32) : Prop :=
  Utf8.SameText first.toList second.toList

instance (first second : List.Vector UInt8 32) : Decidable (SameText first second) :=
  inferInstanceAs (Decidable (Utf8.SameText _ _))

theorem PacketHash.ofDigest_eq_iff {first second : List.Vector UInt8 32} :
    ofDigest first = ofDigest second ↔ SameText first second := by
  rw [ofDigest, ofDigest, PacketHash.mk.injEq]
  exact Utf8.fromUtf8Lossy_eq_iff _ _

def PacketUp.digest (c : Crates) (p : PacketUp) : List.Vector UInt8 32 := c.sha256 p.packet.payload

/-- Packets get one key if their digests have one text. -/
theorem PacketUp.hash_eq_iff {c : Crates} {p q : PacketUp} :
    p.hash c = q.hash c ↔ SameText (p.digest c) (q.digest c) :=
  PacketHash.ofDigest_eq_iff

namespace HttpRoaming.Deduplicator

/-- The calls that change a deduplicator. -/
inductive Call where
  | handlePacket (packet : PacketUp)
  | removePackets (hash : PacketHash)

variable (c : Crates)

def call (d : Deduplicator) : Call → Deduplicator
  | .handlePacket packet => (d.handlePacket c packet).1
  | .removePackets hash => d.removePackets hash

/-- A deduplicator after a sequence of calls. -/
def after (calls : List Call) : Deduplicator := calls.foldl (call c) new

def bucket (d : Deduplicator) (hash : PacketHash) : List PacketUp := (d.getPackets hash).getD []

/-- The packets of each bucket have one digest. -/
def Uniform (d : Deduplicator) : Prop :=
  ∀ hash, ∀ first ∈ d.bucket hash, ∀ second ∈ d.bucket hash, first.digest c = second.digest c

/-- A stored packet absorbs another if that one, handled next, falls into its
bucket and is announced as a copy. -/
def Absorbs (d : Deduplicator) (stored packet : PacketUp) : Prop :=
  stored ∈ d.bucket (packet.hash c) ∧ (d.handlePacket c packet).2 = .existing

/-- The keys kept different payloads apart in every call of a sequence: every
bucket was uniform all the time, and no packet was absorbed by one with another
digest. -/
structure Separated (calls : List Call) : Prop where
  uniform : ∀ before rest, calls = before ++ rest → Uniform c (after c before)
  absorbs : ∀ before packet rest stored, calls = before ++ .handlePacket packet :: rest →
    Absorbs c (after c before) stored packet → stored.digest c = packet.digest c

/-- No two packets that are handled without a removal between them have
different digests with the same text. -/
def DistinctTexts (calls : List Call) : Prop :=
  ∀ before first between second rest,
    calls = before ++ .handlePacket first :: (between ++ .handlePacket second :: rest) →
    .removePackets (first.hash c) ∉ between → SameText (first.digest c) (second.digest c) →
    first.digest c = second.digest c

variable {c} {d : Deduplicator} {stored packet : PacketUp} {hash : PacketHash} {calls : List Call}

theorem after_snoc (calls : List Call) (last : Call) :
    after c (calls ++ [last]) = call c (after c calls) last := by
  simp [after]

theorem mem_bucket_handlePacket :
    stored ∈ (d.handlePacket c packet).1.bucket hash ↔
      stored ∈ d.bucket hash ∨ (stored = packet ∧ packet.hash c = hash) := by
  rw [bucket, getPackets_handlePacket, bucket]
  split_ifs with hHash
  · simp [hHash]
  · simp [Ne.symm hHash]

theorem mem_bucket_removePackets {removed : PacketHash} :
    stored ∈ (d.removePackets removed).bucket hash ↔ stored ∈ d.bucket hash ∧ hash ≠ removed := by
  rw [bucket, getPackets_removePackets, bucket]
  split_ifs with hHash
  · simp [hHash]
  · simp [hHash]

/-- What a bucket holds was handled under its key, and the key was not removed
since. -/
theorem mem_bucket_after :
    stored ∈ (after c calls).bucket hash ↔
      ∃ before rest, calls = before ++ .handlePacket stored :: rest ∧ stored.hash c = hash ∧
        .removePackets hash ∉ rest := by
  induction calls using List.reverseRecOn with
  | nil => simp [after, bucket]
  | append_singleton calls last ih =>
      simp only [Semantics.snoc_eq_append_cons]
      rw [after_snoc]
      cases last with
      | handlePacket packet =>
          rw [call, mem_bucket_handlePacket, ih]
          constructor
          · rintro (⟨before, rest, rfl, hHash, hRest⟩ | ⟨rfl, hHash⟩)
            · exact ⟨before, rest ++ [.handlePacket packet], .inr ⟨rest, rfl, rfl⟩, hHash,
                by simpa using hRest⟩
            · exact ⟨calls, [], .inl ⟨rfl, rfl, rfl⟩, hHash, by simp⟩
          · rintro ⟨before, rest, ⟨rfl, rfl, hLast⟩ | ⟨final, rfl, rfl⟩, hHash, hRest⟩
            · obtain rfl : stored = packet := by simpa using hLast
              exact .inr ⟨rfl, hHash⟩
            · exact .inl ⟨before, final, rfl, hHash, by simpa using hRest⟩
      | removePackets removed =>
          rw [call, mem_bucket_removePackets, ih]
          constructor
          · rintro ⟨⟨before, rest, rfl, hHash, hRest⟩, hRemoved⟩
            exact ⟨before, rest ++ [.removePackets removed], .inr ⟨rest, rfl, rfl⟩, hHash,
              by simp [hRest, hRemoved]⟩
          · rintro ⟨before, rest, ⟨rfl, rfl, hLast⟩ | ⟨final, rfl, rfl⟩, hHash, hRest⟩
            · cases hLast
            · have hBoth : .removePackets hash ∉ final ∧ hash ≠ removed := by simpa using hRest
              exact ⟨⟨before, final, rfl, hHash, hBoth.1⟩, hBoth.2⟩

/-- A packet is absorbed by whatever is stored under its key. -/
theorem absorbs_iff : Absorbs c d stored packet ↔ stored ∈ d.bucket (packet.hash c) := by
  refine ⟨And.left, fun hStored => ⟨hStored, ?_⟩⟩
  cases hBucket : d.getPackets (packet.hash c) with
  | none => simp [bucket, hBucket] at hStored
  | some copies => rw [handlePacket_of_some c hBucket]

/-- In a sequence with distinct texts the bucket that a packet falls into has
only packets of its own digest. -/
theorem DistinctTexts.digest_eq (h : DistinctTexts c calls) {before rest : List Call}
    (hCalls : calls = before ++ .handlePacket packet :: rest)
    (hStored : stored ∈ (after c before).bucket (packet.hash c)) :
    stored.digest c = packet.digest c := by
  obtain ⟨early, between, rfl, hHash, hBetween⟩ := mem_bucket_after.mp hStored
  rw [← hHash] at hBetween
  exact h early stored between packet rest (by simp [hCalls]) hBetween
    (PacketUp.hash_eq_iff.mp hHash)

theorem DistinctTexts.of_append {before rest : List Call} (h : DistinctTexts c (before ++ rest)) :
    DistinctTexts c before := by
  rintro early first between second late rfl
  exact h early first between second (late ++ rest) (by simp)

/-- One call keeps the buckets uniform if its packet meets only its own digest. -/
theorem Uniform.call {last : Call} (h : Uniform c d)
    (hLast : ∀ packet, last = .handlePacket packet →
      ∀ stored ∈ d.bucket (packet.hash c), stored.digest c = packet.digest c) :
    Uniform c (d.call c last) := by
  intro hash first hFirst second hSecond
  cases last with
  | handlePacket packet =>
      have hOwn := hLast packet rfl
      rw [Deduplicator.call, mem_bucket_handlePacket] at hFirst hSecond
      rcases hFirst with hFirst | ⟨rfl, rfl⟩ <;> rcases hSecond with hSecond | ⟨rfl, hHash⟩
      · exact h hash first hFirst second hSecond
      · exact hOwn first (hHash ▸ hFirst)
      · exact (hOwn second hSecond).symm
      · rfl
  | removePackets removed =>
      rw [Deduplicator.call, mem_bucket_removePackets] at hFirst hSecond
      exact h hash first hFirst.1 second hSecond.1

/-- Distinct texts keep the buckets uniform all the time. -/
theorem DistinctTexts.uniform (h : DistinctTexts c calls) : Uniform c (after c calls) := by
  induction calls using List.reverseRecOn with
  | nil => simp [Uniform, after, bucket]
  | append_singleton calls last ih =>
      rw [after_snoc]
      refine (ih h.of_append).call fun packet hLast stored hStored => ?_
      subst last
      exact h.digest_eq rfl hStored

/-- The keys keep payloads apart exactly in sequences with distinct texts. -/
theorem separated_iff : Separated c calls ↔ DistinctTexts c calls := by
  constructor
  · rintro hSeparated before first between second rest hCalls hBetween hText
    refine hSeparated.absorbs (before ++ .handlePacket first :: between) second rest first
      (by simp [hCalls]) (absorbs_iff.mpr (mem_bucket_after.mpr ?_))
    have hHash : first.hash c = second.hash c := PacketUp.hash_eq_iff.mpr hText
    exact ⟨before, between, rfl, hHash, hHash ▸ hBetween⟩
  · intro hTexts
    constructor
    · rintro before rest rfl
      exact hTexts.of_append.uniform
    · intro before packet rest stored hCalls hAbsorbs
      exact hTexts.digest_eq hCalls (absorbs_iff.mp hAbsorbs)

/-- **Keys separate texts, not digests.** Two digests get different keys
exactly if they have different texts, and in a sequence of calls packets of
different digests stay apart exactly if no two with the same text are handled
without a removal of their key between them. -/
theorem keys_separate_iff (c : Crates) :
    (∀ first second : List.Vector UInt8 32,
      (first ≠ second → PacketHash.ofDigest first ≠ PacketHash.ofDigest second) ↔
        (SameText first second → first = second)) ∧
      ∀ calls, Separated c calls ↔ DistinctTexts c calls := by
  refine ⟨fun first second => ?_, fun calls => separated_iff⟩
  rw [Ne, Ne, not_imp_not, PacketHash.ofDigest_eq_iff]

/-- A digest of one byte, 32 times. -/
def repeatedDigest (byte : UInt8) : List.Vector UInt8 32 := ⟨List.replicate 32 byte, rfl⟩

/-- Crates that hash a payload by repeating its first byte. -/
def firstByteCrates : Crates :=
  { Crates.sample with sha256 := fun payload => repeatedDigest (payload.headD 0) }

/-- Bytes FE and FF never occur in UTF-8: the digests that repeat them have one
key, and the second packet is taken for a copy of the first. -/
theorem sharedKey :
    repeatedDigest 0xFF ≠ repeatedDigest 0xFE ∧
      PacketHash.ofDigest (repeatedDigest 0xFF) = .ofDigest (repeatedDigest 0xFE) ∧
      let first := PacketUp.sample [0xFF] [0]
      let second := PacketUp.sample [0xFE] [0]
      let d := after firstByteCrates [.handlePacket first]
      first.digest firstByteCrates ≠ second.digest firstByteCrates ∧
        Absorbs firstByteCrates d first second ∧
        ¬ Uniform firstByteCrates (d.call firstByteCrates (.handlePacket second)) := by
  have hDigests : repeatedDigest 0xFF ≠ repeatedDigest 0xFE := by decide
  have hKeys : PacketHash.ofDigest (repeatedDigest 0xFF) = .ofDigest (repeatedDigest 0xFE) :=
    PacketHash.ofDigest_eq_iff.mpr (by decide)
  have hStored : PacketUp.sample [0xFF] [0] ∈ (after firstByteCrates
      [.handlePacket (PacketUp.sample [0xFF] [0])]).bucket
        ((PacketUp.sample [0xFE] [0]).hash firstByteCrates) :=
    mem_bucket_after.mpr ⟨[], [], rfl, hKeys, by simp⟩
  refine ⟨hDigests, hKeys, hDigests, absorbs_iff.mpr hStored, fun hUniform => hDigests ?_⟩
  exact hUniform _ _ (mem_bucket_handlePacket.mpr (.inl hStored)) _
    (mem_bucket_handlePacket.mpr (.inr ⟨rfl, rfl⟩))

end HttpRoaming.Deduplicator

end PacketRouter
