import PacketRouterIngest.HttpRoaming.Lifecycle
import PacketRouterIngest.Semantics.Ledger

/-! The generations of a hash. A generation begins with the packet that starts
a timer and ends with the cleanup; what the deduplicator stores and what is
requested of the network server is read off the history of the loop. -/
namespace PacketRouter.HttpRoaming

open Rust Semantics

/-- Generations of copies, offered for sending with some action. -/
abbrev Copies := Generation PacketHash PacketUp UpdateAction

/-- All copies of a generation, late ones included. -/
def packetsOf (g : Copies) : List PacketUp := g.items.map Prod.snd

/-- What one handled message is in the history of its hash. -/
def entryOf (c : Crates) (msg : Msg) (action : UpdateAction) :
    Option (Entry PacketHash PacketUp UpdateAction) :=
  match msg with
  | .uplinkReceive packet =>
      match action with
      | .startTimerForNewPacket hash => some (.opens hash packet)
      | _ => some (.joins (packet.hash c) packet)
  | .uplinkSend hash => some (.offers hash action)
  | .uplinkCleanup hash => some (.closes hash)
  | _ => none

/-- A received packet opens a generation if its hash has no bucket, and joins
one otherwise. -/
theorem entryOf_uplinkReceive {c : Crates} {app app' : App} {packet : PacketUp}
    {action : UpdateAction}
    (h : handleMessage c app (.uplinkReceive packet) = .ok (app', action)) :
    (app.deduplicator.getPackets (packet.hash c) = none ∧
      action = .startTimerForNewPacket (packet.hash c) ∧
      entryOf c (.uplinkReceive packet) action = some (.opens (packet.hash c) packet)) ∨
    (∃ bucket, app.deduplicator.getPackets (packet.hash c) = some bucket ∧ action = .noop ∧
      entryOf c (.uplinkReceive packet) action = some (.joins (packet.hash c) packet)) := by
  rw [handleMessage_uplinkReceive] at h
  cases hBucket : app.deduplicator.getPackets (packet.hash c) with
  | none =>
      rw [if_pos hBucket] at h
      cases h
      exact .inl ⟨rfl, rfl, rfl⟩
  | some bucket =>
      rw [if_neg (by rw [hBucket]; exact Option.some_ne_none bucket)] at h
      cases h
      exact .inr ⟨bucket, rfl, rfl, rfl⟩

section

variable {c : Crates} {msg : Msg} {action : UpdateAction} {hash : PacketHash} {packet : PacketUp}

/-- A generation is opened by a received packet that starts a timer. -/
theorem entryOf_eq_opens (h : entryOf c msg action = some (.opens hash packet)) :
    msg = .uplinkReceive packet ∧ action = .startTimerForNewPacket hash := by
  cases msg with
  | uplinkReceive received =>
      cases action <;> cases h
      exact ⟨rfl, rfl⟩
  | uplinkSend | uplinkCleanup | downlink | gatewayConnect | gatewayDisconnect => cases h

/-- It is joined by any other received packet. -/
theorem entryOf_eq_joins (h : entryOf c msg action = some (.joins hash packet)) :
    msg = .uplinkReceive packet ∧ hash = packet.hash c := by
  cases msg with
  | uplinkReceive received => cases action <;> cases h <;> exact ⟨rfl, rfl⟩
  | uplinkSend | uplinkCleanup | downlink | gatewayConnect | gatewayDisconnect => cases h

theorem entryOf_eq_closes (h : entryOf c msg action = some (.closes hash)) :
    msg = .uplinkCleanup hash := by
  cases msg with
  | uplinkReceive received => cases action <;> cases h
  | uplinkCleanup removed =>
      cases h
      rfl
  | uplinkSend | downlink | gatewayConnect | gatewayDisconnect => cases h

/-- Only the elapsed deduplication timer offers a generation. -/
theorem entryOf_eq_offers {offer : UpdateAction} (h : entryOf c msg action = some (.offers hash offer)) :
    msg = .uplinkSend hash ∧ action = offer := by
  cases msg with
  | uplinkReceive packet => cases action <;> cases h
  | uplinkSend sent =>
      cases h
      exact ⟨rfl, rfl⟩
  | uplinkCleanup | downlink | gatewayConnect | gatewayDisconnect => cases h

end

/-- The entry of a copy: the MAC of its gateway, its region, and how well it was
received. -/
structure EntryOf (c : Crates) (packet : PacketUp) (info : GWInfo) : Prop where
  id : GatewayMac.fromBytes c packet.packet.gateway = .ok info.id
  region : info.region = packet.packet.region
  rssi : info.rssi = packet.packet.rssi
  snr : info.snr = packet.packet.snr
  dlAllowed : info.dlAllowed = true

/-- The request describes its frame by this copy, and its token brings answers
back to the gateway of this copy. -/
structure DescribedBy (c : Crates) (first : PacketUp) (request : PRStartReq) : Prop where
  phyPayload : request.phyPayload = Hex.encode first.packet.payload
  dataRate : uplinkDatarate first.packet.region first.packet.datarate =
    some request.ulMetaData.dataRate
  ulFreq : request.ulMetaData.ulFreq = hzToMhz first.packet.frequency
  recvTime : c.rfc3339FromMillis first.recvTime.toInt64 = some request.ulMetaData.recvTime
  rfRegion : request.ulMetaData.rfRegion = first.packet.region
  device : (∃ app dev eui, c.parse first.packet.payload = .ok (.joinRequest app dev) ∧
      Eui.from c dev = .ok eui ∧
      request.ulMetaData.devaddr = none ∧ request.ulMetaData.devEui = some eui ∧
      request.ulMetaData.fnsUlToken = makeJoinToken (GatewayB58.fromBytes c first.packet.gateway)
        first.packet.timestamp first.packet.region) ∨
    ∃ addr, c.parse first.packet.payload = .ok (.data (.encrypted addr)) ∧
      request.ulMetaData.devaddr = some (DevAddr.from c addr) ∧ request.ulMetaData.devEui = none ∧
      request.ulMetaData.fnsUlToken = makeDataToken (GatewayB58.fromBytes c first.packet.gateway)
        first.packet.timestamp first.packet.region

/-- The request was made of these copies: one entry for each in their order,
described by the first. -/
structure MadeOf (c : Crates) (copies : List PacketUp) (request : PRStartReq) : Prop where
  entries : List.Forall₂ (EntryOf c) copies request.ulMetaData.gwInfo
  count : request.ulMetaData.gwCnt = copies.length
  opener : ∃ first rest, copies = first :: rest ∧ DescribedBy c first request

theorem entryOf_gwInfo {c : Crates} {packet : PacketUp} {info : GWInfo}
    (h : gwInfo c packet = .ok info) : EntryOf c packet info := by
  obtain ⟨id, hId, rfl⟩ := gwInfo_eq_ok.mp h
  exact ⟨hId, rfl, rfl, rfl, rfl⟩

/-- Every request is made of the copies it was asked for. -/
theorem madeOf_makePrStartReq {c : Crates} {copies : List PacketUp} {config : RoamingSettings}
    {request : PRStartReq} (h : makePrStartReq c copies config = .ok request) :
    MadeOf c copies request := by
  cases copies with
  | nil =>
      have hPanic : (makePrStartReq c [] config).Panicked := makePrStartReq_panicked.mpr (by simp)
      simp [h] at hPanic
  | cons first rest =>
      obtain ⟨devaddr, devEui, token, entries, dataRate, recvTime, hRouting, hEntries, hRate, hTime,
        rfl⟩ := makePrStartReq_eq_ok.mp h
      have hAll := mapM_eq_ok.mp hEntries
      refine ⟨hAll.imp fun _ _ => entryOf_gwInfo, hAll.length_eq.symm, first, rest, rfl, rfl,
        expect_eq_ok.mp hRate, rfl, expect_eq_ok.mp hTime, rfl, ?_⟩
      obtain ⟨app, dev, eui, hParse, hEui, rfl, rfl, rfl⟩ | ⟨addr, hParse, rfl, rfl, rfl⟩ :=
        routing_eq_ok hRouting
      · exact .inl ⟨app, dev, eui, hParse, hEui, rfl, rfl, rfl⟩
      · exact .inr ⟨addr, hParse, rfl, rfl, rfl⟩

theorem packetsOf_join {log : List (Option (Entry PacketHash PacketUp UpdateAction))} {g : Copies}
    (h : g.Recorded log) (time : Nat) (packet : PacketUp) :
    packetsOf (g.join time packet) = packetsOf g ++ [packet] := by
  rw [packetsOf, Generation.items_join h, List.map_append]
  rfl

namespace Service

def entries (c : Crates) (s : Service) : List (Option (Entry PacketHash PacketUp UpdateAction)) :=
  s.log.map (fun turn => entryOf c turn.msg turn.action)

/-- The generations of all hashes, read off the history. -/
def ledger (c : Crates) (s : Service) : Ledger PacketHash PacketUp UpdateAction :=
  .ofLog (s.entries c)

/-- The deduplicator stores what the history leaves open. -/
structure Books (c : Crates) (s : Service) : Prop where
  admissible : Ledger.Admissible (s.entries c)
  stored : ∀ hash, s.bucket hash =
    ((s.ledger c).current.lookup hash).map packetsOf
  /-- An open generation has been offered exactly if the last stage was a send. -/
  offered : ∀ hash, (∃ g, (s.ledger c).current.lookup hash = some g ∧ g.offer ≠ none) ↔
    (s.handledStages hash).getLast? = some .send
  requests : ∀ g ∈ (s.ledger c).generations, ∀ time request,
    g.offer = some (time, .uplinkSend request) → MadeOf c (g.collected.map Prod.snd) request
  handled : ∀ turn ∈ s.log, ∃ app app', handleMessage c app turn.msg = .ok (app', turn.action)

variable {c : Crates} {s t : Service}

theorem books_init (settings : HttpSettings) : (init settings).Books c where
  admissible := .nil
  stored _ := rfl
  offered := by
    intro hash
    constructor
    · rintro ⟨g, h, -⟩
      cases h
    · intro h
      cases h
  requests := by
    intro g hg
    cases hg
  handled := by
    intro turn hTurn
    cases hTurn

theorem Books.faithful (h : s.Books c) : (s.ledger c).Faithful (s.entries c) :=
  h.admissible.faithful

theorem entries_afterTurn (msg : Msg) (rest : List Msg) (app : App) (action : UpdateAction) :
    (s.afterTurn msg rest app action).entries c = s.entries c ++ [entryOf c msg action] := by
  simp [entries, afterTurn]

theorem ledger_afterTurn (msg : Msg) (rest : List Msg) (app : App) (action : UpdateAction) :
    (s.afterTurn msg rest app action).ledger c =
      (s.ledger c).record (s.entries c).length (entryOf c msg action) := by
  rw [ledger, entries_afterTurn, Ledger.ofLog_snoc]
  rfl

/-- A send that is about to be handled is the first of its generation. -/
theorem Books.not_offered {hash : PacketHash} {rest : List Msg} (h : s.Books c)
    (hLifecycle : s.Lifecycle hash) (hQueue : s.queue = .uplinkSend hash :: rest)
    {g : Copies} (hOpen : (s.ledger c).current.lookup hash = some g) : g.offer = none := by
  by_contra hOffer
  have hLast := (h.offered hash).mp ⟨g, hOpen, hOffer⟩
  obtain ⟨earlier, hEarlier⟩ := List.getLast?_eq_some_iff.mp hLast
  obtain ⟨n, hHistory⟩ := hLifecycle.history
  have hPending : s.pendingStages hash = .send :: pending (Msg.stage hash) (Timer.future hash) rest
      s.timers := by
    rw [pendingStages, hQueue, pending_take]
    simp [Msg.stage]
  have hTwice : lifecycles Stage.send Stage.cleanup n = earlier ++ .send :: [] ++ .send ::
      pending (Msg.stage hash) (Timer.future hash) rest s.timers := by
    rw [hHistory, hEarlier, hPending]
  cases mem_between_of_lifecycles (by decide) hTwice

/-- What the next turn adds to the history fits it. -/
theorem Books.fits {msg : Msg} {rest : List Msg} {app : App} {action : UpdateAction}
    (h : s.Books c) (hLifecycle : ∀ hash, s.Lifecycle hash) (hQueue : s.queue = msg :: rest)
    (hMsg : handleMessage c s.app msg = .ok (app, action)) :
    (s.ledger c).Admits (entryOf c msg action) := by
  cases msg with
  | uplinkReceive packet =>
      have hStored := h.stored (packet.hash c)
      obtain ⟨hNone, -, hLine⟩ | ⟨packets, hSome, -, hLine⟩ := entryOf_uplinkReceive hMsg
      · rw [bucket, hNone, eq_comm, Option.map_eq_none_iff] at hStored
        rw [hLine]
        exact hStored
      · rw [bucket, hSome, eq_comm, Option.map_eq_some_iff] at hStored
        obtain ⟨g, hOpen, -⟩ := hStored
        rw [hLine]
        exact ⟨g, hOpen⟩
  | uplinkSend hash =>
      obtain ⟨packets, hBucket, -⟩ := (hLifecycle hash).bucket_of_send hQueue
      have hStored := h.stored hash
      rw [hBucket, eq_comm, Option.map_eq_some_iff] at hStored
      obtain ⟨g, hOpen, -⟩ := hStored
      exact ⟨g, hOpen, h.not_offered (hLifecycle hash) hQueue hOpen⟩
  | uplinkCleanup | downlink | gatewayConnect | gatewayDisconnect => trivial

theorem Books.recorded_of_lookup (h : s.Books c) {hash : PacketHash} {g : Copies}
    (hOpen : (s.ledger c).current.lookup hash = some g) : g.Recorded (s.entries c) := by
  refine h.faithful.recorded g (List.mem_append_right _ ?_)
  exact List.mem_map.mpr ⟨⟨hash, g⟩, AList.mem_lookup_iff.mp hOpen, rfl⟩

/-- The deduplicator and the history change alike. -/
theorem Books.stored_afterTurn {msg : Msg} {rest : List Msg} {app : App} {action : UpdateAction}
    (h : s.Books c) (hMsg : handleMessage c s.app msg = .ok (app, action)) (hash : PacketHash) :
    (s.afterTurn msg rest app action).bucket hash =
      (((s.afterTurn msg rest app action).ledger c).current.lookup hash).map packetsOf := by
  have hBucket : (s.afterTurn msg rest app action).bucket hash =
      msg.bucketAfter c hash (s.bucket hash) := getPackets_handleMessage hash hMsg
  have hStored := h.stored hash
  rw [hBucket, ledger_afterTurn]
  cases msg with
  | uplinkReceive packet =>
      by_cases hHash : hash = packet.hash c
      · obtain ⟨hNone, -, hLine⟩ | ⟨packets, hSome, -, hLine⟩ := entryOf_uplinkReceive hMsg
        · rw [hLine, Ledger.lookup_record_of_eq (.opens (packet.hash c) packet) hHash, bucket, hHash,
            hNone]
          simp [Msg.bucketAfter, Entry.apply, packetsOf, Generation.start, Generation.items]
        · rw [← hHash] at hSome
          rw [bucket, hSome] at hStored
          obtain ⟨g, hOpen, hCopies⟩ := Option.map_eq_some_iff.mp hStored.symm
          rw [hLine, Ledger.lookup_record_of_eq (.joins (packet.hash c) packet) hHash, bucket, hSome,
            hOpen]
          simp [Msg.bucketAfter, Entry.apply, packetsOf_join (h.recorded_of_lookup hOpen), hCopies, hHash]
      · obtain ⟨-, -, hLine⟩ | ⟨-, -, -, hLine⟩ := entryOf_uplinkReceive hMsg <;>
          · rw [hLine, Ledger.lookup_record_ne hHash]
            exact (if_neg hHash).trans hStored
  | uplinkSend sent =>
      by_cases hHash : hash = sent
      · rw [entryOf, Ledger.lookup_record_of_eq (.offers sent action) hHash]
        refine hStored.trans ?_
        cases hOpen : (s.ledger c).current.lookup hash <;> rfl
      · rw [entryOf, Ledger.lookup_record_ne hHash]
        exact hStored
  | uplinkCleanup removed =>
      by_cases hHash : hash = removed
      · rw [entryOf, Ledger.lookup_record_of_eq (.closes removed) hHash]
        exact if_pos hHash
      · rw [entryOf, Ledger.lookup_record_ne hHash]
        exact (if_neg hHash).trans hStored
  | downlink | gatewayConnect | gatewayDisconnect => exact hStored

/-- A generation is marked as offered by the send of its hash. -/
theorem Books.offered_afterTurn {msg : Msg} {rest : List Msg} {app : App} {action : UpdateAction}
    (h : s.Books c) (hMsg : handleMessage c s.app msg = .ok (app, action))
    (hFits : (s.ledger c).Admits (entryOf c msg action)) (hash : PacketHash) :
    (∃ g, ((s.afterTurn msg rest app action).ledger c).current.lookup hash = some g ∧
        g.offer ≠ none) ↔
      ((s.afterTurn msg rest app action).handledStages hash).getLast? = some .send := by
  have hOffered := h.offered hash
  rw [ledger_afterTurn, handledStages_afterTurn]
  cases msg with
  | uplinkReceive packet =>
      rw [show (Msg.uplinkReceive packet).stage hash = none from rfl, Option.toList_none,
        List.append_nil, ← hOffered]
      obtain ⟨-, -, hLine⟩ | ⟨-, -, -, hLine⟩ := entryOf_uplinkReceive hMsg
      · rw [hLine] at hFits ⊢
        have hIdle : (s.ledger c).current.lookup (packet.hash c) = none := hFits
        by_cases hHash : hash = packet.hash c
        · rw [Ledger.lookup_record_of_eq (.opens (packet.hash c) packet) hHash, hHash, hIdle]
          simp [Entry.apply, Generation.start]
        · rw [Ledger.lookup_record_ne hHash]
      · rw [hLine]
        by_cases hHash : hash = packet.hash c
        · rw [Ledger.lookup_record_of_eq (.joins (packet.hash c) packet) hHash]
          cases (s.ledger c).current.lookup hash <;> simp [Entry.apply]
        · rw [Ledger.lookup_record_ne hHash]
  | uplinkSend sent =>
      by_cases hHash : hash = sent
      · obtain ⟨g, hOpen, -⟩ := hFits
        rw [entryOf, Ledger.lookup_record_of_eq (.offers sent action) hHash, hHash, hOpen]
        simp [Entry.apply, Generation.offerAt, Msg.stage]
      · rw [entryOf, Ledger.lookup_record_ne hHash, hOffered]
        simp [Msg.stage, Ne.symm hHash]
  | uplinkCleanup removed =>
      by_cases hHash : hash = removed
      · rw [entryOf, Ledger.lookup_record_of_eq (.closes removed) hHash, hHash]
        simp [Entry.apply, Msg.stage]
      · rw [entryOf, Ledger.lookup_record_ne hHash, hOffered]
        simp [Msg.stage, Ne.symm hHash]
  | downlink | gatewayConnect | gatewayDisconnect =>
      rw [show Msg.stage hash _ = none from rfl, Option.toList_none, List.append_nil]
      exact hOffered

/-- A request is made of what its generation has collected when it is offered,
and of nothing that comes later. -/
theorem Books.requests_afterTurn {msg : Msg} {rest : List Msg} {app : App} {action : UpdateAction}
    (h : s.Books c) (hMsg : handleMessage c s.app msg = .ok (app, action))
    (hFits : (s.ledger c).Admits (entryOf c msg action)) :
    ∀ g ∈ ((s.afterTurn msg rest app action).ledger c).generations, ∀ time request,
      g.offer = some (time, .uplinkSend request) → MadeOf c (g.collected.map Prod.snd) request := by
  have hFaithful := h.faithful
  obtain ⟨old, new, others, hChange, hOld, hNew, hCurrent⟩ :=
    Ledger.change_of_admits (s.entries c).length (fun key g hg => (hFaithful.keyed key g hg).1) hFits
  have hBefore {g : Copies} (hg : g ∈ old.toList ++ others) := h.requests g (hOld.symm.subset hg)
  rw [ledger_afterTurn]
  intro g hg time request hOffer
  rcases List.mem_append.mp (hNew.subset hg) with hg | hg
  · obtain rfl : new = some g := by simpa using hg
    generalize hEntry : entryOf c msg action = line at hChange
    cases hChange with
    | opens hash packet => cases hOffer
    | joins g packet =>
        rw [Generation.offer_join] at hOffer
        have hSame : (g.join (s.entries c).length packet).collected = g.collected := by
          simp [Generation.join, hOffer]
        rw [hSame]
        exact hBefore (by simp) time request hOffer
    | offers g offer hFirst =>
        obtain ⟨rfl, rfl⟩ := entryOf_eq_offers hEntry
        cases hOffer
        have hOpen := hCurrent g rfl
        have hLate : g.late = [] := (h.recorded_of_lookup hOpen).waits hFirst
        obtain ⟨-, ⟨-, hNoop⟩ | ⟨packets, hSome, hGroup⟩⟩ := handleMessage_uplinkSend.mp hMsg
        · cases hNoop
        · have hStored := h.stored g.key
          rw [bucket, hSome, hOpen] at hStored
          obtain rfl : packets = g.collected.map Prod.snd := by
            simpa [packetsOf, Generation.items, hLate] using hStored
          obtain ⟨body, hBody, hSend⟩ | ⟨-, hNoop⟩ := sendGroup_eq_ok.mp hGroup
          · cases hSend
            exact madeOf_makePrStartReq hBody
          · cases hNoop
    | closes g =>
        have hOpen : g ∈ (some g).toList ++ others := by simp
        exact hBefore hOpen time request hOffer
  · exact hBefore (List.mem_append_right _ hg) time request hOffer

/-- A turn keeps the books. -/
theorem Books.turn {msg : Msg} {rest : List Msg} {app : App} {action : UpdateAction}
    (h : s.Books c) (hLifecycle : ∀ hash, s.Lifecycle hash) (hQueue : s.queue = msg :: rest)
    (hMsg : handleMessage c s.app msg = .ok (app, action)) :
    (s.afterTurn msg rest app action).Books c := by
  have hFits := h.fits hLifecycle hQueue hMsg
  refine ⟨?_, h.stored_afterTurn hMsg, h.offered_afterTurn hMsg hFits,
    h.requests_afterTurn hMsg hFits, ?_⟩
  · rw [entries_afterTurn]
    exact .snoc h.admissible hFits
  · intro turn hTurn
    rcases List.mem_append.mp hTurn with hTurn | hTurn
    · exact h.handled turn hTurn
    · rw [List.mem_singleton.mp hTurn]
      exact ⟨s.app, app, hMsg⟩

theorem books_of_run {settings : HttpSettings} {events : List Event}
    (run : Runs c settings events s) : s.Books c := by
  have hBoth : s.Books c ∧ ∀ hash, s.Lifecycle hash := by
    refine run.invariant (fun s => s.Books c ∧ ∀ hash, s.Lifecycle hash)
      ⟨books_init settings, fun _ => lifecycle_init settings⟩ ?_
    rintro s event t - ⟨hBooks, hLifecycle⟩ hStep
    refine ⟨?_, fun hash => (hLifecycle hash).step hStep⟩
    obtain ⟨input, -, rfl⟩ | ⟨before, timer, after, -, -, rfl⟩ | ⟨tx, -, rfl⟩ |
      ⟨msg, rest, app, action, -, hQueue, hMsg, rfl⟩ := step_cases hStep
    · exact ⟨hBooks.admissible, hBooks.stored, hBooks.offered, hBooks.requests, hBooks.handled⟩
    · exact ⟨hBooks.admissible, hBooks.stored, hBooks.offered, hBooks.requests, hBooks.handled⟩
    · exact ⟨hBooks.admissible, hBooks.stored, hBooks.offered, hBooks.requests, hBooks.handled⟩
    · exact hBooks.turn hLifecycle hQueue hMsg
  exact hBoth.1

/-- A cleanup that is about to be handled finds its generation offered. -/
theorem Books.offered_of_cleanup {hash : PacketHash} {rest : List Msg} (h : s.Books c)
    (hLifecycle : s.Lifecycle hash) (hQueue : s.queue = .uplinkCleanup hash :: rest) {g : Copies}
    (hOpen : (s.ledger c).current.lookup hash = some g) : g.offer ≠ none := by
  obtain ⟨n, hHistory⟩ := hLifecycle.history
  have hPending : s.pendingStages hash = .cleanup :: pending (Msg.stage hash) (Timer.future hash)
      rest s.timers := by
    rw [pendingStages, hQueue, pending_take]
    simp [Msg.stage]
  rw [hPending] at hHistory
  obtain ⟨own, hOwn, hOffer⟩ := (h.offered hash).mpr (getLast?_of_lifecycles (by decide) hHistory)
  obtain rfl : own = g := Option.some.inj (hOwn.symm.trans hOpen)
  exact hOffer

/-- No generation is closed before it was offered. -/
def OfferedFirst (c : Crates) (s : Service) : Prop :=
  ∀ g ∈ (s.ledger c).generations, g.closed ≠ none → g.offer ≠ none

theorem OfferedFirst.turn {msg : Msg} {rest : List Msg} {app : App} {action : UpdateAction}
    (h : s.OfferedFirst c) (hBooks : s.Books c) (hLifecycle : ∀ hash, s.Lifecycle hash)
    (hQueue : s.queue = msg :: rest) (hMsg : handleMessage c s.app msg = .ok (app, action)) :
    (s.afterTurn msg rest app action).OfferedFirst c := by
  have hFaithful := hBooks.faithful
  obtain ⟨old, new, others, hChange, hOld, hNew, hCurrent⟩ :=
    Ledger.change_of_admits (s.entries c).length (fun key g hg => (hFaithful.keyed key g hg).1)
      (hBooks.fits hLifecycle hQueue hMsg)
  have hBefore {g : Copies} (hg : g ∈ old.toList ++ others) := h g (hOld.symm.subset hg)
  rw [OfferedFirst, ledger_afterTurn]
  intro g hg hClosed
  rcases List.mem_append.mp (hNew.subset hg) with hg | hg
  · obtain rfl : new = some g := by simpa using hg
    generalize hEntry : entryOf c msg action = line at hChange
    cases hChange with
    | opens hash packet => exact absurd rfl hClosed
    | joins g packet =>
        rw [Generation.closed_join] at hClosed
        rw [Generation.offer_join]
        exact hBefore (by simp) hClosed
    | offers g offer hFirst => exact Option.some_ne_none _
    | closes g =>
        obtain rfl := entryOf_eq_closes hEntry
        have hOffer : g.offer ≠ none :=
          hBooks.offered_of_cleanup (hLifecycle g.key) hQueue (hCurrent g rfl)
        exact hOffer
  · exact hBefore (List.mem_append_right _ hg) hClosed

theorem offeredFirst_of_run {settings : HttpSettings} {events : List Event}
    (run : Runs c settings events s) : s.OfferedFirst c := by
  have hAll : s.OfferedFirst c ∧ ∃ earlier, Runs c settings earlier s := by
    refine run.invariant (fun s => s.OfferedFirst c ∧ ∃ earlier, Runs c settings earlier s)
      ⟨?_, [], .nil⟩ ?_
    · intro g hg
      cases hg
    · rintro s event t - ⟨h, earlier, hRun⟩ hStep
      refine ⟨?_, earlier ++ [event], hRun.snoc hStep⟩
      obtain ⟨input, -, rfl⟩ | ⟨before, timer, after, -, -, rfl⟩ | ⟨tx, -, rfl⟩ |
        ⟨msg, rest, app, action, -, hQueue, hMsg, rfl⟩ := step_cases hStep
      · exact h
      · exact h
      · exact h
      · exact h.turn (books_of_run hRun) (lifecycle_of_run hRun) hQueue hMsg
  exact hAll.1

/-- The deduplicator's entries are the open generations with their copies. -/
theorem Books.entries_perm (h : s.Books c) :
    s.app.deduplicator.packets.entries.Perm
      ((s.ledger c).current.entries.map (fun entry => ⟨entry.1, packetsOf entry.2⟩)) := by
  have hKeys : ((s.ledger c).current.entries.map
      (fun entry => (⟨entry.1, packetsOf entry.2⟩ : Sigma fun _ : PacketHash => List PacketUp))).keys =
      (s.ledger c).current.keys := by
    simp [List.keys, AList.keys]
  refine List.lookup_ext s.app.deduplicator.packets.nodupKeys ?_ ?_
  · rw [List.NodupKeys, hKeys]
    exact (s.ledger c).current.keys_nodup
  · intro hash packets
    have hLookup := List.dlookup_map₂ (l := (s.ledger c).current.entries) (f := fun _ => packetsOf) hash
    exact iff_of_eq (congrArg (packets ∈ ·) ((h.stored hash).trans hLookup.symm))

/-- The stored copies are those of the generations that are not closed. -/
theorem Books.totalCurrentPacketCount_eq (h : s.Books c) :
    s.app.totalCurrentPacketCount =
      (((s.ledger c).generations.filter (fun g => g.closed.isNone)).map
        (fun g => g.items.length)).sum := by
  have hPerm := h.entries_perm.map (fun entry => entry.2.length)
  rw [h.faithful.filter_closed, App.totalCurrentPacketCount, Deduplicator.totalCurrentPacketCount, hPerm.sum_eq]
  simp [packetsOf, Function.comp_def]


/-- The copies that the loop has handled, with their places in its history. -/
def copies (s : Service) : List (Nat × PacketUp) :=
  s.log.zipIdx.filterMap (fun line =>
    match line.1.msg with
    | .uplinkReceive packet => some (line.2, packet)
    | _ => none)

/-- The sends that the loop has handled, with the actions they led to. -/
def sends (s : Service) : List (Nat × UpdateAction) :=
  s.log.zipIdx.filterMap (fun line =>
    match line.1.msg with
    | .uplinkSend _ => some (line.2, line.1.action)
    | _ => none)

theorem received_entries : received (s.entries c) = s.copies := by
  rw [received, copies, entries, List.zipIdx_map, List.filterMap_map]
  congr 1
  funext line
  obtain ⟨⟨msg, action, effects⟩, time⟩ := line
  cases msg with
  | uplinkReceive packet => cases action <;> rfl
  | uplinkSend | uplinkCleanup | downlink | gatewayConnect | gatewayDisconnect => rfl

theorem offered_entries : Semantics.offered (s.entries c) = s.sends := by
  rw [Semantics.offered, sends, entries, List.zipIdx_map, List.filterMap_map]
  congr 1
  funext line
  obtain ⟨⟨msg, action, effects⟩, time⟩ := line
  cases msg with
  | uplinkReceive packet => cases action <;> rfl
  | uplinkSend | uplinkCleanup | downlink | gatewayConnect | gatewayDisconnect => rfl

/-- The turn at a place of the history. -/
def TurnAt (s : Service) (time : Nat) (msg : Msg) (action : UpdateAction) : Prop :=
  ∃ turn, s.log[time]? = some turn ∧ turn.msg = msg ∧ turn.action = action

theorem TurnAt.unique {time : Nat} {msg msg' : Msg} {action action' : UpdateAction}
    (h : s.TurnAt time msg action) (h' : s.TurnAt time msg' action') :
    msg = msg' ∧ action = action' := by
  obtain ⟨turn, hTurn, rfl, rfl⟩ := h
  obtain ⟨turn', hTurn', rfl, rfl⟩ := h'
  obtain rfl : turn = turn' := Option.some.inj (hTurn.symm.trans hTurn')
  exact ⟨rfl, rfl⟩

theorem mem_copies {time : Nat} {packet : PacketUp} :
    (time, packet) ∈ s.copies ↔ ∃ action, s.TurnAt time (.uplinkReceive packet) action := by
  constructor
  · intro hMem
    obtain ⟨⟨⟨msg, action, effects⟩, place⟩, hLine, hCopy⟩ := List.mem_filterMap.mp hMem
    cases msg with
    | uplinkReceive received =>
        obtain ⟨rfl, rfl⟩ : place = time ∧ received = packet := by simpa using hCopy
        exact ⟨action, _, List.mem_zipIdx_iff_getElem?.mp hLine, rfl, rfl⟩
    | uplinkSend | uplinkCleanup | downlink | gatewayConnect | gatewayDisconnect => cases hCopy
  · rintro ⟨action, turn, hTurn, hMsg, -⟩
    refine List.mem_filterMap.mpr ⟨(turn, time), List.mem_zipIdx_iff_getElem?.mpr hTurn, ?_⟩
    rw [hMsg]

/-- A generation as the history shows it: opened by a packet that started the
timer, joined by copies of the same hash, offered by the send and closed by the
cleanup of its hash, one after the other. -/
structure Delimited (c : Crates) (s : Service) (g : Copies) : Prop where
  opened : ∃ opener rest, g.collected = opener :: rest ∧
    s.TurnAt opener.1 (.uplinkReceive opener.2) (.startTimerForNewPacket g.key)
  joined : ∀ x ∈ g.items.tail, ∃ action, s.TurnAt x.1 (.uplinkReceive x.2) action
  hashes : ∀ x ∈ g.items, x.2.hash c = g.key
  offered : ∀ time action, g.offer = some (time, action) →
    s.TurnAt time (.uplinkSend g.key) action
  closed : ∀ time, g.closed = some time → ∃ action, s.TurnAt time (.uplinkCleanup g.key) action
  ordered : g.times.Pairwise (· < ·)

/-- What the deduplicator and the requests owe to the history. -/
structure Accounts (c : Crates) (s : Service) : Prop where
  /-- Every handled copy belongs to exactly one generation. -/
  copies : ((s.ledger c).generations.flatMap Generation.items).Perm s.copies
  distinct : s.copies.Nodup
  /-- Every handled send offers exactly one generation. -/
  sends : ((s.ledger c).generations.filterMap Generation.offer).Perm s.sends
  delimited : ∀ g ∈ (s.ledger c).generations, s.Delimited c g
  /-- A request is made of what was collected before the send. -/
  requests : ∀ time msg request, s.TurnAt time msg (.uplinkSend request) →
    ∃ g ∈ (s.ledger c).generations, g.offer = some (time, .uplinkSend request) ∧
      MadeOf c (g.collected.map Prod.snd) request
  /-- A late copy was collected by no generation. -/
  late : ∀ g ∈ (s.ledger c).generations, ∀ copy ∈ g.late,
    ∀ other ∈ (s.ledger c).generations, copy ∉ other.collected
  totalCurrentPacketCount : s.app.totalCurrentPacketCount =
    (((s.ledger c).generations.filter (fun g => g.closed.isNone)).map
      (fun g => g.items.length)).sum

theorem exists_turn {time : Nat} {line : Option (Entry PacketHash PacketUp UpdateAction)}
    (h : (s.entries c)[time]? = some line) :
    ∃ turn, s.log[time]? = some turn ∧ entryOf c turn.msg turn.action = line := by
  rw [entries, List.getElem?_map, Option.map_eq_some_iff] at h
  exact h

theorem Books.delimited (h : s.Books c) {g : Copies} (hg : g ∈ (s.ledger c).generations) :
    s.Delimited c g := by
  have hRecorded := h.faithful.recorded g hg
  obtain ⟨opener, rest, hCollected, hOpener⟩ := hRecorded.opened
  obtain ⟨first, hFirst, hLine⟩ := exists_turn hOpener
  obtain ⟨hReceive, hStart⟩ := entryOf_eq_opens hLine
  have hItems : g.items = opener :: g.items.tail := by
    rw [Generation.items, hCollected]
    rfl
  refine ⟨⟨opener, rest, hCollected, first, hFirst, hReceive, hStart⟩, ?_, ?_, ?_, ?_,
    hRecorded.ordered⟩
  · intro x hx
    obtain ⟨turn, hTurn, hJoins⟩ := exists_turn (hRecorded.joined x hx)
    exact ⟨turn.action, turn, hTurn, (entryOf_eq_joins hJoins).1, rfl⟩
  · intro x hx
    rw [hItems] at hx
    rcases List.mem_cons.mp hx with rfl | hx
    · obtain ⟨app, app', hMsg⟩ := h.handled first (List.mem_of_getElem? hFirst)
      rw [hReceive, hStart] at hMsg
      obtain ⟨-, hSame, -⟩ | ⟨-, -, hNoop, -⟩ := entryOf_uplinkReceive hMsg
      · exact (UpdateAction.startTimerForNewPacket.inj hSame).symm
      · cases hNoop
    · obtain ⟨turn, hTurn, hJoins⟩ := exists_turn (hRecorded.joined x hx)
      exact (entryOf_eq_joins hJoins).2.symm
  · intro time action hOffer
    obtain ⟨turn, hTurn, hOffers⟩ := exists_turn (hRecorded.offered _ hOffer)
    obtain ⟨hSend, hAction⟩ := entryOf_eq_offers hOffers
    exact ⟨turn, hTurn, hSend, hAction⟩
  · intro time hClosed
    obtain ⟨turn, hTurn, hCloses⟩ := exists_turn (hRecorded.closed time hClosed)
    exact ⟨turn.action, turn, hTurn, entryOf_eq_closes hCloses, rfl⟩

/-- Both stages of a generation come after its opener. -/
theorem Delimited.opener_lt {g : Copies} (h : s.Delimited c g) {opener : Nat × PacketUp}
    {rest : List (Nat × PacketUp)} (hCollected : g.collected = opener :: rest) {time : Nat}
    {msg : Msg} {action : UpdateAction} {stage : Stage} (hTime : time ∈ g.times)
    (hTurn : s.TurnAt time msg action) (hStage : msg.stage g.key = some stage) :
    opener.1 < time := by
  obtain ⟨first, others, hFirst, hOpens⟩ := h.opened
  obtain ⟨rfl, -⟩ := List.cons.inj (hCollected.symm.trans hFirst)
  have hOrdered := h.ordered
  rw [Generation.times, hCollected] at hOrdered hTime
  simp only [List.map_cons, List.cons_append] at hOrdered hTime
  rcases List.mem_cons.mp hTime with rfl | hLater
  · obtain ⟨rfl, -⟩ := hTurn.unique hOpens
    cases hStage
  · exact (List.pairwise_cons.mp hOrdered).1 time hLater

/-- Every handled copy belongs to a generation of its hash. -/
theorem Books.exists_of_copy (h : s.Books c) {copy : Nat × PacketUp} (hCopy : copy ∈ s.copies) :
    ∃ g ∈ (s.ledger c).generations, copy ∈ g.items ∧ copy.2.hash c = g.key := by
  rw [← received_entries (c := c)] at hCopy
  obtain ⟨g, hg, hItem⟩ := List.mem_flatMap.mp (h.faithful.items.symm.subset hCopy)
  exact ⟨g, hg, hItem, (h.delimited hg).hashes copy hItem⟩

/-- Every handled send offers a generation of its hash. -/
theorem Books.exists_of_send (h : s.Books c) {time : Nat} {hash : PacketHash}
    {action : UpdateAction} (hSend : s.TurnAt time (.uplinkSend hash) action) :
    ∃ g ∈ (s.ledger c).generations, g.offer = some (time, action) ∧ g.key = hash := by
  obtain ⟨turn, hTurn, hMsg, rfl⟩ := hSend
  have hMem : (time, turn.action) ∈ Semantics.offered (s.entries c) := by
    rw [offered_entries]
    refine List.mem_filterMap.mpr ⟨(turn, time), List.mem_zipIdx_iff_getElem?.mpr hTurn, ?_⟩
    rw [hMsg]
  obtain ⟨g, hg, hOffer⟩ := List.mem_filterMap.mp (h.faithful.offers.symm.subset hMem)
  refine ⟨g, hg, hOffer, ?_⟩
  have hOffered := (h.delimited hg).offered time turn.action hOffer
  exact (Msg.uplinkSend.inj (TurnAt.unique ⟨turn, hTurn, hMsg, rfl⟩ hOffered).1).symm

/-- **Copies are neither lost nor duplicated.** In every state that a run
reaches without a panicking turn, the history accounts for every stored copy
and for every request. -/
theorem accounts_of_run {settings : HttpSettings} {events : List Event}
    (run : Runs c settings events s) : s.Accounts c := by
  have h : s.Books c := books_of_run run
  have hCopies : ((s.ledger c).generations.flatMap Generation.items).Perm s.copies := by
    rw [← received_entries]
    exact h.faithful.items
  have hDistinct : s.copies.Nodup := by
    rw [← received_entries (c := c)]
    exact received_nodup _
  have hSends : ((s.ledger c).generations.filterMap Generation.offer).Perm s.sends := by
    rw [← offered_entries]
    exact h.faithful.offers
  refine ⟨hCopies, hDistinct, hSends, fun g => h.delimited, ?_, ?_, h.totalCurrentPacketCount_eq⟩
  · rintro time msg request ⟨turn, hTurn, rfl, hAction⟩
    obtain ⟨app, app', hMsg⟩ := h.handled turn (List.mem_of_getElem? hTurn)
    rw [hAction] at hMsg
    obtain ⟨hash, hSend⟩ := exists_hash_of_uplinkSend hMsg
    have hMem : (time, .uplinkSend request) ∈ s.sends := by
      refine List.mem_filterMap.mpr ⟨(turn, time), List.mem_zipIdx_iff_getElem?.mpr hTurn, ?_⟩
      rw [hSend, hAction]
    obtain ⟨g, hg, hOffer⟩ := List.mem_filterMap.mp (hSends.symm.subset hMem)
    exact ⟨g, hg, hOffer, h.requests g hg time request hOffer⟩
  · intro g hg copy hLate other hOther hCollected
    obtain ⟨hEach, hApart⟩ := List.nodup_flatMap.mp (hCopies.symm.nodup hDistinct)
    by_cases hSame : g = other
    · -- Within one generation a place is either before the offer or after it.
      subst hSame
      exact (List.nodup_append.mp (hEach g hg)).2.2 copy hCollected copy hLate rfl
    · have hSymm : Std.Symm (Function.onFun List.Disjoint fun g : Copies => g.items) :=
        ⟨fun _ _ h => h.symm⟩
      have hDisjoint := hApart.forall hg hOther hSame
      exact hDisjoint (List.mem_append_right _ hLate) (List.mem_append_left _ hCollected)

/-- Two copies of a join request, from two gateways, and a third that is late. -/
def sampleCopies : List Event :=
  [.arrive (.uplink (.sample joinFrame [0, 0])), .turn,
    .arrive (.uplink { PacketUp.sample joinFrame [0, 1] with recvTime := 1 }), .turn,
    .timer 0, .timer 0, .turn, .arrive (.uplink (.sample joinFrame [0, 0])), .turn]

/-- The request names both gateways, and not the late copy. -/
theorem sample_accounts :
    ∃ s g request, Runs Crates.sampleGateways .sample sampleCopies s ∧
      (s.ledger Crates.sampleGateways).generations = [g] ∧
      g.collected = [(0, .sample joinFrame [0, 0]),
        (1, { PacketUp.sample joinFrame [0, 1] with recvTime := 1 })] ∧
      g.late = [(3, .sample joinFrame [0, 0])] ∧
      s.TurnAt 2 (.uplinkSend g.key) (.uplinkSend request) ∧
      request.ulMetaData.gwInfo = [⟨⟨"e934a84adb052768"⟩, .us915, -35, 5, true⟩,
        ⟨⟨"8a4127811b21e730"⟩, .us915, -35, 5, true⟩] ∧
      s.Accounts Crates.sampleGateways := by
  obtain ⟨s, g, request, run, hRest⟩ : ∃ s g request,
      Runs Crates.sampleGateways .sample sampleCopies s ∧
      (s.ledger Crates.sampleGateways).generations = [g] ∧
      g.collected = [(0, .sample joinFrame [0, 0]),
        (1, { PacketUp.sample joinFrame [0, 1] with recvTime := 1 })] ∧
      g.late = [(3, .sample joinFrame [0, 0])] ∧
      s.TurnAt 2 (.uplinkSend g.key) (.uplinkSend request) ∧
      request.ulMetaData.gwInfo = [⟨⟨"e934a84adb052768"⟩, .us915, -35, 5, true⟩,
        ⟨⟨"8a4127811b21e730"⟩, .us915, -35, 5, true⟩] :=
    ⟨_, _, _, run_of_exec rfl, rfl, rfl, rfl, ⟨_, rfl, rfl, rfl⟩, rfl⟩
  obtain ⟨hOne, hCollected, hLate, hTurn, hInfos⟩ := hRest
  exact ⟨s, g, request, run, hOne, hCollected, hLate, hTurn, hInfos, accounts_of_run run⟩

end Service

end PacketRouter.HttpRoaming
