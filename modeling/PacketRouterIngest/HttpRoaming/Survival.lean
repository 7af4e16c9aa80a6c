import PacketRouterIngest.HttpRoaming.Lifecycle

/-! Which uplinks the service survives. A group panics below the one branch
that returns an error, so whether a run survives depends on every packet that
may open a group and on every packet that may join it. -/
namespace PacketRouter.HttpRoaming

open Rust Semantics

/-- No request can be made of the group: its frame does not parse, cannot be
described, or has a copy without usable gateway bytes. -/
def Unusable (c : Crates) (packets : List PacketUp) : Prop :=
  ∃ first rest, packets = first :: rest ∧
    ((∃ e, c.parse first.packet.payload = .error e) ∨ ¬ first.Describable c ∨
      ∃ copy ∈ packets, copy.packet.gateway = [])

/-- Packets of this kind never end the service, in whatever order and company
they arrive. -/
structure Survivable (c : Crates) (P : PacketUp → Prop) : Prop where
  parses : ∀ p, P p → ∃ phy, c.parse p.packet.payload = .ok phy
  describable : ∀ p, P p → p.Routable c → p.Describable c
  gateways : ∀ p q, P p → P q → p.Routable c → q.hash c = p.hash c → q.packet.gateway ≠ []

/-- The uplinks of a schedule are all of one kind. -/
def ArriveFrom (P : PacketUp → Prop) (events : List Event) : Prop :=
  ∀ p, .arrive (.uplink p) ∈ events → P p

section

variable {c : Crates} {first : PacketUp} {copies : List PacketUp}

/-- Sending a group does not panic if its first frame parses and, once it is
routable, can be described and has gateway bytes on every copy. -/
theorem sendGroup_of_usable (app : App) (hParses : ∃ phy, c.parse first.packet.payload = .ok phy)
    (hUsable : first.Routable c →
      first.Describable c ∧ ∀ copy ∈ first :: copies, copy.packet.gateway ≠ []) :
    ∃ action, sendGroup c app (first :: copies) = .ok action ∧
      (Unusable c (first :: copies) → action = .noop) := by
  obtain ⟨phy, hPhy⟩ := hParses
  -- What makes the group unusable makes a routable one panic.
  have hReason (h : (∃ e, c.parse first.packet.payload = .error e) ∨ first.Routable c ∧
      (¬ first.Describable c ∨ ∃ copy ∈ first :: copies, copy.packet.gateway = [])) : False := by
    rcases h with ⟨e, hParse⟩ | ⟨hRoutable, hDescribable | ⟨copy, hCopy, hGateway⟩⟩
    · rw [hPhy] at hParse
      cases hParse
    · exact hDescribable (hUsable hRoutable).1
    · exact (hUsable hRoutable).2 copy hCopy hGateway
  obtain ⟨body, hBody⟩ | hFailed | hPanicked :=
    (makePrStartReq c (first :: copies) app.settings.roaming).cases_on
  · refine ⟨_, sendGroup_eq_ok.mpr (.inl ⟨body, hBody, rfl⟩), ?_⟩
    rintro ⟨_, _, hCons, hUnusable⟩
    cases hCons
    have hNotFailed : ¬ (makePrStartReq c (first :: copies) app.settings.roaming).Failed := by
      simp [hBody]
    rw [makePrStartReq_failed] at hNotFailed
    have hRoutable : first.Routable c := by
      by_contra hNot
      exact hNotFailed ⟨hNot, phy, hPhy⟩
    rcases hUnusable with hParse | hRest
    · exact (hReason (.inl hParse)).elim
    · exact (hReason (.inr ⟨hRoutable, hRest⟩)).elim
  · exact ⟨_, sendGroup_eq_ok.mpr (.inr ⟨hFailed, rfl⟩), fun _ => rfl⟩
  · exact (hReason (makePrStartReq_panicked.mp hPanicked first rfl)).elim

end

namespace Service

variable {c : Crates} {s t : Service} {P : PacketUp → Prop}

/-- The app can handle the next message, and drops an unusable group. -/
def Survives (c : Crates) (s : Service) : Prop :=
  ∀ msg rest, s.queue = msg :: rest →
    ∃ app action, handleMessage c s.app msg = .ok (app, action) ∧
      ∀ hash packets, msg = .uplinkSend hash → s.bucket hash = some packets →
        Unusable c packets → action = .noop

/-- Every packet held by the service is of one kind, and every bucket holds
copies under their own hash. -/
structure Holds (c : Crates) (P : PacketUp → Prop) (s : Service) : Prop where
  queued : ∀ p, .uplinkReceive p ∈ s.queue → P p
  stored : ∀ hash packets, s.bucket hash = some packets → ∀ p ∈ packets, P p ∧ p.hash c = hash

theorem holds_init (settings : HttpSettings) : (init settings).Holds c P where
  queued := by simp [init]
  stored := by
    intro hash packets h
    cases h

/-- A turn moves one packet from the queue into the bucket of its hash. -/
theorem Holds.turn {msg : Msg} {rest : List Msg} {app : App} {action : UpdateAction}
    (h : s.Holds c P) (hQueue : s.queue = msg :: rest)
    (hMsg : handleMessage c s.app msg = .ok (app, action)) :
    (s.afterTurn msg rest app action).Holds c P where
  queued := by
    intro p hp
    apply h.queued
    rw [hQueue]
    exact List.mem_cons_of_mem _ hp
  stored := by
    intro hash packets hBucket p hp
    have hAfter : (s.afterTurn msg rest app action).bucket hash =
        msg.bucketAfter c hash (s.bucket hash) := getPackets_handleMessage hash hMsg
    rw [hAfter] at hBucket
    cases msg with
    | uplinkReceive packet =>
        simp only [Msg.bucketAfter] at hBucket
        split_ifs at hBucket with hHash
        · cases hBucket
          rw [List.mem_append, List.mem_singleton] at hp
          rcases hp with hp | rfl
          · cases hOld : s.bucket hash with
            | none => simp [hOld] at hp
            | some old => exact h.stored hash old hOld p (by simpa [hOld] using hp)
          · exact ⟨h.queued p (by simp [hQueue]), hHash.symm⟩
        · exact h.stored hash packets hBucket p hp
    | uplinkCleanup removed =>
        simp only [Msg.bucketAfter] at hBucket
        split_ifs at hBucket
        exact h.stored hash packets hBucket p hp
    | uplinkSend | downlink | gatewayConnect | gatewayDisconnect =>
        exact h.stored hash packets hBucket p hp

theorem Holds.step {event : Event} (h : s.Holds c P) (hEvent : ∀ p, event = .arrive (.uplink p) → P p)
    (hStep : Service.step c s event = some t) : t.Holds c P := by
  obtain ⟨input, rfl, rfl⟩ | ⟨before, timer, after, -, -, rfl⟩ | ⟨tx, -, rfl⟩ |
    ⟨msg, rest, app, action, -, hQueue, hMsg, rfl⟩ := step_cases hStep
  · refine ⟨fun p hp => ?_, h.stored⟩
    rcases List.mem_append.mp hp with hp | hp
    · exact h.queued p hp
    · cases input with
      | uplink q =>
          obtain rfl : p = q := by simpa [Input.toMsg] using hp
          exact hEvent p rfl
      | downlink | gatewayConnect | gatewayDisconnect => simp [Input.toMsg] at hp
  · refine ⟨fun p hp => ?_, h.stored⟩
    rcases List.mem_append.mp hp with hp | hp
    · exact h.queued p hp
    · obtain ⟨owner, phase⟩ := timer
      cases phase <;> simp [Timer.advance] at hp
  · exact ⟨h.queued, h.stored⟩
  · exact h.turn hQueue hMsg

theorem holds_of_run {settings : HttpSettings} {events : List Event}
    (run : Runs c settings events s) (hArrive : ArriveFrom P events) : s.Holds c P := by
  refine run.invariant (Holds c P) (holds_init settings) (fun s e t he h hStep => ?_)
  refine h.step (fun p hp => hArrive p ?_) hStep
  rwa [← hp]

/-- The service survives wherever it holds only survivable packets. -/
theorem Holds.survives (h : s.Holds c P) (hLifecycle : ∀ hash, s.Lifecycle hash)
    (hP : Survivable c P) : s.Survives c := by
  intro msg rest hQueue
  cases msg with
  | uplinkReceive packet => exact ⟨_, _, handleMessage_uplinkReceive packet, by simp⟩
  | uplinkCleanup | gatewayConnect | gatewayDisconnect => exact ⟨_, _, rfl, by simp⟩
  | downlink packet =>
      cases hGateway : s.app.gatewayMap.lookup packet.gatewayB58 with
      | none => exact ⟨_, _, by simp only [handleMessage, hGateway]; rfl, by simp⟩
      | some tx => exact ⟨_, _, by simp only [handleMessage, hGateway]; rfl, by simp⟩
  | uplinkSend hash =>
      obtain ⟨packets, hBucket, hNe⟩ := (hLifecycle hash).bucket_of_send hQueue
      obtain ⟨first, copies, rfl⟩ := List.exists_cons_of_ne_nil hNe
      obtain ⟨hFirst, hHash⟩ := h.stored hash _ hBucket first List.mem_cons_self
      have hUsable : first.Routable c →
          first.Describable c ∧ ∀ copy ∈ first :: copies, copy.packet.gateway ≠ [] := by
        intro hRoutable
        refine ⟨hP.describable first hFirst hRoutable, fun copy hCopy => ?_⟩
        obtain ⟨hIn, hSame⟩ := h.stored hash _ hBucket copy hCopy
        exact hP.gateways first copy hFirst hIn hRoutable (hSame.trans hHash.symm)
      obtain ⟨action, hGroup, hNoop⟩ :=
        sendGroup_of_usable s.app (hP.parses first hFirst) hUsable
      refine ⟨s.app, action, handleMessage_uplinkSend.mpr ⟨rfl, .inr ⟨_, hBucket, hGroup⟩⟩, ?_⟩
      intro sent packets hSent hStored hUnusable
      cases hSent
      rw [hBucket] at hStored
      cases hStored
      exact hNoop hUnusable

/-- The service has collected a group and waits for its deduplication timer. -/
structure Collecting (s : Service) (hash : PacketHash) (packets : List PacketUp) : Prop where
  queue : s.queue = []
  timers : s.timers = [⟨hash, .sleepDedup⟩]
  bucket : s.bucket hash = some packets

theorem run_turn {msg : Msg} {rest : List Msg} {app : App} {action : UpdateAction}
    (hQueue : s.queue = msg :: rest) (hMsg : handleMessage c s.app msg = .ok (app, action)) :
    Run (step c) s [.turn] (s.afterTurn msg rest app action) := by
  apply Run.single
  have hHandle : s.handle c msg rest = .ok (s.afterTurn msg rest app action) :=
    handle_eq_ok.mpr ⟨app, action, hMsg, rfl⟩
  simp only [step, hQueue, hHandle]

/-- A packet that arrives while the queue is empty is handled at once. -/
theorem exists_run_receive (p : PacketUp) (hQueue : s.queue = []) :
    ∃ t, Run (step c) s [.arrive (.uplink p), .turn] t ∧ t.queue = [] ∧
      t.timers = s.timers ++ (Msg.uplinkReceive p).timers c s.app ∧
      t.bucket (p.hash c) = some ((s.bucket (p.hash c)).getD [] ++ [p]) := by
  obtain ⟨app, action, hMsg⟩ : ∃ app action,
      handleMessage c s.app (.uplinkReceive p) = .ok (app, action) :=
    ⟨_, _, handleMessage_uplinkReceive p⟩
  have hArrive : Run (step c) s [.arrive (.uplink p)] { s with queue := s.queue ++ [.uplinkReceive p] } :=
    Run.single rfl
  have hNext : s.queue ++ [.uplinkReceive p] = .uplinkReceive p :: [] := by
    rw [hQueue]
    rfl
  refine ⟨_, hArrive.append (run_turn hNext hMsg), rfl, ?_, ?_⟩
  · exact congrArg (s.timers ++ ·) (spawned_handleMessage _ _ hMsg)
  · exact (getPackets_handleMessage _ hMsg).trans (if_pos rfl)

/-- A first packet opens the group of its hash. -/
theorem collecting_first (settings : HttpSettings) (p : PacketUp) :
    ∃ t, Runs c settings [.arrive (.uplink p), .turn] t ∧ t.Collecting (p.hash c) [p] := by
  obtain ⟨t, run, hQueue, hTimers, hBucket⟩ :=
    exists_run_receive (c := c) (s := init settings) p rfl
  have hNone : (init settings).app.deduplicator.getPackets (p.hash c) = none := rfl
  rw [Msg.timers_of_none hNone] at hTimers
  exact ⟨t, run, hQueue, hTimers, hBucket⟩

/-- Further packets of the same hash join it in their order. -/
theorem Collecting.more {hash : PacketHash} {packets : List PacketUp} (copies : List PacketUp)
    (h : s.Collecting hash packets) (hHash : ∀ q ∈ copies, q.hash c = hash) :
    ∃ events t, Run (step c) s events t ∧ ArriveFrom (· ∈ copies) events ∧
      t.Collecting hash (packets ++ copies) := by
  induction copies generalizing s packets with
  | nil => exact ⟨[], s, Run.nil, by simp [ArriveFrom], by simpa using h⟩
  | cons q copies ih =>
      obtain rfl := hHash q List.mem_cons_self
      obtain ⟨next, hReceive, hQueue, hTimers, hBucket⟩ :=
        exists_run_receive (c := c) q h.queue
      rw [Msg.timers_of_some h.bucket, List.append_nil, h.timers] at hTimers
      rw [h.bucket] at hBucket
      have hNext : next.Collecting (q.hash c) (packets ++ [q]) := ⟨hQueue, hTimers, hBucket⟩
      obtain ⟨events, t, run, hEvents, hCollecting⟩ :=
        ih hNext (fun p hp => hHash p (List.mem_cons_of_mem _ hp))
      refine ⟨_, t, hReceive.append run, ?_, by simpa using hCollecting⟩
      intro p hp
      simp only [List.cons_append, List.nil_append, List.mem_cons, Event.arrive.injEq,
        Input.uplink.injEq, reduceCtorEq, false_or] at hp
      rcases hp with rfl | hp
      · exact List.mem_cons_self
      · exact List.mem_cons_of_mem _ (hEvents p hp)

/-- Some schedule offers exactly the given copies for sending. -/
theorem exists_run_offering (settings : HttpSettings) (p : PacketUp) (copies : List PacketUp)
    (hHash : ∀ q ∈ copies, q.hash c = p.hash c) :
    ∃ events t, Runs c settings events t ∧ ArriveFrom (· ∈ p :: copies) events ∧
      t.queue = [.uplinkSend (p.hash c)] ∧ t.bucket (p.hash c) = some (p :: copies) := by
  obtain ⟨s, hFirst, hOpen⟩ := collecting_first (c := c) settings p
  obtain ⟨events, t, hMore, hEvents, hCollecting⟩ := hOpen.more copies hHash
  have hElapsed : Run (step c) t [.timer 0, .timer 0]
      { t with queue := [.uplinkSend (p.hash c)], timers := [⟨p.hash c, .sleepCleanup⟩] } := by
    apply run_of_exec
    simp [exec, step, hCollecting.timers, hCollecting.queue, Timer.advance]
  refine ⟨_, _, (hFirst.append hMore).append hElapsed, ?_, rfl, hCollecting.bucket⟩
  intro q hq
  simp only [List.mem_append, List.mem_cons, Event.arrive.injEq, Input.uplink.injEq, reduceCtorEq,
    List.not_mem_nil, or_false] at hq
  rcases hq with rfl | hq
  · exact List.mem_cons_self
  · exact List.mem_cons_of_mem _ (hEvents q hq)

/-- If such runs survive, making a request of one of their groups does not
panic. -/
theorem not_panicked_of_survives {settings : HttpSettings}
    (h : ∀ events s, Runs c settings events s → ArriveFrom P events → s.Survives c)
    {p : PacketUp} {copies : List PacketUp} (hP : ∀ q ∈ p :: copies, P q)
    (hHash : ∀ q ∈ copies, q.hash c = p.hash c) (config : RoamingSettings) :
    ¬ (makePrStartReq c (p :: copies) config).Panicked := by
  obtain ⟨events, t, run, hEvents, hQueue, hBucket⟩ :=
    exists_run_offering (c := c) settings p copies hHash
  obtain ⟨app, action, hMsg, -⟩ := h events t run (fun q hq => hP q (hEvents q hq)) _ _ hQueue
  obtain ⟨-, ⟨hNone, -⟩ | ⟨packets, hSome, hGroup⟩⟩ := handleMessage_uplinkSend.mp hMsg
  · exact absurd (hBucket.symm.trans hNone) (Option.some_ne_none _)
  · obtain rfl : p :: copies = packets := Option.some.inj (hBucket.symm.trans hSome)
    intro hPanic
    have hHere : (makePrStartReq c (p :: copies) t.app.settings.roaming).Panicked := by
      rwa [makePrStartReq_panicked] at hPanic ⊢
    obtain ⟨body, hBody, -⟩ | ⟨⟨error, hError⟩, -⟩ := sendGroup_eq_ok.mp hGroup
    · simp [hBody] at hHere
    · simp [hError] at hHere

/-- **Survival.** Runs fed with packets of one kind always survive exactly when
every such frame parses and, where it is routable, can be described and has
gateway bytes on all copies that share its hash. -/
theorem survives_iff (c : Crates) (settings : HttpSettings) (P : PacketUp → Prop) :
    (∀ events s, Runs c settings events s → ArriveFrom P events → s.Survives c) ↔
      Survivable c P := by
  constructor
  · intro h
    have hGroup (p : PacketUp) (copies : List PacketUp) (hP : ∀ q ∈ p :: copies, P q)
        (hHash : ∀ q ∈ copies, q.hash c = p.hash c) :
        ¬ ((∃ e, c.parse p.packet.payload = .error e) ∨ p.Routable c ∧
          (¬ p.Describable c ∨ ∃ copy ∈ p :: copies, copy.packet.gateway = [])) := by
      intro hReason
      refine not_panicked_of_survives h hP hHash settings.roaming ?_
      rw [makePrStartReq_panicked]
      intro first hFirst
      cases hFirst
      exact hReason
    have hAlone (p : PacketUp) (hp : P p) := hGroup p [] (by simpa using hp) (by simp)
    refine ⟨fun p hp => ?_, fun p hp hRoutable => ?_, fun p q hp hq hRoutable hHash hGateway => ?_⟩
    · cases hParse : c.parse p.packet.payload with
      | ok phy => exact ⟨phy, rfl⟩
      | error e => exact absurd (.inl ⟨e, hParse⟩) (hAlone p hp)
    · by_contra hDescribable
      exact hAlone p hp (.inr ⟨hRoutable, .inl hDescribable⟩)
    · have hPair : ∀ r ∈ [p, q], P r := by simp [hp, hq]
      exact hGroup p [q] hPair (by simpa using hHash) (.inr ⟨hRoutable, .inr ⟨q, by simp, hGateway⟩⟩)
  · intro hP events s run hArrive
    exact (holds_of_run run hArrive).survives (fun hash => lifecycle_of_run run hash) hP

/-- An uplink with an empty payload is accepted, and ends the service when its
deduplication timer has elapsed. -/
theorem emptyUplink_panics :
    (∃ e, Crates.sample.parse [] = .error e) ∧
      ∃ s, Runs Crates.sample .sample
          [.arrive (.uplink (.sample [] [0])), .turn, .timer 0, .timer 0] s ∧
        s.Panicking Crates.sample ∧ ¬ s.Survives Crates.sample := by
  refine ⟨⟨_, rfl⟩, _, run_of_exec rfl, ?_, ?_⟩
  · exact ⟨_, _, _, rfl, rfl⟩
  · intro h
    obtain ⟨app, action, hMsg, -⟩ := h _ _ rfl
    cases hMsg

end Service

end PacketRouter.HttpRoaming
