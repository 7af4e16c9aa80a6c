import PacketRouterIngest.Gwmp.Forwarding

/-! The UDP runtimes that the app has started. A runtime is stopped by its
trigger, which the app keeps with the forwarder; replacing a forwarder forgets
the trigger of a runtime that goes on running. -/
namespace PacketRouter.Gwmp

open Rust Semantics

/-- The loop of `start`, fed with any messages: the app and the turns taken. -/
structure Service where
  app : App
  log : List Turn

/-- A message, and what is outside the app when it is handled. -/
structure Input where
  env : Environment
  closed : GatewayTx → Bool
  msg : Msg

/-- The MAC was connected, and not disconnected since. -/
def Connected (mac : GatewayMac) (msgs : List Msg) : Prop :=
  ∃ before gateway after, msgs = before ++ .gatewayConnect gateway :: after ∧ gateway.mac = mac ∧
    ∀ other, .gatewayDisconnect other ∈ after → other.mac ≠ mac

theorem connected_append_singleton {mac : GatewayMac} {msgs : List Msg} {msg : Msg} :
    Connected mac (msgs ++ [msg]) ↔
      (∃ gateway, msg = .gatewayConnect gateway ∧ gateway.mac = mac) ∨
      Connected mac msgs ∧ ∀ other, msg = .gatewayDisconnect other → other.mac ≠ mac := by
  constructor
  · rintro ⟨before, gateway, after, hSplit, hMac, hStays⟩
    obtain ⟨-, -, hMsg⟩ | ⟨after, rfl, hMsgs⟩ := snoc_eq_append_cons.mp hSplit
    · exact .inl ⟨gateway, hMsg.symm, hMac⟩
    · refine .inr ⟨⟨before, gateway, after, hMsgs, hMac, fun other hMem => ?_⟩, ?_⟩
      · exact hStays other (List.mem_append_left _ hMem)
      · rintro other rfl
        exact hStays other (by simp)
  · rintro (⟨gateway, rfl, hMac⟩ | ⟨⟨before, gateway, after, rfl, hMac, hStays⟩, hLast⟩)
    · exact ⟨msgs, gateway, [], rfl, hMac, by simp⟩
    · refine ⟨before, gateway, after ++ [msg], by simp, hMac, fun other hMem => ?_⟩
      rcases List.mem_append.mp hMem with hMem | hMem
      · exact hStays other hMem
      · exact hLast other (List.mem_singleton.mp hMem).symm

namespace Service

def init (settings : GwmpSettings) : Service := ⟨.new settings, []⟩

/-- Handle one message and carry out the side effect it asks for. -/
def step (c : Crates) (u : UdpCrates) (s : Service) (input : Input) : Option Service :=
  match handleMessage c u input.env s.app input.msg with
  | .error _ => none
  | .ok (app, action) =>
      match handleUpdateAction c u input.env input.closed action with
      | .error _ => none
      | .ok effects => some ⟨app, s.log ++ [⟨input.msg, action, effects⟩]⟩

abbrev Runs (c : Crates) (u : UdpCrates) (settings : GwmpSettings) (inputs : List Input)
    (s : Service) : Prop :=
  Run (step c u) (init settings) inputs s

/-- The runtimes that were started, each with the trigger that would stop it. -/
def started (s : Service) : List (Gateway × UdpRuntime × Trigger) :=
  s.log.flatMap (fun turn => turn.effects.spawned)

/-- The runtimes that were started and not stopped are those of the stored
forwarders, one for each. -/
structure NoOrphan (s : Service) : Prop where
  held : ∀ gateway runtime trigger, (gateway, runtime, trigger) ∈ s.started →
    trigger ∉ s.app.fired →
    s.app.forwardChans.lookup gateway.mac = some ⟨runtime, trigger⟩
  running : ∀ mac forwarder, s.app.forwardChans.lookup mac = some forwarder →
    (∃ gateway, gateway.mac = mac ∧
      (gateway, forwarder.tx, forwarder.shutdownTrigger) ∈ s.started) ∧
    forwarder.shutdownTrigger ∉ s.app.fired
  once : (s.started.map fun line => line.2.2).Nodup

/-- Every forwarder comes from a runtime that was started, and every runtime
has a trigger of its own. -/
structure Tracked (s : Service) : Prop where
  armed : s.app.Armed
  backed : ∀ mac forwarder, s.app.forwardChans.lookup mac = some forwarder →
    ∃ gateway, gateway.mac = mac ∧ (gateway, forwarder.tx, forwarder.shutdownTrigger) ∈ s.started
  numbered : s.started.map (fun line => line.2.2) = (List.range s.app.triggers).map Trigger.mk

section

variable {c : Crates} {u : UdpCrates} {s t : Service} {input : Input}

/-- Only a new forwarder makes the app start a runtime. -/
theorem spawned_handleUpdateAction {env : Environment} {closed : GatewayTx → Bool}
    {action : UpdateAction} {effects : Effects}
    (h : handleUpdateAction c u env closed action = .ok effects) :
    (∃ gateway runtime listener, action = .newForwarder gateway runtime listener ∧
      effects.spawned = [(gateway, runtime, listener)]) ∨
    (∀ gateway runtime listener, action ≠ .newForwarder gateway runtime listener) ∧
      effects.spawned = [] := by
  cases action with
  | noop =>
      cases h
      exact .inr ⟨nofun, rfl⟩
  | newForwarder gateway runtime listener =>
      cases h
      exact .inl ⟨gateway, runtime, listener, rfl, rfl⟩
  | uplink forwarder packet =>
      right
      simp only [handleUpdateAction, panics_bind_eq_ok] at h
      obtain ⟨data, -, hSent⟩ := h
      split_ifs at hSent
      cases hSent
      exact ⟨nofun, rfl⟩
  | downlink gateway request =>
      right
      simp only [handleUpdateAction, panics_bind_eq_ok] at h
      obtain ⟨downlink, -, hSent⟩ := h
      cases hSent
      exact ⟨nofun, rfl⟩

/-- A message is handled and then its side effect is carried out. -/
theorem step_eq_some (h : step c u s input = some t) :
    ∃ app action effects, handleMessage c u input.env s.app input.msg = .ok (app, action) ∧
      handleUpdateAction c u input.env input.closed action = .ok effects ∧
      t = ⟨app, s.log ++ [⟨input.msg, action, effects⟩]⟩ := by
  simp only [step] at h
  split at h
  · cases h
  · next app action hMsg =>
      split at h
      · cases h
      · next effects hAction =>
          cases h
          exact ⟨app, action, effects, hMsg, hAction, rfl⟩

/-- Everything one message can do to the app and the runtimes. -/
theorem step_cases (h : step c u s input = some t) :
    (∃ gateway runtime, input.msg = .gatewayConnect gateway ∧
      t.app = (s.app.addGateway gateway runtime).1 ∧
      t.started = s.started ++ [(gateway, runtime, ⟨s.app.triggers⟩)]) ∨
    (∃ gateway forwarder, input.msg = .gatewayDisconnect gateway ∧
      s.app.forwardChans.lookup gateway.mac = some forwarder ∧
      t.app = { s.app with
        forwardChans := s.app.forwardChans.erase gateway.mac
        fired := forwarder.shutdownTrigger :: s.app.fired } ∧
      t.started = s.started) ∨
    ((∀ gateway, input.msg ≠ .gatewayConnect gateway) ∧
      (∀ gateway, input.msg = .gatewayDisconnect gateway →
        s.app.forwardChans.lookup gateway.mac = none) ∧
      t.app = s.app ∧ t.started = s.started) := by
  obtain ⟨app, action, effects, hMsg, hAction, rfl⟩ := step_eq_some h
  have hStarted : (⟨app, s.log ++ [⟨input.msg, action, effects⟩]⟩ : Service).started =
      s.started ++ effects.spawned := by
    simp [started]
  rw [hStarted]
  have hSpawned := spawned_handleUpdateAction hAction
  obtain ⟨gateway, runtime, hConnect, rfl, rfl⟩ |
    ⟨gateway, forwarder, hDisconnect, hForwarder, rfl, rfl⟩ |
    ⟨gateway, hDisconnect, hNone, rfl, rfl⟩ | ⟨packet, mac, hUplink, -, rfl, rfl⟩ |
    ⟨gateway, request, hDownlink, rfl, rfl⟩ := handleMessage_cases hMsg
  · obtain ⟨_, _, _, hSame, hSpawned⟩ | ⟨hOther, -⟩ := hSpawned
    · cases hSame
      exact .inl ⟨gateway, runtime, hConnect, rfl, by rw [hSpawned]⟩
    · exact absurd rfl (hOther _ _ _)
  · have hNothing : effects.spawned = [] := by simpa using hSpawned
    rw [hNothing, List.append_nil]
    exact .inr (.inl ⟨gateway, forwarder, hDisconnect, hForwarder, rfl, rfl⟩)
  · have hNothing : effects.spawned = [] := by simpa using hSpawned
    rw [hNothing, List.append_nil]
    refine .inr (.inr ⟨by simp [hDisconnect], fun other hOther => ?_, rfl, rfl⟩)
    obtain rfl : gateway = other := Msg.gatewayDisconnect.inj (hDisconnect.symm.trans hOther)
    exact hNone
  · have hNothing : effects.spawned = [] := by
      cases hLookup : s.app.forwardChans.lookup mac <;> simpa [hLookup] using hSpawned
    rw [hNothing, List.append_nil]
    exact .inr (.inr ⟨by simp [hUplink], by simp [hUplink], rfl, rfl⟩)
  · have hNothing : effects.spawned = [] := by simpa using hSpawned
    rw [hNothing, List.append_nil]
    exact .inr (.inr ⟨by simp [hDownlink], by simp [hDownlink], rfl, rfl⟩)

theorem tracked_init (settings : GwmpSettings) : (init settings).Tracked where
  armed := App.armed_new settings
  backed := by
    intro mac forwarder h
    cases h
  numbered := rfl

/-- Every message keeps track of the runtimes. -/
theorem Tracked.step (h : s.Tracked) (hStep : Service.step c u s input = some t) : t.Tracked := by
  have hArmed : t.app.Armed := by
    obtain ⟨app, action, effects, hMsg, -, rfl⟩ := step_eq_some hStep
    exact h.armed.handleMessage hMsg
  obtain ⟨gateway, runtime, -, hApp, hStarted⟩ | ⟨gateway, forwarder, -, -, hApp, hStarted⟩ |
    ⟨-, -, hApp, hStarted⟩ := step_cases hStep
  · refine ⟨hArmed, fun mac forwarder hForwarder => ?_, ?_⟩
    · rw [hApp, App.lookup_addGateway] at hForwarder
      rw [hStarted]
      split_ifs at hForwarder with hMac
      · cases hForwarder
        exact ⟨gateway, hMac.symm, by simp⟩
      · obtain ⟨own, hOwn, hMem⟩ := h.backed mac forwarder hForwarder
        exact ⟨own, hOwn, List.mem_append_left _ hMem⟩
    · rw [hStarted, hApp, List.map_append, h.numbered]
      change _ = (List.range (s.app.triggers + 1)).map Trigger.mk
      rw [List.range_succ, List.map_append]
      rfl
  · refine ⟨hArmed, fun mac other hOther => ?_, ?_⟩
    · rw [hApp] at hOther
      rw [hStarted]
      by_cases hMac : mac = gateway.mac
      · rw [hMac, AList.lookup_erase] at hOther
        cases hOther
      · rw [AList.lookup_erase_ne hMac] at hOther
        exact h.backed mac other hOther
    · rw [hStarted, hApp]
      exact h.numbered
  · refine ⟨hArmed, fun mac other hOther => ?_, ?_⟩
    · rw [hApp] at hOther
      rw [hStarted]
      exact h.backed mac other hOther
    · rw [hStarted, hApp]
      exact h.numbered

/-- No two runtimes share a trigger. -/
theorem Tracked.eq_of_trigger (h : s.Tracked) {first second : Gateway × UdpRuntime × Trigger}
    (hFirst : first ∈ s.started) (hSecond : second ∈ s.started)
    (hSame : first.2.2 = second.2.2) : first = second := by
  have hNodup : (s.started.map fun line => line.2.2).Nodup := by
    rw [h.numbered]
    exact List.Nodup.map (fun _ _ hId => Trigger.mk.inj hId) List.nodup_range
  exact List.inj_on_of_nodup_map hNodup hFirst hSecond hSame

/-- The triggers so far have smaller numbers than the next one. -/
theorem Tracked.trigger_lt (h : s.Tracked) {line : Gateway × UdpRuntime × Trigger}
    (hLine : line ∈ s.started) : line.2.2.id < s.app.triggers := by
  have hMem : line.2.2 ∈ s.started.map fun line => line.2.2 := List.mem_map_of_mem hLine
  rw [h.numbered, List.mem_map] at hMem
  obtain ⟨number, hNumber, hTrigger⟩ := hMem
  rw [← hTrigger]
  exact List.mem_range.mp hNumber

/-- Every runtime that was not stopped has a forwarder. -/
def Held (s : Service) : Prop :=
  ∀ gateway runtime trigger, (gateway, runtime, trigger) ∈ s.started → trigger ∉ s.app.fired →
    s.app.forwardChans.lookup gateway.mac = some ⟨runtime, trigger⟩

theorem Tracked.noOrphan_iff_held (h : s.Tracked) : s.NoOrphan ↔ s.Held := by
  refine ⟨NoOrphan.held, fun hHeld => ⟨hHeld, fun mac forwarder hForwarder => ?_, ?_⟩⟩
  · exact ⟨h.backed mac forwarder hForwarder, h.armed.unfired mac forwarder hForwarder⟩
  · rw [h.numbered]
    exact List.Nodup.map (fun _ _ hId => Trigger.mk.inj hId) List.nodup_range

/-- Connecting a gateway keeps a forwarder for every runtime exactly if the
MAC had none. -/
theorem Tracked.held_connect {gateway : Gateway} {runtime : UdpRuntime} (h : s.Tracked)
    (hApp : t.app = (s.app.addGateway gateway runtime).1)
    (hStarted : t.started = s.started ++ [(gateway, runtime, ⟨s.app.triggers⟩)]) :
    t.Held ↔ s.Held ∧ s.app.forwardChans.lookup gateway.mac = none := by
  have hFired : t.app.fired = s.app.fired := by rw [hApp]; rfl
  have hLookup (mac : GatewayMac) : t.app.forwardChans.lookup mac =
      if mac = gateway.mac then some ⟨runtime, ⟨s.app.triggers⟩⟩
      else s.app.forwardChans.lookup mac := by
    rw [hApp, App.lookup_addGateway]
  constructor
  · intro hHeld
    -- The forwarder of an earlier runtime cannot be the new one.
    have hOther (own : Gateway) (old : UdpRuntime) (trigger : Trigger)
        (hMem : (own, old, trigger) ∈ s.started) (hRuns : trigger ∉ s.app.fired) :
        own.mac ≠ gateway.mac ∧ s.app.forwardChans.lookup own.mac = some ⟨old, trigger⟩ := by
      have hNow := hHeld own old trigger (by simp [hStarted, hMem]) (by rwa [hFired])
      rw [hLookup] at hNow
      split_ifs at hNow with hMac
      · cases hNow
        exact absurd (h.trigger_lt hMem) (lt_irrefl _)
      · exact ⟨hMac, hNow⟩
    refine ⟨fun own old trigger hMem hRuns => (hOther own old trigger hMem hRuns).2, ?_⟩
    cases hOld : s.app.forwardChans.lookup gateway.mac with
    | none => rfl
    | some forwarder =>
        obtain ⟨own, hMac, hMem⟩ := h.backed gateway.mac forwarder hOld
        exact absurd hMac (hOther own _ _ hMem (h.armed.unfired _ _ hOld)).1
  · rintro ⟨hHeld, hNone⟩ own old trigger hMem hRuns
    rw [hFired] at hRuns
    rw [hLookup]
    rw [hStarted] at hMem
    rcases List.mem_append.mp hMem with hMem | hMem
    · have hOwn := hHeld own old trigger hMem hRuns
      rw [if_neg, hOwn]
      intro hMac
      rw [hMac, hNone] at hOwn
      cases hOwn
    · cases List.mem_singleton.mp hMem
      rw [if_pos rfl]

/-- Stopping the runtime of a removed forwarder leaves the others as they were. -/
theorem Tracked.held_disconnect {gateway : Gateway} {forwarder : UDPForwarder} (h : s.Tracked)
    (hForwarder : s.app.forwardChans.lookup gateway.mac = some forwarder)
    (hApp : t.app = { s.app with
      forwardChans := s.app.forwardChans.erase gateway.mac
      fired := forwarder.shutdownTrigger :: s.app.fired })
    (hStarted : t.started = s.started) : t.Held ↔ s.Held := by
  have hFired : t.app.fired = forwarder.shutdownTrigger :: s.app.fired := by rw [hApp]
  have hChans : t.app.forwardChans = s.app.forwardChans.erase gateway.mac := by rw [hApp]
  constructor
  · intro hHeld own runtime trigger hMem hRuns
    by_cases hOwn : trigger = forwarder.shutdownTrigger
    · obtain ⟨holder, hMac, hBacked⟩ := h.backed gateway.mac forwarder hForwarder
      obtain ⟨rfl, rfl, rfl⟩ : own = holder ∧ runtime = forwarder.tx ∧
          trigger = forwarder.shutdownTrigger := by
        simpa using h.eq_of_trigger hMem hBacked hOwn
      rw [hMac, hForwarder]
    · have hNow := hHeld own runtime trigger (by rwa [hStarted]) (by simp [hFired, hOwn, hRuns])
      rw [hChans] at hNow
      by_cases hMac : own.mac = gateway.mac
      · rw [hMac, AList.lookup_erase] at hNow
        cases hNow
      · rwa [AList.lookup_erase_ne hMac] at hNow
  · intro hHeld own runtime trigger hMem hRuns
    rw [hStarted] at hMem
    rw [hFired, List.mem_cons, not_or] at hRuns
    have hOwn := hHeld own runtime trigger hMem hRuns.2
    have hMac : own.mac ≠ gateway.mac := by
      intro hMac
      rw [hMac, hForwarder] at hOwn
      cases hOwn
      exact hRuns.1 rfl
    rw [hChans, AList.lookup_erase_ne hMac, hOwn]

theorem Tracked.held_step (h : s.Tracked) (hStep : Service.step c u s input = some t) :
    t.Held ↔ s.Held ∧ ∀ gateway, input.msg = .gatewayConnect gateway →
      s.app.forwardChans.lookup gateway.mac = none := by
  obtain ⟨gateway, runtime, hMsg, hApp, hStarted⟩ | ⟨gateway, forwarder, hMsg, hForwarder, hApp, hStarted⟩ |
    ⟨hMsg, -, hApp, hStarted⟩ := step_cases hStep
  · rw [h.held_connect hApp hStarted]
    simp [hMsg]
  · rw [h.held_disconnect hForwarder hApp hStarted]
    simp [hMsg]
  · rw [Held, Held, hApp, hStarted]
    simp [hMsg]

end

section

variable {c : Crates} {u : UdpCrates} {settings : GwmpSettings} {inputs : List Input} {s : Service}

theorem tracked_of_run (run : Runs c u settings inputs s) : s.Tracked :=
  run.invariant Tracked (tracked_init settings) (fun _ _ _ _ h hStep => h.step hStep)

/-- The app has a forwarder for the MACs that are connected. -/
theorem forwarder_iff (run : Runs c u settings inputs s) (mac : GatewayMac) :
    (∃ forwarder, s.app.forwardChans.lookup mac = some forwarder) ↔
      Connected mac (inputs.map Input.msg) := by
  induction run with
  | nil => simp [init, App.new, Connected]
  | @snoc inputs middle finish input prior last ih =>
      rw [List.map_append, List.map_singleton, connected_append_singleton, ← ih]
      obtain ⟨gateway, runtime, hMsg, hApp, -⟩ | ⟨gateway, forwarder, hMsg, -, hApp, -⟩ |
        ⟨hConnect, hDisconnect, hApp, -⟩ := step_cases last
      · rw [hApp, App.lookup_addGateway, hMsg]
        by_cases hMac : mac = gateway.mac
        · simp [hMac]
        · simp [hMac, Ne.symm hMac]
      · rw [hApp, hMsg]
        by_cases hMac : mac = gateway.mac
        · rw [hMac, AList.lookup_erase]
          simp
        · rw [AList.lookup_erase_ne hMac]
          simp [Ne.symm hMac]
      · rw [hApp]
        simp only [hConnect, false_and, exists_false, false_or]
        refine ⟨fun hSome => ⟨hSome, fun other hOther hMac => ?_⟩, And.left⟩
        obtain ⟨forwarder, hForwarder⟩ := hSome
        rw [← hMac, hDisconnect other hOther] at hForwarder
        cases hForwarder

/-- **No orphans.** In a run the runtimes that were started and not stopped are
those of the stored forwarders, one for each, exactly if no gateway was
connected whose MAC was connected already. -/
theorem noOrphan_iff (run : Runs c u settings inputs s) :
    s.NoOrphan ↔ ∀ before input after gateway, inputs = before ++ input :: after →
      input.msg = .gatewayConnect gateway → ¬ Connected gateway.mac (before.map Input.msg) := by
  have hEvery := run.iff_every_step (P := Held)
    (G := fun s input => ∀ gateway, input.msg = .gatewayConnect gateway →
      s.app.forwardChans.lookup gateway.mac = none)
    (by simp [Held, init, started]) (fun _ _ _ _ prior hStep => (tracked_of_run prior).held_step hStep)
  rw [(tracked_of_run run).noOrphan_iff_held, hEvery]
  constructor
  · intro h before input after gateway hSplit hMsg hConnected
    subst hSplit
    obtain ⟨middle, prior, -⟩ := run.split
    obtain ⟨forwarder, hForwarder⟩ := (forwarder_iff prior gateway.mac).mpr hConnected
    rw [h before input after middle rfl prior gateway hMsg] at hForwarder
    cases hForwarder
  · intro h before input after middle hSplit prior gateway hMsg
    have hNot := h before input after gateway hSplit hMsg
    rw [← forwarder_iff prior] at hNot
    exact Option.eq_none_iff_forall_ne_some.mpr fun forwarder hForwarder => hNot ⟨forwarder, hForwarder⟩

end

/-- A gateway that connects again leaves its first runtime behind. -/
theorem reconnected_orphan :
    ∃ s, Runs Crates.sample .sample .sample
        [⟨.sample, fun _ => false, .gatewayConnect (.sample ⟨0⟩)⟩,
          ⟨.sample, fun _ => false, .gatewayConnect (.sample ⟨1⟩)⟩] s ∧
      s.started.length = 2 ∧ s.app.fired = [] ∧ s.app.gatewayCount = 1 ∧ ¬ s.NoOrphan := by
  obtain ⟨s, run, hStarted, hFired, hCount, hLookup⟩ : ∃ s, Runs Crates.sample .sample .sample
      [⟨.sample, fun _ => false, .gatewayConnect (.sample ⟨0⟩)⟩,
        ⟨.sample, fun _ => false, .gatewayConnect (.sample ⟨1⟩)⟩] s ∧
      s.started = [(.sample ⟨0⟩, ⟨0⟩, ⟨0⟩), (.sample ⟨1⟩, ⟨0⟩, ⟨1⟩)] ∧ s.app.fired = [] ∧
      s.app.gatewayCount = 1 ∧
      s.app.forwardChans.lookup (Gateway.sample ⟨0⟩).mac = some ⟨⟨0⟩, ⟨1⟩⟩ :=
    ⟨_, run_of_exec rfl, rfl, rfl, rfl, rfl⟩
  refine ⟨s, run, by rw [hStarted]; rfl, hFired, hCount, fun hNone => ?_⟩
  have hFirst := hNone.held (.sample ⟨0⟩) ⟨0⟩ ⟨0⟩ (by simp [hStarted]) (by simp [hFired])
  rw [hLookup] at hFirst
  cases hFirst

/-- A gateway that leaves before it connects again does not. -/
theorem sample_noOrphan :
    ∃ s, Runs Crates.sample .sample .sample
        [⟨.sample, fun _ => false, .gatewayConnect (.sample ⟨0⟩)⟩,
          ⟨.sample, fun _ => false, .gatewayDisconnect (.sample ⟨0⟩)⟩,
          ⟨.sample, fun _ => false, .gatewayConnect (.sample ⟨1⟩)⟩] s ∧
      s.started.length = 2 ∧ s.NoOrphan := by
  obtain ⟨s, run, hStarted⟩ : ∃ s, Runs Crates.sample .sample .sample
      [⟨.sample, fun _ => false, .gatewayConnect (.sample ⟨0⟩)⟩,
        ⟨.sample, fun _ => false, .gatewayDisconnect (.sample ⟨0⟩)⟩,
        ⟨.sample, fun _ => false, .gatewayConnect (.sample ⟨1⟩)⟩] s ∧ s.started.length = 2 :=
    ⟨_, run_of_exec rfl, rfl⟩
  refine ⟨s, run, hStarted, (noOrphan_iff run).mpr ?_⟩
  rintro before input after gateway hSplit hMsg hConnected
  obtain ⟨earlier, first, later, hEarlier, -, hStays⟩ := hConnected
  -- Only the second connect has another before it, and the disconnect lies between.
  rcases before with _ | ⟨x, _ | ⟨y, _ | ⟨z, before⟩⟩⟩
  · simp at hEarlier
  · obtain ⟨-, rfl, -⟩ : _ ∧ _ = input ∧ _ := by simpa using hSplit
    cases hMsg
  · obtain ⟨rfl, rfl, rfl, -⟩ : _ = x ∧ _ = y ∧ _ = input ∧ _ := by simpa using hSplit
    cases hMsg
    rcases earlier with _ | ⟨x, _ | ⟨y, earlier⟩⟩
    · obtain ⟨-, rfl⟩ : _ ∧ _ = later := by simpa using hEarlier
      exact hStays (.sample ⟨0⟩) (by simp) rfl
    · simp at hEarlier
    · simp at hEarlier
  · simp at hSplit

end Service

end PacketRouter.Gwmp
