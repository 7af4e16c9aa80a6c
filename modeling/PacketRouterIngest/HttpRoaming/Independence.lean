import PacketRouterIngest.HttpRoaming.Service
import PacketRouterIngest.Semantics.Separation

/-! Messages about different packets and gateways do not interfere. Each is
about one hash or one gateway, and the app keeps a bucket for every hash and a
channel for every gateway. -/
namespace PacketRouter.HttpRoaming

open Rust Semantics

/-- What a message is about. -/
inductive Subject where
  | hash (hash : PacketHash)
  | gateway (gw : GatewayB58)
deriving DecidableEq, Repr

/-- What the app keeps about a subject: a bucket, or the channel of a gateway. -/
def Subject.Component : Subject → Type
  | .hash _ => Option (List PacketUp)
  | .gateway _ => Option GatewayTx

def Msg.subject (c : Crates) : Msg → Subject
  | .uplinkReceive packet => .hash (packet.hash c)
  | .uplinkSend hash | .uplinkCleanup hash => .hash hash
  | .downlink packet => .gateway packet.gatewayB58
  | .gatewayConnect gw _ | .gatewayDisconnect gw => .gateway gw

def App.component (app : App) : (subject : Subject) → subject.Component
  | .hash hash => app.deduplicator.getPackets hash
  | .gateway gw => app.gatewayMap.lookup gw

/-- The messages about one subject, in their order. -/
def about (c : Crates) (subject : Subject) (msgs : List Msg) : List Msg :=
  msgs.filter (fun msg => msg.subject c = subject)

/-- The action starts the timer of the hash, or sends its group. -/
def actionForHash (hash : PacketHash) : Msg × UpdateAction → Option UpdateAction
  | (_, .startTimerForNewPacket own) =>
      if own = hash then some (.startTimerForNewPacket own) else none
  | (.uplinkSend own, .uplinkSend request) => if own = hash then some (.uplinkSend request) else none
  | _ => none

/-- The action sends a downlink for the gateway, or reports it as failed. -/
def actionForGateway (gw : GatewayB58) : Msg × UpdateAction → Option UpdateAction
  | (_, .downlinkSend tx packet response) =>
      if packet.gatewayB58 = gw then some (.downlinkSend tx packet response) else none
  | (.downlink packet, .downlinkError response) =>
      if packet.gatewayB58 = gw then some (.downlinkError response) else none
  | _ => none

/-- The same settings, the same buckets and the same channels. The order of
the entries of a hash map is of no account. -/
structure App.Same (app app' : App) : Prop where
  settings : app'.settings = app.settings
  packets : app'.deduplicator.packets.entries.Perm app.deduplicator.packets.entries
  gatewayMap : app'.gatewayMap.entries.Perm app.gatewayMap.entries

section

variable {c : Crates} {app app' other : App} {msg : Msg} {action : UpdateAction}
  {trace : List (Msg × UpdateAction)} {msgs : List Msg}

theorem sendGroup_congr (hSettings : other.settings = app.settings) (packets : List PacketUp) :
    sendGroup c other packets = sendGroup c app packets := by
  rw [sendGroup, hSettings]
  rfl

/-- A message leads to the same action in every app that agrees with this one
on its subject. -/
theorem handleMessage_congr (hMsg : handleMessage c app msg = .ok (app', action))
    (hSettings : other.settings = app.settings)
    (hSubject : other.component (msg.subject c) = app.component (msg.subject c)) :
    ∃ other', handleMessage c other msg = .ok (other', action) := by
  cases msg with
  | uplinkReceive packet =>
      have hBucket : other.deduplicator.getPackets (packet.hash c) =
          app.deduplicator.getPackets (packet.hash c) := hSubject
      rw [handleMessage_uplinkReceive, Except.ok.injEq, Prod.mk.injEq] at hMsg
      obtain ⟨-, rfl⟩ := hMsg
      rw [← hBucket]
      exact ⟨_, handleMessage_uplinkReceive packet⟩
  | uplinkSend hash =>
      have hBucket : other.deduplicator.getPackets hash = app.deduplicator.getPackets hash := hSubject
      obtain ⟨-, hAction⟩ := handleMessage_uplinkSend.mp hMsg
      refine ⟨other, handleMessage_uplinkSend.mpr ⟨rfl, ?_⟩⟩
      simp only [hBucket, sendGroup_congr hSettings]
      exact hAction
  | downlink packet =>
      have hChannel : other.gatewayMap.lookup packet.gatewayB58 =
          app.gatewayMap.lookup packet.gatewayB58 := hSubject
      rw [handleMessage_downlink, Except.ok.injEq, Prod.mk.injEq] at hMsg
      refine ⟨other, ?_⟩
      rw [handleMessage_downlink, hChannel, hMsg.2]
  | uplinkCleanup | gatewayConnect | gatewayDisconnect =>
      cases hMsg
      exact ⟨_, rfl⟩

/-- What a message makes of a component depends on that component only. -/
theorem component_handleMessage_congr {other' : App} (subject : Subject)
    (hMsg : handleMessage c app msg = .ok (app', action))
    (hOther : handleMessage c other msg = .ok (other', action))
    (hSubject : other.component subject = app.component subject) :
    other'.component subject = app'.component subject := by
  cases subject with
  | hash hash =>
      have hBucket : other.deduplicator.getPackets hash = app.deduplicator.getPackets hash := hSubject
      change other'.deduplicator.getPackets hash = app'.deduplicator.getPackets hash
      rw [getPackets_handleMessage hash hOther, getPackets_handleMessage hash hMsg, hBucket]
  | gateway gw =>
      have hChannel : other.gatewayMap.lookup gw = app.gatewayMap.lookup gw := hSubject
      change other'.gatewayMap.lookup gw = app'.gatewayMap.lookup gw
      rw [gatewayMap_handleMessage gw hOther, gatewayMap_handleMessage gw hMsg, hChannel]

/-- A message changes nothing about the other subjects. -/
theorem component_handleMessage_of_ne {subject : Subject}
    (hMsg : handleMessage c app msg = .ok (app', action)) (hOther : subject ≠ msg.subject c) :
    app'.component subject = app.component subject := by
  cases subject with
  | hash hash =>
      refine (getPackets_handleMessage hash hMsg).trans ?_
      cases msg with
      | uplinkReceive packet => exact if_neg fun hHash => hOther (congrArg Subject.hash hHash)
      | uplinkCleanup removed => exact if_neg fun hHash => hOther (congrArg Subject.hash hHash)
      | uplinkSend | downlink | gatewayConnect | gatewayDisconnect => rfl
  | gateway gw =>
      refine (gatewayMap_handleMessage gw hMsg).trans ?_
      cases msg with
      | gatewayConnect own tx => exact if_neg fun hGw => hOther (congrArg Subject.gateway hGw)
      | gatewayDisconnect own => exact if_neg fun hGw => hOther (congrArg Subject.gateway hGw)
      | uplinkReceive | uplinkSend | uplinkCleanup | downlink => rfl

/-- The app falls apart into buckets and channels. -/
theorem separable_handleMessage (c : Crates) :
    Separable (handleMessage c) (Msg.subject c) App.component App.settings where
  frame _ hMsg hOther := component_handleMessage_of_ne hMsg hOther
  shares hMsg := settings_handleMessage hMsg
  own := by
    intro app other app' msg action hMsg hSettings hSubject
    obtain ⟨other', hOther⟩ := handleMessage_congr hMsg hSettings hSubject
    exact ⟨other', hOther, component_handleMessage_congr _ hMsg hOther hSubject⟩

/-- A timer is started, and a group is sent, by messages about its hash. -/
theorem subject_of_actionForHash {hash : PacketHash}
    (hMsg : handleMessage c app msg = .ok (app', action))
    (hAction : actionForHash hash (msg, action) ≠ none) : msg.subject c = .hash hash := by
  cases msg with
  | uplinkReceive packet =>
      rw [handleMessage_uplinkReceive, Except.ok.injEq, Prod.mk.injEq] at hMsg
      obtain ⟨-, rfl⟩ := hMsg
      split_ifs at hAction
      · simpa [actionForHash, Msg.subject] using hAction
      · simp [actionForHash] at hAction
  | uplinkSend own =>
      obtain ⟨-, ⟨-, rfl⟩ | ⟨packets, -, hGroup⟩⟩ := handleMessage_uplinkSend.mp hMsg
      · simp [actionForHash] at hAction
      · obtain ⟨body, -, rfl⟩ | ⟨-, rfl⟩ := sendGroup_eq_ok.mp hGroup
        · simpa [actionForHash, Msg.subject] using hAction
        · simp [actionForHash] at hAction
  | downlink packet =>
      rw [handleMessage_downlink, Except.ok.injEq, Prod.mk.injEq] at hMsg
      obtain ⟨-, rfl⟩ := hMsg
      cases hTx : app.gatewayMap.lookup packet.gatewayB58 <;> simp [actionForHash, hTx] at hAction
  | uplinkCleanup | gatewayConnect | gatewayDisconnect =>
      cases hMsg
      simp [actionForHash] at hAction

/-- A downlink is sent, or reported as failed, by messages about its gateway. -/
theorem subject_of_actionForGateway {gw : GatewayB58}
    (hMsg : handleMessage c app msg = .ok (app', action))
    (hAction : actionForGateway gw (msg, action) ≠ none) : msg.subject c = .gateway gw := by
  cases msg with
  | uplinkReceive packet =>
      rw [handleMessage_uplinkReceive, Except.ok.injEq, Prod.mk.injEq] at hMsg
      obtain ⟨-, rfl⟩ := hMsg
      split_ifs at hAction <;> simp [actionForGateway] at hAction
  | uplinkSend own =>
      obtain ⟨-, ⟨-, rfl⟩ | ⟨packets, -, hGroup⟩⟩ := handleMessage_uplinkSend.mp hMsg
      · simp [actionForGateway] at hAction
      · obtain ⟨body, -, rfl⟩ | ⟨-, rfl⟩ := sendGroup_eq_ok.mp hGroup <;>
          simp [actionForGateway] at hAction
  | downlink packet =>
      rw [handleMessage_downlink, Except.ok.injEq, Prod.mk.injEq] at hMsg
      obtain ⟨-, rfl⟩ := hMsg
      cases hTx : app.gatewayMap.lookup packet.gatewayB58 <;>
        simpa [actionForGateway, Msg.subject, hTx] using hAction
  | uplinkCleanup | gatewayConnect | gatewayDisconnect =>
      cases hMsg
      simp [actionForGateway] at hAction

/-- A selection of lines that are all about one subject reads that subject's
part of the trace only. -/
theorem filterMap_about {β : Type} {subject : Subject} {select : Msg × UpdateAction → Option β}
    (hAll : performAll (handleMessage c) app msgs = .ok (app', trace))
    (hSelect : ∀ {before after : App} {msg action},
      handleMessage c before msg = .ok (after, action) → select (msg, action) ≠ none →
      msg.subject c = subject) :
    (trace.filter (fun line => line.1.subject c = subject)).filterMap select =
      trace.filterMap select := by
  rw [List.filterMap_filter]
  refine List.filterMap_congr fun line hLine => ?_
  obtain ⟨msg, action⟩ := line
  obtain ⟨before, after, hMsg⟩ := step_of_mem_trace hAll hLine
  by_cases hNone : select (msg, action) = none
  · simp [hNone]
  · simp [hSelect hMsg hNone]

theorem same_of_component (hSettings : other.settings = app.settings)
    (hComponents : ∀ subject, other.component subject = app.component subject) :
    app.Same other where
  settings := hSettings
  packets := by
    refine List.lookup_ext other.deduplicator.packets.nodupKeys app.deduplicator.packets.nodupKeys ?_
    intro hash bucket
    have hBucket := hComponents (.hash hash)
    exact Eq.to_iff (congrArg (bucket ∈ ·) hBucket)
  gatewayMap := by
    refine List.lookup_ext other.gatewayMap.nodupKeys app.gatewayMap.nodupKeys ?_
    intro gw tx
    have hChannel := hComponents (.gateway gw)
    exact Eq.to_iff (congrArg (tx ∈ ·) hChannel)

/-- **No interference.** Handling only the messages about a hash leaves its
bucket and gives its timer and its requests as handling all of them did;
likewise for a gateway, its channel and its downlinks. Every interleaving that
keeps the messages about each hash and each gateway in their order is handled
too, ends in the same state, and gives all of them the same actions. -/
theorem messages_do_not_interfere
    (hAll : performAll (handleMessage c) app msgs = .ok (app', trace)) :
    (∀ hash, ∃ own lines,
      performAll (handleMessage c) app (about c (.hash hash) msgs) = .ok (own, lines) ∧
        own.deduplicator.getPackets hash = app'.deduplicator.getPackets hash ∧
        lines.filterMap (actionForHash hash) = trace.filterMap (actionForHash hash)) ∧
    (∀ gw, ∃ own lines,
      performAll (handleMessage c) app (about c (.gateway gw) msgs) = .ok (own, lines) ∧
        own.gatewayMap.lookup gw = app'.gatewayMap.lookup gw ∧
        lines.filterMap (actionForGateway gw) = trace.filterMap (actionForGateway gw)) ∧
    ∀ msgs', (∀ subject, about c subject msgs' = about c subject msgs) →
      ∃ other lines, performAll (handleMessage c) app msgs' = .ok (other, lines) ∧
        app'.Same other ∧
        (∀ hash, lines.filterMap (actionForHash hash) = trace.filterMap (actionForHash hash)) ∧
        ∀ gw, lines.filterMap (actionForGateway gw) = trace.filterMap (actionForGateway gw) := by
  have hSeparable := separable_handleMessage c
  refine ⟨fun hash => ?_, fun gw => ?_, fun msgs' hSame => ?_⟩
  · obtain ⟨own, hOwn, -, hBucket⟩ := hSeparable.project hAll (.hash hash) rfl rfl
    exact ⟨own, _, hOwn, hBucket, filterMap_about hAll subject_of_actionForHash⟩
  · obtain ⟨own, hOwn, -, hChannel⟩ := hSeparable.project hAll (.gateway gw) rfl rfl
    exact ⟨own, _, hOwn, hChannel, filterMap_about hAll subject_of_actionForGateway⟩
  · obtain ⟨other, lines, hOther, hSettings, hComponents, hLines⟩ :=
      hSeparable.interleave hAll hSame
    refine ⟨other, lines, hOther, same_of_component hSettings hComponents, fun hash => ?_,
      fun gw => ?_⟩
    · rw [← filterMap_about hOther subject_of_actionForHash, hLines,
        filterMap_about hAll subject_of_actionForHash]
    · rw [← filterMap_about hOther subject_of_actionForGateway, hLines,
        filterMap_about hAll subject_of_actionForGateway]

end

def sampleHash : PacketHash := (PacketUp.sample joinFrame [0]).hash Crates.sample

/-- A gateway that comes, gets a downlink and goes, a packet from its first copy to
its cleanup, and another packet. -/
def sampleMessages : List Msg :=
  [.gatewayConnect ⟨"112edB6q"⟩ ⟨0⟩, .uplinkReceive (.sample joinFrame [0]),
    .downlink Service.sampleDown, .uplinkReceive (.sample [1] [0]),
    .gatewayDisconnect ⟨"112edB6q"⟩, .uplinkSend sampleHash, .downlink Service.sampleDown,
    .uplinkCleanup sampleHash]

/-- The packets first, then the gateway. -/
def sampleReordered : List Msg :=
  [.uplinkReceive (.sample [1] [0]), .uplinkReceive (.sample joinFrame [0]),
    .uplinkSend sampleHash, .uplinkCleanup sampleHash, .gatewayConnect ⟨"112edB6q"⟩ ⟨0⟩,
    .downlink Service.sampleDown, .gatewayDisconnect ⟨"112edB6q"⟩, .downlink Service.sampleDown]

theorem about_sampleReordered (subject : Subject) :
    about Crates.sample subject sampleReordered = about Crates.sample subject sampleMessages := by
  have hHash : (PacketUp.sample joinFrame [0]).hash Crates.sample = sampleHash := rfl
  have hOther : (PacketUp.sample [1] [0]).hash Crates.sample ≠ sampleHash := by decide
  cases subject with
  | hash hash =>
      by_cases hOwn : sampleHash = hash
      · subst hOwn
        simp [about, sampleMessages, sampleReordered, Msg.subject, hHash, hOther]
      · simp [about, sampleMessages, sampleReordered, Msg.subject, List.filter_cons, hHash, hOwn]
  | gateway gw => simp [about, sampleMessages, sampleReordered, Msg.subject, List.filter_cons]

/-- In both orders the packet is sent once, and of the downlinks the first is sent
and the second reported as failed. -/
theorem sample_interleaving :
    ∃ app trace, performAll (handleMessage Crates.sample) (.new .sample) sampleMessages =
        .ok (app, trace) ∧
      ∃ other lines, performAll (handleMessage Crates.sample) (.new .sample) sampleReordered =
          .ok (other, lines) ∧ app.Same other ∧
        (∃ request, lines.filterMap (actionForHash sampleHash) =
          [.startTimerForNewPacket sampleHash, .uplinkSend request]) ∧
        lines.filterMap (actionForGateway ⟨"112edB6q"⟩) =
          [.downlinkSend ⟨0⟩ Service.sampleDown Service.sampleDown.httpResponse.success,
            .downlinkError Service.sampleDown.httpResponse.xmitFailed] := by
  obtain ⟨app, trace, hAll, ⟨request, hRequest⟩, hDown⟩ : ∃ app trace,
      performAll (handleMessage Crates.sample) (.new .sample) sampleMessages = .ok (app, trace) ∧
      (∃ request, trace.filterMap (actionForHash sampleHash) =
        [.startTimerForNewPacket sampleHash, .uplinkSend request]) ∧
      trace.filterMap (actionForGateway ⟨"112edB6q"⟩) =
        [.downlinkSend ⟨0⟩ Service.sampleDown Service.sampleDown.httpResponse.success,
          .downlinkError Service.sampleDown.httpResponse.xmitFailed] :=
    ⟨_, _, rfl, ⟨_, rfl⟩, rfl⟩
  obtain ⟨-, -, hInterleave⟩ := messages_do_not_interfere hAll
  obtain ⟨other, lines, hOther, hSame, hHash, hGateway⟩ :=
    hInterleave sampleReordered about_sampleReordered
  exact ⟨app, trace, hAll, other, lines, hOther, hSame, ⟨request, (hHash _).trans hRequest⟩,
    (hGateway _).trans hDown⟩

end PacketRouter.HttpRoaming
