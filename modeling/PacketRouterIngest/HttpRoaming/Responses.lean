import PacketRouterIngest.HttpRoaming.Service

/-! Which responses a peer of a protocol version is sent. A response is checked
against the version where a downlink was forwarded, and posted unchecked where
its gateway is unknown. -/
namespace PacketRouter.HttpRoaming

open Rust Semantics

/-- The message type as it is serialized. -/
def HttpResponseMessageType.name : HttpResponseMessageType → String
  | .prStartNotif => "PRStartNotif"
  | .xmitDataAns => "XmitDataAns"

/-- The `MessageType` of a body: the tag of a request is its own name. -/
def Body.messageType : Body → String
  | .prStartReq _ => "PRStartReq"
  | .httpResponse response => response.messageType.name

/-- Every response of the turn is one that the protocol version has. -/
def Turn.Conforms (version : ProtocolVersion) (turn : Turn) : Prop :=
  ∀ response, .httpResponse response ∈ turn.effects.posted →
    response.shouldSendForProtocol version = true

/-- No body of the turn is a `PRStartNotif`. -/
def Turn.SendsNoNotif (turn : Turn) : Prop :=
  ∀ body ∈ turn.effects.posted, body.messageType ≠ "PRStartNotif"

/-- The next message is a downlink for a gateway that is not in the map, with a
response that the protocol version does not have. -/
def Service.Unwanted (s : Service) : Prop :=
  ∃ packet rest, s.queue = .downlink packet :: rest ∧
    s.app.gatewayMap.lookup packet.gatewayB58 = none ∧
    packet.httpResponse.shouldSendForProtocol s.app.settings.roaming.protocolVersion = false

namespace HttpResponse

variable (r : HttpResponse) (version : ProtocolVersion)

@[simp] theorem shouldSend_success :
    r.success.shouldSendForProtocol version = r.shouldSendForProtocol version := rfl

@[simp] theorem shouldSend_xmitFailed :
    r.xmitFailed.shouldSendForProtocol version = r.shouldSendForProtocol version := rfl

/-- Version 1.0 has every response but the `PRStartNotif`. -/
theorem shouldSend_v1_0 :
    r.shouldSendForProtocol .v1_0 = true ↔ r.messageType.name ≠ "PRStartNotif" := by
  cases hType : r.messageType <;>
    simp [shouldSendForProtocol, hType, HttpResponseMessageType.name]

end HttpResponse

/-- Under version 1.0 a turn conforms exactly if it sends no `PRStartNotif`. -/
theorem Turn.conforms_v1_0 {turn : Turn} : turn.Conforms .v1_0 ↔ turn.SendsNoNotif := by
  constructor
  · intro h body hBody
    cases body with
    | prStartReq request => simp [Body.messageType]
    | httpResponse response => exact response.shouldSend_v1_0.mp (h response hBody)
  · intro h response hResponse
    exact response.shouldSend_v1_0.mpr (h _ hResponse)

namespace Service

variable {c : Crates} {s : Service}

theorem unwanted_iff {packet : PacketDown} {rest : List Msg}
    (hQueue : s.queue = .downlink packet :: rest) :
    s.Unwanted ↔ s.app.gatewayMap.lookup packet.gatewayB58 = none ∧
      packet.httpResponse.shouldSendForProtocol s.app.settings.roaming.protocolVersion = false := by
  constructor
  · rintro ⟨own, _, hOwn, hUnknown⟩
    obtain ⟨hSame, -⟩ := List.cons.inj (hQueue.symm.trans hOwn)
    cases hSame
    exact hUnknown
  · intro hUnknown
    exact ⟨packet, rest, hQueue, hUnknown⟩

/-- A turn conforms unless it answers a downlink for an unknown gateway with a
response that the version does not have. -/
theorem conforms_turn {msg : Msg} {rest : List Msg} {app : App} {action : UpdateAction}
    (hQueue : s.queue = msg :: rest) (hMsg : handleMessage c s.app msg = .ok (app, action)) :
    Turn.Conforms s.app.settings.roaming.protocolVersion ⟨msg, action, s.effects action⟩ ↔
      ¬ s.Unwanted := by
  by_cases hDownlink : ∃ packet, msg = .downlink packet
  · obtain ⟨packet, rfl⟩ := hDownlink
    rw [unwanted_iff hQueue]
    rw [handleMessage_downlink] at hMsg
    cases hTx : s.app.gatewayMap.lookup packet.gatewayB58 with
    | none =>
        rw [hTx] at hMsg
        cases hMsg
        simp [Turn.Conforms, effects, handleUpdateAction]
    | some tx =>
        -- The response of a forwarded downlink is checked before it is posted.
        rw [hTx] at hMsg
        cases hMsg
        refine iff_of_true ?_ (by simp)
        intro response hPosted
        change _ ∈ if packet.httpResponse.success.shouldSendForProtocol
          s.app.settings.roaming.protocolVersion then [Body.httpResponse packet.httpResponse.success]
            else [] at hPosted
        split_ifs at hPosted with hChecked
        · obtain rfl : response = packet.httpResponse.success := by simpa using hPosted
          exact hChecked
        · cases hPosted
  · refine iff_of_true ?_ ?_
    · intro response hPosted
      exact absurd (downlink_of_posted hMsg hPosted) hDownlink
    · rintro ⟨packet, _, hOwn, -⟩
      exact hDownlink ⟨packet, (List.cons.inj (hQueue.symm.trans hOwn)).1⟩

/-- **Protocol version.** In a run, every response that was posted is one of
the configured version exactly if no turn took a downlink for an unknown
gateway whose response is not; with a peer of version 1.0 these are the runs
in which it receives no `PRStartNotif`. -/
theorem conforms_iff {settings : HttpSettings} {events : List Event}
    (run : Runs c settings events s) :
    ((∀ turn ∈ s.log, turn.Conforms settings.roaming.protocolVersion) ↔
      ∀ before after middle, events = before ++ .turn :: after → Runs c settings before middle →
        ¬ middle.Unwanted) ∧
    (settings.roaming.protocolVersion = .v1_0 →
      ((∀ turn ∈ s.log, turn.SendsNoNotif) ↔
        ∀ before after middle, events = before ++ .turn :: after →
          Runs c settings before middle → ¬ middle.Unwanted)) := by
  have hConforms : (∀ turn ∈ s.log, turn.Conforms settings.roaming.protocolVersion) ↔
      ∀ before after middle, events = before ++ .turn :: after → Runs c settings before middle →
        ¬ middle.Unwanted := by
    refine log_iff_every_turn run ?_
    rintro s msg rest app action rfl hQueue hMsg
    exact conforms_turn hQueue hMsg
  refine ⟨hConforms, fun hVersion => ?_⟩
  rw [← hConforms, hVersion]
  simp only [Turn.conforms_v1_0]

end Service

/-- The settings of a peer of version 1.0. -/
def HttpSettings.sampleV1_0 : HttpSettings :=
  { HttpSettings.sample with roaming := { HttpSettings.sample.roaming with protocolVersion := .v1_0 } }

/-- The response to a join accept. -/
def sampleNotif : PacketDown :=
  { Service.sampleDown with
    httpResponse := { Service.sampleDown.httpResponse with messageType := .prStartNotif } }

namespace Service

/-- A join accept for an unknown gateway makes a peer of version 1.0 receive a
`PRStartNotif`. -/
theorem unknownGateway_notifies :
    ∃ s, Runs Crates.sample .sampleV1_0 [.arrive (.downlink sampleNotif), .turn] s ∧
      ∃ turn ∈ s.log, .httpResponse sampleNotif.httpResponse.xmitFailed ∈ turn.effects.posted ∧
        ¬ turn.Conforms .v1_0 ∧ ¬ turn.SendsNoNotif := by
  obtain ⟨s, run, turn, hMem, hPosted⟩ : ∃ s,
      Runs Crates.sample .sampleV1_0 [.arrive (.downlink sampleNotif), .turn] s ∧
      ∃ turn ∈ s.log, turn.effects.posted = [.httpResponse sampleNotif.httpResponse.xmitFailed] :=
    ⟨_, run_of_exec rfl, _, List.mem_cons_self, rfl⟩
  have hMember : .httpResponse sampleNotif.httpResponse.xmitFailed ∈ turn.effects.posted := by
    simp [hPosted]
  have hNotif : ¬ turn.SendsNoNotif := fun h => h _ hMember rfl
  exact ⟨s, run, turn, hMem, hMember, fun h => hNotif (Turn.conforms_v1_0.mp h), hNotif⟩

/-- The answer to a plain downlink for an unknown gateway is one that a peer of
version 1.0 has. -/
theorem sample_conforms :
    ∃ s, Runs Crates.sample .sampleV1_0 [.arrive (.downlink sampleDown), .turn] s ∧
      (∀ turn ∈ s.log, turn.Conforms .v1_0) ∧ ∀ turn ∈ s.log, turn.SendsNoNotif := by
  obtain ⟨s, run⟩ : ∃ s, Runs Crates.sample .sampleV1_0 [.arrive (.downlink sampleDown), .turn] s :=
    ⟨_, run_of_exec rfl⟩
  obtain ⟨waiting, hWaiting, hQueue, hVersion⟩ : ∃ s,
      Runs Crates.sample .sampleV1_0 [.arrive (.downlink sampleDown)] s ∧
      s.queue = [.downlink sampleDown] ∧ s.app.settings.roaming.protocolVersion = .v1_0 :=
    ⟨_, run_of_exec rfl, rfl, rfl⟩
  have hEvery (before after : List Event) (middle : Service)
      (hSplit : [.arrive (.downlink sampleDown)] ++ [.turn] = before ++ .turn :: after)
      (hRun : Runs Crates.sample .sampleV1_0 before middle) : ¬ middle.Unwanted := by
    obtain ⟨-, rfl, -⟩ | ⟨final, -, hRest⟩ := snoc_eq_append_cons.mp hSplit
    · obtain rfl := hRun.unique hWaiting
      rw [unwanted_iff hQueue, hVersion]
      rintro ⟨-, hUnwanted⟩
      cases hUnwanted
    · have hMem : Event.turn ∈ [Event.arrive (.downlink sampleDown)] := by simp [hRest]
      cases List.mem_singleton.mp hMem
  exact ⟨s, run, (conforms_iff run).1.mpr hEvery, ((conforms_iff run).2 rfl).mpr hEvery⟩

end Service

end PacketRouter.HttpRoaming
