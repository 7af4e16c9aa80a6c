import PacketRouterIngest.HttpRoaming.Bodies
import PacketRouterIngest.HttpRoaming.Exchange
import PacketRouterIngest.HttpRoaming.RoundTrip
import PacketRouterIngest.KnownGateways

/-! Where downlinks come from. A network server knows of tokens only what it
reads in the bodies that are posted to it. If it makes up none, every downlink
goes back to the gateway of an uplink that was received before. -/
namespace PacketRouter.HttpRoaming

open Rust Semantics Serde Serde.Value

namespace Service

variable {c : Crates} {s t : Service}

def posted (s : Service) : List Body := s.log.flatMap (fun turn => turn.effects.posted)

/-- Copies in buckets have been received, and every request that was posted
carries the token of one that has. -/
structure Grounded (c : Crates) (s : Service) : Prop where
  buckets : ∀ hash packets, s.app.deduplicator.getPackets hash = some packets →
    packets ≠ [] ∧ ∀ packet ∈ packets, .uplinkReceive packet ∈ s.log.map Turn.msg
  requests : ∀ request, .prStartReq request ∈ s.posted →
    ∃ packet packetType, .uplinkReceive packet ∈ s.log.map Turn.msg ∧
      Token.fromHex request.ulMetaData.fnsUlToken = .ok (uplinkToken c packet packetType)

/-- A request is posted for the copies of a bucket. -/
theorem exists_bucket_of_posted {settings : HttpSettings} {closed : GatewayTx → Bool}
    {app app' : App} {msg : Msg} {action : UpdateAction} {request : PRStartReq}
    (hMsg : handleMessage c app msg = .ok (app', action))
    (hPosted : .prStartReq request ∈ (handleUpdateAction settings closed action).posted) :
    ∃ hash packets, app.deduplicator.getPackets hash = some packets ∧
      makePrStartReq c packets app.settings.roaming = .ok request := by
  cases action with
  | uplinkSend own =>
      obtain rfl : request = own := by simpa [handleUpdateAction] using hPosted
      obtain ⟨hash, rfl⟩ := exists_hash_of_uplinkSend hMsg
      obtain ⟨-, ⟨-, hNoop⟩ | ⟨packets, hBucket, hGroup⟩⟩ := handleMessage_uplinkSend.mp hMsg
      · cases hNoop
      · obtain ⟨body, hBody, hSend⟩ | ⟨-, hNoop⟩ := sendGroup_eq_ok.mp hGroup
        · cases hSend
          exact ⟨hash, packets, hBucket, hBody⟩
        · cases hNoop
  | downlinkSend tx packet response =>
      simp only [handleUpdateAction] at hPosted
      split_ifs at hPosted <;> simp at hPosted
  | noop | startTimerForNewPacket | downlinkError =>
      simp [handleUpdateAction, Effects.none] at hPosted

theorem Grounded.turn {msg : Msg} {rest : List Msg} {app : App} {action : UpdateAction}
    (h : s.Grounded c) (hMsg : handleMessage c s.app msg = .ok (app, action)) :
    (s.afterTurn msg rest app action).Grounded c := by
  have hLog : (s.afterTurn msg rest app action).log.map Turn.msg = s.log.map Turn.msg ++ [msg] := by
    simp [afterTurn]
  have hPosted : (s.afterTurn msg rest app action).posted =
      s.posted ++ (s.effects action).posted := by
    simp [posted, afterTurn]
  constructor
  · intro hash packets hBucket
    rw [hLog]
    have hNow : app.deduplicator.getPackets hash = some packets := hBucket
    rw [getPackets_handleMessage hash hMsg] at hNow
    have hOld (hSame : s.app.deduplicator.getPackets hash = some packets) : packets ≠ [] ∧
        ∀ packet ∈ packets, .uplinkReceive packet ∈ s.log.map Turn.msg ++ [msg] := by
      obtain ⟨hNonempty, hReceived⟩ := h.buckets hash packets hSame
      exact ⟨hNonempty, fun packet hMem => List.mem_append_left _ (hReceived packet hMem)⟩
    cases msg with
    | uplinkReceive own =>
        simp only [Msg.bucketAfter] at hNow
        split_ifs at hNow with hOwn
        · obtain rfl := Option.some.inj hNow
          refine ⟨by simp, fun packet hMem => ?_⟩
          rcases List.mem_append.mp hMem with hBefore | hLast
          · cases hBucket : s.app.deduplicator.getPackets hash with
            | none => simp [hBucket] at hBefore
            | some bucket =>
                rw [hBucket] at hBefore
                exact List.mem_append_left _ ((h.buckets hash bucket hBucket).2 packet hBefore)
          · rw [List.mem_singleton.mp hLast]
            exact List.mem_append_right _ (List.mem_singleton_self _)
        · exact hOld hNow
    | uplinkCleanup removed =>
        simp only [Msg.bucketAfter] at hNow
        split_ifs at hNow
        exact hOld hNow
    | uplinkSend | downlink | gatewayConnect | gatewayDisconnect => exact hOld hNow
  · intro request hMem
    rw [hLog]
    rw [hPosted, List.mem_append] at hMem
    rcases hMem with hBefore | hNow
    · obtain ⟨packet, packetType, hReceived, hToken⟩ := h.requests request hBefore
      exact ⟨packet, packetType, List.mem_append_left _ hReceived, hToken⟩
    · obtain ⟨hash, packets, hBucket, hRequest⟩ := exists_bucket_of_posted hMsg hNow
      obtain ⟨hNonempty, hReceived⟩ := h.buckets hash packets hBucket
      cases packets with
      | nil => exact absurd rfl hNonempty
      | cons packet others =>
          exact ⟨packet, _, List.mem_append_left _ (hReceived packet (List.mem_cons_self ..)),
            (token_of_request hRequest).2⟩

theorem Grounded.step {event : Event} (h : s.Grounded c) (hStep : step c s event = some t) :
    t.Grounded c := by
  obtain ⟨input, -, rfl⟩ | ⟨before, timer, after, -, -, rfl⟩ | ⟨tx, -, rfl⟩ |
    ⟨msg, rest, app, action, -, -, hMsg, rfl⟩ := step_cases hStep
  · exact ⟨h.buckets, h.requests⟩
  · exact ⟨h.buckets, h.requests⟩
  · exact ⟨h.buckets, h.requests⟩
  · exact h.turn hMsg

theorem grounded_init (settings : HttpSettings) : (init settings).Grounded c where
  buckets := by
    intro hash packets hBucket
    cases hBucket
  requests := by
    intro request hMem
    simp [init, posted] at hMem

end Service

section

variable {value : Value}

/-- Metadata that is read has a token text, which decodes to its token. -/
theorem DLMetaData.exists_token {m : DLMetaData} (h : DLMetaData.fromValue value = .ok m) :
    ∃ text, value.given DLMetaData.fields "FNSULToken" = some (.string text) ∧
      Token.Decodes text m.fnsUlToken := by
  obtain ⟨members, hMembers, -, -, hBuild⟩ := readRecord_eq_ok.mp h
  obtain ⟨-, hField, -⟩ := DLMetaData.build_eq_ok.mp hBuild
  obtain ⟨content, hLookup, hRead⟩ := field_eq_ok.mp hField
  obtain ⟨text, rfl, hDecodes⟩ := Token.fromValue_eq_ok.mp hRead
  exact ⟨text, by rw [given, hMembers]; exact hLookup, hDecodes⟩

theorem PRStartAns.exists_token {m : PRStartAns} (h : PRStartAns.fromValue value = .ok m) :
    ∃ text, CarriesToken PRStartAns.fields value text ∧
      Token.Decodes text m.dlMetaData.fnsUlToken := by
  obtain ⟨members, hMembers, -, -, hBuild⟩ := readRecord_eq_ok.mp h
  obtain ⟨-, -, -, hField⟩ := PRStartAns.build_eq_ok.mp hBuild
  obtain ⟨metaData, hLookup, hRead⟩ := field_eq_ok.mp hField
  obtain ⟨text, hText, hDecodes⟩ := DLMetaData.exists_token hRead
  exact ⟨text, ⟨metaData, by rw [given, hMembers]; exact hLookup, hText⟩, hDecodes⟩

theorem XmitDataReq.exists_token {m : XmitDataReq} (h : XmitDataReq.fromValue value = .ok m) :
    ∃ text, CarriesToken XmitDataReq.fields value text ∧
      Token.Decodes text m.dlMetaData.fnsUlToken := by
  obtain ⟨members, hMembers, -, -, hBuild⟩ := readRecord_eq_ok.mp h
  obtain ⟨-, -, hField⟩ := XmitDataReq.build_eq_ok.mp hBuild
  obtain ⟨metaData, hLookup, hRead⟩ := field_eq_ok.mp hField
  obtain ⟨text, hText, hDecodes⟩ := DLMetaData.exists_token hRead
  exact ⟨text, ⟨metaData, by rw [given, hMembers]; exact hLookup, hText⟩, hDecodes⟩

end

/-- The downlink of the post answers the uplink: it goes to its gateway, at data
rates of its region. The windows of class A are counted from its time; the
window of class C is immediate. -/
structure Answers (c : Crates) (packet : PacketUp) (post : Post) : Prop where
  gateway : post.packet.gatewayB58 = packet.gatewayB58 c
  windows : ∃ packetType,
    (∃ m, PRStartAns.fromValue post.value = .ok m ∧
      m.dlMetaData.ClassAWindows (uplinkToken c packet packetType) post.packet.downlink) ∨
    ∃ m, XmitDataReq.fromValue post.value = .ok m ∧
      (m.dlMetaData.classMode = .a →
        m.dlMetaData.ClassAWindows (uplinkToken c packet packetType) post.packet.downlink) ∧
      (m.dlMetaData.classMode = .c →
        m.dlMetaData.ClassCWindow (uplinkToken c packet packetType) post.packet.downlink)

/-- A downlink answers the uplink that its token was made of. -/
theorem answers_of_parse (c : Crates) {settings : RoamingSettings} (post : Post)
    (hParse : parseHttpPayload post.value settings = .ok (some post.packet)) :
    ∃ text token, (CarriesToken PRStartAns.fields post.value text ∨
        CarriesToken XmitDataReq.fields post.value text) ∧ Token.Decodes text token ∧
      ∀ packet packetType, token = uplinkToken c packet packetType → Answers c packet post := by
  rcases parseHttpPayload_eq_some.mp hParse with
    ⟨m, hRead, hDown, hGateway, -⟩ | ⟨-, m, hRead, hDown, hGateway, -⟩
  · obtain ⟨text, hCarries, hDecodes⟩ := PRStartAns.exists_token hRead
    refine ⟨text, _, .inl hCarries, hDecodes, fun packet packetType hToken => ⟨?_, packetType, ?_⟩⟩
    · rw [hGateway, PRStartAns.gateway, hToken]
      rfl
    · obtain ⟨-, hRx1, hRx2⟩ := PRStartAns.toPacketDown_eq_ok.mp hDown
      rw [DLMetaData.rx1Window_eq_ok, hToken] at hRx1
      rw [DLMetaData.rx2Window_eq_ok, hToken] at hRx2
      exact .inl ⟨m, hRead, hRx1.2, hRx2.2⟩
  · obtain ⟨text, hCarries, hDecodes⟩ := XmitDataReq.exists_token hRead
    refine ⟨text, _, .inr hCarries, hDecodes, fun packet packetType hToken => ⟨?_, packetType, ?_⟩⟩
    · rw [hGateway, XmitDataReq.gateway, hToken]
      rfl
    · refine .inr ⟨m, hRead, fun hClass => ?_, fun hClass => ?_⟩
      · obtain ⟨-, hRx1, hRx2⟩ := (XmitDataReq.toPacketDown_of_a hClass).mp hDown
        rw [DLMetaData.rx1Window_eq_ok, hToken] at hRx1
        rw [DLMetaData.rx2Window_eq_ok, hToken] at hRx2
        exact ⟨hRx1.2, hRx2.2⟩
      · obtain ⟨-, hRx1, hRx2⟩ := (XmitDataReq.toPacketDown_of_c hClass).mp hDown
        rw [DLMetaData.classCWindow_eq_ok, hToken] at hRx1
        exact ⟨hRx1.2, hRx2⟩

namespace Exchange

variable {c : Crates} {s t : Exchange}

/-- What the network server has been sent. -/
def bodies (texts : FloatTexts) (s : Exchange) : List (List UInt8) :=
  s.system.service.posted.map (Body.toJson texts)

/-- The tokens of a value stand in bodies that the network server was sent. -/
def Echoing (texts : FloatTexts) (s : Exchange) (value : Value) : Prop :=
  ∀ text, CarriesToken PRStartAns.fields value text ∨ CarriesToken XmitDataReq.fields value text →
    ∃ bytes ∈ s.bodies texts, tokenOf bytes = some text

/-- The network server makes up no tokens. -/
def EchoingRun (c : Crates) (texts : FloatTexts) (settings : HttpSettings)
    (events : List ExchangeEvent) : Prop :=
  ∀ before value after middle, events = before ++ .post value :: after →
    Runs c settings before middle → middle.Echoing texts value

/-- An echoed token is that of an uplink that has been received. -/
theorem exists_uplink_of_echo {texts : FloatTexts} {text : String} {token : Token}
    (hGrounded : s.system.service.Grounded c)
    (hEcho : ∃ bytes ∈ s.bodies texts, tokenOf bytes = some text)
    (hDecodes : Token.Decodes text token) :
    ∃ packet packetType, .uplinkReceive packet ∈ s.system.service.log.map Turn.msg ∧
      token = uplinkToken c packet packetType := by
  obtain ⟨bytes, hMem, hText⟩ := hEcho
  obtain ⟨body, hBody, rfl⟩ := List.mem_map.mp hMem
  cases body with
  | httpResponse response =>
      rw [tokenOf_httpResponse] at hText
      cases hText
  | prStartReq request =>
      rw [tokenOf_prStartReq] at hText
      obtain rfl := Option.some.inj hText
      obtain ⟨packet, packetType, hReceived, hToken⟩ := hGrounded.requests request hBody
      rw [Token.fromHex_eq_ok.mpr hDecodes] at hToken
      exact ⟨packet, packetType, hReceived, Outcome.ok.inj hToken⟩

/-- Every accepted downlink answers an uplink that stands before it. -/
structure Traced (c : Crates) (s : Exchange) : Prop where
  grounded : s.system.service.Grounded c
  posts : ∀ post ∈ s.posts, ∃ packet before after,
    s.system.service.history = before ++ .downlink post.packet :: after ∧
      .uplinkReceive packet ∈ before ∧ Answers c packet post
  downlinks : ∀ before pd after, s.system.service.history = before ++ .downlink pd :: after →
    ∃ packet, .uplinkReceive packet ∈ before ∧ pd.gatewayB58 = packet.gatewayB58 c

/-- A step of the system without a new downlink leaves every downlink where it
stands in the history. -/
theorem history_without_downlink {u v : System} {inner : SystemEvent}
    (hNext : System.step c u inner = some v) (hNone : System.downlinkOf inner = none) :
    ∃ more, v.service.history = u.service.history ++ more ∧ ∀ pd, .downlink pd ∉ more := by
  have hDownlinks := System.downlinks_step hNext
  rw [hNone, Option.toList_none, List.append_nil] at hDownlinks
  obtain ⟨more, hMore⟩ : ∃ more, v.service.history = u.service.history ++ more := by
    obtain hSame | ⟨own, hOwn⟩ := System.service_step hNext
    · exact ⟨[], by rw [hSame, List.append_nil]⟩
    · exact ⟨_, Service.history_step hOwn⟩
  refine ⟨more, hMore, fun pd hMem => ?_⟩
  rw [hMore, List.filterMap_append, List.append_right_eq_self, List.filterMap_eq_nil_iff] at hDownlinks
  exact Option.some_ne_none pd (hDownlinks _ hMem)

theorem grounded_step {u v : System} {inner : SystemEvent} (h : u.service.Grounded c)
    (hNext : System.step c u inner = some v) : v.service.Grounded c := by
  obtain hSame | ⟨own, hOwn⟩ := System.service_step hNext
  · rwa [hSame]
  · exact h.step hOwn

theorem Traced.step {texts : FloatTexts} {event : ExchangeEvent} (h : s.Traced c)
    (hEcho : ∀ value, event = .post value → s.Echoing texts value)
    (hStep : step c s event = some t) : t.Traced c := by
  obtain ⟨inner, system, hAside, hNext, rfl⟩ | ⟨value, packet, system, rfl, hParse, hNext, rfl⟩ |
    ⟨value, -, rfl⟩ := step_cases hStep
  · obtain ⟨more, hMore, hNot⟩ := history_without_downlink hNext (downlinkOf_aside hAside)
    refine ⟨grounded_step h.grounded hNext, fun post hPost => ?_, fun before pd after hSplit => ?_⟩
    · obtain ⟨packet, before, after, hSplit, hAnswers⟩ := h.posts post hPost
      exact ⟨packet, before, after ++ more, by rw [hMore, hSplit]; simp, hAnswers⟩
    · have hSplit : s.system.service.history ++ more = before ++ .downlink pd :: after :=
        hMore.symm.trans hSplit
      obtain ⟨rest, hOld⟩ := split_of_append hSplit (hNot pd)
      exact h.downlinks before pd rest hOld
  · have hHistory : system.service.history = s.system.service.history ++ [.downlink packet] := by
      cases hNext
      simp [Service.history, Input.toMsg]
    obtain ⟨text, token, hCarries, hDecodes, hAnswers⟩ :=
      answers_of_parse c ⟨value, packet⟩ hParse
    obtain ⟨uplink, packetType, hReceived, hToken⟩ :=
      exists_uplink_of_echo h.grounded (hEcho value rfl text hCarries) hDecodes
    have hOwn := hAnswers uplink packetType hToken
    have hBefore : .uplinkReceive uplink ∈ s.system.service.history :=
      List.mem_append_left _ hReceived
    refine ⟨grounded_step h.grounded hNext, fun post hPost => ?_, fun before pd after hSplit => ?_⟩
    · rcases List.mem_append.mp hPost with hOld | hNew
      · obtain ⟨packet, before, after, hSplit, hTraced⟩ := h.posts post hOld
        exact ⟨packet, before, _, by rw [hHistory, hSplit, List.append_assoc]; rfl, hTraced⟩
      · obtain rfl := List.mem_singleton.mp hNew
        exact ⟨uplink, _, [], hHistory, hBefore, hOwn⟩
    · have hSplit : s.system.service.history ++ [.downlink packet] = before ++ .downlink pd :: after :=
        hHistory.symm.trans hSplit
      obtain ⟨-, rfl, hSame⟩ | ⟨final, -, hOld⟩ := snoc_eq_append_cons.mp hSplit
      · obtain rfl := Msg.downlink.inj hSame
        exact ⟨uplink, hBefore, hOwn.gateway⟩
      · exact h.downlinks before pd final hOld
  · exact h

theorem EchoingRun.initial {texts : FloatTexts} {settings : HttpSettings}
    {first second : List ExchangeEvent} (h : EchoingRun c texts settings (first ++ second)) :
    EchoingRun c texts settings first := by
  rintro before value after middle rfl hRun
  exact h before value (after ++ second) middle (by simp) hRun

theorem traced_of_run {texts : FloatTexts} {settings : HttpSettings} {events : List ExchangeEvent}
    (run : Runs c settings events s) (hEcho : EchoingRun c texts settings events) : s.Traced c := by
  induction run with
  | nil =>
      refine ⟨Service.grounded_init settings, fun post hPost => ?_, fun before pd after hSplit => ?_⟩
      · cases hPost
      · simp [init, System.init, Service.init, Service.history] at hSplit
  | @snoc events middle finish event prior last ih =>
      have hLast (value : Value) (hPost : event = .post value) : middle.Echoing texts value :=
        hEcho events value [] middle (by rw [hPost]) prior
      exact (ih hEcho.initial).step hLast last

/-- **Provenance.** If the network server makes up no tokens, every downlink that
the handler accepts answers an uplink that was received before: it goes to the
gateway of that uplink, for a device of class A in windows counted from its
time, and at once for one of class C. -/
theorem downlinks_trace_back {texts : FloatTexts} {settings : HttpSettings}
    {events : List ExchangeEvent} (run : Runs c settings events s)
    (hEcho : EchoingRun c texts settings events) :
    ∀ post ∈ s.posts, ∃ packet before after,
      s.system.service.history = before ++ .downlink post.packet :: after ∧
        .uplinkReceive packet ∈ before ∧ Answers c packet post :=
  (traced_of_run run hEcho).posts

end Exchange

/-- A gateway that was registered and never left is in the table. -/
theorem Router.table_ne_none {version : ProtocolVersion} {msgs : List Msg} {gw : GatewayB58}
    {tx : GatewayTx} (hConnect : .gatewayConnect gw tx ∈ msgs)
    (hStays : .gatewayDisconnect gw ∉ msgs) : (after version msgs).table gw ≠ none := by
  induction msgs using List.reverseRecOn with
  | nil => cases hConnect
  | append_singleton msgs msg ih =>
      rw [after_snoc, table_handle]
      have hOther : .gatewayDisconnect gw ∉ msgs :=
        fun hMem => hStays (List.mem_append_left _ hMem)
      cases msg with
      | gatewayConnect own ownTx =>
          simp only [Msg.gatewayAfter]
          split_ifs with hOwn
          · exact Option.some_ne_none ownTx
          · refine ih ?_ hOther
            rcases List.mem_append.mp hConnect with hOld | hNew
            · exact hOld
            · cases List.mem_singleton.mp hNew
              exact absurd rfl hOwn
      | gatewayDisconnect own =>
          simp only [Msg.gatewayAfter]
          split_ifs with hOwn
          · exact absurd (by simp [hOwn]) hStays
          · exact ih (by simpa using hConnect) hOther
      | downlink | uplinkReceive | uplinkSend | uplinkCleanup =>
          exact ih (by simpa using hConnect) hOther

/-- A response that says `XmitFailed` is given only where the table has no entry. -/
theorem Service.Routes.table_of_failure {s : Service} (h : s.Routes) {before after : List Turn}
    {turn : Turn} {packet : PacketDown} {response : HttpResponse}
    (hSplit : s.log = before ++ turn :: after) (hMsg : turn.msg = .downlink packet)
    (hMem : response ∈ turn.responses) (hFailed : response.result = .xmitFailed) :
    (s.routerAfter before).table packet.gatewayB58 = none := by
  have hAnswers := h.turns before turn after hSplit
  cases hEntry : (s.routerAfter before).table packet.gatewayB58 with
  | none => rfl
  | some tx =>
      simp only [hMsg, Router.handle, hEntry, List.append_cancel_left_eq] at hAnswers
      rw [← hAnswers] at hMem
      split_ifs at hMem
      · rw [List.mem_singleton.mp hMem] at hFailed
        cases hFailed
      · cases hMem

namespace System

variable {c : Crates} {s t : System}

/-- The streams' messages stand in the history as they were sent. -/
def Carries (s : System) : Prop :=
  s.service.history.filterMap Msg.carried = s.gateways.sent.map (fun line => ingest line.2)

theorem carried_puts {inner : Event} (service : Service)
    (hDownlink : ∀ input, inner = .arrive input → ∃ packet, input = .downlink packet) :
    (service.puts inner).filterMap Msg.carried = [] := by
  cases inner with
  | arrive input =>
      obtain ⟨packet, rfl⟩ := hDownlink input rfl
      rfl
  | timer index =>
      cases hTimer : service.timers[index]? with
      | none => simp [Service.puts, hTimer]
      | some timer => simpa [Service.puts, hTimer] using carried_advance timer
  | dropReceiver | turn => rfl

theorem Carries.step {event : SystemEvent} (h : s.Carries) (hStep : System.step c s event = some t) :
    t.Carries := by
  rw [Carries] at h ⊢
  obtain ⟨event, gateways, rfl, hSilent, rfl⟩ | ⟨event, gateways, msg, rfl, hSend, rfl⟩ |
    ⟨inner, service, -, hDownlink, hNext, rfl⟩ := step_cases hStep
  · rw [Gateways.sent_of_silent hSilent]
    exact h
  · obtain ⟨index, hSent⟩ := Gateways.sent_of_send hSend
    have hHistory : (⟨gateways, { s.service with queue := s.service.queue ++ [(ingest msg).toMsg] }⟩ :
        System).service.history = s.service.history ++ [(ingest msg).toMsg] := by
      simp [Service.history]
    rw [hHistory, hSent, List.filterMap_append, List.map_append, h]
    simp
  · change service.history.filterMap Msg.carried = _
    rw [Service.history_step hNext, List.filterMap_append, carried_puts s.service hDownlink,
      List.append_nil]
    exact h

theorem carries_of_run {settings : HttpSettings} {events : List SystemEvent}
    (run : Runs c settings events s) : s.Carries :=
  run.invariant Carries rfl (fun _ _ _ _ h hStep => h.step hStep)

end System

namespace Exchange

variable {c : Crates} {s t : Exchange}

def streamEvents (events : List ExchangeEvent) : List StreamEvent :=
  events.filterMap fun
    | .stream event => some event
    | .post _ | .timer _ | .dropReceiver _ | .turn => none

/-- Every packet of a stream names the gateway of the first. -/
def Steady (c : Crates) (events : List ExchangeEvent) : Prop :=
  ∀ index packet first, .read index (.packet packet) ∈ streamEvents events →
    StreamEvent.firstPacket index (streamEvents events) = some first →
    packet.gatewayB58 c = first.gatewayB58 c

/-- Every run is a run of the system with the same events of the streams. -/
theorem system_of_run {settings : HttpSettings} {events : List ExchangeEvent}
    (run : Runs c settings events s) :
    ∃ inner, System.Runs c settings inner s.system ∧
      System.streamEvents inner = streamEvents events := by
  induction run with
  | nil => exact ⟨[], .nil, rfl⟩
  | @snoc events middle finish event prior last ih =>
      obtain ⟨inner, hRun, hEvents⟩ := ih
      obtain ⟨own, system, hAside, hNext, rfl⟩ | ⟨value, packet, system, rfl, -, hNext, rfl⟩ |
        ⟨value, rfl, rfl⟩ := step_cases last
      · refine ⟨inner ++ [own], hRun.snoc hNext, ?_⟩
        rw [System.streamEvents, List.filterMap_append, streamEvents, List.filterMap_append]
        refine congrArg₂ _ hEvents ?_
        cases event with
        | post value => cases hAside
        | stream | timer | dropReceiver | turn =>
            cases hAside
            rfl
      · refine ⟨inner ++ [.downlink packet], hRun.snoc hNext, ?_⟩
        rw [System.streamEvents, List.filterMap_append, streamEvents, List.filterMap_append]
        exact congrArg₂ _ hEvents rfl
      · refine ⟨inner, hRun, ?_⟩
        rw [streamEvents, List.filterMap_append]
        exact hEvents.trans (List.append_nil _).symm

end Exchange

/-- A packet that a stream has sent is one that it has read. -/
theorem read_of_sent {c : Crates} {g : Gateways} {steps : List ((GatewayTx → Bool) × StreamEvent)}
    (run : Gateways.Runs c steps g) {index : Nat} {packet : PacketUp}
    (hSent : (index, .uplinkReceive packet) ∈ g.sent) :
    .read index (.packet packet) ∈ steps.map Prod.snd := by
  have hOrigin : g.Consistent ∧
      g.Origin c (fun index packet => .read index (.packet packet) ∈ steps.map Prod.snd) := by
    refine run.invariant (fun g => g.Consistent ∧ g.Origin c _)
      ⟨Gateways.consistent_new, fun index s hStream => by cases hStream⟩ ?_
    intro g event g' hEvent h hStep
    obtain ⟨⟨next, emitted⟩, hNext, rfl⟩ := Option.map_eq_some_iff.mp hStep
    refine ⟨h.1.step hNext, h.2.step h.1 (fun index packet hRead => ?_) hNext⟩
    exact List.mem_map.mpr ⟨event, hEvent, hRead⟩
  obtain ⟨s, hStream⟩ : ∃ s, g.streams[index]? = some s :=
    ⟨_, List.getElem?_eq_getElem (hOrigin.1.bounded _ hSent)⟩
  exact (hOrigin.2 index s hStream).packets packet
    (List.mem_append_left _ (Gateways.mem_sentBy.mpr hSent))

namespace Exchange

variable {c : Crates} {s t : Exchange}

/-- The gateway of an uplink was connected before it, if streams are steady. -/
theorem connected_of_uplink {settings : HttpSettings} {events : List ExchangeEvent}
    (run : Runs c settings events s) (hSteady : Steady c events) {before after : List Msg}
    {packet : PacketUp}
    (hSplit : s.system.service.history = before ++ .uplinkReceive packet :: after) :
    ∃ tx, .gatewayConnect (packet.gatewayB58 c) tx ∈ before := by
  obtain ⟨inner, hSystem, hInner⟩ := system_of_run run
  have hCarries := System.carries_of_run hSystem
  have hOwn : (Msg.uplinkReceive packet).carried = some (.uplink packet) := rfl
  rw [System.Carries, hSplit, List.filterMap_append, List.filterMap_cons_some hOwn] at hCarries
  obtain ⟨sentBefore, sentAfter, hSent, hBefore, hAfter⟩ := List.map_eq_append_iff.mp hCarries.symm
  obtain ⟨⟨index, line⟩, sentAfter, rfl, hLine, -⟩ := List.map_eq_cons_iff.mp hAfter
  obtain ⟨steps, hRun, hEvents⟩ := System.streams_of_run hSystem
  rw [hInner] at hEvents
  cases line with
  | gatewayConnect | gatewayDisconnect => cases hLine
  | uplinkReceive own =>
      obtain rfl := Input.uplink.inj hLine
      obtain ⟨first, gw, hFirst, hGw, hLive⟩ := Gateways.live_under_first hRun Gateway.b58 hSent
      rw [hEvents] at hFirst
      have hRead : .read index (.packet own) ∈ streamEvents events :=
        hEvents ▸ read_of_sent hRun (by rw [hSent]; simp)
      have hSame : own.gatewayB58 c = gw.b58 :=
        (hSteady index own first hRead hFirst).trans (Gateway.new_eq_ok.mp hGw).1.symm
      obtain ⟨told, hTold, hKey⟩ := connect_mem_registrations.mp hLive.1
      have hMem : .gatewayConnect told.b58 told.tx ∈ before.filterMap Msg.carried := by
        rw [← hBefore]
        exact List.mem_map.mpr ⟨_, hTold, rfl⟩
      obtain ⟨msg, hMsg, hCarried⟩ := List.mem_filterMap.mp hMem
      rw [hSame, ← hKey]
      cases msg with
      | gatewayConnect gw tx =>
          cases hCarried
          exact ⟨_, hMsg⟩
      | gatewayDisconnect | uplinkReceive | uplinkSend | uplinkCleanup | downlink => cases hCarried

/-- **Failures.** If the network server makes up no tokens and every stream carries
the packets of one gateway, a downlink is reported as failed only after its
gateway was disconnected. -/
theorem failure_follows_disconnect {texts : FloatTexts} {settings : HttpSettings}
    {events : List ExchangeEvent} (run : Runs c settings events s)
    (hEcho : EchoingRun c texts settings events) (hSteady : Steady c events)
    {before after : List Turn} {turn : Turn} {packet : PacketDown} {response : HttpResponse}
    (hSplit : s.system.service.log = before ++ turn :: after) (hMsg : turn.msg = .downlink packet)
    (hMem : response ∈ turn.responses) (hFailed : response.result = .xmitFailed) :
    .gatewayDisconnect packet.gatewayB58 ∈ before.map Turn.msg := by
  have hEntry := (ledger_of_run run).routes.table_of_failure hSplit hMsg hMem hFailed
  have hHistory : s.system.service.history = before.map Turn.msg ++ .downlink packet ::
      (after.map Turn.msg ++ s.system.service.queue) := by
    simp [Service.history, hSplit, hMsg]
  obtain ⟨uplink, hUplink, hGateway⟩ := (traced_of_run run hEcho).downlinks _ _ _ hHistory
  obtain ⟨early, late, hBefore⟩ := List.append_of_mem hUplink
  rw [hBefore, List.append_assoc, List.cons_append] at hHistory
  obtain ⟨tx, hConnect⟩ := connected_of_uplink run hSteady hHistory
  have hBoth : .gatewayConnect packet.gatewayB58 tx ∈ before.map Turn.msg := by
    rw [hGateway, hBefore]
    exact List.mem_append_left _ hConnect
  by_contra hStays
  exact Router.table_ne_none hBoth hStays hEntry

/-- With one post it is enough to look at that. -/
theorem echoingRun_of_single {texts : FloatTexts} {settings : HttpSettings}
    {first second : List ExchangeEvent} {value : Value} {middle : Exchange}
    (hFirst : ∀ other, .post other ∉ first) (hSecond : ∀ other, .post other ∉ second)
    (run : Runs c settings first middle) (hEcho : middle.Echoing texts value) :
    EchoingRun c texts settings (first ++ .post value :: second) := by
  intro before other after state hSplit hRun
  rw [List.append_cons] at hSplit
  obtain ⟨rest, hInitial⟩ := split_of_append hSplit (hSecond other)
  obtain ⟨-, rfl, hSame⟩ | ⟨final, -, hEarly⟩ := snoc_eq_append_cons.mp hInitial
  · obtain rfl := run.unique hRun
    cases hSame
    exact hEcho
  · exact absurd (by rw [hEarly]; simp) (hFirst other)

def sampleTexts : FloatTexts where
  f64 _ := .ofNat 0
  f32 _ := .ofNat 0

/-- One stream, up to the request for its packet and its end. -/
def sampleUplink : List ExchangeEvent :=
  [.stream .opens, .stream (.read 0 (.packet (.sample joinFrame [0]))), .stream (.send 0),
    .stream (.send 0), .turn, .turn, .timer 0, .timer 0, .turn, .stream (.read 0 .shutdown),
    .stream (.send 0)]

/-- The answer to that request, with both windows. -/
def sampleValue : Value :=
  sampleMessage "PRStartAns" (sampleResult "Success") "00"
    (sampleWindows "A" (makeJoinToken ⟨"112edB6q"⟩ 100 .us915))

theorem parse_sampleValue :
    ∃ pd, parseHttpPayload sampleValue HttpSettings.sample.roaming = .ok (some pd) ∧
      pd.gatewayB58 = ⟨"112edB6q"⟩ ∧
      pd.downlink.rx1 = some ⟨5000100, mhzToHz 925.1, .sf10bw500, false⟩ ∧
      pd.downlink.rx2 = some ⟨6000100, mhzToHz 923.3, .sf12bw500, false⟩ := by
  obtain ⟨m, hRead, -, hMeta, hValid⟩ := transmittable_sampleWindows
    (Token.decodes_makeJoinToken ⟨"112edB6q"⟩ 100 .us915)
  have hToken : m.dlMetaData.fnsUlToken = ⟨100, ⟨"112edB6q"⟩, .us915, .join⟩ := by rw [hMeta]
  obtain ⟨pd, hParse, hAddressed, hWindows⟩ :=
    PRStartAns.answers Crates.sample HttpSettings.sample.roaming hRead hToken hValid
  rw [hMeta] at hWindows
  exact ⟨pd, hParse, hAddressed.gateway, hWindows.rx1, hWindows.rx2⟩

/-- An answer that comes when the stream has ended. -/
theorem exists_late_run {value : Value} {pd : PacketDown}
    (hParse : parseHttpPayload value HttpSettings.sample.roaming = .ok (some pd)) :
    ∃ middle s before turn request, Runs Crates.sample .sample sampleUplink middle ∧
      middle.system.service.posted = [.prStartReq request] ∧
      request.ulMetaData.fnsUlToken = makeJoinToken ⟨"112edB6q"⟩ 100 .us915 ∧
      Runs Crates.sample .sample (sampleUplink ++ [.post value, .turn, .turn]) s ∧
      s.posts = [⟨value, pd⟩] ∧ s.system.service.log = before ++ [turn] ∧
      turn.msg = .downlink pd ∧ turn.responses.map HttpResponse.result = [.xmitFailed] := by
  have hFirst : Runs Crates.sample .sample sampleUplink _ := run_of_exec rfl
  have hAll : Runs Crates.sample .sample (sampleUplink ++ [.post value, .turn, .turn]) _ :=
    ((hFirst.snoc (step_post hParse)).snoc (show step Crates.sample _ .turn = some _ from rfl)).snoc
      (show step Crates.sample _ .turn = some _ from rfl)
  exact ⟨_, _, _, _, _, hFirst, rfl, rfl, hAll, rfl, rfl, rfl, rfl⟩

/-- The sample message brings back the token of the sample uplink. -/
theorem echoing_sampleValue {middle : Exchange} {request : PRStartReq}
    (hPosted : middle.system.service.posted = [.prStartReq request])
    (hToken : request.ulMetaData.fnsUlToken = makeJoinToken ⟨"112edB6q"⟩ 100 .us915) :
    middle.Echoing sampleTexts sampleValue := by
  intro text hCarries
  have hText : text = makeJoinToken ⟨"112edB6q"⟩ 100 .us915 := by
    simp [CarriesToken, sampleValue, sampleMessage, sampleResult, sampleWindows, given, members,
      List.lookup_cons] at hCarries
    exact hCarries.symm
  refine ⟨_, List.mem_map.mpr ⟨.prStartReq request, by rw [hPosted]; simp, rfl⟩, ?_⟩
  rw [tokenOf_prStartReq, hToken, hText]

theorem echoingRun_sample {middle : Exchange} {request : PRStartReq}
    (run : Runs Crates.sample .sample sampleUplink middle)
    (hPosted : middle.system.service.posted = [.prStartReq request])
    (hToken : request.ulMetaData.fnsUlToken = makeJoinToken ⟨"112edB6q"⟩ 100 .us915) :
    EchoingRun Crates.sample sampleTexts .sample
      (sampleUplink ++ [.post sampleValue, .turn, .turn]) :=
  echoingRun_of_single (by simp [sampleUplink]) (by simp) run (echoing_sampleValue hPosted hToken)

/-- The downlink of the answer goes back to the gateway of the uplink, five and
six seconds after it. -/
theorem sample_traces_back :
    ∃ s post packet, Runs Crates.sample .sample
        (sampleUplink ++ [.post sampleValue, .turn, .turn]) s ∧
      s.posts = [post] ∧ Answers Crates.sample packet post ∧
      post.packet.gatewayB58 = ⟨"112edB6q"⟩ ∧
      post.packet.downlink.rx1 = some ⟨5000100, mhzToHz 925.1, .sf10bw500, false⟩ ∧
      post.packet.downlink.rx2 = some ⟨6000100, mhzToHz 923.3, .sf12bw500, false⟩ := by
  obtain ⟨pd, hParse, hWindows⟩ := parse_sampleValue
  obtain ⟨middle, s, before, turn, request, hMiddle, hPosted, hToken, run, hPosts, -⟩ :=
    exists_late_run hParse
  obtain ⟨packet, -, -, -, -, hAnswers⟩ :=
    downlinks_trace_back run (echoingRun_sample hMiddle hPosted hToken)
      ⟨sampleValue, pd⟩ (by rw [hPosts]; exact List.mem_singleton_self _)
  exact ⟨s, _, packet, run, hPosts, hAnswers, hWindows⟩

/-- It comes after the stream has ended, and is reported as failed. -/
theorem sample_failure :
    ∃ s before turn pd, Runs Crates.sample .sample
        (sampleUplink ++ [.post sampleValue, .turn, .turn]) s ∧
      s.system.service.log = before ++ [turn] ∧
      turn.responses.map HttpResponse.result = [.xmitFailed] ∧ turn.msg = .downlink pd ∧
      .gatewayDisconnect pd.gatewayB58 ∈ before.map Turn.msg := by
  obtain ⟨pd, hParse, -⟩ := parse_sampleValue
  obtain ⟨middle, s, before, turn, request, hMiddle, hPosted, hToken, run, -, hLog, hMsg, hResult⟩ :=
    exists_late_run hParse
  have hSteady : Steady Crates.sample (sampleUplink ++ [.post sampleValue, .turn, .turn]) := by
    intro index packet first hRead hFirst
    rfl
  obtain ⟨response, hMem, hFailed⟩ : ∃ response ∈ turn.responses, response.result = .xmitFailed :=
    List.mem_map.mp (by rw [hResult]; simp)
  exact ⟨s, before, turn, pd, run, hLog, hResult, hMsg,
    failure_follows_disconnect run (echoingRun_sample hMiddle hPosted hToken) hSteady hLog hMsg hMem
      hFailed⟩

end Exchange

end PacketRouter.HttpRoaming
