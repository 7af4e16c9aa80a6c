import PacketRouterIngest.HttpRoaming.Backpressure

/-! What the network server is told about a downlink. The send to a gateway's
channel waits for room and fails when the receiver is gone, be it before the
send or while it waits; its result is discarded, so what is told is true as
long as no send ends that way. -/
namespace PacketRouter.HttpRoaming

open Rust Semantics

/-- The channel that a gateway has after these turns: that of its last connect,
if no disconnect came after it. -/
def channelAfter (turns : List Turn) (gw : GatewayB58) : Option GatewayTx :=
  turns.foldl (fun entry turn => turn.msg.gatewayAfter gw entry) none

/-- Success is told of a downlink only if it was put on the channel that the
earlier turns have left to its gateway, and a downlink that was put on none is
reported as failed. -/
structure Turn.Truthful (earlier : List Turn) (turn : Turn) : Prop where
  success : ∀ response, .httpResponse response ∈ turn.effects.posted →
    response.result = .success → ∃ packet tx, turn.msg = .downlink packet ∧
      response = packet.httpResponse.success ∧
      channelAfter earlier packet.gatewayB58 = some tx ∧
      turn.action = .downlinkSend tx packet response ∧ (tx, packet.downlink) ∈ turn.effects.enqueued
  failure : ∀ packet, turn.msg = .downlink packet → turn.effects.enqueued = [] →
    ∃ response, .httpResponse response ∈ turn.effects.posted ∧ response.result = .xmitFailed

theorem channelAfter_snoc (turns : List Turn) (turn : Turn) (gw : GatewayB58) :
    channelAfter (turns ++ [turn]) gw = turn.msg.gatewayAfter gw (channelAfter turns gw) := by
  rw [channelAfter, List.foldl_append]
  rfl

namespace Service

variable {c : Crates} {s : Service} {earlier : List Turn}

/-- A turn that takes no downlink tells nothing. -/
theorem truthful_other {msg : Msg} {app app' : App} {action : UpdateAction}
    (hMsg : handleMessage c app msg = .ok (app', action))
    (hDownlink : ¬ ∃ packet, msg = .downlink packet) :
    Turn.Truthful earlier ⟨msg, action, s.effects action⟩ := by
  constructor
  · intro response hPosted _
    exact absurd (downlink_of_posted hMsg hPosted) hDownlink
  · intro packet hPacket _
    exact absurd ⟨packet, hPacket⟩ hDownlink

/-- A downlink for an unknown gateway is reported as failed. -/
theorem truthful_unknown (s : Service) (packet : PacketDown) (response : HttpResponse) :
    Turn.Truthful earlier ⟨.downlink packet, .downlinkError response.xmitFailed,
      s.effects (.downlinkError response.xmitFailed)⟩ := by
  constructor
  · intro posted hPosted hSuccess
    obtain rfl : posted = response.xmitFailed := by
      simpa [effects, handleUpdateAction, Effects.none] using hPosted
    cases hSuccess
  · intro _ _ _
    exact ⟨response.xmitFailed, by simp [effects, handleUpdateAction], rfl⟩

/-- A downlink for a known gateway is reported as sent, which is true as long
as its channel has a receiver. -/
theorem truthful_known {packet : PacketDown} {tx : GatewayTx}
    (hTx : channelAfter earlier packet.gatewayB58 = some tx) :
    Turn.Truthful earlier ⟨.downlink packet, .downlinkSend tx packet packet.httpResponse.success,
      s.effects (.downlinkSend tx packet packet.httpResponse.success)⟩ ↔ tx ∉ s.closed := by
  have hPosted {posted : HttpResponse} (h : .httpResponse posted ∈
      (s.effects (.downlinkSend tx packet packet.httpResponse.success)).posted) :
      posted = packet.httpResponse.success := by
    simp only [effects, handleUpdateAction] at h
    split_ifs at h
    · simpa using h
    · cases h
  constructor
  · -- The failed send goes unnoticed, and success is all that can be posted.
    intro hTruthful hClosed
    have hNothing : (s.effects (.downlinkSend tx packet packet.httpResponse.success)).enqueued =
        [] := by
      simp [effects, handleUpdateAction, GatewayTx.sendDownlink, hClosed]
    obtain ⟨posted, hMem, hFailed⟩ := hTruthful.failure packet rfl hNothing
    rw [hPosted hMem] at hFailed
    cases hFailed
  · intro hOpen
    have hEnqueued : (tx, packet.downlink) ∈
        (s.effects (.downlinkSend tx packet packet.httpResponse.success)).enqueued := by
      simp [effects, handleUpdateAction, GatewayTx.sendDownlink, hOpen]
    constructor
    · intro posted hMem _
      obtain rfl := hPosted hMem
      exact ⟨packet, tx, rfl, rfl, hTx, rfl, hEnqueued⟩
    · intro _ _ hNothing
      exact absurd hNothing (List.ne_nil_of_mem hEnqueued)

end Service

namespace BoundedSystem

variable {c : Crates} {s t : BoundedSystem}

/-- Everything that the network server was told about downlinks is true. -/
def Honest (s : BoundedSystem) : Prop :=
  ∀ before turn after, s.system.service.log = before ++ turn :: after → turn.Truthful before

/-- The loop is in `send_downlink`, and the receiver of its channel is gone. -/
def HungUp (s : BoundedSystem) : Prop :=
  ∃ m, s.sending = some m ∧ m.tx ∈ s.system.service.closed

/-- The map holds for each gateway what the history has left to it. -/
def Tabled (s : BoundedSystem) : Prop :=
  ∀ gw, s.system.service.app.gatewayMap.lookup gw = channelAfter s.system.service.log gw

theorem Tabled.turn {service : Service} {msg : Msg} {rest : List Msg} {app : App}
    {action : UpdateAction}
    (h : ∀ gw, service.app.gatewayMap.lookup gw = channelAfter service.log gw)
    (hMsg : handleMessage c service.app msg = .ok (app, action)) (gw : GatewayB58) :
    (service.afterTurn msg rest app action).app.gatewayMap.lookup gw =
      channelAfter (service.afterTurn msg rest app action).log gw := by
  rw [Service.afterTurn, channelAfter_snoc, ← h]
  exact gatewayMap_handleMessage gw hMsg

theorem Tabled.step {event : BoundedEvent} (h : s.Tabled) (hHandled : s.Handled c)
    (hStep : step c s event = some t) : t.Tabled := by
  obtain ⟨inner, system, room, hTurn, -, hNext, rfl⟩ | ⟨tx, -, rfl⟩ | ⟨tx, ch, -, -, rfl⟩ |
    ⟨-, hReceive⟩ | ⟨-, hDeliver⟩ := step_cases hStep
  · obtain ⟨hApp, hLog, -⟩ := System.step_aside hNext hTurn
    intro gw
    change system.service.app.gatewayMap.lookup gw = channelAfter system.service.log gw
    rw [hApp, hLog]
    exact h gw
  · exact h
  · exact h
  · obtain ⟨msg, rest, room, -, -, ⟨_, _, _, -, rfl⟩ | ⟨app, action, hMsg, -, rfl⟩⟩ :=
      receive_cases hReceive
    · exact h
    · exact Tabled.turn h hMsg
  · obtain ⟨m, hSending, ⟨-, rfl⟩ | ⟨_, -, -, rfl⟩⟩ := deliver_cases hDeliver <;>
      exact Tabled.turn h (hHandled m hSending)

theorem tabled_of_run {settings : HttpSettings} {events : List BoundedEvent}
    (run : Runs c settings events s) : s.Tabled := by
  have hBoth : s.Handled c ∧ s.Tabled := by
    refine run.invariant (fun s => s.Handled c ∧ s.Tabled) ⟨?_, fun gw => rfl⟩ ?_
    · intro m hSending
      cases hSending
    · rintro s event t - ⟨hHandled, hTabled⟩ hStep
      exact ⟨hHandled.step hStep, hTabled.step hHandled hStep⟩
  exact hBoth.2

/-- A turn that was not a send tells the truth. -/
theorem truthful_of_receive {msg : Msg} {app : App} {action : UpdateAction} {earlier : List Turn}
    (hMsg : handleMessage c s.system.service.app msg = .ok (app, action))
    (hAction : ∀ tx packet response, action ≠ .downlinkSend tx packet response) :
    Turn.Truthful earlier ⟨msg, action, s.system.service.effects action⟩ := by
  by_cases hDownlink : ∃ packet, msg = .downlink packet
  · obtain ⟨packet, rfl⟩ := hDownlink
    rw [handleMessage_downlink] at hMsg
    cases hTx : s.system.service.app.gatewayMap.lookup packet.gatewayB58 with
    | none =>
        rw [hTx] at hMsg
        cases hMsg
        exact Service.truthful_unknown _ packet packet.httpResponse
    | some tx =>
        rw [hTx] at hMsg
        cases hMsg
        exact absurd rfl (hAction _ _ _)
  · exact Service.truthful_other hMsg hDownlink

/-- A send that ends tells the truth unless the receiver is gone. -/
theorem truthful_of_deliver {m : Transmission} (h : s.Tabled) (hHandled : s.Handled c)
    (hSending : s.sending = some m) :
    Turn.Truthful s.system.service.log ⟨m.msg, .downlinkSend m.tx m.packet m.response,
      s.system.service.effects (.downlinkSend m.tx m.packet m.response)⟩ ↔ ¬ s.HungUp := by
  obtain ⟨-, hMsg, hTx, hResponse⟩ := downlink_of_send (hHandled m hSending)
  have hHungUp : s.HungUp ↔ m.tx ∈ s.system.service.closed := by
    constructor
    · rintro ⟨own, hOwn, hClosed⟩
      obtain rfl : m = own := Option.some.inj (hSending.symm.trans hOwn)
      exact hClosed
    · exact fun hClosed => ⟨m, hSending, hClosed⟩
  rw [hMsg, hResponse, hHungUp]
  exact Service.truthful_known ((h _).symm.trans hTx)

/-- One more turn. -/
theorem honest_snoc {turn : Turn}
    (hLog : t.system.service.log = s.system.service.log ++ [turn]) :
    t.Honest ↔ s.Honest ∧ turn.Truthful s.system.service.log := by
  constructor
  · intro h
    refine ⟨fun before own after hSplit => ?_, h _ turn [] hLog⟩
    exact h before own (after ++ [turn]) (by rw [hLog, hSplit, List.append_assoc, List.cons_append])
  · rintro ⟨h, hTurn⟩ before own after hSplit
    rw [hLog] at hSplit
    obtain ⟨-, rfl, rfl⟩ | ⟨final, -, hEarlier⟩ := snoc_eq_append_cons.mp hSplit
    · exact hTurn
    · exact h before own final hEarlier

theorem honest_step {event : BoundedEvent} (h : s.Tabled) (hHandled : s.Handled c)
    (hStep : step c s event = some t) :
    t.Honest ↔ s.Honest ∧ (event = .deliver → ¬ s.HungUp) := by
  have hSame (hLog : t.system.service.log = s.system.service.log) (hEvent : event ≠ .deliver) :
      t.Honest ↔ s.Honest ∧ (event = .deliver → ¬ s.HungUp) := by
    simp only [Honest, hLog, hEvent, false_implies, and_true]
  by_cases hEvent : event = .deliver
  · subst hEvent
    obtain ⟨m, hSending, hDone⟩ := deliver_cases (show s.deliver = some t from hStep)
    have hLog : t.system.service.log = s.system.service.log ++
        [⟨m.msg, .downlinkSend m.tx m.packet m.response,
          s.system.service.effects (.downlinkSend m.tx m.packet m.response)⟩] := by
      obtain ⟨-, rfl⟩ | ⟨_, -, -, rfl⟩ := hDone <;> rfl
    rw [honest_snoc hLog, truthful_of_deliver h hHandled hSending]
    simp
  · obtain ⟨inner, system, room, hTurn, -, hNext, rfl⟩ | ⟨tx, -, rfl⟩ | ⟨tx, ch, -, -, rfl⟩ |
      ⟨-, hReceive⟩ | ⟨rfl, -⟩ := step_cases hStep
    · exact hSame (System.step_aside hNext hTurn).2.1 hEvent
    · exact hSame rfl hEvent
    · exact hSame rfl hEvent
    · obtain ⟨msg, rest, room, -, -, ⟨_, _, _, -, rfl⟩ | ⟨app, action, hMsg, hAction, rfl⟩⟩ :=
        receive_cases hReceive
      · exact hSame rfl hEvent
      · have hTruthful : Turn.Truthful s.system.service.log
            ⟨msg, action, s.system.service.effects action⟩ := truthful_of_receive hMsg hAction
        refine (honest_snoc rfl).trans ?_
        simp [hTruthful, hEvent]
    · exact absurd rfl hEvent

/-- **Delivery.** In a run, everything that the network server was told about
downlinks is true exactly if no send ended when the receiver of its channel was
gone. What was put on the channel of a client that is there is what the client
has read and what waits for it. -/
theorem truthful_iff {settings : HttpSettings} {events : List BoundedEvent}
    (run : Runs c settings events s) :
    (s.Honest ↔ ∀ before after middle, events = before ++ .deliver :: after →
      Runs c settings before middle → ¬ middle.HungUp) ∧
    ∀ tx, tx ∉ s.system.service.closed →
      (s.channels tx).taken ++ (s.channels tx).buffer = s.system.service.downlinksOn tx := by
  refine ⟨?_, fun tx => (delivers_of_run run tx).served⟩
  have hStart : (init settings).Honest := by
    intro before turn after hSplit
    simp [init, System.init, Service.init] at hSplit
  have hStep : ∀ before s event t, Runs c settings before s → step c s event = some t →
      (t.Honest ↔ s.Honest ∧ (event = .deliver → ¬ s.HungUp)) := by
    intro before s event t hRun hStep
    exact honest_step (tabled_of_run hRun) (unbounded_of_run hRun).1 hStep
  rw [run.iff_every_step hStart hStep]
  constructor
  · intro h before after middle hSplit hRun
    exact h before .deliver after middle hSplit hRun rfl
  · rintro h before event after middle hSplit hRun rfl
    exact h before after middle hSplit hRun

/-- Success is told of a downlink whose gateway has hung up. -/
theorem hungUp_success :
    ∃ s, Runs Crates.sample .sample
        [.stream .opens, .stream (.read 0 (.packet (.sample joinFrame [0]))), .stream (.send 0),
          .receive, .dropReceiver ⟨0⟩, .downlink Service.sampleDown, .receive, .deliver] s ∧
      ∃ before turn, s.system.service.log = before ++ [turn] ∧
        .httpResponse Service.sampleDown.httpResponse ∈ turn.effects.posted ∧
        turn.effects.enqueued = [] ∧ ¬ s.Honest := by
  obtain ⟨s, run, before, turn, hLog, hMsg, hPosted, hNothing⟩ : ∃ s, Runs Crates.sample .sample
      [.stream .opens, .stream (.read 0 (.packet (.sample joinFrame [0]))), .stream (.send 0),
        .receive, .dropReceiver ⟨0⟩, .downlink Service.sampleDown, .receive, .deliver] s ∧
      ∃ before turn, s.system.service.log = before ++ [turn] ∧
        turn.msg = .downlink Service.sampleDown ∧
        turn.effects.posted = [.httpResponse Service.sampleDown.httpResponse] ∧
        turn.effects.enqueued = [] :=
    ⟨_, run_of_exec rfl, [_], _, rfl, rfl, rfl, rfl⟩
  refine ⟨s, run, before, turn, hLog, by simp [hPosted], hNothing, fun hHonest => ?_⟩
  obtain ⟨response, hResponse, hFailed⟩ :=
    (hHonest before turn [] hLog).failure Service.sampleDown hMsg hNothing
  rw [hPosted, List.mem_singleton] at hResponse
  cases hResponse
  cases hFailed

/-- Where no receiver is dropped, what is told is true: success for the gateway
that is there, and failure for another one. -/
theorem sample_truthful :
    ∃ s, Runs Crates.sample .sample
        [.stream .opens, .stream (.read 0 (.packet (.sample joinFrame [0]))), .stream (.send 0),
          .receive, .downlink Service.sampleDown, .receive, .deliver,
          .downlink { Service.sampleDown with gatewayB58 := ⟨"gateway"⟩ }, .receive] s ∧
      s.system.service.log.map (fun turn => turn.effects.posted) =
        [[], [.httpResponse Service.sampleDown.httpResponse],
          [.httpResponse Service.sampleDown.httpResponse.xmitFailed]] ∧
      (s.channels ⟨0⟩).buffer = [Service.sampleDown.downlink] ∧ s.Honest := by
  obtain ⟨s, run, hPosted, hBuffer⟩ : ∃ s, Runs Crates.sample .sample
      [.stream .opens, .stream (.read 0 (.packet (.sample joinFrame [0]))), .stream (.send 0),
        .receive, .downlink Service.sampleDown, .receive, .deliver,
        .downlink { Service.sampleDown with gatewayB58 := ⟨"gateway"⟩ }, .receive] s ∧
      s.system.service.log.map (fun turn => turn.effects.posted) =
        [[], [.httpResponse Service.sampleDown.httpResponse],
          [.httpResponse Service.sampleDown.httpResponse.xmitFailed]] ∧
      (s.channels ⟨0⟩).buffer = [Service.sampleDown.downlink] :=
    ⟨_, run_of_exec rfl, rfl, rfl⟩
  refine ⟨s, run, hPosted, hBuffer, (truthful_iff run).1.mpr fun before after middle hSplit hRun => ?_⟩
  rintro ⟨m, -, hClosed⟩
  have hOpen := hRun.invariant (fun s => s.system.service.closed = []) rfl (by
    intro s event t hEvent hOpen hStep
    obtain ⟨inner, system, room, hTurn, hDrop, hNext, rfl⟩ | ⟨tx, rfl, rfl⟩ | ⟨tx, ch, -, -, rfl⟩ |
      ⟨-, hReceive⟩ | ⟨-, hDeliver⟩ := step_cases hStep
    · obtain ⟨-, -, -, hSame | ⟨tx, hOwn, -⟩, -⟩ := System.step_aside hNext hTurn
      · exact hSame.trans hOpen
      · exact absurd hOwn (hDrop tx)
    · have hMem : .dropReceiver tx ∈ before ++ .deliver :: after := List.mem_append_left _ hEvent
      rw [← hSplit] at hMem
      simp at hMem
    · exact hOpen
    · obtain ⟨_, _, _, -, -, ⟨_, _, _, -, rfl⟩ | ⟨_, _, -, -, rfl⟩⟩ := receive_cases hReceive <;>
        exact hOpen
    · obtain ⟨_, -, ⟨-, rfl⟩ | ⟨_, -, -, rfl⟩⟩ := deliver_cases hDeliver <;> exact hOpen)
  rw [hOpen] at hClosed
  cases hClosed

end BoundedSystem

end PacketRouter.HttpRoaming
