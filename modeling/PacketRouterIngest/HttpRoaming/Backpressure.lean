import PacketRouterIngest.HttpRoaming.Registration
import PacketRouterIngest.Semantics.Channel

/-! The system with the channels it really has: the queue of the app holds 512
messages, the channel of a gateway 128 downlinks. Tasks wait for room in the
queue, and the loop waits for room in the channel it is sending to. -/
namespace PacketRouter.HttpRoaming

open Rust Semantics

/-- The channel that `MsgSender::new` makes. -/
def queueCapacity : Nat := 512

/-- The channel that `route` makes. -/
def downlinkCapacity : Nat := 128

/-- The loop inside `send_downlink`: the message it has handled and the side
effect that waits for room. -/
structure Transmission where
  msg : Msg
  tx : GatewayTx
  packet : PacketDown
  response : HttpResponse

structure BoundedSystem where
  system : System
  sending : Option Transmission
  channels : GatewayTx → Channel PacketRouterPacketDownV1 downlinkCapacity
  room : system.service.queue.length ≤ queueCapacity

inductive BoundedEvent where
  | stream (event : StreamEvent)
  /-- The HTTP handler accepted a downlink. -/
  | downlink (packet : PacketDown)
  | timer (index : Nat)
  /-- The client of a stream takes the next downlink. -/
  | read (tx : GatewayTx)
  | dropReceiver (tx : GatewayTx)
  /-- The loop takes the next message. -/
  | receive
  /-- The loop is done with `send_downlink`. -/
  | deliver

/-- The same moment with these messages still to be handled. -/
def System.delay (s : System) (msgs : List Msg) : System :=
  { s with service := { s.service with queue := msgs ++ s.service.queue } }

namespace BoundedSystem

def init (settings : HttpSettings) : BoundedSystem where
  system := .init settings
  sending := none
  channels _ := .empty
  room := Nat.zero_le _

/-- The system without limits: a message that is being sent is not handled yet. -/
def unbounded (s : BoundedSystem) : System :=
  s.system.delay (s.sending.map Transmission.msg).toList

/-- Accept what a task does if its message finds room. -/
def accept (s : BoundedSystem) (system : System) : Option BoundedSystem :=
  if room : system.service.queue.length ≤ queueCapacity then some { s with system, room } else none

/-- The loop has carried out the side effect of the message it was sending. -/
def finish (s : BoundedSystem) (m : Transmission) : BoundedSystem where
  system := { s.system with
    service := s.system.service.afterTurn m.msg s.system.service.queue s.system.service.app
      (.downlinkSend m.tx m.packet m.response) }
  sending := none
  channels := s.channels
  room := s.room

variable (c : Crates)

/-- `handle_single_message`, and the side effect if it does not have to wait. -/
def receive (s : BoundedSystem) : Option BoundedSystem :=
  match s.sending, s.system.service.queue with
  | none, msg :: rest =>
      match handleMessage c s.system.service.app msg with
      | .ok (app, .downlinkSend tx packet response) =>
          ({ s with sending := some ⟨msg, tx, packet, response⟩ } : BoundedSystem).accept
            { s.system with service := { s.system.service with app, queue := rest } }
      | .ok (app, action) =>
          s.accept { s.system with service := s.system.service.afterTurn msg rest app action }
      | .error _ => none
  | _, _ => none

/-- `send_downlink` returns when the channel has taken the downlink or its
receiver is gone. -/
def deliver (s : BoundedSystem) : Option BoundedSystem :=
  match s.sending with
  | none => none
  | some m =>
      if s.system.service.closed.contains m.tx then some (s.finish m)
      else
        ((s.channels m.tx).put m.packet.downlink).map fun ch =>
          { s.finish m with channels := Function.update s.channels m.tx ch }

/-- A task outside the loop moves, and waits if its message finds no room. -/
def task (s : BoundedSystem) (event : SystemEvent) : Option BoundedSystem :=
  (s.system.step c event).bind s.accept

def step (s : BoundedSystem) : BoundedEvent → Option BoundedSystem
  | .stream event => s.task c (.stream event)
  | .downlink packet => s.task c (.downlink packet)
  | .timer index => s.task c (.timer index)
  | .read tx =>
      (s.channels tx).take.map fun ch => { s with channels := Function.update s.channels tx ch }
  | .dropReceiver tx =>
      ({ s with channels := Function.update s.channels tx (s.channels tx).discard } :
        BoundedSystem).task c (.dropReceiver tx)
  | .receive => s.receive c
  | .deliver => s.deliver

abbrev Runs (settings : HttpSettings) (events : List BoundedEvent) (s : BoundedSystem) : Prop :=
  Run (step c) (init settings) events s

end BoundedSystem

namespace System

variable {c : Crates} {s t : System}

/-- A step that is no turn leaves the app and its history alone, adds to the
end of the queue, and does not depend on what the queue holds. -/
theorem step_aside {event : SystemEvent} (h : System.step c s event = some t)
    (hTurn : event ≠ .turn) :
    t.service.app = s.service.app ∧ t.service.log = s.service.log ∧
    (∃ arrived, t.service.queue = s.service.queue ++ arrived) ∧
    (t.service.closed = s.service.closed ∨ ∃ tx, event = .dropReceiver tx ∧
      t.service.closed = tx :: s.service.closed) ∧
    ∀ msgs, System.step c (s.delay msgs) event = some (t.delay msgs) := by
  cases event with
  | stream inner =>
      simp only [System.step] at h
      split at h
      · cases h
      · next gateways hSilent =>
          cases h
          refine ⟨rfl, rfl, ⟨[], (List.append_nil _).symm⟩, .inl rfl, fun msgs => ?_⟩
          simp only [System.step, delay, hSilent]
      · next gateways msg hSend =>
          cases h
          refine ⟨rfl, rfl, ⟨_, rfl⟩, .inl rfl, fun msgs => ?_⟩
          simp only [System.step, stepService, Service.step, delay, hSend, Option.map_some,
            List.append_assoc]
  | downlink packet =>
      cases h
      refine ⟨rfl, rfl, ⟨_, rfl⟩, .inl rfl, fun msgs => ?_⟩
      simp only [System.step, stepService, Service.step, delay, Option.map_some, List.append_assoc]
  | timer index =>
      simp only [System.step, stepService, Service.step] at h
      split at h
      · cases h
      · next timer hTimer =>
          cases h
          refine ⟨rfl, rfl, ⟨_, rfl⟩, .inl rfl, fun msgs => ?_⟩
          simp only [System.step, stepService, Service.step, delay, hTimer, Option.map_some,
            List.append_assoc]
  | dropReceiver tx =>
      cases h
      exact ⟨rfl, rfl, ⟨[], (List.append_nil _).symm⟩, .inr ⟨tx, rfl, rfl⟩, fun msgs => rfl⟩
  | turn => exact absurd rfl hTurn

/-- A turn on a system whose next message is known. -/
theorem step_turn {msg : Msg} {rest : List Msg} {app : App} {action : UpdateAction}
    (hQueue : s.service.queue = msg :: rest)
    (hMsg : handleMessage c s.service.app msg = .ok (app, action)) :
    System.step c s .turn = some { s with service := s.service.afterTurn msg rest app action } := by
  simp only [System.step, stepService, Service.step_turn hQueue hMsg, Option.map_some]

end System

namespace BoundedSystem

variable {c : Crates} {s t : BoundedSystem}

theorem accept_eq_some {system : System} :
    s.accept system = some t ↔ ∃ room, t = { s with system, room } := by
  rw [accept]
  split_ifs with hRoom
  · simp [hRoom, eq_comm]
  · simp [hRoom]

theorem task_eq_some {inner : SystemEvent} :
    s.task c inner = some t ↔
      ∃ system room, System.step c s.system inner = some system ∧ t = { s with system, room } := by
  simp only [task, Option.bind_eq_some_iff, accept_eq_some]
  grind

/-- The loop takes a message and either waits in `send_downlink` or is done
with the turn. -/
theorem receive_cases (h : s.receive c = some t) :
    ∃ msg rest room, s.sending = none ∧ s.system.service.queue = msg :: rest ∧
      ((∃ tx packet response,
        handleMessage c s.system.service.app msg =
          .ok (s.system.service.app, .downlinkSend tx packet response) ∧
        t = { s with
          system := { s.system with service := { s.system.service with queue := rest } }
          sending := some ⟨msg, tx, packet, response⟩
          room }) ∨
      ∃ app action, handleMessage c s.system.service.app msg = .ok (app, action) ∧
        (∀ tx packet response, action ≠ .downlinkSend tx packet response) ∧
        t = { s with
          system := { s.system with service := s.system.service.afterTurn msg rest app action }
          room }) := by
  rw [receive] at h
  split at h
  · next msg rest hSending hQueue =>
      split at h
      · next app tx packet response hMsg =>
          obtain ⟨room, rfl⟩ := accept_eq_some.mp h
          obtain rfl := (downlink_of_send hMsg).1
          exact ⟨msg, rest, room, hSending, hQueue, .inl ⟨tx, packet, response, hMsg, rfl⟩⟩
      · next app action hAction hMsg =>
          obtain ⟨room, rfl⟩ := accept_eq_some.mp h
          exact ⟨msg, rest, room, hSending, hQueue,
            .inr ⟨app, action, hMsg, fun tx packet response => hAction tx packet response, rfl⟩⟩
      · cases h
  · cases h

theorem deliver_cases (h : s.deliver = some t) :
    ∃ m, s.sending = some m ∧
      ((m.tx ∈ s.system.service.closed ∧ t = s.finish m) ∨
      ∃ ch, m.tx ∉ s.system.service.closed ∧ (s.channels m.tx).put m.packet.downlink = some ch ∧
        t = { s.finish m with channels := Function.update s.channels m.tx ch }) := by
  rw [deliver] at h
  split at h
  · cases h
  · next m hSending =>
      refine ⟨m, hSending, ?_⟩
      split_ifs at h with hClosed
      · exact .inl ⟨by simpa using hClosed, (Option.some.inj h).symm⟩
      · obtain ⟨ch, hPut, rfl⟩ := Option.map_eq_some_iff.mp h
        exact .inr ⟨ch, by simpa using hClosed, hPut, rfl⟩

/-- Everything one event can do: a task moves, a client reads or leaves, the
loop takes a message, or it is done with sending. -/
theorem step_cases {event : BoundedEvent} (h : step c s event = some t) :
    (∃ inner system room, inner ≠ .turn ∧ (∀ tx, inner ≠ .dropReceiver tx) ∧
      System.step c s.system inner = some system ∧ t = { s with system, room }) ∨
    (∃ tx, event = .dropReceiver tx ∧ t = { s with
      system := { s.system with
        service := { s.system.service with closed := tx :: s.system.service.closed } }
      channels := Function.update s.channels tx (s.channels tx).discard }) ∨
    (∃ tx ch, event = .read tx ∧ (s.channels tx).take = some ch ∧
      t = { s with channels := Function.update s.channels tx ch }) ∨
    (event = .receive ∧ s.receive c = some t) ∨ (event = .deliver ∧ s.deliver = some t) := by
  cases event with
  | stream inner =>
      obtain ⟨system, room, hNext, rfl⟩ := task_eq_some.mp h
      exact .inl ⟨.stream inner, system, room, by simp, by simp, hNext, rfl⟩
  | downlink packet =>
      obtain ⟨system, room, hNext, rfl⟩ := task_eq_some.mp h
      exact .inl ⟨.downlink packet, system, room, by simp, by simp, hNext, rfl⟩
  | timer index =>
      obtain ⟨system, room, hNext, rfl⟩ := task_eq_some.mp h
      exact .inl ⟨.timer index, system, room, by simp, by simp, hNext, rfl⟩
  | dropReceiver tx =>
      obtain ⟨system, room, hNext, rfl⟩ := task_eq_some.mp h
      cases hNext
      exact .inr (.inl ⟨tx, rfl, rfl⟩)
  | read tx =>
      obtain ⟨ch, hTake, rfl⟩ := Option.map_eq_some_iff.mp h
      exact .inr (.inr (.inl ⟨tx, ch, rfl, hTake, rfl⟩))
  | receive => exact .inr (.inr (.inr (.inl ⟨rfl, h⟩)))
  | deliver => exact .inr (.inr (.inr (.inr ⟨rfl, h⟩)))

/-- The loop waits in `send_downlink` for a message that it has handled. -/
def Handled (c : Crates) (s : BoundedSystem) : Prop :=
  ∀ m, s.sending = some m → handleMessage c s.system.service.app m.msg =
    .ok (s.system.service.app, .downlinkSend m.tx m.packet m.response)

theorem Handled.step {event : BoundedEvent} (h : s.Handled c) (hStep : step c s event = some t) :
    t.Handled c := by
  obtain ⟨inner, system, room, hTurn, -, hNext, rfl⟩ | ⟨tx, -, rfl⟩ | ⟨tx, ch, -, -, rfl⟩ |
    ⟨-, hReceive⟩ | ⟨-, hDeliver⟩ := step_cases hStep
  · intro m hSending
    obtain ⟨hApp, -⟩ := System.step_aside hNext hTurn
    change handleMessage c system.service.app m.msg = .ok (system.service.app, _)
    rw [hApp]
    exact h m hSending
  · exact h
  · exact h
  · obtain ⟨msg, rest, room, hNone, -, ⟨tx, packet, response, hMsg, rfl⟩ | ⟨_, _, -, -, rfl⟩⟩ :=
      receive_cases hReceive
    · intro m hSending
      cases hSending
      exact hMsg
    · intro m hSending
      rw [show _ = none from hNone] at hSending
      cases hSending
  · intro m hSending
    obtain ⟨_, -, ⟨-, rfl⟩ | ⟨_, -, -, rfl⟩⟩ := deliver_cases hDeliver <;> cases hSending

/-- Taking a message that is then sent changes nothing in the unbounded system;
any other is handled there. -/
theorem unbounded_receive (h : s.receive c = some t) :
    (t.sending ≠ none ∧ t.unbounded = s.unbounded) ∨
      System.step c s.unbounded .turn = some t.unbounded := by
  obtain ⟨msg, rest, room, hNone, hQueue, hTurn⟩ := receive_cases h
  have hNow : s.unbounded.service.queue = msg :: rest := by
    simp [unbounded, System.delay, hNone, hQueue]
  obtain ⟨tx, packet, response, hMsg, rfl⟩ | ⟨app, action, hMsg, -, rfl⟩ := hTurn
  · exact .inl ⟨Option.some_ne_none _, by simp [unbounded, System.delay, hNone, hQueue]⟩
  · refine .inr ((System.step_turn hNow hMsg).trans ?_)
    simp [unbounded, System.delay, hNone]

/-- The message that has been sent is handled in the unbounded system. -/
theorem unbounded_deliver (h : s.Handled c) (hDeliver : s.deliver = some t) :
    System.step c s.unbounded .turn = some t.unbounded := by
  obtain ⟨m, hSending, hDone⟩ := deliver_cases hDeliver
  have hNow : s.unbounded.service.queue = m.msg :: s.system.service.queue := by
    simp [unbounded, System.delay, hSending]
  refine (System.step_turn hNow (h m hSending)).trans ?_
  obtain ⟨-, rfl⟩ | ⟨ch, -, -, rfl⟩ := hDone <;> rfl

/-- One event is a step of the unbounded system, or nothing happens there. -/
theorem unbounded_step {event : BoundedEvent} (h : s.Handled c) (hStep : step c s event = some t) :
    t.unbounded = s.unbounded ∨ ∃ move, System.step c s.unbounded move = some t.unbounded := by
  obtain ⟨inner, system, room, hTurn, -, hNext, rfl⟩ | ⟨tx, -, rfl⟩ | ⟨tx, ch, -, -, rfl⟩ |
    ⟨-, hReceive⟩ | ⟨-, hDeliver⟩ := step_cases hStep
  · obtain ⟨-, -, -, -, hDelay⟩ := System.step_aside hNext hTurn
    exact .inr ⟨inner, hDelay _⟩
  · exact .inr ⟨.dropReceiver tx, rfl⟩
  · exact .inl rfl
  · obtain ⟨-, hSame⟩ | hTurn := unbounded_receive hReceive
    · exact .inl hSame
    · exact .inr ⟨.turn, hTurn⟩
  · exact .inr ⟨.turn, unbounded_deliver h hDeliver⟩

/-- Every run with limits is a run without them. -/
theorem unbounded_of_run {settings : HttpSettings} {events : List BoundedEvent}
    (run : Runs c settings events s) :
    s.Handled c ∧ ∃ moves, System.Runs c settings moves s.unbounded := by
  refine run.invariant (fun s => s.Handled c ∧ ∃ moves, System.Runs c settings moves s.unbounded)
    ⟨?_, [], .nil⟩ ?_
  · intro m hSending
    cases hSending
  · rintro s event t - ⟨hHandled, moves, hRun⟩ hStep
    refine ⟨hHandled.step hStep, ?_⟩
    obtain hSame | ⟨move, hMove⟩ := unbounded_step hHandled hStep
    · exact ⟨moves, hSame ▸ hRun⟩
    · exact ⟨moves ++ [move], hRun.snoc hMove⟩

end BoundedSystem

/-- Downlinks that a side effect puts on one channel. -/
def Effects.downlinksOn (effects : Effects) (tx : GatewayTx) : List PacketRouterPacketDownV1 :=
  (effects.enqueued.filter fun line => line.1 = tx).map Prod.snd

/-- Downlinks that the history has put on one channel. -/
def Service.downlinksOn (s : Service) (tx : GatewayTx) : List PacketRouterPacketDownV1 :=
  s.log.flatMap fun turn => turn.effects.downlinksOn tx

namespace Service

variable {s : Service} {action : UpdateAction} {tx : GatewayTx}

theorem downlinksOn_afterTurn (msg : Msg) (rest : List Msg) (app : App) :
    (s.afterTurn msg rest app action).downlinksOn tx =
      s.downlinksOn tx ++ (s.effects action).downlinksOn tx := by
  simp [downlinksOn, afterTurn]

/-- Only a downlink is put on a channel. -/
theorem downlinksOn_of_ne (h : ∀ tx packet response, action ≠ .downlinkSend tx packet response) :
    (s.effects action).downlinksOn tx = [] := by
  cases action with
  | downlinkSend tx packet response => exact absurd rfl (h tx packet response)
  | noop | startTimerForNewPacket | downlinkError | uplinkSend => rfl

theorem downlinksOn_downlinkSend {own : GatewayTx} {packet : PacketDown} {response : HttpResponse} :
    (s.effects (.downlinkSend own packet response)).downlinksOn tx =
      if own = tx ∧ own ∉ s.closed then [packet.downlink] else [] := by
  have hOwn : (s.effects (.downlinkSend own packet response)).downlinksOn tx =
      ((GatewayTx.sendDownlink (fun tx => s.closed.contains tx) own packet.downlink).filter
        (fun line => line.1 = tx)).map Prod.snd := rfl
  rw [hOwn, GatewayTx.sendDownlink]
  by_cases hTx : own = tx
  · subst hTx
    by_cases hClosed : own ∈ s.closed <;> simp [hClosed]
  · by_cases hClosed : own ∈ s.closed <;> simp [hClosed, hTx]

end Service

namespace BoundedSystem

variable {c : Crates} {s t : BoundedSystem}

/-- What a client has read and what waits for it is what the history has put on
its channel. Nothing waits for a client that is gone. -/
structure Delivers (s : BoundedSystem) (tx : GatewayTx) : Prop where
  served : tx ∉ s.system.service.closed →
    (s.channels tx).passed = s.system.service.downlinksOn tx
  gone : tx ∈ s.system.service.closed → (s.channels tx).buffer = [] ∧
    (s.channels tx).taken <+: s.system.service.downlinksOn tx

theorem delivers_init (settings : HttpSettings) (tx : GatewayTx) : (init settings).Delivers tx where
  served _ := rfl
  gone h := by cases h

/-- A step that touches neither the channel nor what was put on it. -/
theorem Delivers.of_unchanged {tx : GatewayTx} (h : s.Delivers tx)
    (hChannel : t.channels tx = s.channels tx)
    (hClosed : tx ∈ t.system.service.closed ↔ tx ∈ s.system.service.closed)
    (hDownlinks : t.system.service.downlinksOn tx = s.system.service.downlinksOn tx) :
    t.Delivers tx := by
  constructor
  · rw [hClosed, hChannel, hDownlinks]
    exact h.served
  · rw [hClosed, hChannel, hDownlinks]
    exact h.gone

/-- A client that leaves loses what waits for it. -/
theorem Delivers.discard {tx : GatewayTx} (h : s.Delivers tx) :
    (s.channels tx).discard.taken <+: s.system.service.downlinksOn tx := by
  by_cases hClosed : tx ∈ s.system.service.closed
  · exact (h.gone hClosed).2
  · exact ⟨_, h.served hClosed⟩

theorem Delivers.step {event : BoundedEvent} {tx : GatewayTx} (h : s.Delivers tx)
    (hStep : step c s event = some t) : t.Delivers tx := by
  obtain ⟨inner, system, room, hTurn, hDrop, hNext, rfl⟩ | ⟨own, -, rfl⟩ | ⟨own, ch, -, hTake, rfl⟩ |
    ⟨-, hReceive⟩ | ⟨-, hDeliver⟩ := step_cases hStep
  · obtain ⟨-, hLog, -, hClosed | ⟨own, hOwn, -⟩, -⟩ := System.step_aside hNext hTurn
    · refine h.of_unchanged rfl (by rw [← hClosed]) ?_
      rw [Service.downlinksOn, hLog]
      rfl
    · exact absurd hOwn (hDrop own)
  · by_cases hOwn : tx = own
    · subst hOwn
      refine ⟨fun hOpen => absurd List.mem_cons_self hOpen, fun _ => ?_⟩
      change (Function.update s.channels tx (s.channels tx).discard tx).buffer = [] ∧
        (Function.update s.channels tx (s.channels tx).discard tx).taken <+: _
      rw [Function.update_self]
      exact ⟨rfl, h.discard⟩
    · refine h.of_unchanged (Function.update_of_ne hOwn ..) ?_ rfl
      simp [hOwn]
  · by_cases hOwn : tx = own
    · subst hOwn
      obtain ⟨hPassed, item, hTaken⟩ := Channel.passed_take hTake
      constructor
      · intro hOpen
        change (Function.update s.channels tx ch tx).passed = _
        rw [Function.update_self, hPassed]
        exact h.served hOpen
      · intro hClosed
        rw [Channel.take_eq_none.mpr (h.gone hClosed).1] at hTake
        cases hTake
    · exact h.of_unchanged (Function.update_of_ne hOwn ..) .rfl rfl
  · obtain ⟨msg, rest, room, -, -, ⟨_, _, _, -, rfl⟩ | ⟨app, action, -, hAction, rfl⟩⟩ :=
      receive_cases hReceive
    · exact h.of_unchanged rfl .rfl rfl
    · refine h.of_unchanged rfl .rfl ?_
      rw [Service.downlinksOn_afterTurn, Service.downlinksOn_of_ne hAction, List.append_nil]
  · obtain ⟨m, -, ⟨hClosed, rfl⟩ | ⟨ch, hOpen, hPut, rfl⟩⟩ := deliver_cases hDeliver
    · refine h.of_unchanged rfl .rfl ((Service.downlinksOn_afterTurn ..).trans ?_)
      rw [Service.downlinksOn_downlinkSend, if_neg (fun hBoth => hBoth.2 hClosed), List.append_nil]
    · by_cases hOwn : m.tx = tx
      · subst hOwn
        refine ⟨fun _ => ?_, fun hClosed => absurd hClosed hOpen⟩
        refine Eq.trans ?_ (Service.downlinksOn_afterTurn ..).symm
        change (Function.update s.channels m.tx ch m.tx).passed = _
        rw [Function.update_self, (Channel.passed_put hPut).1, h.served hOpen,
          Service.downlinksOn_downlinkSend, if_pos ⟨rfl, hOpen⟩]
      · refine h.of_unchanged (Function.update_of_ne (Ne.symm hOwn) ..) .rfl
          ((Service.downlinksOn_afterTurn ..).trans ?_)
        rw [Service.downlinksOn_downlinkSend, if_neg (fun hBoth => hOwn hBoth.1), List.append_nil]

theorem delivers_of_run {settings : HttpSettings} {events : List BoundedEvent}
    (run : Runs c settings events s) (tx : GatewayTx) : s.Delivers tx :=
  run.invariant (Delivers · tx) (delivers_init settings tx) (fun _ _ _ _ h hStep => h.step hStep)

/-- **Bounded channels lose nothing.** Every run with bounded channels is a run
of the unbounded system with the same history, in which the message being sent
is the next one. What a client has read, with what waits for it, is what that
history has put on its channel, in order; a client that is gone has read a
beginning of it. -/
theorem refines_unbounded {settings : HttpSettings} {events : List BoundedEvent}
    (run : Runs c settings events s) :
    (∃ moves, System.Runs c settings moves s.unbounded) ∧
    s.unbounded.service.log = s.system.service.log ∧ s.unbounded.service.app = s.system.service.app ∧
    s.unbounded.service.queue.length ≤ queueCapacity + 1 ∧
    ∀ tx, (tx ∉ s.system.service.closed →
        (s.channels tx).taken ++ (s.channels tx).buffer = s.unbounded.service.downlinksOn tx) ∧
      (tx ∈ s.system.service.closed → (s.channels tx).taken <+: s.unbounded.service.downlinksOn tx) := by
  refine ⟨(unbounded_of_run run).2, rfl, rfl, ?_, fun tx => ?_⟩
  · have hRoom := s.room
    simp only [unbounded, System.delay, List.length_append]
    cases s.sending <;> simp <;> omega
  · have hDelivers := delivers_of_run run tx
    exact ⟨hDelivers.served, fun hClosed => (hDelivers.gone hClosed).2⟩

/-- A client reads one of the two downlinks sent to it and leaves. -/
theorem sample_refines :
    ∃ s, Runs Crates.sample .sample
        [.stream .opens, .stream (.read 0 (.packet (.sample joinFrame [0]))), .stream (.send 0),
          .receive, .downlink Service.sampleDown, .downlink Service.sampleDown, .receive, .deliver, .receive,
          .deliver, .read ⟨0⟩, .dropReceiver ⟨0⟩] s ∧
      (s.channels ⟨0⟩).taken.length = 1 ∧
      (s.channels ⟨0⟩).taken <+: s.unbounded.service.downlinksOn ⟨0⟩ := by
  obtain ⟨s, run, hTaken, hGone⟩ : ∃ s, Runs Crates.sample .sample
      [.stream .opens, .stream (.read 0 (.packet (.sample joinFrame [0]))), .stream (.send 0),
        .receive, .downlink Service.sampleDown, .downlink Service.sampleDown, .receive, .deliver, .receive,
        .deliver, .read ⟨0⟩, .dropReceiver ⟨0⟩] s ∧
      (s.channels ⟨0⟩).taken.length = 1 ∧ s.system.service.closed = [⟨0⟩] :=
    ⟨_, run_of_exec rfl, rfl, rfl⟩
  obtain ⟨-, -, -, -, hDelivered⟩ := refines_unbounded run
  exact ⟨s, run, hTaken, (hDelivered ⟨0⟩).2 (by simp [hGone])⟩

/-- The loop waits for room in the full channel of a client that is there. -/
structure Stalled (s : BoundedSystem) (tx : GatewayTx) : Prop where
  sending : ∃ m, s.sending = some m ∧ m.tx = tx
  present : tx ∉ s.system.service.closed
  full : (s.channels tx).Full

/-- The next message can be taken unless the loop is sending, nothing waits, or
the app panics on it. -/
theorem receive_eq_none :
    s.receive c = none ↔ s.sending ≠ none ∨ s.system.service.queue = [] ∨
      s.system.service.Panicking c := by
  have hAccept {u : BoundedSystem} {system : System}
      (hRoom : system.service.queue.length ≤ queueCapacity) : u.accept system ≠ none := by
    rw [accept, dif_pos hRoom]
    exact Option.some_ne_none _
  have hRoom := s.room
  cases hSending : s.sending with
  | some m => simp [receive, hSending]
  | none =>
      cases hQueue : s.system.service.queue with
      | nil => simp [receive, hSending, hQueue]
      | cons msg rest =>
          have hRest : rest.length ≤ queueCapacity := by
            rw [hQueue, List.length_cons] at hRoom
            omega
          cases hMsg : handleMessage c s.system.service.app msg with
          | error reason => simp [receive, hSending, hQueue, hMsg, Service.Panicking]
          | ok result =>
              obtain ⟨app, action⟩ := result
              have hCalm : ¬ s.system.service.Panicking c := by
                rintro ⟨_, _, _, hOther, hPanic⟩
                rw [hQueue] at hOther
                cases hOther
                rw [hMsg] at hPanic
                cases hPanic
              simp only [hCalm, or_false, ne_eq, not_true_eq_false, reduceCtorEq, iff_false]
              cases action with
              | downlinkSend tx packet response =>
                  simp only [receive, hSending, hQueue, hMsg]
                  exact hAccept hRest
              | noop | startTimerForNewPacket | downlinkError | uplinkSend =>
                  simp only [receive, hSending, hQueue, hMsg]
                  exact hAccept hRest

theorem deliver_eq_none : s.deliver = none ↔ s.sending = none ∨ ∃ tx, s.Stalled tx := by
  cases hSending : s.sending with
  | none => simp [deliver, hSending]
  | some m =>
      have hStalled : (∃ tx, s.Stalled tx) ↔
          m.tx ∉ s.system.service.closed ∧ (s.channels m.tx).Full := by
        constructor
        · rintro ⟨tx, ⟨own, hOwn, rfl⟩, hOpen, hFull⟩
          obtain rfl : m = own := Option.some.inj (hSending.symm.trans hOwn)
          exact ⟨hOpen, hFull⟩
        · rintro ⟨hOpen, hFull⟩
          exact ⟨m.tx, ⟨m, hSending, rfl⟩, hOpen, hFull⟩
      have hPut : (s.channels m.tx).put m.packet.downlink = none ↔ (s.channels m.tx).Full :=
        Channel.put_eq_none
      rw [hStalled, ← hPut]
      by_cases hClosed : m.tx ∈ s.system.service.closed <;> simp [deliver, hSending, hClosed]

/-- Only the client itself ends a stall. -/
theorem Stalled.step {event : BoundedEvent} {tx : GatewayTx} (h : s.Stalled tx)
    (hStep : step c s event = some t) (hRead : event ≠ .read tx) (hDrop : event ≠ .dropReceiver tx) :
    t.Stalled tx ∧ t.system.service.app = s.system.service.app ∧
    t.system.service.log = s.system.service.log ∧
    ∃ arrived, t.system.service.queue = s.system.service.queue ++ arrived := by
  obtain ⟨m, hSending, rfl⟩ := h.sending
  obtain ⟨inner, system, room, hTurn, hOther, hNext, rfl⟩ | ⟨own, rfl, rfl⟩ |
    ⟨own, ch, rfl, -, rfl⟩ | ⟨-, hReceive⟩ | ⟨-, hDeliver⟩ := step_cases hStep
  · obtain ⟨hApp, hLog, hArrived, hClosed | ⟨own, hOwn, -⟩, -⟩ := System.step_aside hNext hTurn
    · refine ⟨⟨h.sending, ?_, h.full⟩, hApp, hLog, hArrived⟩
      change m.tx ∉ system.service.closed
      rw [hClosed]
      exact h.present
    · exact absurd hOwn (hOther own)
  · have hNe : m.tx ≠ own := fun hSame => hDrop (hSame ▸ rfl)
    refine ⟨⟨h.sending, ?_, ?_⟩, rfl, rfl, [], (List.append_nil _).symm⟩
    · simpa [hNe] using h.present
    · change (Function.update s.channels own (s.channels own).discard m.tx).Full
      rw [Function.update_of_ne hNe]
      exact h.full
  · have hNe : m.tx ≠ own := fun hSame => hRead (hSame ▸ rfl)
    refine ⟨⟨h.sending, h.present, ?_⟩, rfl, rfl, [], (List.append_nil _).symm⟩
    change (Function.update s.channels own ch m.tx).Full
    rw [Function.update_of_ne hNe]
    exact h.full
  · have hNone : s.receive c = none := receive_eq_none.mpr (.inl (by simp [hSending]))
    rw [hNone] at hReceive
    cases hReceive
  · have hNone : s.deliver = none := deliver_eq_none.mpr (.inr ⟨m.tx, h⟩)
    rw [hNone] at hDeliver
    cases hDeliver

/-- Either act of the client lets the loop finish its send. -/
theorem Stalled.relieved {tx : GatewayTx} (h : s.Stalled tx) (c : Crates) :
    (∃ t, BoundedSystem.step c s (.read tx) = some t ∧ t.deliver ≠ none) ∧
    (∃ t, BoundedSystem.step c s (.dropReceiver tx) = some t ∧ t.deliver ≠ none) := by
  obtain ⟨m, hSending, rfl⟩ := h.sending
  have hMoves {t : BoundedSystem} (hSame : t.sending = some m) (hFree : ¬ t.Stalled m.tx) :
      t.deliver ≠ none := by
    rw [ne_eq, deliver_eq_none, hSame]
    rintro (hNone | ⟨tx, hStalled⟩)
    · cases hNone
    · obtain ⟨own, hOwn, hTx⟩ := hStalled.sending
      obtain rfl : m = own := Option.some.inj (hSame.symm.trans hOwn)
      exact hFree (hTx ▸ hStalled)
  constructor
  · obtain ⟨ch, hTake⟩ := h.full.exists_take (by decide)
    refine ⟨_, by simp only [BoundedSystem.step, hTake, Option.map_some]; rfl, ?_⟩
    refine hMoves hSending fun hStalled => h.full.not_full_of_take hTake ?_
    have hFull : (Function.update s.channels m.tx ch m.tx).Full := hStalled.full
    rwa [Function.update_self] at hFull
  · refine ⟨_, task_eq_some.mpr ⟨{ s.system with service :=
      { s.system.service with closed := m.tx :: s.system.service.closed } }, s.room, rfl, rfl⟩,
      hMoves hSending fun hStalled => ?_⟩
    exact hStalled.present List.mem_cons_self

/-- **One client stalls everyone.** As long as the client of a full channel
neither reads nor leaves, no message of any gateway is handled, whatever the
other tasks do: app and history stay as they are, and the queue only fills up.
Either act of the client lets the loop go on. -/
theorem stalled_run {tx : GatewayTx} {events : List BoundedEvent} (h : s.Stalled tx)
    (run : Run (BoundedSystem.step c) s events t)
    (hClient : ∀ event ∈ events, event ≠ .read tx ∧ event ≠ .dropReceiver tx) :
    t.Stalled tx ∧ t.system.service.app = s.system.service.app ∧
    t.system.service.log = s.system.service.log ∧
    (∃ arrived, t.system.service.queue = s.system.service.queue ++ arrived ∧
      arrived.length ≤ queueCapacity - s.system.service.queue.length) ∧
    (∃ u, BoundedSystem.step c t (.read tx) = some u ∧ u.deliver ≠ none) ∧
    (∃ u, BoundedSystem.step c t (.dropReceiver tx) = some u ∧ u.deliver ≠ none) := by
  have hFrozen : t.Stalled tx ∧ t.system.service.app = s.system.service.app ∧
      t.system.service.log = s.system.service.log ∧
      ∃ arrived, t.system.service.queue = s.system.service.queue ++ arrived := by
    refine run.invariant (fun t => t.Stalled tx ∧ t.system.service.app = s.system.service.app ∧
      t.system.service.log = s.system.service.log ∧
      ∃ arrived, t.system.service.queue = s.system.service.queue ++ arrived)
      ⟨h, rfl, rfl, [], (List.append_nil _).symm⟩ ?_
    rintro u event v hEvent ⟨hStalled, hApp, hLog, earlier, hEarlier⟩ hStep
    obtain ⟨hRead, hDrop⟩ := hClient event hEvent
    obtain ⟨hNext, hApp', hLog', arrived, hArrived⟩ := hStalled.step hStep hRead hDrop
    refine ⟨hNext, hApp'.trans hApp, hLog'.trans hLog, earlier ++ arrived, ?_⟩
    rw [hArrived, hEarlier, List.append_assoc]
  obtain ⟨hStalled, hApp, hLog, arrived, hArrived⟩ := hFrozen
  refine ⟨hStalled, hApp, hLog, ⟨arrived, hArrived, ?_⟩, hStalled.relieved c⟩
  have hRoom := t.room
  rw [hArrived, List.length_append] at hRoom
  omega

/-- The channel of a client, full of downlinks that it has not read. -/
def sampleUnread : Channel PacketRouterPacketDownV1 downlinkCapacity where
  taken := []
  buffer := List.replicate downlinkCapacity Service.sampleDown.downlink
  fits := by rw [List.length_replicate]

/-- While one client stalls the loop, a downlink for another one only waits. -/
theorem sample_stalled :
    ∃ s t : BoundedSystem, s.Stalled ⟨0⟩ ∧
      Run (BoundedSystem.step Crates.sample) s [.downlink Service.sampleDown, .dropReceiver ⟨1⟩] t ∧
      t.system.service.queue.length = 1 ∧ t.Stalled ⟨0⟩ ∧
      t.system.service.log = s.system.service.log := by
  let s : BoundedSystem := { init .sample with
    sending := some ⟨.downlink Service.sampleDown, ⟨0⟩, Service.sampleDown,
      Service.sampleDown.httpResponse⟩
    channels := fun _ => sampleUnread }
  have hStalled : s.Stalled ⟨0⟩ := ⟨⟨_, rfl, rfl⟩, List.not_mem_nil, List.length_replicate⟩
  obtain ⟨t, hRun, hQueue⟩ : ∃ t, Run (BoundedSystem.step Crates.sample) s
      [.downlink Service.sampleDown, .dropReceiver ⟨1⟩] t ∧ t.system.service.queue.length = 1 :=
    ⟨_, run_of_exec rfl, rfl⟩
  obtain ⟨hStill, -, hLog, -⟩ := stalled_run hStalled hRun (by simp)
  exact ⟨s, t, hStalled, hRun, hQueue, hStill, hLog⟩

/-- The loop is idle, and a downlink for this client would be sent. -/
structure Serving (s : BoundedSystem) (packet : PacketDown) (tx : GatewayTx) : Prop where
  known : s.system.service.app.gatewayMap.lookup packet.gatewayB58 = some tx
  idle : s.sending = none
  drained : s.system.service.queue = []
  present : tx ∉ s.system.service.closed

/-- A downlink for a client reaches `send_downlink`. -/
theorem Serving.sends {packet : PacketDown} {tx : GatewayTx} (h : s.Serving packet tx)
    (c : Crates) :
    Run (BoundedSystem.step c) s [.downlink packet, .receive] { s with
      sending := some ⟨.downlink packet, tx, packet, packet.httpResponse.success.success⟩ } := by
  obtain ⟨⟨gateways, app, queue, timers, closed, log⟩, sending, channels, room⟩ := s
  obtain ⟨hKnown, rfl, rfl, hPresent⟩ := h
  have hKnown : app.gatewayMap.lookup packet.gatewayB58 = some tx := hKnown
  refine run_of_exec ?_
  simp [exec, BoundedSystem.step, task, System.step, System.stepService, Service.step, accept, receive,
    queueCapacity, Input.toMsg, handleMessage, hKnown]

/-- While there is room, a downlink only fills the channel. -/
theorem Serving.fills {packet : PacketDown} {tx : GatewayTx} (h : s.Serving packet tx) (c : Crates)
    (hRoom : (s.channels tx).buffer.length < downlinkCapacity) :
    ∃ t, Run (BoundedSystem.step c) s [.downlink packet, .receive, .deliver] t ∧
      t.Serving packet tx ∧
      (t.channels tx).buffer.length = (s.channels tx).buffer.length + 1 := by
  have hPut : (s.channels tx).put packet.downlink ≠ none := fun hNone => by
    have hFull : (s.channels tx).buffer.length = downlinkCapacity := Channel.put_eq_none.mp hNone
    omega
  obtain ⟨ch, hCh⟩ := Option.ne_none_iff_exists'.mp hPut
  let m : Transmission := ⟨.downlink packet, tx, packet, packet.httpResponse.success.success⟩
  refine ⟨{ ({ s with sending := some m } : BoundedSystem).finish m with
    channels := Function.update s.channels tx ch }, (h.sends c).snoc ?_,
    ⟨h.known, rfl, h.drained, h.present⟩, ?_⟩
  · simp [BoundedSystem.step, deliver, h.present, hCh, m, finish]
  · change (Function.update s.channels tx ch tx).buffer.length = _
    rw [Function.update_self, Channel.length_put hCh]

/-- Downlinks for one client that does not read: as many as its channel has
room for, and one more, stall the loop. -/
theorem Serving.stalls {packet : PacketDown} {tx : GatewayTx} (c : Crates) (room : Nat)
    (h : s.Serving packet tx) (hRoom : (s.channels tx).buffer.length + room = downlinkCapacity) :
    ∃ events t, Run (BoundedSystem.step c) s events t ∧ t.Stalled tx ∧
      (∀ event ∈ events, event = .downlink packet ∨ event = .receive ∨ event = .deliver) ∧
      events.countP (fun event => event matches .downlink _) = room + 1 := by
  induction room generalizing s with
  | zero =>
      refine ⟨_, _, h.sends c, ⟨⟨_, rfl, rfl⟩, h.present, hRoom⟩, by simp, rfl⟩
  | succ room ih =>
      obtain ⟨t, hRun, hServing, hLength⟩ := h.fills c (by omega)
      obtain ⟨events, u, hRest, hStalled, hEvents, hCount⟩ := ih hServing (by omega)
      refine ⟨_, u, hRun.append hRest, hStalled, ?_, ?_⟩
      · intro event hEvent
        rcases List.mem_append.mp hEvent with hFirst | hLater
        · simpa using hFirst
        · exact hEvents event hLater
      · rw [List.countP_append, hCount, Nat.add_comm]
        rfl

/-- The gateway of a join request gets 129 downlinks and reads none. -/
theorem sample_stalls :
    ∃ s events t, Runs Crates.sample .sample
        [.stream .opens, .stream (.read 0 (.packet (.sample joinFrame [0]))), .stream (.send 0),
          .receive] s ∧
      Run (BoundedSystem.step Crates.sample) s events t ∧ t.Stalled ⟨0⟩ ∧
      events.countP (fun event => event matches .downlink _) = 129 := by
  obtain ⟨s, run, hKnown, hIdle, hDrained, hPresent, hUnread⟩ : ∃ s, Runs Crates.sample .sample
      [.stream .opens, .stream (.read 0 (.packet (.sample joinFrame [0]))), .stream (.send 0),
        .receive] s ∧
      s.system.service.app.gatewayMap.lookup Service.sampleDown.gatewayB58 = some ⟨0⟩ ∧ s.sending = none ∧
      s.system.service.queue = [] ∧ s.system.service.closed = [] ∧
      (s.channels ⟨0⟩).buffer = [] := ⟨_, run_of_exec rfl, rfl, rfl, rfl, rfl, rfl⟩
  have hServing : s.Serving Service.sampleDown ⟨0⟩ := ⟨hKnown, hIdle, hDrained, by simp [hPresent]⟩
  obtain ⟨events, t, hRun, hStalled, -, hCount⟩ :=
    hServing.stalls Crates.sample 128 (by rw [hUnread]; rfl)
  exact ⟨s, events, t, run, hRun, hStalled, hCount⟩

end BoundedSystem

end PacketRouter.HttpRoaming
