import PacketRouterIngest.HttpRoaming.Service
import PacketRouterIngest.Uplink.Ingest

/-! The service together with the gRPC streams that feed it. The gateway map
is a table of last writers over the registrations of the streams, so it agrees
with the live streams unless the last message about a gateway was the
disconnect of a stream that another stream had replaced. -/
namespace PacketRouter.HttpRoaming

open Rust Semantics

/-- `impl UplinkIngest for MsgSender`. -/
def ingest : UplinkIngest → Input
  | .gatewayConnect gw => .gatewayConnect gw.b58 gw.tx
  | .uplinkReceive packet => .uplink packet
  | .gatewayDisconnect gw => .gatewayDisconnect gw.b58

structure System where
  gateways : Gateways
  service : Service

inductive SystemEvent where
  | stream (event : StreamEvent)
  /-- The HTTP handler accepted a downlink. -/
  | downlink (packet : PacketDown)
  | timer (index : Nat)
  | dropReceiver (tx : GatewayTx)
  | turn

namespace System

def init (settings : HttpSettings) : System := ⟨.new, .init settings⟩

variable (c : Crates)

/-- A step of the service that involves no stream. -/
def stepService (s : System) (event : Event) : Option System :=
  (s.service.step c event).map (fun service => { s with service })

def step (s : System) : SystemEvent → Option System
  | .stream event =>
      match s.gateways.step c (fun tx => s.service.closed.contains tx) event with
      | none => none
      | some (gateways, none) => some { s with gateways }
      | some (gateways, some msg) =>
          ({ s with gateways } : System).stepService c (.arrive (ingest msg))
  | .downlink packet => s.stepService c (.arrive (.downlink packet))
  | .timer index => s.stepService c (.timer index)
  | .dropReceiver tx => s.stepService c (.dropReceiver tx)
  | .turn => s.stepService c .turn

abbrev Runs (settings : HttpSettings) (events : List SystemEvent) (s : System) : Prop :=
  Run (step c) (init settings) events s

/-- Registrations of gateways in the order in which they entered the queue. -/
def registrations (s : System) : List (SessionOp Nat GatewayB58) :=
  PacketRouter.registrations Gateway.b58 s.gateways.sent

/-- The stream has announced the gateway and has not announced its end. -/
def LiveStream (s : System) (index : Nat) (gw : GatewayB58) : Prop :=
  Live s.registrations index gw

/-- The gateway map names exactly the gateways of live streams, and for each
the channel of one of its live streams. -/
def Agrees (s : System) : Prop :=
  ∀ gw, ((∃ tx, s.service.app.gatewayMap.lookup gw = some tx) ↔ ∃ index, s.LiveStream index gw) ∧
    ∀ tx, s.service.app.gatewayMap.lookup gw = some tx →
      ∃ (index : Nat) (stream : Stream), s.LiveStream index gw ∧
        s.gateways.streams[index]? = some stream ∧ stream.tx = tx

end System

/-- The registration that a message carries: a gateway with the channel to
store, or with none to remove it. -/
def Msg.registration : Msg → Option (GatewayB58 × Option GatewayTx)
  | .gatewayConnect gw tx => some (gw, some tx)
  | .gatewayDisconnect gw => some (gw, none)
  | _ => none

/-- The message of a registration. The channel of a stream has its number. -/
def registrationMsg : SessionOp Nat GatewayB58 → GatewayB58 × Option GatewayTx
  | .connect index gw => (gw, some ⟨index⟩)
  | .disconnect _ gw => (gw, none)

namespace System

variable {c : Crates} {s t : System}

/-- Everything one event can do: a stream moves and may send, or the service
moves alone. -/
theorem step_cases {event : SystemEvent} (h : System.step c s event = some t) :
    (∃ inner gateways, event = .stream inner ∧
      s.gateways.step c (fun tx => s.service.closed.contains tx) inner = some (gateways, none) ∧
      t = { s with gateways }) ∨
    (∃ inner gateways msg, event = .stream inner ∧
      s.gateways.step c (fun tx => s.service.closed.contains tx) inner = some (gateways, some msg) ∧
      t = ⟨gateways, { s.service with queue := s.service.queue ++ [(ingest msg).toMsg] }⟩) ∨
    (∃ inner service, (∀ own, event ≠ .stream own) ∧
      (∀ input, inner = .arrive input → ∃ packet, input = .downlink packet) ∧
      s.service.step c inner = some service ∧ t = { s with service }) := by
  cases event with
  | stream inner =>
      simp only [System.step] at h
      split at h
      · cases h
      · next gateways hSilent =>
          cases h
          exact .inl ⟨inner, gateways, rfl, hSilent, rfl⟩
      · next gateways msg hSend =>
          simp only [stepService, Service.step, Option.map_some, Option.some.injEq] at h
          exact .inr (.inl ⟨inner, gateways, msg, rfl, hSend, h.symm⟩)
  | downlink packet =>
      simp only [System.step, stepService, Option.map_eq_some_iff] at h
      obtain ⟨service, hNext, rfl⟩ := h
      refine .inr (.inr ⟨_, service, by simp, ?_, hNext, rfl⟩)
      rintro input hInput
      cases hInput
      exact ⟨packet, rfl⟩
  | timer | dropReceiver | turn =>
      simp only [System.step, stepService, Option.map_eq_some_iff] at h
      obtain ⟨service, hNext, rfl⟩ := h
      exact .inr (.inr ⟨_, service, by simp, by simp, hNext, rfl⟩)

/-- A step of the system is a step of the service, or the service rests. -/
theorem service_step {event : SystemEvent} (h : System.step c s event = some t) :
    t.service = s.service ∨ ∃ inner, s.service.step c inner = some t.service := by
  obtain ⟨_, _, -, -, rfl⟩ | ⟨_, _, msg, -, -, rfl⟩ | ⟨inner, service, -, -, hNext, rfl⟩ :=
    step_cases h
  · exact .inl rfl
  · exact .inr ⟨.arrive (ingest msg), rfl⟩
  · exact .inr ⟨inner, hNext⟩

theorem stepService_eq_some {inner : Event} (h : s.stepService c inner = some t) :
    s.service.step c inner = some t.service := by
  obtain ⟨service, hNext, rfl⟩ := Option.map_eq_some_iff.mp h
  exact hNext

/-- The registrations are handled in the order in which they were sent; what
has been handled is in the map and the rest waits in the queue. -/
structure Registered (s : System) : Prop where
  consistent : s.gateways.Consistent
  valid : Valid s.registrations
  fifo : ∃ handled waiting, s.registrations = handled ++ waiting ∧
    s.service.queue.filterMap Msg.registration = waiting.map registrationMsg ∧
    ∀ gw, s.service.app.gatewayMap.lookup gw = (holder handled gw).map GatewayTx.mk

theorem registered_init (settings : HttpSettings) : (init settings).Registered where
  consistent := Gateways.consistent_new
  valid := .nil
  fifo := ⟨[], [], rfl, rfl, fun _ => rfl⟩

/-- A message that carries no registration changes nothing here. -/
theorem Msg.gatewayAfter_of_none {msg : Msg} (h : msg.registration = none) (gw : GatewayB58)
    (entry : Option GatewayTx) : msg.gatewayAfter gw entry = entry := by
  cases msg with
  | gatewayConnect | gatewayDisconnect => cases h
  | uplinkReceive | uplinkSend | uplinkCleanup | downlink => rfl

/-- A registration does to the map what its line does to the table. -/
theorem Msg.gatewayAfter_of_some {msg : Msg} {op : SessionOp Nat GatewayB58}
    (h : msg.registration = some (registrationMsg op)) (gw : GatewayB58)
    (handled : List (SessionOp Nat GatewayB58)) :
    msg.gatewayAfter gw ((holder handled gw).map GatewayTx.mk) =
      (holder (handled ++ [op]) gw).map GatewayTx.mk := by
  cases op with
  | connect index own =>
      rw [holder_connect]
      cases msg with
      | gatewayConnect =>
          cases h
          simp only [Msg.gatewayAfter]
          split_ifs <;> rfl
      | gatewayDisconnect | uplinkReceive | uplinkSend | uplinkCleanup | downlink => cases h
  | disconnect index own =>
      rw [holder_disconnect]
      cases msg with
      | gatewayDisconnect =>
          cases h
          simp only [Msg.gatewayAfter]
          split_ifs <;> rfl
      | gatewayConnect | uplinkReceive | uplinkSend | uplinkCleanup | downlink => cases h

/-- A step that touches neither the queued registrations nor the map. -/
theorem Registered.of_unchanged {service : Service} (h : s.Registered)
    (hQueue : service.queue.filterMap Msg.registration =
      s.service.queue.filterMap Msg.registration)
    (hMap : service.app.gatewayMap = s.service.app.gatewayMap) :
    Registered { s with service } where
  consistent := h.consistent
  valid := h.valid
  fifo := by
    obtain ⟨handled, waiting, hSent, hWaiting, hTable⟩ := h.fifo
    exact ⟨handled, waiting, hSent, hQueue.trans hWaiting, by rwa [hMap]⟩

/-- A turn moves at most one registration from the queue into the map. -/
theorem Registered.turn {msg : Msg} {rest : List Msg} {app : App} {action : UpdateAction}
    (h : s.Registered) (hQueue : s.service.queue = msg :: rest)
    (hMsg : handleMessage c s.service.app msg = .ok (app, action)) :
    Registered { s with service := s.service.afterTurn msg rest app action } where
  consistent := h.consistent
  valid := h.valid
  fifo := by
    obtain ⟨handled, waiting, hSent, hWaiting, hTable⟩ := h.fifo
    have hMap (gw : GatewayB58) : app.gatewayMap.lookup gw =
        msg.gatewayAfter gw ((holder handled gw).map GatewayTx.mk) := by
      rw [← hTable]
      exact gatewayMap_handleMessage gw hMsg
    rw [hQueue] at hWaiting
    cases hRegistration : msg.registration with
    | none =>
        rw [List.filterMap_cons_none hRegistration] at hWaiting
        refine ⟨handled, waiting, hSent, hWaiting, fun gw => ?_⟩
        rw [← Msg.gatewayAfter_of_none hRegistration gw ((holder handled gw).map GatewayTx.mk)]
        exact hMap gw
    | some registration =>
        rw [List.filterMap_cons_some hRegistration] at hWaiting
        cases waiting with
        | nil => cases hWaiting
        | cons op waiting =>
            rw [List.map_cons, List.cons.injEq] at hWaiting
            rw [hWaiting.1] at hRegistration
            refine ⟨handled ++ [op], waiting, hSent.trans (by simp), hWaiting.2, fun gw => ?_⟩
            rw [← Msg.gatewayAfter_of_some hRegistration]
            exact hMap gw

/-- A stream that sends adds its registration at the end of the queue. -/
theorem Registered.send {closed : GatewayTx → Bool} {event : StreamEvent} {gateways : Gateways}
    {msg : UplinkIngest} (h : s.Registered)
    (hStep : s.gateways.step c closed event = some (gateways, some msg)) :
    Registered ⟨gateways,
      { s.service with queue := s.service.queue ++ [(ingest msg).toMsg] }⟩ where
  consistent := h.consistent.step hStep
  valid := h.consistent.valid_step h.valid hStep
  fifo := by
    obtain ⟨handled, waiting, hSent, hWaiting, hTable⟩ := h.fifo
    obtain ⟨-, hNone, -⟩ | ⟨_, _, _, _, -, hNone, -⟩ |
      ⟨index, stream, sent, rest, -, hEmitted, hStream, hOutbox, rfl⟩ := Gateways.step_cases hStep
    · cases hNone
    · cases hNone
    · obtain rfl := Option.some.inj hEmitted
      obtain ⟨hTx, ⟨packets, hScript⟩, hChannel⟩ := h.consistent.stream index stream hStream
      rw [hOutbox] at hScript
      have hRegistration : (ingest msg).toMsg.registration =
          (msg.registration Gateway.b58 index).map registrationMsg := by
        cases msg with
        | gatewayConnect gw =>
            have hGw := hChannel gw (Stream.script_connect hScript).2
            change some (gw.b58, some gw.tx) = some (gw.b58, some (GatewayTx.mk index))
            rw [hGw, hTx]
        | uplinkReceive | gatewayDisconnect => rfl
      refine ⟨handled, waiting ++ (msg.registration Gateway.b58 index).toList, ?_, ?_, hTable⟩
      · change PacketRouter.registrations _ (s.gateways.sent ++ [(index, msg)]) = _
        rw [registrations_append_singleton, ← List.append_assoc, ← hSent]
        rfl
      · rw [List.filterMap_append, hWaiting, List.map_append]
        congr 1
        cases hOp : msg.registration Gateway.b58 index <;> simp [hRegistration, hOp]

theorem registration_advance (timer : Timer) :
    timer.advance.2.filterMap Msg.registration = [] := by
  obtain ⟨hash, phase⟩ := timer
  cases phase <;> rfl

/-- One event keeps registrations, queue and map in step. -/
theorem Registered.step {event : SystemEvent} (h : s.Registered)
    (hStep : System.step c s event = some t) : t.Registered := by
  obtain ⟨event, gateways, rfl, hSilent, rfl⟩ | ⟨event, gateways, msg, rfl, hSend, rfl⟩ |
    ⟨inner, service, -, hDownlink, hNext, rfl⟩ := step_cases hStep
  · obtain ⟨handled, waiting, hRegistrations, hWaiting, hTable⟩ := h.fifo
    refine ⟨h.consistent.step hSilent, h.consistent.valid_step h.valid hSilent, handled, waiting,
      ?_, hWaiting, hTable⟩
    rw [← hRegistrations, registrations, registrations, Gateways.sent_of_silent hSilent]
  · exact h.send hSend
  · obtain ⟨input, rfl, rfl⟩ | ⟨before, timer, after, -, -, rfl⟩ | ⟨tx, -, rfl⟩ |
      ⟨msg, rest, app, action, -, hQueue, hMsg, rfl⟩ := Service.step_cases hNext
    · obtain ⟨packet, rfl⟩ := hDownlink input rfl
      exact h.of_unchanged (by simp [Input.toMsg, Msg.registration]) rfl
    · refine h.of_unchanged ?_ rfl
      rw [List.filterMap_append, registration_advance, List.append_nil]
    · exact h.of_unchanged rfl rfl
    · exact h.turn hQueue hMsg

theorem registered_of_run {settings : HttpSettings} {events : List SystemEvent}
    (run : Runs c settings events s) : s.Registered :=
  run.invariant Registered (registered_init settings) (fun _ _ _ _ h hStep => h.step hStep)

/-- The map is the table of all registrations once the queue is drained, so it
agrees with the live streams unless that table forgot one. -/
theorem agrees_iff {settings : HttpSettings} {events : List SystemEvent}
    (run : Runs c settings events s) (hDrained : s.service.queue = []) :
    s.Agrees ↔ ∀ gw, ¬ Stale s.registrations gw := by
  have h := registered_of_run run
  obtain ⟨handled, waiting, hSent, hWaiting, hTable⟩ := h.fifo
  rw [hDrained] at hWaiting
  obtain rfl : waiting = [] := by simpa using hWaiting.symm
  rw [List.append_nil] at hSent
  rw [← hSent] at hTable
  have hEntry (gw : GatewayB58) : (∃ tx, s.service.app.gatewayMap.lookup gw = some tx) ↔
      ∃ index, holder s.registrations gw = some index := by
    rw [hTable]
    cases holder s.registrations gw <;> simp
  constructor
  · intro hAgrees gw
    refine h.valid.holder_isSome_iff.mp ?_
    rw [← hEntry]
    exact (hAgrees gw).1.symm
  · intro hStale gw
    refine ⟨?_, fun tx hTx => ?_⟩
    · rw [hEntry]
      exact (h.valid.holder_isSome_iff.mpr (hStale gw)).symm
    · rw [hTable] at hTx
      obtain ⟨index, hHolder, rfl⟩ := Option.map_eq_some_iff.mp hTx
      have hLive := h.valid.live_of_holder hHolder
      obtain ⟨own, hMem, -⟩ := connect_mem_registrations.mp hLive.1
      have hIndex := h.consistent.bounded _ hMem
      obtain ⟨stream, hStream⟩ : ∃ stream, s.gateways.streams[index]? = some stream :=
        ⟨_, List.getElem?_eq_getElem hIndex⟩
      exact ⟨index, stream, hLive, hStream, (h.consistent.stream index stream hStream).1⟩

/-- **Registration.** Whenever the queue of a run has been drained, the gateway
map agrees with the live streams exactly if no gateway's last registration
message was the disconnect of one stream sent while another was live. It
always does in runs where every disconnect leaves no other stream behind. -/
theorem registration_agrees {settings : HttpSettings} {events : List SystemEvent}
    (run : Runs c settings events s) (hDrained : s.service.queue = []) :
    (s.Agrees ↔ ∀ gw, ¬ Stale s.registrations gw) ∧ (Orderly s.registrations → s.Agrees) :=
  ⟨agrees_iff run hDrained, fun hOrderly => (agrees_iff run hDrained).mpr hOrderly.not_stale⟩

/-- A gateway that reconnects before its old stream has ended is unknown to
the app, although its new stream is live. -/
theorem reconnected_forgotten :
    ∃ s, Runs Crates.sample .sample
        [.stream .opens, .stream (.read 0 (.packet (.sample joinFrame [0]))), .stream (.send 0),
          .stream (.send 0), .stream .opens,
          .stream (.read 1 (.packet (.sample joinFrame [0]))), .stream (.send 1),
          .stream (.send 1), .stream (.read 0 .shutdown), .stream (.send 0),
          .turn, .turn, .turn, .turn, .turn] s ∧
      s.service.queue = [] ∧ s.LiveStream 1 ⟨"112edB6q"⟩ ∧
      s.service.app.gatewayMap.lookup ⟨"112edB6q"⟩ = none ∧ ¬ s.Agrees := by
  obtain ⟨s, run, hQueue, hSent, hMap⟩ : ∃ s, Runs Crates.sample .sample
      [.stream .opens, .stream (.read 0 (.packet (.sample joinFrame [0]))), .stream (.send 0),
        .stream (.send 0), .stream .opens,
        .stream (.read 1 (.packet (.sample joinFrame [0]))), .stream (.send 1),
        .stream (.send 1), .stream (.read 0 .shutdown), .stream (.send 0),
        .turn, .turn, .turn, .turn, .turn] s ∧
      s.service.queue = [] ∧ s.registrations = [.connect 0 ⟨"112edB6q"⟩,
        .connect 1 ⟨"112edB6q"⟩, .disconnect 0 ⟨"112edB6q"⟩] ∧
      s.service.app.gatewayMap.lookup ⟨"112edB6q"⟩ = none :=
    ⟨_, run_of_exec rfl, rfl, rfl, rfl⟩
  have hLive : s.LiveStream 1 ⟨"112edB6q"⟩ := by
    rw [LiveStream, Live, hSent]
    decide
  refine ⟨s, run, hQueue, hLive, hMap, fun hAgrees => ?_⟩
  obtain ⟨tx, hTx⟩ := (hAgrees ⟨"112edB6q"⟩).1.mpr ⟨1, hLive⟩
  rw [hMap] at hTx
  cases hTx

/-- A gateway that reconnects when its old stream has ended is in the map with
its new stream. -/
theorem sample_agrees :
    ∃ s, Runs Crates.sample .sample
        [.stream .opens, .stream (.read 0 (.packet (.sample joinFrame [0]))), .stream (.send 0),
          .stream (.send 0), .stream (.read 0 .shutdown), .stream (.send 0), .stream .opens,
          .stream (.read 1 (.packet (.sample joinFrame [0]))), .stream (.send 1),
          .stream (.send 1), .turn, .turn, .turn, .turn, .turn] s ∧
      s.LiveStream 1 ⟨"112edB6q"⟩ ∧
      s.service.app.gatewayMap.lookup ⟨"112edB6q"⟩ = some ⟨1⟩ ∧ s.Agrees := by
  obtain ⟨s, run, hQueue, hSent, hMap⟩ : ∃ s, Runs Crates.sample .sample
      [.stream .opens, .stream (.read 0 (.packet (.sample joinFrame [0]))), .stream (.send 0),
        .stream (.send 0), .stream (.read 0 .shutdown), .stream (.send 0), .stream .opens,
        .stream (.read 1 (.packet (.sample joinFrame [0]))), .stream (.send 1),
        .stream (.send 1), .turn, .turn, .turn, .turn, .turn] s ∧
      s.service.queue = [] ∧ s.registrations = [.connect 0 ⟨"112edB6q"⟩,
        .disconnect 0 ⟨"112edB6q"⟩, .connect 1 ⟨"112edB6q"⟩] ∧
      s.service.app.gatewayMap.lookup ⟨"112edB6q"⟩ = some ⟨1⟩ :=
    ⟨_, run_of_exec rfl, rfl, rfl, rfl⟩
  have hLive : s.LiveStream 1 ⟨"112edB6q"⟩ := by
    rw [LiveStream, Live, hSent]
    decide
  have hOrderly : Orderly s.registrations := by
    rw [hSent]
    exact ((orderly_nil.connect _ _).disconnect (by simp [Live])).connect _ _
  exact ⟨s, run, hLive, hMap, (registration_agrees run hQueue).2 hOrderly⟩

end System

end PacketRouter.HttpRoaming
