import PacketRouterIngest.Gwmp.Listeners
import PacketRouterIngest.Semantics.Traces

/-! What the GWMP service does in the end. A request of the network server
passes two queues, that of its listener and that of the app, which it shares
with the messages of the streams; where both are served, it reaches the channel
of its gateway. A message is handled once what it sends on has found room, so
that the app is served only while the clients make room in their channels. -/
namespace PacketRouter.Gwmp

open Rust Semantics

namespace System

variable {c : Crates} {u : UdpCrates} {s t : System}

/-- The messages that were handled and those that wait. -/
def history (s : System) : List Msg := s.log.map Turn.msg ++ s.queue

theorem history_step {event : SystemEvent} (hStep : System.step c u s event = some t) :
    s.history <+: t.history := by
  obtain ⟨_, _, -, -, rfl⟩ | ⟨_, _, _, -, -, rfl⟩ | ⟨_, _, -, rfl⟩ | ⟨_, -, rfl⟩ |
    ⟨_, _, _, _, _, _, -, hQueue, -, rfl⟩ := step_cases hStep
  · exact List.prefix_rfl
  · exact ⟨_, List.append_assoc ..⟩
  · exact ⟨_, List.append_assoc ..⟩
  · exact List.prefix_rfl
  · exact ⟨[], by simp [history, hQueue]⟩

/-- The messages of the streams are handled or wait in the order in which they
were sent. -/
theorem Ordered.history_eq (h : s.Ordered) :
    s.history.filterMap Msg.ingested = s.gateways.sent.map Prod.snd := by
  obtain ⟨handled, waiting, hSent, hLog, hWaiting, -⟩ := h.fifo
  rw [history, List.filterMap_append, List.filterMap_map, hWaiting, hSent, List.map_append, ← hLog]
  rfl

theorem history_requests (s : System) (tx : GatewayTx) :
    s.history.filterMap (Msg.requestFor tx) = s.handledFor tx ++ s.queuedFor tx := by
  rw [history, List.filterMap_append, List.filterMap_map]
  rfl

end System

namespace ListeningSystem

variable {c : Crates} {u : UdpCrates} {settings : GwmpSettings} {s t : ListeningSystem}
  {event : ListeningEvent}

/-- What a listener has received, and what waits for it. -/
def seenBy (s : ListeningSystem) (index : Nat) : List Event :=
  s.listeners[index]?.elim [] Listener.seen

def waitingFor (s : ListeningSystem) (index : Nat) : List Event :=
  s.listeners[index]?.elim [] Listener.inbox

/-- What the program relies on: the app survives its messages and gets done with
them, no client leaving it without room for a downlink, and the listeners
receive what their runtimes report. -/
structure Fair (T : Trace (ListeningSystem.step c u)) : Prop where
  turns : ∀ n, (T.state n).system.queue ≠ [] → ∃ m env, n ≤ m ∧ T.Takes m (.turn env)
  listeners : ∀ n index, (T.state n).waitingFor index ≠ [] → ∃ m, n ≤ m ∧ T.Takes m (.listen index)

theorem history_step (h : ListeningSystem.step c u s event = some t) :
    s.system.history <+: t.system.history := by
  obtain hRests | ⟨move, hMove⟩ := system_step h
  · exact hRests.symm ▸ List.prefix_rfl
  · exact System.history_step hMove

theorem log_step (h : ListeningSystem.step c u s event = some t) : s.system.log <+: t.system.log := by
  obtain hRests | ⟨move, hMove⟩ := system_step h
  · exact hRests.symm ▸ List.prefix_rfl
  · obtain hSame | ⟨turn, hLog⟩ := System.log_step hMove
    · exact hSame.symm ▸ List.prefix_rfl
    · exact hLog ▸ List.prefix_append _ _

/-- Only the listener that is replaced has other events. -/
theorem events_of_set {own : Nat} {l : Listener} (hListener : s.listeners[own]? = some l)
    (l' : Listener) (system : System) (index : Nat) :
    (⟨system, s.listeners.set own l'⟩ : ListeningSystem).seenBy index =
        (if own = index then l'.seen else s.seenBy index) ∧
      (⟨system, s.listeners.set own l'⟩ : ListeningSystem).waitingFor index =
        if own = index then l'.inbox else s.waitingFor index := by
  rw [seenBy, waitingFor]
  by_cases hIndex : own = index
  · subst hIndex
    rw [List.getElem?_set_self (List.getElem?_eq_some_iff.mp hListener).1, if_pos rfl, if_pos rfl]
    exact ⟨rfl, rfl⟩
  · rw [List.getElem?_set_ne hIndex, if_neg hIndex, if_neg hIndex]
    exact ⟨rfl, rfl⟩

/-- A listener keeps what it has received, and receives what waits. -/
theorem listener_step (h : ListeningSystem.step c u s event = some t) (index : Nat) :
    s.seenBy index <+: t.seenBy index ∧
      s.seenBy index ++ s.waitingFor index <+: t.seenBy index ++ t.waitingFor index := by
  have hSet {own : Nat} {l l' : Listener} (system : System)
      (hListener : s.listeners[own]? = some l) (hSeen : l.seen <+: l'.seen)
      (hAll : l.seen ++ l.inbox <+: l'.seen ++ l'.inbox) :
      s.seenBy index <+: (⟨system, s.listeners.set own l'⟩ : ListeningSystem).seenBy index ∧
        s.seenBy index ++ s.waitingFor index <+:
          (⟨system, s.listeners.set own l'⟩ : ListeningSystem).seenBy index ++
            (⟨system, s.listeners.set own l'⟩ : ListeningSystem).waitingFor index := by
    obtain ⟨hSeenBy, hWaitingFor⟩ := events_of_set hListener l' system index
    rw [hSeenBy, hWaitingFor]
    by_cases hIndex : own = index
    · subst hIndex
      rw [if_pos rfl, if_pos rfl, seenBy, waitingFor, hListener]
      exact ⟨hSeen, hAll⟩
    · rw [if_neg hIndex, if_neg hIndex]
      exact ⟨List.prefix_rfl, List.prefix_rfl⟩
  have hReceive {own : Event} {l : Listener} {inbox : List Event} (hInbox : l.inbox = own :: inbox) :
      l.seen ++ l.inbox <+: (l.seen ++ [own]) ++ inbox := by
    rw [hInbox, List.append_assoc]
    exact List.prefix_rfl
  obtain ⟨_, system, -, rfl, -⟩ | ⟨own, reported, l, -, hListener, rfl⟩ |
    ⟨own, reported, l, inbox, -, hListener, hInbox, -, rfl⟩ |
    ⟨own, reported, l, inbox, _, -, hListener, hInbox, -, rfl⟩ | ⟨_, system, -, -, rfl⟩ := step_cases h
  · exact ⟨List.prefix_rfl, List.prefix_rfl⟩
  · exact hSet _ hListener List.prefix_rfl ⟨[reported], List.append_assoc ..⟩
  · exact hSet _ hListener (List.prefix_append ..) (hReceive hInbox)
  · exact hSet _ hListener (List.prefix_append ..) (hReceive hInbox)
  · by_cases hIndex : index < s.listeners.length
    · rw [seenBy, seenBy, waitingFor, waitingFor, List.getElem?_append_left hIndex]
      exact ⟨List.prefix_rfl, List.prefix_rfl⟩
    · rw [seenBy, waitingFor, List.getElem?_eq_none (Nat.le_of_not_lt hIndex)]
      exact ⟨List.nil_prefix, List.nil_prefix⟩

/-- Receiving an event adds it to what was received. -/
theorem seenBy_listen {index : Nat} (h : ListeningSystem.step c u s (.listen index) = some t) :
    (s.seenBy index).length < (t.seenBy index).length := by
  have hSet {l : Listener} {own : Event} {inbox : List Event} (system : System)
      (hListener : s.listeners[index]? = some l) : (s.seenBy index).length <
        ((⟨system, s.listeners.set index { l with seen := l.seen ++ [own], inbox }⟩ :
          ListeningSystem).seenBy index).length := by
    rw [(events_of_set hListener _ system index).1, if_pos rfl, seenBy, hListener]
    simp
  obtain ⟨_, _, -, -, -, hOther, -⟩ | ⟨_, _, _, hOther, -⟩ |
    ⟨own, reported, l, inbox, hSame, hListener, -, -, rfl⟩ |
    ⟨own, reported, l, inbox, _, hSame, hListener, -, -, rfl⟩ | ⟨_, _, hOther, -⟩ := step_cases h
  · exact absurd rfl (hOther index)
  · cases hOther
  · cases hSame
    exact hSet _ hListener
  · cases hSame
    exact hSet _ hListener
  · cases hOther

section

variable {T : Trace (ListeningSystem.step c u)}

theorem log_turn {env : Environment} (h : ListeningSystem.step c u s (.turn env) = some t) :
    s.system.log.length < t.system.log.length := by
  simp only [step] at h
  split at h
  · next system hTurn =>
      cases h
      obtain ⟨_, _, _, _, -, -, hLog, -⟩ := turn_cases hTurn
      rw [hLog, List.length_append, List.length_singleton]
      exact Nat.lt_succ_self _
  · cases h

/-- Every message that waits is handled in the end. -/
theorem Fair.handles (h : Fair T) (n : Nat) :
    ∃ m, n ≤ m ∧ (T.state n).system.history <+: (T.state m).system.log.map Turn.msg := by
  refine T.flushes (fun s => s.system.log.map Turn.msg) (fun s => s.system.queue)
    (fun _ _ _ hStep => history_step hStep) (fun _ _ _ hStep => (log_step hStep).map Turn.msg) ?_ n
  intro n hWaiting
  obtain ⟨m, env, hLater, hTurn⟩ := h.turns n hWaiting
  refine ⟨m, hLater, ?_⟩
  rw [List.length_map, List.length_map]
  exact log_turn hTurn

/-- Every event that was reported is received in the end. -/
theorem Fair.receives (h : Fair T) (index n : Nat) :
    ∃ m, n ≤ m ∧ (T.state n).seenBy index ++ (T.state n).waitingFor index <+:
      (T.state m).seenBy index := by
  refine T.flushes (fun s => s.seenBy index) (fun s => s.waitingFor index)
    (fun _ _ _ hStep => (listener_step hStep index).2)
    (fun _ _ _ hStep => (listener_step hStep index).1) ?_ n
  intro n hWaiting
  obtain ⟨m, hLater, hListen⟩ := h.listeners n index hWaiting
  exact ⟨m, hLater, seenBy_listen hListen⟩

/-- A listener keeps its gateway. -/
theorem listener_stays (hStart : T.state 0 = init settings) {n m index : Nat} {l : Listener}
    (hListener : (T.state n).listeners[index]? = some l) (hLater : n ≤ m) :
    ∃ l', (T.state m).listeners[index]? = some l' ∧ l'.gateway = l.gateway := by
  have hGateways (n : Nat) : (T.state n).listeners.map Listener.gateway =
      (T.state n).system.log.filterMap fun turn => turn.msg.connecting := by
    obtain ⟨events, run⟩ := T.exists_run n
    rw [hStart] at run
    exact connected_of_run run
  have hGrows : (T.state n).system.log <+: (T.state m).system.log :=
    Trace.persists (fun s => (T.state n).system.log <+: s.system.log) List.prefix_rfl
      (fun _ _ _ h hStep => h.trans (log_step hStep)) hLater
  have hGateway : ((T.state n).listeners.map Listener.gateway)[index]? = some l.gateway := by
    rw [List.getElem?_map, hListener]
    rfl
  have hStill := getElem?_of_prefix (hGrows.filterMap fun turn => turn.msg.connecting)
    (hGateways n ▸ hGateway)
  rw [← hGateways m, List.getElem?_map] at hStill
  exact Option.map_eq_some_iff.mp hStill

/-- **Nothing waits for ever.** Where the app and the listeners take turns, and
get done with them, every message of a stream is handled in the end, in the
order in which they were sent; and everything that was asked of the runtime of a
listener is put into the channel of its stream, unless the stream drops its
receiver. -/
theorem Fair.everything_handled (h : Fair T) (hStart : T.state 0 = init settings) (n : Nat) :
    (∃ m, n ≤ m ∧ (T.state n).system.gateways.sent.map Prod.snd <+:
      (T.state m).system.log.filterMap fun turn => turn.msg.ingested) ∧
    ∀ (index : Nat) (l : Listener), (T.state n).listeners[index]? = some l →
      ∃ m converted, n ≤ m ∧
        List.Forall₂ (fun request down => toPacketDown u request.txpk = .ok down)
          ((l.seen ++ l.inbox).filterMap Event.request) converted ∧
        (l.gateway.tx ∉ (T.state m).system.closed →
          converted <+: (T.state m).system.enqueuedFor l.gateway.tx) := by
  have hRun (n : Nat) : ∃ events, Runs c u settings events (T.state n) := by
    have := T.exists_run n
    rwa [hStart] at this
  constructor
  · obtain ⟨events, run⟩ := hRun n
    obtain ⟨m, hLater, hHandled⟩ := h.handles n
    refine ⟨m, hLater, ?_⟩
    have hSent := hHandled.filterMap Msg.ingested
    rwa [(ordered_of_run run).history_eq, List.filterMap_map] at hSent
  · intro index l hListener
    obtain ⟨m, hLater, hReceived⟩ := h.receives index n
    obtain ⟨l', hListener', hGateway⟩ := listener_stays hStart hListener hLater
    obtain ⟨last, hEven, hHandled⟩ := h.handles m
    obtain ⟨events, run⟩ := hRun m
    obtain ⟨later, runLater⟩ := hRun last
    have hRequests : (l.seen ++ l.inbox).filterMap Event.request <+:
        (T.state last).system.handledFor l.gateway.tx := by
      rw [seenBy, seenBy, waitingFor, hListener, hListener'] at hReceived
      refine (List.IsPrefix.filterMap Event.request hReceived).trans ?_
      have hTurns := hHandled.filterMap (Msg.requestFor l.gateway.tx)
      rw [System.history_requests, List.filterMap_map, ← hGateway] at hTurns
      rw [← hGateway]
      change l'.seen.filterMap Event.request <+: _
      rw [(delivering_of_run run).fifo index l' hListener']
      exact hTurns
    obtain ⟨more, hMore⟩ := hRequests
    obtain ⟨converted, hConverted, -, hOpen⟩ := (delivering_of_run runLater).sends l.gateway.tx
    refine ⟨last, converted.take ((l.seen ++ l.inbox).filterMap Event.request).length,
      hLater.trans hEven, ?_, fun hStays => ?_⟩
    · have hBegun := List.forall₂_take
        ((l.seen ++ l.inbox).filterMap Event.request).length hConverted
      rwa [← hMore, List.take_left] at hBegun
    · rw [hOpen hStays]
      exact List.take_prefix _ _

/-- Only a turn adds to the log. -/
theorem turn_of_log (h : ListeningSystem.step c u s event = some t)
    (hLog : s.system.log.length < t.system.log.length) : ∃ env, event = .turn env := by
  obtain ⟨_, system, -, rfl, -, -, hSame, -⟩ | ⟨_, _, _, -, -, rfl⟩ | ⟨_, _, _, _, -, -, -, -, rfl⟩ |
    ⟨_, _, _, _, _, -, -, -, -, rfl⟩ | ⟨env, _, rfl, -⟩ := step_cases h
  · rw [hSame] at hLog
    exact absurd hLog (lt_irrefl _)
  · exact absurd hLog (lt_irrefl _)
  · exact absurd hLog (lt_irrefl _)
  · exact absurd hLog (lt_irrefl _)
  · exact ⟨env, rfl⟩

/-- Only the listener itself receives its events. -/
theorem listen_of_seenBy {index : Nat} (h : ListeningSystem.step c u s event = some t)
    (hSeen : (s.seenBy index).length < (t.seenBy index).length) : event = .listen index := by
  have hSet {own : Nat} {l l' : Listener} {system : System} (hListener : s.listeners[own]? = some l)
      (hMore : (s.seenBy index).length <
        ((⟨system, s.listeners.set own l'⟩ : ListeningSystem).seenBy index).length) :
      own = index ∧ l.seen.length < l'.seen.length := by
    rw [(events_of_set hListener l' system index).1] at hMore
    split_ifs at hMore with hIndex
    · subst hIndex
      rw [seenBy, hListener] at hMore
      exact ⟨rfl, hMore⟩
    · exact absurd hMore (lt_irrefl _)
  obtain ⟨_, system, -, rfl, -⟩ | ⟨own, _, l, -, hListener, rfl⟩ |
    ⟨own, _, l, _, rfl, hListener, -, -, rfl⟩ | ⟨own, _, l, _, _, rfl, hListener, -, -, rfl⟩ |
    ⟨_, system, -, hTurn, rfl⟩ := step_cases h
  · exact absurd hSeen (lt_irrefl _)
  · exact absurd (hSet hListener hSeen).2 (lt_irrefl _)
  · rw [(hSet hListener hSeen).1]
  · rw [(hSet hListener hSeen).1]
  · by_cases hIndex : index < s.listeners.length
    · rw [seenBy, seenBy, List.getElem?_append_left hIndex] at hSeen
      exact absurd hSeen (lt_irrefl _)
    · -- A listener that was spawned has received nothing.
      rw [seenBy, seenBy, List.getElem?_append_right (Nat.le_of_not_lt hIndex)] at hSeen
      obtain ⟨_, _, _, _, -, -, -, -, hCases⟩ := turn_cases hTurn
      have hFresh : system.spawned = [] ∨ ∃ gateway runtime,
          system.spawned = [⟨gateway, runtime, [], []⟩] := by
        obtain ⟨gateway, runtime, -, hNew, -⟩ | ⟨_, _, _, -, -, hNew, -⟩ | ⟨-, -, hNew, -⟩ := hCases
        · exact .inr ⟨gateway, runtime, hNew⟩
        · exact .inl hNew
        · exact .inl hNew
      obtain hNone | ⟨gateway, runtime, hOne⟩ := hFresh
      · rw [hNone] at hSeen
        simp at hSeen
      · rw [hOne] at hSeen
        cases hPlace : index - s.listeners.length <;> simp [hPlace] at hSeen

/-- A trace that comes to rest with nothing waiting was fair. -/
theorem fair_of_drained {last : Nat} (hQueue : ∀ n, last ≤ n → (T.state n).system.queue = [])
    (hInboxes : ∀ n index, last ≤ n → (T.state n).waitingFor index = []) : Fair T where
  turns n hWaiting := by
    obtain ⟨m, hLater, hMore⟩ := T.taken_of_drained (fun s => s.system.log.map Turn.msg)
      (fun s => s.system.queue) (fun _ _ _ hStep => history_step hStep)
      (fun _ _ _ hStep => (log_step hStep).map Turn.msg) hQueue hWaiting
    rw [List.length_map, List.length_map] at hMore
    obtain hRests | ⟨event, hStep⟩ := T.next m
    · rw [hRests] at hMore
      exact absurd hMore (lt_irrefl _)
    · obtain ⟨env, rfl⟩ := turn_of_log hStep hMore
      exact ⟨m, env, hLater, hStep⟩
  listeners n index hWaiting := by
    obtain ⟨m, hLater, hMore⟩ := T.taken_of_drained (fun s => s.seenBy index)
      (fun s => s.waitingFor index) (fun _ _ _ hStep => (listener_step hStep index).2)
      (fun _ _ _ hStep => (listener_step hStep index).1) (fun n => hInboxes n index) hWaiting
    obtain hRests | ⟨event, hStep⟩ := T.next m
    · rw [hRests] at hMore
      exact absurd hMore (lt_irrefl _)
    · obtain rfl := listen_of_seenBy hStep hMore
      exact ⟨m, hLater, hStep⟩

end

/-- The request for the only stream is in its channel in the end. -/
theorem sample_handled :
    ∃ T : Trace (ListeningSystem.step Crates.sample .sample), T.state 0 = init .sample ∧ Fair T ∧
      ∃ m down, toPacketDown .sample DownlinkRequest.sample.txpk = .ok down ∧
        [down] <+: (T.state m).system.enqueuedFor ⟨0⟩ := by
  obtain ⟨s, run, ⟨runtime, seen, hListeners, hSeen⟩, hQueue, hClosed⟩ :
      ∃ s, Runs Crates.sample .sample .sample
        [.stream .opens, .stream (.read 0 (.packet (.sample joinFrame [0]))), .stream (.send 0),
          .turn .sample, .report 0 .lostConnection, .report 0 (.downlinkRequest .sample),
          .listen 0, .listen 0, .turn .sample] s ∧
        (∃ runtime seen, s.listeners = [⟨.sample ⟨0⟩, runtime, seen, []⟩] ∧
          seen.filterMap Event.request = [.sample]) ∧
        s.system.queue = [] ∧ s.system.closed = [] :=
    ⟨_, run_of_exec rfl, ⟨_, _, rfl, rfl⟩, rfl, rfl⟩
  obtain ⟨T, hStart, hEnd⟩ := run.exists_trace
  have hDrained (n : Nat) (hLater : 9 ≤ n) : (T.state n).system.queue = [] := by
    rw [hEnd n hLater]
    exact hQueue
  have hEmpty (n index : Nat) (hLater : 9 ≤ n) : (T.state n).waitingFor index = [] := by
    rw [hEnd n hLater, waitingFor, hListeners]
    cases index <;> rfl
  have hFair : Fair T := fair_of_drained hDrained hEmpty
  obtain ⟨-, hAll⟩ := hFair.everything_handled hStart 9
  obtain ⟨m, converted, hLater, hConverted, hOpen⟩ := hAll 0 ⟨.sample ⟨0⟩, runtime, seen, []⟩ (by
    rw [hEnd 9 (Nat.le_refl _), hListeners]
    rfl)
  rw [List.append_nil, hSeen] at hConverted
  obtain ⟨down, rest, hDown, hRest, rfl⟩ := List.forall₂_cons_left_iff.mp hConverted
  rw [List.forall₂_nil_left_iff.mp hRest] at hOpen
  refine ⟨T, hStart, hFair, m, down, hDown, hOpen ?_⟩
  rw [hEnd m hLater, hClosed]
  exact List.not_mem_nil

end ListeningSystem

end PacketRouter.Gwmp
