import PacketRouterIngest.HttpRoaming.Deduplicator

/-! The state of the HTTP service and what its only task does with a message. -/
namespace PacketRouter.HttpRoaming

open Rust

/-- After updating app state, these are the side effects that can happen. -/
inductive UpdateAction where
  | noop
  | startTimerForNewPacket (hash : PacketHash)
  | downlinkSend (tx : GatewayTx) (packet : PacketDown) (response : HttpResponse)
  | downlinkError (response : HttpResponse)
  | uplinkSend (request : PRStartReq)

structure App where
  deduplicator : Deduplicator
  gatewayMap : HashMap GatewayB58 GatewayTx
  settings : HttpSettings

namespace App

def new (settings : HttpSettings) : App := ⟨.new, ∅, settings⟩

def gatewayCount (app : App) : Nat := app.gatewayMap.entries.length

def currentPacketCount (app : App) : Nat := app.deduplicator.currentPacketCount

def totalCurrentPacketCount (app : App) : Nat := app.deduplicator.totalCurrentPacketCount

end App

/-- What becomes of a group when its deduplication timer has elapsed. A group
that no request can be made of is dropped with a log. -/
def sendGroup (c : Crates) (app : App) (packets : List PacketUp) : Panics UpdateAction :=
  match makePrStartReq c packets app.settings.roaming with
  | .ok body => .ok (.uplinkSend body)
  | .err _ => .ok .noop
  | .panic reason => .error reason

/-- `handle_message`: the change of state and the side effect it asks for. -/
def handleMessage (c : Crates) (app : App) (msg : Msg) : Panics (App × UpdateAction) :=
  match msg with
  | .uplinkReceive packet =>
      match app.deduplicator.handlePacket c packet with
      | (deduplicator, .new hash) =>
          .ok ({ app with deduplicator }, .startTimerForNewPacket hash)
      | (deduplicator, .existing) => .ok ({ app with deduplicator }, .noop)
  | .uplinkSend hash =>
      match app.deduplicator.getPackets hash with
      | none => .ok (app, .noop)
      | some packets => do
          let action ← sendGroup c app packets
          return (app, action)
  | .uplinkCleanup hash =>
      .ok ({ app with deduplicator := app.deduplicator.removePackets hash }, .noop)
  | .downlink packet =>
      match app.gatewayMap.lookup packet.gatewayB58 with
      | none => .ok (app, .downlinkError packet.httpResponse.xmitFailed)
      | some gateway =>
          let response := packet.httpResponse.success
          .ok (app, .downlinkSend gateway packet response.success)
  | .gatewayConnect gw tx =>
      .ok ({ app with gatewayMap := app.gatewayMap.insert gw tx }, .noop)
  | .gatewayDisconnect gw =>
      .ok ({ app with gatewayMap := app.gatewayMap.erase gw }, .noop)

/-- Where the task spawned for a new packet stands: asleep, or about to put
its next message into the queue. -/
inductive TimerPhase where
  | sleepDedup
  | enqueueSend
  | sleepCleanup
  | enqueueCleanup
deriving DecidableEq, Repr

structure Timer where
  hash : PacketHash
  phase : TimerPhase
deriving DecidableEq, Repr

/-- Body of a POST to the network server. -/
inductive Body where
  | prStartReq (request : PRStartReq)
  | httpResponse (response : HttpResponse)

/-- What one side effect does outside the app: a spawned timer, the downlinks
put on a channel, the bodies posted to the network server. -/
structure Effects where
  spawned : List Timer
  enqueued : List (GatewayTx × PacketRouterPacketDownV1)
  posted : List Body

def Effects.none : Effects := ⟨[], [], []⟩

/-- `handle_update_action`. `closed` tells the channels whose receiver is gone. -/
def handleUpdateAction (settings : HttpSettings) (closed : GatewayTx → Bool) :
    UpdateAction → Effects
  | .noop => .none
  | .startTimerForNewPacket hash => { Effects.none with spawned := [⟨hash, .sleepDedup⟩] }
  | .downlinkSend tx packet response =>
      { Effects.none with
        enqueued := GatewayTx.sendDownlink closed tx packet.downlink
        posted :=
          if response.shouldSendForProtocol settings.roaming.protocolVersion then
            [.httpResponse response]
          else [] }
  | .downlinkError response => { Effects.none with posted := [.httpResponse response] }
  | .uplinkSend request => { Effects.none with posted := [.prStartReq request] }

/-- What a message makes of the bucket of a hash. -/
def Msg.bucketAfter (c : Crates) (hash : PacketHash) (bucket : Option (List PacketUp)) :
    Msg → Option (List PacketUp)
  | .uplinkReceive packet =>
      if hash = packet.hash c then some (bucket.getD [] ++ [packet]) else bucket
  | .uplinkCleanup removed => if hash = removed then none else bucket
  | _ => bucket

/-- What a message makes of the entry of a gateway. -/
def Msg.gatewayAfter (gw : GatewayB58) (entry : Option GatewayTx) : Msg → Option GatewayTx
  | .gatewayConnect own tx => if gw = own then some tx else entry
  | .gatewayDisconnect own => if gw = own then none else entry
  | _ => entry

/-- The timers that a message spawns. -/
def Msg.timers (c : Crates) (app : App) : Msg → List Timer
  | .uplinkReceive packet =>
      if app.deduplicator.getPackets (packet.hash c) = none then
        [⟨packet.hash c, .sleepDedup⟩]
      else []
  | _ => []

section

variable {c : Crates} {app app' : App} {msg : Msg} {action : UpdateAction}

theorem sendGroup_eq_ok {packets : List PacketUp} :
    sendGroup c app packets = .ok action ↔
      (∃ body, makePrStartReq c packets app.settings.roaming = .ok body ∧
        action = .uplinkSend body) ∨
      ((makePrStartReq c packets app.settings.roaming).Failed ∧ action = .noop) := by
  cases h : makePrStartReq c packets app.settings.roaming <;>
    simp [sendGroup, h, eq_comm]

/-- A received packet is always accepted. Its action tells whether it opened
the bucket of its hash. -/
theorem handleMessage_uplinkReceive (packet : PacketUp) :
    handleMessage c app (.uplinkReceive packet) =
      .ok ({ app with deduplicator := (app.deduplicator.handlePacket c packet).1 },
        if app.deduplicator.getPackets (packet.hash c) = none then
          .startTimerForNewPacket (packet.hash c)
        else .noop) := by
  cases hBucket : app.deduplicator.getPackets (packet.hash c) with
  | none => simp [handleMessage, Deduplicator.handlePacket_of_none c hBucket]
  | some bucket => simp [handleMessage, Deduplicator.handlePacket_of_some c hBucket]

/-- The elapsed deduplication timer leaves the app as it is. -/
theorem handleMessage_uplinkSend {hash : PacketHash} :
    handleMessage c app (.uplinkSend hash) = .ok (app', action) ↔
      app' = app ∧
        ((app.deduplicator.getPackets hash = none ∧ action = .noop) ∨
          ∃ packets, app.deduplicator.getPackets hash = some packets ∧
            sendGroup c app packets = .ok action) := by
  cases hBucket : app.deduplicator.getPackets hash with
  | none => simp [handleMessage, hBucket, eq_comm]
  | some packets =>
      cases hGroup : sendGroup c app packets <;>
        simp [handleMessage, hBucket, hGroup, bind, Except.bind, pure, Except.pure, eq_comm]

/-- A downlink is sent to the channel of its gateway, or answered as failed. -/
theorem handleMessage_downlink (packet : PacketDown) :
    handleMessage c app (.downlink packet) = .ok (app,
      (app.gatewayMap.lookup packet.gatewayB58).elim
        (.downlinkError packet.httpResponse.xmitFailed)
        (.downlinkSend · packet packet.httpResponse.success)) := by
  cases hTx : app.gatewayMap.lookup packet.gatewayB58 <;> simp [handleMessage, hTx]

/-- Only an elapsed deduplication timer leads to a request. -/
theorem exists_hash_of_uplinkSend {request : PRStartReq}
    (h : handleMessage c app msg = .ok (app', .uplinkSend request)) :
    ∃ hash, msg = .uplinkSend hash := by
  cases msg with
  | uplinkSend hash => exact ⟨hash, rfl⟩
  | uplinkReceive packet =>
      rw [handleMessage_uplinkReceive] at h
      split_ifs at h <;> cases h
  | downlink packet =>
      cases hGateway : app.gatewayMap.lookup packet.gatewayB58 <;>
        · simp only [handleMessage, hGateway] at h
          cases h
  | uplinkCleanup | gatewayConnect | gatewayDisconnect => cases h

/-- Only a packet that opens the bucket of its hash leads to a timer. -/
theorem opens_of_startTimer {hash : PacketHash}
    (h : handleMessage c app msg = .ok (app', .startTimerForNewPacket hash)) :
    ∃ packet, msg = .uplinkReceive packet ∧ hash = packet.hash c ∧
      app.deduplicator.getPackets hash = none := by
  cases msg with
  | uplinkReceive packet =>
      rw [handleMessage_uplinkReceive] at h
      split_ifs at h with hBucket
      · cases h
        exact ⟨packet, rfl, rfl, hBucket⟩
      · cases h
  | uplinkSend sent =>
      obtain ⟨-, ⟨-, hNoop⟩ | ⟨packets, -, hGroup⟩⟩ := handleMessage_uplinkSend.mp h
      · cases hNoop
      · obtain ⟨body, -, hSend⟩ | ⟨-, hNoop⟩ := sendGroup_eq_ok.mp hGroup
        · cases hSend
        · cases hNoop
  | downlink packet =>
      cases hGateway : app.gatewayMap.lookup packet.gatewayB58 <;>
        · simp only [handleMessage, hGateway] at h
          cases h
  | uplinkCleanup | gatewayConnect | gatewayDisconnect => cases h

/-- Only a downlink for a known gateway is sent, on the channel of that gateway. -/
theorem downlink_of_send {tx : GatewayTx} {packet : PacketDown} {response : HttpResponse}
    (h : handleMessage c app msg = .ok (app', .downlinkSend tx packet response)) :
    app' = app ∧ msg = .downlink packet ∧ app.gatewayMap.lookup packet.gatewayB58 = some tx ∧
      response = packet.httpResponse.success := by
  cases msg with
  | downlink own =>
      rw [handleMessage_downlink] at h
      cases hTx : app.gatewayMap.lookup own.gatewayB58 with
      | none =>
          rw [hTx] at h
          cases h
      | some gateway =>
          rw [hTx] at h
          cases h
          exact ⟨rfl, rfl, hTx, rfl⟩
  | uplinkSend hash =>
      obtain ⟨-, ⟨-, hNoop⟩ | ⟨packets, -, hGroup⟩⟩ := handleMessage_uplinkSend.mp h
      · cases hNoop
      · obtain ⟨body, -, hSend⟩ | ⟨-, hNoop⟩ := sendGroup_eq_ok.mp hGroup
        · cases hSend
        · cases hNoop
  | uplinkReceive own =>
      rw [handleMessage_uplinkReceive] at h
      split_ifs at h <;> cases h
  | uplinkCleanup | gatewayConnect | gatewayDisconnect => cases h

/-- Only downlinks are answered. -/
theorem downlink_of_posted {settings : HttpSettings} {closed : GatewayTx → Bool}
    {response : HttpResponse} (h : handleMessage c app msg = .ok (app', action))
    (hPosted : .httpResponse response ∈ (handleUpdateAction settings closed action).posted) :
    ∃ packet, msg = .downlink packet := by
  cases msg with
  | downlink packet => exact ⟨packet, rfl⟩
  | gatewayConnect | gatewayDisconnect | uplinkCleanup =>
      cases h
      simp [handleUpdateAction, Effects.none] at hPosted
  | uplinkReceive packet =>
      rw [handleMessage_uplinkReceive] at h
      split_ifs at h <;>
        · cases h
          simp [handleUpdateAction, Effects.none] at hPosted
  | uplinkSend hash =>
      obtain ⟨-, ⟨-, rfl⟩ | ⟨packets, -, hGroup⟩⟩ := handleMessage_uplinkSend.mp h
      · simp [handleUpdateAction, Effects.none] at hPosted
      · obtain ⟨body, -, rfl⟩ | ⟨-, rfl⟩ := sendGroup_eq_ok.mp hGroup <;>
          simp [handleUpdateAction, Effects.none] at hPosted

/-- A packet whose hash has no bucket starts the timer of that hash. -/
theorem Msg.timers_of_none {packet : PacketUp}
    (h : app.deduplicator.getPackets (packet.hash c) = none) :
    (Msg.uplinkReceive packet).timers c app = [⟨packet.hash c, .sleepDedup⟩] := if_pos h

theorem Msg.timers_of_some {packet : PacketUp} {bucket : List PacketUp}
    (h : app.deduplicator.getPackets (packet.hash c) = some bucket) :
    (Msg.uplinkReceive packet).timers c app = [] :=
  if_neg (by rw [h]; exact Option.some_ne_none bucket)

/-- No message changes the settings. -/
theorem settings_handleMessage (h : handleMessage c app msg = .ok (app', action)) :
    app'.settings = app.settings := by
  cases msg with
  | uplinkReceive packet =>
      rw [handleMessage_uplinkReceive] at h
      cases h
      rfl
  | uplinkSend hash =>
      obtain ⟨rfl, -⟩ := handleMessage_uplinkSend.mp h
      rfl
  | downlink packet =>
      cases hGateway : app.gatewayMap.lookup packet.gatewayB58 <;>
        · simp only [handleMessage, hGateway] at h
          cases h
          rfl
  | uplinkCleanup | gatewayConnect | gatewayDisconnect =>
      cases h
      rfl

/-- The bucket of a hash changes only by a packet of that hash, which becomes
its last copy, and by the cleanup of that hash. -/
theorem getPackets_handleMessage (hash : PacketHash)
    (h : handleMessage c app msg = .ok (app', action)) :
    app'.deduplicator.getPackets hash =
      msg.bucketAfter c hash (app.deduplicator.getPackets hash) := by
  cases msg with
  | uplinkReceive packet =>
      rw [handleMessage_uplinkReceive] at h
      cases h
      exact Deduplicator.getPackets_handlePacket c
  | uplinkSend sent =>
      obtain ⟨rfl, -⟩ := handleMessage_uplinkSend.mp h
      rfl
  | uplinkCleanup removed =>
      cases h
      exact Deduplicator.getPackets_removePackets removed
  | downlink packet =>
      cases hGateway : app.gatewayMap.lookup packet.gatewayB58 <;>
        · simp only [handleMessage, hGateway] at h
          cases h
          rfl
  | gatewayConnect | gatewayDisconnect =>
      cases h
      rfl

/-- The entry of a gateway changes only by its connects and disconnects. -/
theorem gatewayMap_handleMessage (gw : GatewayB58)
    (h : handleMessage c app msg = .ok (app', action)) :
    app'.gatewayMap.lookup gw = msg.gatewayAfter gw (app.gatewayMap.lookup gw) := by
  cases msg with
  | uplinkReceive packet =>
      rw [handleMessage_uplinkReceive] at h
      cases h
      rfl
  | uplinkSend sent =>
      obtain ⟨rfl, -⟩ := handleMessage_uplinkSend.mp h
      rfl
  | uplinkCleanup removed =>
      cases h
      rfl
  | downlink packet =>
      cases hGateway : app.gatewayMap.lookup packet.gatewayB58 <;>
        · simp only [handleMessage, hGateway] at h
          cases h
          rfl
  | gatewayConnect own tx =>
      cases h
      simp only [Msg.gatewayAfter]
      split_ifs with hGateway
      · rw [hGateway]
        exact AList.lookup_insert _
      · exact AList.lookup_insert_ne hGateway
  | gatewayDisconnect own =>
      cases h
      simp only [Msg.gatewayAfter]
      split_ifs with hGateway
      · rw [hGateway]
        exact AList.lookup_erase _ _
      · exact AList.lookup_erase_ne hGateway

/-- A timer is spawned exactly for a packet that opens a bucket. -/
theorem spawned_handleMessage (settings : HttpSettings) (closed : GatewayTx → Bool)
    (h : handleMessage c app msg = .ok (app', action)) :
    (handleUpdateAction settings closed action).spawned = msg.timers c app := by
  cases msg with
  | uplinkReceive packet =>
      rw [handleMessage_uplinkReceive] at h
      cases h
      dsimp only [Msg.timers]
      split_ifs <;> rfl
  | uplinkSend hash =>
      obtain ⟨-, ⟨-, rfl⟩ | ⟨packets, -, hGroup⟩⟩ := handleMessage_uplinkSend.mp h
      · rfl
      · obtain ⟨body, -, rfl⟩ | ⟨-, rfl⟩ := sendGroup_eq_ok.mp hGroup <;> rfl
  | downlink packet =>
      cases hGateway : app.gatewayMap.lookup packet.gatewayB58 <;>
        · simp only [handleMessage, hGateway] at h
          cases h
          rfl
  | uplinkCleanup | gatewayConnect | gatewayDisconnect =>
      cases h
      rfl

end

end PacketRouter.HttpRoaming
