import RemoteBrowser.MediaGateway.Contracts
import RemoteBrowser.MediaGateway.Relay
import RemoteBrowser.Async.System

/-!
# The connections of one session on a gateway

Each socket of a session, each request to its WebRTC relay and each termination is served by a
goroutine of its own.  They share the session's entries in the maps of the service, which they
change in critical sections, and the sockets, to which they write one frame at a time.  Everything
between two of these is one step of the interleaving.
-/

namespace RemoteBrowser.MediaGateway

open Async Text

/-! ## State and operations -/

/-- The texts of a JSON object that the gateway writes by itself. -/
abbrev Notice := List (String × String)

def errorNotice (message : String) : Notice := [("type", "error"), ("message", message)]

/-- `signalRegisterMessage`. -/
structure RegisterMessage where
  kind : String
  role : String
  sessionID : String
  token : String

/-- The texts that `fmt.Sprint` gives for two members of an envelope. -/
structure Envelope where
  messageType : String
  state : String

/-- What package `encoding/json` makes of a payload, and the text of a failed read. -/
structure Codec where
  readFailure : String
  register : Payload → Except String RegisterMessage
  envelope : Payload → Option Envelope
  valid : Payload → Bool

/-- `runtimeSessionEventRequest`. -/
structure RuntimeEvent where
  action : String
  state : String
  reason : String
  generation : Int

/-- What a client of the HTTP routes gets. -/
inductive HttpAnswer where
  | terminated (reason : String)
  | relayed (status : Nat)
  | failed (failure : ApiError)
  | proxied

/-- A socket, with what the other role has sent and was written to it: signaling payloads and
media frames. -/
structure Socket where
  relayed : List Payload := []
  frames : List Payload := []
  closed : Bool := false

/-- What the gateway has of one session: its entries in the maps of the service and in the store,
and the sockets that were opened for it. -/
structure Hub where
  session : Option SessionRecord := none
  stored : Option SessionRecord := none
  signals : Option RelayState := none
  mediaRelays : Option RelayState := none
  webrtcRelay : Option PionRelay := none
  sockets : Nat → Socket := fun _ => {}
  nextSocket : Nat := 0

inductive HubOp where
  | upgrade
  | readText (ws : Nat)
  | writeNotice (ws : Nat) (notice : Notice)
  | writePending (ws : Nat) (payload : Payload)
  | writeDirect (ws : Nat) (payload : Payload)
  | writeFrame (ws : Nat) (payload : Payload)
  | close (ws : Nat) (code : Nat) (reason : String)
  | getSession
  | getStoredSession
  | ensureLocalSessionRecord (record : SessionRecord)
  | newConnectionID
  | notify (event : RuntimeEvent)
  | registerSignalConnection (role : Role) (conn : Connection)
  | unregisterSignalConnection (role : Role) (id : Nat)
  | isSignalSessionTerminated
  | signalTarget (role : Role) (payload : Payload)
  | enqueueSignal (role : Role) (payload : Payload)
  | noteSignal
  | terminateSignalSession
  | registerMediaConnection (role : Role) (conn : Connection)
  | unregisterMediaConnection (role : Role) (id : Nat)
  | mediaTarget (role : Role) (payload : Payload)
  | enqueueMedia (role : Role) (payload : Payload)
  | noteMedia
  | terminateMediaRelaySession
  | getOrCreatePionRelaySession
  | lookUpRelay
  | callRelay
  | closeRelay
  | deleteStoredSession
  | respond (answer : HttpAnswer)

/-- What the operations leave open: what a socket reads, whether a write or a call succeeds, the
identity that is drawn and whether this gateway owns the stored session. -/
structure HubChoice where
  payload : Option Payload := none
  succeeds : Bool := true
  id : Nat := 0
  isLocal : Bool := true
  status : Nat := 200

@[reducible] def HubOp.Reply : HubOp → Type
  | .upgrade => Nat
  | .readText _ => Option Payload
  | .writePending _ _ => Bool
  | .writeDirect _ _ => Bool
  | .writeFrame _ _ => Bool
  | .getSession => Option SessionRecord
  | .getStoredSession => Option (SessionRecord × Bool)
  | .newConnectionID => Nat
  | .notify _ => Bool
  | .registerSignalConnection _ _ => Option Registration
  | .unregisterSignalConnection _ _ => Bool × Bool
  | .isSignalSessionTerminated => Bool
  | .signalTarget _ _ => Option Connection
  | .terminateSignalSession => List Connection
  | .registerMediaConnection _ _ => Option Registration
  | .mediaTarget _ _ => Option Connection
  | .terminateMediaRelaySession => List Connection
  | .getOrCreatePionRelaySession => Bool
  | .lookUpRelay => Bool
  | .callRelay => Nat
  | .closeRelay => Bool
  | _ => Unit

abbrev hubFace : Interface := ⟨HubOp, HubOp.Reply⟩

abbrev HubHandler := Program hubFace

def HubOp.await (op : HubOp) : HubHandler op.Reply := @Program.call hubFace op

/-- The registered connections, the viewer's first. -/
def RelayState.connections (state : RelayState) : List Connection :=
  [(state.side .viewer).connection, (state.side .worker).connection].filterMap id

namespace Hub

/-- Change one socket. -/
def setSocket (hub : Hub) (ws : Nat) (socket : Socket) : Hub :=
  { hub with sockets := Function.update hub.sockets ws socket }

/-- `WriteText`, which records what was written.  Nothing is written to a closed socket. -/
def write (hub : Hub) (choice : HubChoice) (ws : Nat) (record : Socket → Socket) : Hub × Bool :=
  if choice.succeeds && !(hub.sockets ws).closed then
    (hub.setSocket ws (record (hub.sockets ws)), true)
  else (hub, false)

end Hub

@[grind =] def hubExec (choice : HubChoice) : (op : HubOp) → Hub → Hub × op.Reply
  | .upgrade, hub => ({ hub with nextSocket := hub.nextSocket + 1 }, hub.nextSocket)
  | .readText _, hub => (hub, choice.payload)
  | .writeNotice _ _, hub => (hub, ())
  | .writePending ws payload, hub =>
      hub.write choice ws fun socket => { socket with relayed := socket.relayed ++ [payload] }
  | .writeDirect ws payload, hub =>
      hub.write choice ws fun socket => { socket with relayed := socket.relayed ++ [payload] }
  | .writeFrame ws payload, hub =>
      hub.write choice ws fun socket => { socket with frames := socket.frames ++ [payload] }
  | .close ws _ _, hub => (hub.setSocket ws { hub.sockets ws with closed := true }, ())
  | .getSession, hub => (hub, hub.session)
  | .getStoredSession, hub =>
      (hub, if choice.succeeds then hub.stored.map fun record => (record, choice.isLocal) else none)
  | .ensureLocalSessionRecord record, hub =>
      ({ hub with session := some (hub.session.getD record) }, ())
  | .newConnectionID, hub => (hub, choice.id)
  | .notify _, hub => (hub, choice.succeeds)
  | .registerSignalConnection role conn, hub =>
      let outcome := registerConnection hub.signals role conn
      ({ hub with signals := some outcome.1 }, outcome.2)
  | .unregisterSignalConnection role id, hub =>
      let outcome := MediaGateway.unregisterSignalConnection hub.signals role id
      ({ hub with signals := outcome.1 }, outcome.2)
  | .isSignalSessionTerminated, hub => (hub, hub.signals.any (·.terminated))
  | .signalTarget role _, hub => (hub, MediaGateway.signalTarget hub.signals role)
  | .enqueueSignal role payload, hub =>
      ({ hub with signals := some (MediaGateway.enqueueSignal hub.signals role payload) }, ())
  | .noteSignal, hub => ({ hub with signals := some (noteState hub.signals) }, ())
  | .terminateSignalSession, hub =>
      ({ hub with signals := some (MediaGateway.terminateSignalSession hub.signals) },
        (hub.signals.getD {}).connections)
  | .registerMediaConnection role conn, hub =>
      let outcome := registerConnection hub.mediaRelays role conn
      ({ hub with mediaRelays := some outcome.1 }, outcome.2)
  | .unregisterMediaConnection role id, hub =>
      let outcome := MediaGateway.unregisterMediaConnection hub.mediaRelays role id
      ({ hub with mediaRelays := outcome.1 }, ())
  | .mediaTarget role _, hub => (hub, MediaGateway.mediaTarget hub.mediaRelays role)
  | .enqueueMedia role payload, hub =>
      ({ hub with mediaRelays := some (MediaGateway.enqueueMedia hub.mediaRelays role payload) }, ())
  | .noteMedia, hub => ({ hub with mediaRelays := some (noteState hub.mediaRelays) }, ())
  | .terminateMediaRelaySession, hub =>
      ({ hub with mediaRelays := MediaGateway.terminateMediaRelaySession hub.mediaRelays },
        match hub.mediaRelays with
        | none => []
        | some current => if current.terminated then [] else current.connections)
  | .getOrCreatePionRelaySession, hub =>
      if hub.webrtcRelay.isSome || choice.succeeds then
        ({ hub with webrtcRelay := some (MediaGateway.getOrCreatePionRelaySession hub.webrtcRelay) },
          true)
      else (hub, false)
  | .lookUpRelay, hub => (hub, hub.webrtcRelay.isSome)
  | .callRelay, hub => (hub, choice.status)
  | .closeRelay, hub =>
      ({ hub with webrtcRelay := hub.webrtcRelay.map fun relay => { relay with terminated := true } },
        hub.webrtcRelay.any (!·.terminated))
  | .deleteStoredSession, hub =>
      (if choice.succeeds then { hub with stored := none } else hub, ())
  | .respond _, hub => (hub, ())

/-! ## Common parts of the handlers -/

def roleName : Role → String
  | .viewer => "viewer"
  | .worker => "worker"

def expectedToken (record : SessionRecord) : Role → String
  | .viewer => record.request.viewerToken
  | .worker => record.request.workerToken

/-- `readSignalRegisterMessage`, for what the socket has read. -/
def readSignalRegisterMessage (codec : Codec) : Option Payload → Except String RegisterMessage
  | none => .error codec.readFailure
  | some payload =>
      match codec.register payload with
      | .error failure => .error failure
      | .ok message =>
          let register : RegisterMessage :=
            { kind := trimSpace message.kind
              role := trimSpace message.role
              sessionID := trimSpace message.sessionID
              token := trimSpace message.token }
          if register.kind ≠ "register" then
            .error "first signaling payload must be register"
          else if register.role ≠ "viewer" ∧ register.role ≠ "worker" then
            .error "invalid register role"
          else if register.sessionID = "" then .error "register sessionId is required"
          else if register.token = "" then .error "register token is required"
          else .ok register

/-- Tell the peer why the connection ends, and close it. -/
def refuse (ws : Nat) (message : String) (code : Nat) (reason : String) : HubHandler Unit := do
  HubOp.await (.writeNotice ws (errorNotice message))
  HubOp.await (.close ws code reason)

/-- `CloseNow`. -/
def closeNow (ws : Nat) : HubHandler Unit := HubOp.await (.close ws 0 "")

/-- `GetSession`. -/
def findSession : HubHandler (Option SessionRecord) := do
  match ← HubOp.await .getSession with
  | some record => return some record
  | none => return (← HubOp.await .getStoredSession).map Prod.fst

/-- `getSessionWithOwner`: the record, and whether this gateway owns the session. -/
def getSessionWithOwner : HubHandler (Option (SessionRecord × Bool)) := do
  match ← HubOp.await .getSession with
  | some record => return some (record, true)
  | none =>
      match ← HubOp.await .getStoredSession with
      | none => return none
      | some (record, true) =>
          if record.request.sessionID ≠ "" then
            HubOp.await (.ensureLocalSessionRecord record)
          return some (record, true)
      | some (record, false) => return some (record, false)

def usesGatewayMediaRelay (record : SessionRecord) : Bool :=
  record.response.workerBridge.relayMode = relayModeGatewayMediaRelay ∧
    record.response.transport.mediaTermination.any (·.gatewayTerminatesMedia)

/-- Close the connection whose place was taken. -/
def supersede (reason : String) : Option Connection → HubHandler Unit
  | none => return ()
  | some previous => HubOp.await (.close previous.ws 1000 reason)

/-- Write the payloads that have waited for the connection, up to the first failure. -/
def flushToSocket (ws : Nat) : List Payload → HubHandler Unit
  | [] => return ()
  | payload :: rest => do
      if ← HubOp.await (.writePending ws payload) then flushToSocket ws rest

/-- The event that `notifyRuntimeEvent` sends. -/
def runtimeEvent (role : Role) (generation : Int) (action state : String) : RuntimeEvent :=
  { generation := generation
    state := if action = "state" then state else ""
    reason := ""
    action :=
      match action, role with
      | "connected", .viewer => "viewer-connected"
      | "connected", .worker => "worker-ready"
      | "seen", _ => "viewer-seen"
      | "state", _ => "worker-state"
      | "disconnected", .viewer => "viewer-disconnected"
      | "disconnected", .worker => "worker-disconnected"
      | other, _ => other }

def notifyRuntimeEvent (role : Role) (generation : Int) (action state : String) :
    HubHandler Bool :=
  HubOp.await (.notify (runtimeEvent role generation action state))

/-! ## Signaling connections -/

def signalMaxWebSocketMessageBytes : Nat := 256 * 1024

def isLegacyWebRTCSignalMessage (messageType : String) : Bool :=
  ["sdp-offer", "sdp-answer", "ice-candidate"].contains (trimSpace messageType)

def forwardSignal (role : Role) (payload : Payload) : HubHandler Unit := do
  match ← HubOp.await (.signalTarget role payload) with
  | none => HubOp.await (.enqueueSignal role payload)
  | some target =>
      if ← HubOp.await (.writeDirect target.ws payload) then HubOp.await .noteSignal
      else
        HubOp.await (.close target.ws 1011 "signal relay failed")
        HubOp.await (.enqueueSignal role payload)

section Handlers

variable (codec : Codec) (sessionID : String)

/-- What a connection does with an envelope. -/
def relaySignal (role : Role) (generation : Int) (ws : Nat) (envelope : Envelope)
    (payload : Payload) : HubHandler Unit := do
  match trimSpace envelope.messageType, role with
  | "heartbeat", role =>
      if role = .viewer then
        HubOp.await .noteSignal
        let _ ← notifyRuntimeEvent role generation "seen" ""
      HubOp.await (.writeNotice ws [("type", "heartbeat-ack"), ("sessionId", sessionID)])
  | "worker-state", .worker =>
      HubOp.await .noteSignal
      let _ ← notifyRuntimeEvent .worker generation "state" (trimSpace envelope.state)
      forwardSignal .viewer payload
  | _, .worker => forwardSignal .viewer payload
  | _, .viewer =>
      HubOp.await .noteSignal
      let _ ← notifyRuntimeEvent .viewer generation "seen" ""
      forwardSignal .worker payload

/-- The read loop of a connection, for as many messages as it reads. -/
def relaySignals (role : Role) (generation : Int) (mode : String) (ws : Nat) :
    Nat → HubHandler Unit
  | 0 => .stalled
  | budget + 1 => do
      match ← HubOp.await (.readText ws) with
      | none => return ()
      | some payload =>
          if signalMaxWebSocketMessageBytes < payload.length then
            refuse ws "signaling payload exceeds maximum message size" 1009
              "signaling payload too large"
          else
            match codec.envelope payload with
            | none =>
                HubOp.await (.writeNotice ws (errorNotice "invalid signaling payload"))
                relaySignals role generation mode ws budget
            | some envelope =>
                if mode = relayModeGatewayMediaRelay ∧
                    isLegacyWebRTCSignalMessage (trimSpace envelope.messageType) then
                  HubOp.await (.writeNotice ws
                    [("type", "error"), ("sessionId", sessionID),
                      ("message", "legacy webrtc signaling is disabled for " ++
                        "gateway-terminated media sessions"),
                      ("code", "gateway-webrtc-relay-required")])
                  relaySignals role generation mode ws budget
                else
                  relaySignal sessionID role generation ws envelope payload
                  relaySignals role generation mode ws budget

/-- A connection that is registered, up to its end. -/
def serveSignals (role : Role) (record : SessionRecord) (budget : Nat) (conn : Connection)
    (registration : Registration) : HubHandler Unit := do
  let generation :=
    if record.request.generation ≤ 0 then 1 else record.request.generation
  supersede "superseded by newer connection" registration.previous
  if ← notifyRuntimeEvent role generation "connected" "" then
    HubOp.await (.writeNotice conn.ws [("type", "registered"), ("role", roleName role)])
    flushToSocket conn.ws registration.pending
    relaySignals codec sessionID role generation record.response.workerBridge.relayMode conn.ws
      budget
    let (released, terminated) ← HubOp.await (.unregisterSignalConnection role conn.id)
    if released && !terminated then
      let _ ← notifyRuntimeEvent role generation "disconnected" ""
  else refuse conn.ws "runtime notify failed" 1011 "runtime notify failed"

/-- A connection whose first message was read. -/
def connectSignals (role : Role) (budget : Nat) (ws : Nat) (first : Option Payload) :
    HubHandler Unit := do
  match readSignalRegisterMessage codec first with
  | .error failure => refuse ws failure 1008 "invalid register"
  | .ok register =>
      if register.role ≠ roleName role ∨ register.sessionID ≠ sessionID then
        refuse ws "registration path mismatch" 1008 "registration path mismatch"
      else
        match ← findSession with
        | none => refuse ws "session not found" 1008 "session not found"
        | some record =>
            if expectedToken record role = "" ∨ register.token ≠ expectedToken record role then
              refuse ws "invalid session token" 1008 "invalid session token"
            else
              let conn : Connection := ⟨← HubOp.await .newConnectionID, ws⟩
              match ← HubOp.await (.registerSignalConnection role conn) with
              | none => refuse ws "session is terminated" 1008 "session terminated"
              | some registration => serveSignals codec sessionID role record budget conn registration

/-- `runSignalConnection`, after the upgrade to a socket. -/
def runSignalConnection (role : Role) (budget : Nat) : HubHandler Unit := do
  let ws ← HubOp.await .upgrade
  connectSignals codec sessionID role budget ws (← HubOp.await (.readText ws))
  closeNow ws

/-! ## Media connections -/

/-- Write the frames that have waited for the connection, up to the first failure. -/
def flushFrames (ws : Nat) : List Payload → HubHandler Unit
  | [] => return ()
  | payload :: rest => do
      if ← HubOp.await (.writeFrame ws payload) then flushFrames ws rest

def mediaRelayMaxWebSocketFrameBytes : Nat := 256 * 1024

def forwardMedia (role : Role) (payload : Payload) : HubHandler Unit := do
  match ← HubOp.await (.mediaTarget role payload) with
  | none => HubOp.await (.enqueueMedia role payload)
  | some target =>
      if ← HubOp.await (.writeFrame target.ws payload) then HubOp.await .noteMedia
      else
        HubOp.await (.close target.ws 1011 "media relay failed")
        HubOp.await (.enqueueMedia role payload)

def relayMedia (role : Role) (ws : Nat) : Nat → HubHandler Unit
  | 0 => .stalled
  | budget + 1 => do
      match ← HubOp.await (.readText ws) with
      | none => return ()
      | some payload =>
          if mediaRelayMaxWebSocketFrameBytes < payload.length then
            refuse ws "media relay payload exceeds maximum frame size" 1009
              "media relay payload too large"
          else if codec.valid payload then
            forwardMedia (oppositeRole role) payload
            relayMedia role ws budget
          else
            HubOp.await (.writeNotice ws
              (errorNotice "media relay payload must be a JSON text envelope"))
            relayMedia role ws budget

/-- A media connection whose first message was read. -/
def connectMedia (role : Role) (budget : Nat) (ws : Nat) (first : Option Payload) :
    HubHandler Unit := do
  match readSignalRegisterMessage codec first with
  | .error failure => refuse ws failure 1008 "invalid register"
  | .ok register =>
      if register.role ≠ roleName role ∨ register.sessionID ≠ sessionID then
        refuse ws "registration path mismatch" 1008 "registration path mismatch"
      else
        match ← findSession with
        | none => refuse ws "session not found" 1008 "session not found"
        | some record =>
            if !usesGatewayMediaRelay record then
              refuse ws "session is not using gateway media relay" 1008 "media relay disabled"
            else if ← HubOp.await .isSignalSessionTerminated then
              refuse ws "session is terminated" 1008 "session terminated"
            else if expectedToken record role = "" ∨ register.token ≠ expectedToken record role then
              refuse ws "invalid session token" 1008 "invalid session token"
            else
              let conn : Connection := ⟨← HubOp.await .newConnectionID, ws⟩
              match ← HubOp.await (.registerMediaConnection role conn) with
              | none => refuse ws "session is terminated" 1008 "session terminated"
              | some registration =>
                  supersede "superseded by newer media connection" registration.previous
                  HubOp.await
                    (.writeNotice ws [("type", "media-registered"), ("role", roleName role)])
                  flushFrames ws registration.pending
                  relayMedia codec role ws budget
                  HubOp.await (.unregisterMediaConnection role conn.id)

/-- `runMediaRelayConnection`, after the upgrade to a socket. -/
def runMediaRelayConnection (role : Role) (budget : Nat) : HubHandler Unit := do
  let ws ← HubOp.await .upgrade
  connectMedia codec sessionID role budget ws (← HubOp.await (.readText ws))
  closeNow ws

end Handlers

/-! ## Requests -/

inductive RelayAction where
  | offer (codecsAllowed : Bool)
  | ice (candidate : Except String Unit)

/-- A request to the WebRTC relay, as its route and body are read. -/
structure RelayRequest where
  role : Role
  action : RelayAction
  token : String

def validateGatewayWebRTCContract (response : SessionResponse) : Except String Unit :=
  if trimSpace response.transport.mediaGatewayURL = "" then
    .error "gateway webrtc contract missing transport.mediaGatewayUrl"
  else if trimSpace response.workerBridge.mediaGatewayURL = "" then
    .error "gateway webrtc contract missing workerBridge.mediaGatewayUrl"
  else if trimSpace response.transport.mediaPlaneMode ≠ mediaPlaneModeGatewayWebRTCRelay then
    .error "gateway webrtc contract requires gateway-webrtc-relay media plane"
  else if trimSpace response.transport.protocol ≠ mediaTerminationProtocolWebRTCSRTP then
    .error "gateway webrtc contract requires webrtc-srtp protocol"
  else if trimSpace response.workerBridge.protocol ≠ mediaTerminationProtocolWebRTCSRTP then
    .error "gateway webrtc contract requires workerBridge webrtc-srtp protocol"
  else .ok ()

def fail (status : Nat) (message : String) : HubHandler Unit :=
  HubOp.await (.respond (.failed ⟨status, message⟩))

/-- The part of `handleWebRTCRelay` that has got the relay. -/
def relayRequest (request : RelayRequest) : HubHandler Unit := do
  match request.action with
  | .ice (.error failure) => fail 400 failure
  | _ => HubOp.await (.respond (.relayed (← HubOp.await .callRelay)))

def handleWebRTCRelay (request : RelayRequest) : HubHandler Unit := do
  match ← getSessionWithOwner with
  | none => fail 404 "session not found"
  | some (_, false) => HubOp.await (.respond .proxied)
  | some (record, true) =>
      if !usesGatewayMediaRelay record then
        fail 400 "session is not using gateway webrtc relay"
      else
        match validateGatewayWebRTCContract record.response with
        | .error failure => fail 400 failure
        | .ok _ =>
            if expectedToken record request.role = "" ∨
                request.token ≠ expectedToken record request.role then
              fail 401 "invalid session token"
            else
              match request.action with
              | .offer false => fail 415 "unsupported-codec"
              | _ =>
                  if ← HubOp.await .isSignalSessionTerminated then
                    fail 410 "session is terminated"
                  else if ← HubOp.await .getOrCreatePionRelaySession then relayRequest request
                  else fail 500 "failed to initialize webrtc relay"

/-- Tell the connections that the session has ended, and close them. -/
def dismiss (sessionID reason : String) (connections : List Connection) : HubHandler Unit :=
  Program.forEach connections fun conn => do
    HubOp.await (.writeNotice conn.ws
      [("type", "session-terminated"), ("sessionId", sessionID), ("reason", reason)])
    HubOp.await (.close conn.ws 1000 reason)

/-- `close` of a relay session: the first call goes on with `cleanupWebRTCRelaySession`, whose
event is sent by a goroutine of its own and left out. -/
def closeRelaySession (sessionID reason : String) : HubHandler Unit := do
  if ← HubOp.await .closeRelay then
    dismiss sessionID reason (← HubOp.await .terminateSignalSession)
    dismiss sessionID reason (← HubOp.await .terminateMediaRelaySession)
    HubOp.await .deleteStoredSession

/-- `handleTerminateSession`, for the reason in its body if that could be read. -/
def handleTerminateSession (sessionID : String) : Option String → HubHandler Unit
  | none => fail 400 "invalid terminate request"
  | some body => do
      match ← getSessionWithOwner with
      | none => fail 404 "session not found"
      | some (_, false) => HubOp.await (.respond .proxied)
      | some (_, true) =>
          let reason := if trimSpace body = "" then "session terminated" else trimSpace body
          dismiss sessionID reason (← HubOp.await .terminateSignalSession)
          dismiss sessionID reason (← HubOp.await .terminateMediaRelaySession)
          if ← HubOp.await .lookUpRelay then closeRelaySession sessionID reason
          HubOp.await .deleteStoredSession
          HubOp.await (.respond (.terminated reason))

/-! ## The system -/

/-- What is served: a socket, which reads at most so many messages before it waits for ever, or a
request. -/
inductive HubJob where
  | signal (role : Role) (budget : Nat)
  | media (role : Role) (budget : Nat)
  | webrtc (request : RelayRequest)
  | terminate (body : Option String)

/-- All interleavings of the handlers of one session. -/
@[reducible] def gatewayHub (codec : Codec) (sessionID : String) : System where
  face := hubFace
  State := Hub
  Choice := HubChoice
  Job := HubJob
  exec := hubExec
  body
    | .signal role budget => runSignalConnection codec sessionID role budget
    | .media role budget => runMediaRelayConnection codec sessionID role budget
    | .webrtc request => handleWebRTCRelay request
    | .terminate body => handleTerminateSession sessionID body
  canStart := fun _ _ => true

/-! ## What the handlers issue -/

/-- What an operation is issued for. -/
inductive Family where
  | common
  | signal
  | media
  | relay
  | terminate
  deriving DecidableEq

def HubOp.family : HubOp → Family
  | .writePending _ _ => .signal
  | .writeDirect _ _ => .signal
  | .writeFrame _ _ => .media
  | .registerSignalConnection _ _ => .signal
  | .unregisterSignalConnection _ _ => .signal
  | .signalTarget _ _ => .signal
  | .enqueueSignal _ _ => .signal
  | .noteSignal => .signal
  | .registerMediaConnection _ _ => .media
  | .unregisterMediaConnection _ _ => .media
  | .mediaTarget _ _ => .media
  | .enqueueMedia _ _ => .media
  | .noteMedia => .media
  | .getOrCreatePionRelaySession => .relay
  | .callRelay => .relay
  | .terminateSignalSession => .terminate
  | .terminateMediaRelaySession => .terminate
  | .lookUpRelay => .terminate
  | .closeRelay => .terminate
  | .deleteStoredSession => .terminate
  | .respond (.terminated _) => .terminate
  | _ => .common

/-- What is issued belongs to one of these. -/
def HubOp.In (families : List Family) (op : HubOp) : Prop := op.family ∈ families

/-- The code and the reason with which a socket is closed. -/
def HubOp.closing : HubOp → Option (Nat × String)
  | .close _ code reason => some (code, reason)
  | _ => none

/-- The codes and reasons with which the handlers of sockets close them; no frame is written for
the code zero. -/
def internalClosings : List (Nat × String) :=
  [(0, ""), (1000, "superseded by newer connection"),
    (1000, "superseded by newer media connection"), (1008, "invalid register"),
    (1008, "registration path mismatch"), (1008, "session not found"),
    (1008, "media relay disabled"), (1008, "invalid session token"), (1008, "session terminated"),
    (1009, "signaling payload too large"), (1009, "media relay payload too large"),
    (1011, "runtime notify failed"), (1011, "signal relay failed"), (1011, "media relay failed")]

/-- What is issued belongs to one of these families, and sockets are closed with one of these
codes and reasons. -/
structure HubOp.Among (families : List Family) (closings : List (Nat × String)) (op : HubOp) :
    Prop where
  family : op.In families
  closing : ∀ closing, op.closing = some closing → closing ∈ closings

section Issues

open Program

variable {families : List Family} {closings : List (Nat × String)}

/-- Every other operation leaves the sockets open. -/
theorem silent {op : HubOp} (family : op.family ∈ families) (quiet : op.closing = none) :
    op.Among families closings := by
  constructor
  · exact family
  · rw [quiet]
    exact fun _ impossible => by cases impossible

theorem closes {ws code : Nat} {reason : String} (common : .common ∈ families)
    (listed : (code, reason) ∈ closings) : (HubOp.close ws code reason).Among families closings := by
  constructor
  · exact common
  · rintro _ ⟨⟩
    exact listed

theorem await_issues {op : HubOp} (family : op.family ∈ families) (quiet : op.closing = none) :
    (HubOp.await op).Issues (HubOp.Among families closings) := ⟨silent family quiet, fun _ => trivial⟩

/-- What only common operations are issued for is part of everything. -/
theorem issues_widen {α : Type} {program : HubHandler α}
    (issues : program.Issues (HubOp.Among [.common] closings)) (common : .common ∈ families) :
    program.Issues (HubOp.Among families closings) := by
  refine issues.mono fun op alone => ⟨?_, alone.closing⟩
  rw [HubOp.In, List.mem_singleton.mp alone.family]
  exact common

theorem close_issues {ws code : Nat} {reason : String} (listed : (code, reason) ∈ closings) :
    (HubOp.await (.close ws code reason)).Issues (HubOp.Among [.common] closings) :=
  ⟨closes (.head _) listed, fun _ => trivial⟩

theorem refuse_issues (ws : Nat) (message : String) {code : Nat} {reason : String}
    (listed : (code, reason) ∈ closings) :
    (refuse ws message code reason).Issues (HubOp.Among [.common] closings) :=
  ⟨silent (.head _) rfl, fun _ => close_issues listed⟩

theorem closeNow_issues (ws : Nat) : (closeNow ws).Issues (HubOp.Among [.common] internalClosings) :=
  close_issues (.head _)

theorem fail_issues (status : Nat) (message : String) :
    (fail status message).Issues (HubOp.Among [.common] closings) := await_issues (.head _) rfl

theorem findSession_issues : findSession.Issues (HubOp.Among [.common] closings) := by
  refine ⟨silent (.head _) rfl, fun found => ?_⟩
  cases found with
  | some record => trivial
  | none => exact ⟨silent (.head _) rfl, fun _ => trivial⟩

theorem getSessionWithOwner_issues : getSessionWithOwner.Issues (HubOp.Among [.common] closings) := by
  refine ⟨silent (.head _) rfl, fun found => ?_⟩
  cases found with
  | some record => trivial
  | none =>
      refine ⟨silent (.head _) rfl, ?_⟩
      rintro (- | ⟨record, - | -⟩)
      · trivial
      · trivial
      · change Issues _ (if record.request.sessionID ≠ "" then _ else _)
        split
        · exact ⟨silent (.head _) rfl, fun _ => trivial⟩
        · trivial

theorem supersede_issues {reason : String} (listed : (1000, reason) ∈ closings)
    (previous : Option Connection) :
    (supersede reason previous).Issues (HubOp.Among [.common] closings) := by
  cases previous with
  | none => trivial
  | some conn => exact close_issues listed

theorem notifyRuntimeEvent_issues (role : Role) (generation : Int) (action state : String) :
    (notifyRuntimeEvent role generation action state).Issues (HubOp.Among [.common] closings) :=
  await_issues (.head _) rfl

theorem flushToSocket_issues (ws : Nat) (payloads : List Payload) :
    (flushToSocket ws payloads).Issues (HubOp.Among [.signal, .common] closings) := by
  induction payloads with
  | nil => trivial
  | cons payload rest ih =>
      refine ⟨silent (.head _) rfl, ?_⟩
      rintro (- | -)
      · trivial
      · exact ih

theorem flushFrames_issues (ws : Nat) (payloads : List Payload) :
    (flushFrames ws payloads).Issues (HubOp.Among [.media, .common] closings) := by
  induction payloads with
  | nil => trivial
  | cons payload rest ih =>
      refine ⟨silent (.head _) rfl, ?_⟩
      rintro (- | -)
      · trivial
      · exact ih

theorem dismiss_issues (sessionID : String) {reason : String} (listed : (1000, reason) ∈ closings)
    (connections : List Connection) :
    (dismiss sessionID reason connections).Issues (HubOp.Among [.common] closings) :=
  Issues.forEach fun _ _ => ⟨silent (.head _) rfl, fun _ => close_issues listed⟩

theorem forwardSignal_issues (role : Role) (payload : Payload) :
    (forwardSignal role payload).Issues (HubOp.Among [.signal, .common] internalClosings) := by
  refine ⟨silent (.head _) rfl, ?_⟩
  rintro (- | target)
  · exact await_issues (.head _) rfl
  · refine ⟨silent (.head _) rfl, ?_⟩
    rintro (- | -)
    · exact ⟨closes (.tail _ (.head _)) (by decide), fun _ => await_issues (.head _) rfl⟩
    · exact await_issues (.head _) rfl

theorem forwardMedia_issues (role : Role) (payload : Payload) :
    (forwardMedia role payload).Issues (HubOp.Among [.media, .common] internalClosings) := by
  refine ⟨silent (.head _) rfl, ?_⟩
  rintro (- | target)
  · exact await_issues (.head _) rfl
  · refine ⟨silent (.head _) rfl, ?_⟩
    rintro (- | -)
    · exact ⟨closes (.tail _ (.head _)) (by decide), fun _ => await_issues (.head _) rfl⟩
    · exact await_issues (.head _) rfl

variable (codec : Codec) (sessionID : String)

theorem relaySignal_issues (role : Role) (generation : Int) (ws : Nat) (envelope : Envelope)
    (payload : Payload) :
    (relaySignal sessionID role generation ws envelope payload).Issues
      (HubOp.Among [.signal, .common] internalClosings) := by
  have forwards := forwardSignal_issues
  have notifies (role : Role) (action state : String) :
      (notifyRuntimeEvent role generation action state).Issues
        (HubOp.Among [.signal, .common] internalClosings) :=
    issues_widen (notifyRuntimeEvent_issues role generation action state) (.tail _ (.head _))
  unfold relaySignal
  split
  · split
    · exact ⟨silent (.head _) rfl, fun _ =>
        (notifies _ _ _).bind fun _ => await_issues (.tail _ (.head _)) rfl⟩
    · exact await_issues (.tail _ (.head _)) rfl
  · exact ⟨silent (.head _) rfl, fun _ => (notifies _ _ _).bind fun _ => forwards _ _⟩
  · exact forwards _ _
  · exact ⟨silent (.head _) rfl, fun _ => (notifies _ _ _).bind fun _ => forwards _ _⟩

theorem relaySignals_issues (role : Role) (generation : Int) (mode : String) (ws budget : Nat) :
    (relaySignals codec sessionID role generation mode ws budget).Issues
      (HubOp.Among [.signal, .common] internalClosings) := by
  induction budget with
  | zero => trivial
  | succ budget ih =>
      refine ⟨silent (.tail _ (.head _)) rfl, ?_⟩
      rintro (- | payload)
      · trivial
      · change Issues _ (if _ then _ else _)
        split
        · exact issues_widen (refuse_issues _ _ (by decide)) (.tail _ (.head _))
        · cases codec.envelope payload with
          | none => exact ⟨silent (.tail _ (.head _)) rfl, fun _ => ih⟩
          | some envelope =>
              change Issues _ (if _ then _ else _)
              split
              · exact ⟨silent (.tail _ (.head _)) rfl, fun _ => ih⟩
              · exact (relaySignal_issues sessionID role generation ws envelope payload).bind
                  fun _ => ih

theorem serveSignals_issues (role : Role) (record : SessionRecord) (budget : Nat)
    (conn : Connection) (registration : Registration) :
    (serveSignals codec sessionID role record budget conn registration).Issues
      (HubOp.Among [.signal, .common] internalClosings) := by
  have common : Family.common ∈ [Family.signal, .common] := .tail _ (.head _)
  refine (issues_widen (supersede_issues (by decide) _) common).bind fun _ => ⟨silent common rfl, ?_⟩
  rintro (- | -)
  · exact issues_widen (refuse_issues _ _ (by decide)) common
  · refine ⟨silent common rfl, fun _ => (flushToSocket_issues _ _).bind fun _ => ?_⟩
    refine (relaySignals_issues codec sessionID _ _ _ _ _).bind fun _ => ⟨silent (.head _) rfl, ?_⟩
    rintro ⟨released, terminated⟩
    change Issues _ (if _ then _ else _)
    split
    · exact ⟨silent common rfl, fun _ => trivial⟩
    · trivial

theorem connectSignals_issues (role : Role) (budget ws : Nat) (first : Option Payload) :
    (connectSignals codec sessionID role budget ws first).Issues
      (HubOp.Among [.signal, .common] internalClosings) := by
  have common : Family.common ∈ [Family.signal, .common] := .tail _ (.head _)
  have refuses (message : String) {code : Nat} {reason : String}
      (listed : (code, reason) ∈ internalClosings) :=
    issues_widen (refuse_issues ws message listed) common
  unfold connectSignals
  cases readSignalRegisterMessage codec first with
  | error failure => exact refuses _ (by decide)
  | ok register =>
      change Issues _ (if _ then _ else _)
      split
      · exact refuses _ (by decide)
      · refine (issues_widen findSession_issues common).bind ?_
        rintro (- | record)
        · exact refuses _ (by decide)
        · change Issues _ (if _ then _ else _)
          split
          · exact refuses _ (by decide)
          · refine ⟨silent common rfl, fun id => ⟨silent (.head _) rfl, ?_⟩⟩
            rintro (- | registration)
            · exact refuses _ (by decide)
            · exact serveSignals_issues codec sessionID role record budget _ registration

theorem runSignalConnection_issues (role : Role) (budget : Nat) :
    (runSignalConnection codec sessionID role budget).Issues
      (HubOp.Among [.signal, .common] internalClosings) := by
  have common : Family.common ∈ [Family.signal, .common] := .tail _ (.head _)
  refine ⟨silent common rfl, fun ws => ⟨silent common rfl, fun first => ?_⟩⟩
  exact (connectSignals_issues codec sessionID role budget ws first).bind fun _ =>
    issues_widen (closeNow_issues ws) common

theorem relayMedia_issues (role : Role) (ws budget : Nat) :
    (relayMedia codec role ws budget).Issues (HubOp.Among [.media, .common] internalClosings) := by
  induction budget with
  | zero => trivial
  | succ budget ih =>
      refine ⟨silent (.tail _ (.head _)) rfl, ?_⟩
      rintro (- | payload)
      · trivial
      · change Issues _ (if _ then _ else _)
        split
        · exact issues_widen (refuse_issues _ _ (by decide)) (.tail _ (.head _))
        · change Issues _ (if _ then _ else _)
          split
          · exact (forwardMedia_issues _ _).bind fun _ => ih
          · exact ⟨silent (.tail _ (.head _)) rfl, fun _ => ih⟩

theorem connectMedia_issues (role : Role) (budget ws : Nat) (first : Option Payload) :
    (connectMedia codec sessionID role budget ws first).Issues
      (HubOp.Among [.media, .common] internalClosings) := by
  have common : Family.common ∈ [Family.media, .common] := .tail _ (.head _)
  have refuses (message : String) {code : Nat} {reason : String}
      (listed : (code, reason) ∈ internalClosings) :=
    issues_widen (refuse_issues ws message listed) common
  unfold connectMedia
  cases readSignalRegisterMessage codec first with
  | error failure => exact refuses _ (by decide)
  | ok register =>
      change Issues _ (if _ then _ else _)
      split
      · exact refuses _ (by decide)
      · refine (issues_widen findSession_issues common).bind ?_
        rintro (- | record)
        · exact refuses _ (by decide)
        · change Issues _ (if _ then _ else _)
          split
          · exact refuses _ (by decide)
          · refine ⟨silent common rfl, ?_⟩
            rintro (- | -)
            · change Issues _ (if _ then _ else _)
              split
              · exact refuses _ (by decide)
              · refine ⟨silent common rfl, fun id => ⟨silent (.head _) rfl, ?_⟩⟩
                rintro (- | registration)
                · exact refuses _ (by decide)
                · refine (issues_widen (supersede_issues (by decide) _) common).bind fun _ =>
                    ⟨silent common rfl, ?_⟩
                  refine fun _ => (flushFrames_issues _ _).bind ?_
                  refine fun _ => (relayMedia_issues codec _ _ _).bind ?_
                  exact fun _ => await_issues (.head _) rfl
            · exact refuses _ (by decide)

theorem runMediaRelayConnection_issues (role : Role) (budget : Nat) :
    (runMediaRelayConnection codec sessionID role budget).Issues
      (HubOp.Among [.media, .common] internalClosings) := by
  have common : Family.common ∈ [Family.media, .common] := .tail _ (.head _)
  refine ⟨silent common rfl, fun ws => ⟨silent common rfl, fun first => ?_⟩⟩
  exact (connectMedia_issues codec sessionID role budget ws first).bind fun _ =>
    issues_widen (closeNow_issues ws) common

theorem relayRequest_issues (request : RelayRequest) :
    (relayRequest request).Issues (HubOp.Among [.relay, .common] []) := by
  unfold relayRequest
  split
  · exact issues_widen (fail_issues _ _) (.tail _ (.head _))
  · exact ⟨silent (.head _) rfl, fun _ => await_issues (.tail _ (.head _)) rfl⟩

theorem handleWebRTCRelay_issues (request : RelayRequest) :
    (handleWebRTCRelay request).Issues (HubOp.Among [.relay, .common] []) := by
  have common : Family.common ∈ [Family.relay, .common] := .tail _ (.head _)
  have fails (status : Nat) (message : String) :
      (fail status message).Issues (HubOp.Among [.relay, .common] []) :=
    issues_widen (fail_issues status message) common
  refine (issues_widen getSessionWithOwner_issues common).bind ?_
  rintro (- | ⟨record, - | -⟩)
  · exact fails _ _
  · exact await_issues common rfl
  · change Issues _ (if _ then _ else _)
    split
    · exact fails _ _
    · cases validateGatewayWebRTCContract record.response with
      | error failure => exact fails _ _
      | ok _ =>
          change Issues _ (if _ then _ else _)
          split
          · exact fails _ _
          · split
            · exact fails _ _
            · refine ⟨silent common rfl, ?_⟩
              rintro (- | -)
              · refine ⟨silent (.head _) rfl, ?_⟩
                rintro (- | -)
                · exact fails _ _
                · exact relayRequest_issues request
              · exact fails _ _

/-- The reason that is given for a termination. -/
def terminationReason (body : String) : String :=
  if trimSpace body = "" then "session terminated" else trimSpace body

theorem closeRelaySession_issues {closings : List (Nat × String)} {reason : String}
    (listed : (1000, reason) ∈ closings) :
    (closeRelaySession sessionID reason).Issues (HubOp.Among [.terminate, .common] closings) := by
  have dismisses (connections : List Connection) :=
    issues_widen (dismiss_issues sessionID listed connections)
      (.tail _ (.head _) : Family.common ∈ [Family.terminate, .common])
  refine ⟨silent (.head _) rfl, ?_⟩
  rintro (- | -)
  · trivial
  · refine ⟨silent (.head _) rfl, fun signals => (dismisses signals).bind fun _ => ?_⟩
    refine ⟨silent (.head _) rfl, fun media => (dismisses media).bind fun _ => ?_⟩
    exact await_issues (.head _) rfl

theorem handleTerminateSession_issues (body : Option String) :
    (handleTerminateSession sessionID body).Issues
      (HubOp.Among [.terminate, .common]
        (body.toList.map fun body => (1000, terminationReason body))) := by
  have common : Family.common ∈ [Family.terminate, .common] := .tail _ (.head _)
  cases body with
  | none => exact issues_widen (fail_issues _ _) common
  | some body =>
      have listed : (1000, terminationReason body) ∈
          (some body).toList.map fun body => (1000, terminationReason body) := .head _
      have dismisses (connections : List Connection) :=
        issues_widen (dismiss_issues sessionID listed connections) common
      refine (issues_widen getSessionWithOwner_issues common).bind ?_
      rintro (- | ⟨record, - | -⟩)
      · exact issues_widen (fail_issues _ _) common
      · exact await_issues common rfl
      · refine ⟨silent (.head _) rfl, fun signals => (dismisses signals).bind fun _ =>
          ⟨silent (.head _) rfl, ?_⟩⟩
        refine fun media => (dismisses media).bind fun _ => ⟨silent (.head _) rfl, ?_⟩
        have deletes : (HubOp.await .deleteStoredSession >>= fun _ =>
            HubOp.await (.respond (.terminated (terminationReason body)))).Issues
              (HubOp.Among [.terminate, .common]
                ((some body).toList.map fun body => (1000, terminationReason body))) :=
          ⟨silent (.head _) rfl, fun _ => await_issues (.head _) rfl⟩
        rintro (- | -)
        · exact deletes
        · exact (closeRelaySession_issues sessionID listed).bind fun _ => deletes

end Issues

/-! ## A sample session -/

/-- Every payload is a registration with the token `t`, the viewer's if it is a single one, and an
envelope of type `data`. -/
def sampleCodec : Codec where
  readFailure := "EOF"
  register := fun payload =>
    .ok ⟨"register", if payload = [1] then "viewer" else "worker", "rbi-1", "t"⟩
  envelope := fun _ => some ⟨"data", ""⟩
  valid := fun _ => true

abbrev sampleHub : System := gatewayHub sampleCodec "rbi-1"

/-- A session whose media the gateway relays, with the token `t` for both roles. -/
def sampleRecord : SessionRecord :=
  let request := { plainRequest "rbi-1" "worker-a" with viewerToken := "t", workerToken := "t" }
  { request := request
    response := buildResponse plainPlatform defaultConfig request ⟨"entry_1", "bridge_1"⟩
    viewerEntryToken := "entry_1"
    createdAt := 0 }

/-- The gateway before anybody has come for the session. -/
def Hub.opening (session stored : Option SessionRecord) : Hub :=
  { session := session, stored := stored }

def sampleOpening : Hub := Hub.opening (some sampleRecord) none

/-- A socket or a request comes. -/
def comes (job : HubJob) : Action sampleHub := .start job

/-- A handler goes on so many times, without failures. -/
def advances (index count : Nat) : List (Action sampleHub) :=
  Action.resumes index count ({} : HubChoice)

/-- A handler reads a payload. -/
def reads (index : Nat) (payload : Payload) : Action sampleHub :=
  .resume index ({ payload := some payload } : HubChoice)

/-- What a handler has awaited fails. -/
def fails (index : Nat) : Action sampleHub := .resume index ({ succeeds := false } : HubChoice)

end RemoteBrowser.MediaGateway
