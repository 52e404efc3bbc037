import RemoteBrowser.ControlPlane.State

/-!
# Handlers of the control plane

The asynchronous functions of `app/server.js`, from the helpers that several
handlers share to the listeners, routes and timers themselves.  Every `await` of
the source is one operation; a `throw` that a listener catches becomes the notice
it sends, and a route returns its HTTP error.

A socket's closure variables are read again after every await, as the source
does.  `instanceId` is the instance that runs a handler; a socket's connection
names its own.
-/

namespace RemoteBrowser

open Async

abbrev Handler := Program controlPlane.face

/-- Await an operation. -/
def await (op : Op) : Handler op.Reply := @Program.call controlPlane.face op

/-- Await a session-store call. -/
def store (op : SessionOp) : Handler op.Reply := await (.session op)

/-- Await a pool-store call. -/
def pool (op : PoolOp) : Handler op.Reply := await (.pool op)

/-- A synchronous stretch of code. -/
def sync (op : SyncOp) : Handler op.Reply := await (.sync op)

/-- An await without effect on the modelled state. -/
def pause : Handler Unit := await .pause

/-- A session mutation whose result the source ignores. -/
def mutate (id : SessionId) (mutation : SessionMutation) : Handler Unit := do
  let _ ← store (.mutate id mutation)
  return ()

/-- `if (condition) await action`. -/
def onlyIf (condition : Prop) [Decidable condition] (action : Handler Unit) :
    Handler Unit :=
  if condition then action else pure ()

/-- An error response. -/
structure HttpError where
  status : Nat
  message : String
  deriving DecidableEq

/-! ## Placement of a session -/

namespace Session

/-- `usesGatewaySignaling`. -/
def usesGatewaySignaling (session : Session) : Bool :=
  let assignment := session.sessionPlacement.gatewayAssignment
  assignment.gatewayId ≠ "" || assignment.publicWsURL ≠ "" || assignment.publicWsUrl ≠ ""

/-- `isGatewayMediaRelaySession`. -/
def isGatewayMediaRelaySession (session : Session) : Bool :=
  session.sessionPlacement.gatewayAssignment.relayMode = "gateway-media-relay" ||
    session.workerBridge.relayMode = "gateway-media-relay" ||
    session.transport.mediaTermination.relayMode = "gateway-media-relay"

/-- `isGatewayWebRtcReady`. -/
def isGatewayWebRtcReady (session : Session) : Bool :=
  session.transport.mediaPlaneMode = "gateway-webrtc-relay" &&
    session.transport.protocol = "webrtc-srtp" &&
    session.transport.mediaGatewayUrl ≠ "" &&
    session.workerBridge.mediaGatewayUrl ≠ ""

/-- `shouldDeferWorkerLaunch`. -/
def shouldDeferWorkerLaunch (session : Session) : Bool :=
  session.isGatewayMediaRelaySession && !session.isGatewayWebRtcReady

/-- `resolveSessionMediaMode`: the first of four values that is set. -/
def resolveSessionMediaMode (session : Session) : String :=
  if session.transport.mediaPlaneMode ≠ "" then session.transport.mediaPlaneMode
  else if session.transport.mediaTermination.mediaPlaneMode ≠ "" then
    session.transport.mediaTermination.mediaPlaneMode
  else if session.workerBridge.relayMode ≠ "" then session.workerBridge.relayMode
  else session.sessionPlacement.gatewayAssignment.relayMode

/-- `buildSessionAssignmentPayload`. -/
def assignmentPayload (session : Session) : Assignment :=
  ⟨session.id, session.generationOrOne, session.workerToken, session.viewerToken⟩

end Session

namespace Settings

/-- `buildDisplayClass`: a missing dimension is that of the configuration. -/
def buildDisplayClass (settings : Settings) (viewport : Viewport) : String :=
  let width := if viewport.width = 0 then settings.displayWidth else viewport.width
  let height := if viewport.height = 0 then settings.displayHeight else viewport.height
  toString width ++ "x" ++ toString height

/-- `buildWarmPoolWorkerFilters`. -/
def buildWarmPoolWorkerFilters (settings : Settings) (session : Session) :
    WorkerTraits where
  region := session.sessionPlacement.workerAssignment.region
  runtimeClass := session.sessionPlacement.workerAssignment.runtimeClass
  mediaMode := session.resolveSessionMediaMode
  imageDigest := settings.workerImageDigest
  displayClass := settings.buildDisplayClass session.viewport

end Settings

/-- `clampViewportDimension`. -/
def clampViewportDimension (raw : Option Nat) (fallback minimum maximum : Nat) : Nat :=
  match raw with
  | none => fallback
  | some value => max minimum (min maximum value)

/-! ## Signals -/

/-- `isCurrentSessionSocketOwner`. -/
def isCurrentSessionSocketOwner (id : SessionId) (role : Role) (connection : Connection) :
    Handler Bool := do
  let owner ← store (.getSocketOwner id role)
  return owner = some connection

/-- Store a signal and announce it on the bus. -/
def queueSignal (id : SessionId) (role : Role) (payload : Signal) : Handler Unit := do
  store (.addPendingSignal id role payload)
  pause

def sendSignal (instanceId : Nat) (id : SessionId) (role : Role) (payload : Signal) :
    Handler Unit := do
  match ← sync (.openSocket instanceId id role) with
  | none => queueSignal id role payload
  | some target =>
      if ← isCurrentSessionSocketOwner id role target then
        sync (.sendSignal target id role payload)
      else
        queueSignal id role payload

/-- Of the payloads that could not be sent only the first is put back. -/
def flushSignals (instanceId : Nat) (id : SessionId) (role : Role) : Handler Unit := do
  match ← sync (.openSocket instanceId id role) with
  | none => return ()
  | some target =>
      if ← isCurrentSessionSocketOwner id role target then
        let payloads ← store (.drainPendingSignals id role)
        match ← sync (.sendSignals target id role payloads) with
        | [] => return ()
        | payload :: _ => queueSignal id role payload
      else
        return ()

/-! ## Pool assignments -/

/-- `isCurrentPoolSocketOwner`. -/
def isCurrentPoolSocketOwner (workerId : PoolWorkerId) (connection : Connection) :
    Handler Bool := do
  let owner ← pool (.getSocketOwner workerId)
  return owner = some connection

/-- The local pool socket of a worker is open and its current owner. -/
def hasLocalOwnerSocket (instanceId : Nat) (workerId : PoolWorkerId) : Handler Bool := do
  match ← sync (.openPoolSocket instanceId workerId) with
  | some poolSocket => isCurrentPoolSocketOwner workerId poolSocket
  | none => return false

/-- Put back all remaining assignments and announce them on the bus. -/
def requeueAssignments (workerId : PoolWorkerId) (payloads : List Assignment) :
    Handler Unit := do
  Program.forEach payloads fun payload => pool (.addPendingAssignment workerId payload)
  pause

/-- The loop of `flushPoolAssignments`. -/
def deliverAssignments (workerId : PoolWorkerId) (target : Connection) :
    List Assignment → Handler Unit
  | [] => return ()
  | payload :: rest => do
      if ← sync (.isOpen target) then
        if ← isCurrentPoolSocketOwner workerId target then
          sync (.sendAssignment target workerId payload)
          deliverAssignments workerId target rest
        else
          requeueAssignments workerId (payload :: rest)
      else
        requeueAssignments workerId (payload :: rest)

def flushPoolAssignments (instanceId : Nat) (workerId : PoolWorkerId) : Handler Unit := do
  match ← sync (.openPoolSocket instanceId workerId) with
  | none => return ()
  | some target =>
      if ← isCurrentPoolSocketOwner workerId target then
        let payloads ← pool (.drainPendingAssignments workerId)
        deliverAssignments workerId target payloads
      else
        return ()

/-! ## Termination -/

/-- `notifyGatewaySessionTermination`; its failures are only logged. -/
def notifyGatewaySessionTermination (settings : Settings) (session : Session) :
    Handler Unit :=
  onlyIf (session.sessionPlacement.gatewayAssignment.publicBaseURL ≠ "" ∧
      settings.rbiInternalSharedSecret ≠ "")
    (await (.notifyGateway session.id))

/-- What `terminateSession` does once it holds the lock. -/
def finishTermination (settings : Settings) (instanceId : Nat) (session : Session)
    (reason : String) : Handler Unit := do
  mutate session.id (.setState "terminated")
  onlyIf (session.usesGatewaySignaling = true)
    (notifyGatewaySessionTermination settings session)
  sendSignal instanceId session.id .viewer (.sessionTerminated reason)
  sendSignal instanceId session.id .worker (.sessionTerminated reason)
  sync (.dismissSockets instanceId session.id)
  onlyIf (¬Worker.IsWarmPool session.worker)
    (await (.stop session.worker))

/-- `terminateSession` of a session object that the caller holds. -/
def terminateSession (settings : Settings) (instanceId : Nat) (session : Session)
    (reason : String) : Handler Unit :=
  if session.Terminated then pure ()
  else do
    if ← store (.acquireTerminationLock session.id 30000) then
      finishTermination settings instanceId session reason
    else
      return ()

/-- `terminateSession` of a session identifier. -/
def terminateSessionById (settings : Settings) (instanceId : Nat) (id : SessionId)
    (reason : String) : Handler Unit := do
  match ← store (.get id) with
  | none => return ()
  | some session => terminateSession settings instanceId session reason

/-! ## Disconnects -/

/-- `markViewerDisconnectedAndSchedule` with `scheduleViewerIdleTimeout`. -/
def markViewerDisconnectedAndSchedule (settings : Settings) (instanceId : Nat)
    (id : SessionId) (reason : String) : Handler Unit := do
  match ← store (.get id) with
  | none => return ()
  | some session =>
      if session.Terminated then return ()
      else
        mutate id (.markViewerDisconnected reason)
        mutate id (.setState "idle")
        sync (.setDisconnectTimer instanceId id .viewer settings.store.idleTimeoutMs
          .viewerIdle)

/-- `scheduleWorkerDisconnectTermination`. -/
def scheduleWorkerDisconnectTermination (instanceId : Nat) (id : SessionId)
    (generation : Option Nat) : Handler Unit :=
  sync (.setDisconnectTimer instanceId id .worker 3000 (.workerDisconnect generation))

/-- The callbacks of the disconnect timers. -/
def runDisconnectTimer (settings : Settings) (instanceId : Nat) (id : SessionId) :
    TimerTask → Handler Unit
  | .viewerIdle => do
      match ← store (.get id) with
      | none => return ()
      | some current =>
          let now ← sync .now
          if ← store (.shouldIdleTerminate id now) then
            terminateSession settings instanceId current "viewer idle timeout"
          else
            return ()
  | .workerDisconnect generation => do
      match ← store (.get id) with
      | none => return ()
      | some current =>
          if current.Terminated then return ()
          else if generation ≠ none ∧ generation ≠ some current.generation then return ()
          else
            match ← sync (.openSocket instanceId id .worker) with
            | some _ => return ()
            | none => terminateSession settings instanceId current "worker disconnected"

/-! ## Worker assignment -/

/-- The loop of `allocateWarmWorker`.  A worker without a socket owner is
unregistered and the search continues; an empty pool is polled until `deadline`. -/
def allocateWarmWorkerLoop (settings : Settings) (instanceId : Nat) (session : Session)
    (deadline : Nat) : Nat → Handler (Option PoolWorker)
  | 0 => .stalled
  | rounds + 1 => do
      match ← pool (.allocateWorkerWithAssignment session.id session.assignmentPayload
          (settings.buildWarmPoolWorkerFilters session)) with
      | some worker =>
          if ← hasLocalOwnerSocket instanceId worker.workerId then return some worker
          else
            match ← pool (.getSocketOwner worker.workerId) with
            | some _ => return some worker
            | none =>
                pool (.unregisterWorker worker.workerId)
                allocateWarmWorkerLoop settings instanceId session deadline rounds
      | none =>
          let now ← sync .now
          if settings.warmPoolEnabled = false ∨ deadline ≤ now then return none
          else
            pause
            allocateWarmWorkerLoop settings instanceId session deadline rounds

def allocateWarmWorker (settings : Settings) (instanceId : Nat) (session : Session) :
    Handler (Option PoolWorker) := do
  let now ← sync .now
  allocateWarmWorkerLoop settings instanceId session
    (now + settings.warmPoolAllocationWaitMs) settings.allocationRounds

/-- The pooled worker of a session, if the warm pool is enabled and has one. -/
def pooledWorker (settings : Settings) (instanceId : Nat) (session : Session) :
    Handler (Option PoolWorker) :=
  if settings.warmPoolEnabled then allocateWarmWorker settings instanceId session
  else pure none

/-- `workerRuntime.launch` and the `setWorker` that follows it. -/
def launchWorker (session : Session) : Handler (Except String Worker) := do
  match ← await (.launch session) with
  | .error message => return .error message
  | .ok worker =>
      mutate session.id (.setWorker (some worker))
      return .ok worker

/-- `assignSessionWorker`; an error is that of the launch. -/
def assignSessionWorker (settings : Settings) (instanceId : Nat) (session : Session) :
    Handler (Except String Worker) := do
  match ← pooledWorker settings instanceId session with
  | some record =>
      pause
      mutate session.id (.setWorker (some (.pooled record.workerId)))
      return .ok (.pooled record.workerId)
  | none => launchWorker session

/-- The replacement that `fallbackWarmPoolSession` launches. -/
def replaceWarmWorker (settings : Settings) (instanceId : Nat) (id : SessionId) :
    Handler Unit := do
  match ← store (.mutate id .incrementGeneration) with
  | none => return ()
  | some nextGeneration =>
      let workerToken := makeWorkerToken id nextGeneration.expiresAt
        nextGeneration.generationOrOne
      match ← store (.mutate id (.update { workerToken := some workerToken })) with
      | none => return ()
      | some replacementSession =>
          mutate id (.setState "allocating")
          sendSignal instanceId id .viewer
            (.workerState "allocating" "warm-pool fallback")
          match ← launchWorker replacementSession with
          | .ok _ => return ()
          | .error _ =>
              terminateSessionById settings instanceId id
                "worker launch failed after warm-pool fallback"

def fallbackWarmPoolSession (settings : Settings) (instanceId : Nat) (id : SessionId)
    (poolWorkerId : PoolWorkerId) : Handler Unit := do
  match ← store (.get id) with
  | none => return ()
  | some session =>
      if session.Terminated then return ()
      else if session.state ≠ "allocating" then return ()
      else if ¬Worker.IsWarmPool session.worker ∨
          (session.worker.bind Worker.poolWorkerId) ≠ some poolWorkerId then return ()
      else
        match ← sync (.openSocket instanceId id .worker) with
        | some _ => return ()
        | none => replaceWarmWorker settings instanceId id

/-! ## Creation and internal routes -/

/-- The request body of a session creation. -/
structure SessionBody where
  viewportWidth : Option Nat := none
  viewportHeight : Option Nat := none
  sessionPlacement : SessionPlacement := {}
  transport : GatewayTransport := {}
  workerBridge : WorkerBridge := {}
  deriving DecidableEq

/-- The creation input that `createRemoteSession` builds from its body. -/
def SessionBody.input (settings : Settings) (body : SessionBody) : SessionInput where
  viewport :=
    { width := clampViewportDimension body.viewportWidth settings.displayWidth 640
        settings.displayWidth
      height := clampViewportDimension body.viewportHeight settings.displayHeight 480
        settings.displayHeight }
  sessionPlacement := body.sessionPlacement
  transport := body.transport
  workerBridge := body.workerBridge

/-- The tokens that `createRemoteSession` issues for a new session. -/
def Session.tokenPatch (session : Session) : SessionPatch :=
  { viewerToken := some (makeViewerToken session.id session.expiresAt)
    workerToken :=
      some (makeWorkerToken session.id session.expiresAt session.generationOrOne) }

/-- The session object of `createRemoteSession` once the tokens are assigned. -/
def Session.withTokens (session : Session) : Session :=
  { session with
    viewerToken := makeViewerToken session.id session.expiresAt
    workerToken := makeWorkerToken session.id session.expiresAt session.generationOrOne }

/-- The single-session mode of `createRemoteSession`. -/
def terminateOtherSessions (settings : Settings) (instanceId : Nat) : Handler Unit := do
  let sessions ← store (.listSessions 500)
  Program.forEach sessions fun existing =>
    terminateSession settings instanceId existing
      "replaced by new session in single-session mode"

def createRemoteSession (settings : Settings) (instanceId : Nat) (body : SessionBody) :
    Handler (Except HttpError SessionId) := do
  onlyIf (settings.singleActiveSessionMode = true)
    (terminateOtherSessions settings instanceId)
  let created ← await (.createSession (body.input settings))
  mutate created.id (.update created.tokenPatch)
  if created.shouldDeferWorkerLaunch then return .ok created.id
  else
    match ← assignSessionWorker settings instanceId created.withTokens with
    | .ok _ => return .ok created.id
    | .error message =>
        store (.remove created.id)
        return .error ⟨500, message⟩

/-- The actions of an internal session event. -/
inductive InternalAction where
  | viewerConnected
  | viewerSeen
  | viewerDisconnected
  | workerReady
  | workerState
  | workerDisconnected
  | mediaTerminated
  | unsupported
  deriving DecidableEq

structure InternalEvent where
  action : InternalAction
  state : String := ""
  reason : String := ""
  generation : Option Nat := none
  deriving DecidableEq

/-- The state and generation that an internal event reports back. -/
structure EventReport where
  state : String
  generation : Nat
  deriving DecidableEq

/-- The `switch` of `applyInternalSessionEvent`. -/
def dispatchInternalEvent (settings : Settings) (instanceId : Nat) (session : Session)
    (id : SessionId) (event : InternalEvent) : Handler (Except HttpError Unit) := do
  match event.action with
  | .viewerConnected =>
      sync (.clearDisconnectTimer instanceId id .viewer)
      mutate id .markViewerConnected
      return .ok ()
  | .viewerSeen =>
      mutate id .markViewerSeen
      return .ok ()
  | .viewerDisconnected =>
      markViewerDisconnectedAndSchedule settings instanceId id "gateway viewer disconnected"
      return .ok ()
  | .workerReady =>
      sync (.clearDisconnectTimer instanceId id .worker)
      mutate id (.setState "ready")
      return .ok ()
  | .workerState =>
      if event.state = "" then return .error ⟨400, "worker-state requires state"⟩
      else
        mutate id (.setState event.state)
        return .ok ()
  | .workerDisconnected =>
      scheduleWorkerDisconnectTermination instanceId id event.generation
      return .ok ()
  | .mediaTerminated =>
      terminateSession settings instanceId session
        (if event.reason = "" then "gateway media terminated" else event.reason)
      return .ok ()
  | .unsupported => return .error ⟨400, "Unsupported internal session event"⟩

def applyInternalSessionEvent (settings : Settings) (instanceId : Nat) (id : SessionId)
    (event : InternalEvent) : Handler (Except HttpError EventReport) := do
  match ← store (.get id) with
  | none => return .error ⟨404, "Session not found"⟩
  | some session =>
      if session.Terminated then return .ok ⟨"terminated", session.generationOrOne⟩
      else
        match ← dispatchInternalEvent settings instanceId session id event with
        | .error failure => return .error failure
        | .ok () =>
            let updated ← store (.get id)
            return .ok ⟨(updated.getD session).state, (updated.getD session).generationOrOne⟩

/-- The body of an internal session update. -/
structure InternalUpdate where
  sessionPlacement : Option SessionPlacement := none
  transport : Option GatewayTransport := none
  workerBridge : Option WorkerBridge := none
  deriving DecidableEq

def InternalUpdate.patch (update : InternalUpdate) : SessionPatch :=
  { sessionPlacement := update.sessionPlacement
    transport := update.transport
    workerBridge := update.workerBridge }

def applyInternalSessionUpdate (settings : Settings) (instanceId : Nat) (id : SessionId)
    (update : InternalUpdate) : Handler (Except HttpError Session) := do
  match ← store (.get id) with
  | none => return .error ⟨404, "Session not found"⟩
  | some _ =>
      if update = {} then
        return .error ⟨400, "No internal session update fields provided"⟩
      else
        match ← store (.mutate id (.update update.patch)) with
        | none => return .error ⟨404, "Session not found"⟩
        | some updated =>
            if updated.worker = none ∧ ¬updated.Terminated ∧
                updated.shouldDeferWorkerLaunch = false then
              match ← assignSessionWorker settings instanceId updated with
              | .ok _ =>
                  let current ← store (.get id)
                  return .ok (current.getD updated)
              | .error message =>
                  terminateSession settings instanceId updated
                    "worker launch failed after gateway transport update"
                  return .error ⟨500, message⟩
            else
              return .ok updated

/-! ## Viewer routes -/

/-- `validateViewerAccess` on a loaded session. -/
def validateViewerAccess (now : Nat) (token : Token) (session : Option Session) :
    Except HttpError Session :=
  match session with
  | none => .error ⟨404, "Session not found"⟩
  | some session =>
      if session.Terminated then .error ⟨410, "Session is terminated"⟩
      else if session.expiresAt < now then .error ⟨410, "Session has expired"⟩
      else
        match verifySessionToken now token session .viewer with
        | .error message => .error ⟨401, message⟩
        | .ok _ => .ok session

/-- `sessionStore.get` followed by `validateViewerAccess`. -/
def authorizeViewer (id : SessionId) (token : Token) :
    Handler (Except HttpError Session) := do
  let session ← store (.get id)
  let now ← sync .now
  return validateViewerAccess now token session

/-- `DELETE /api/sessions/:id`. -/
def deleteSession (settings : Settings) (instanceId : Nat) (id : SessionId)
    (token : Token) : Handler (Except HttpError Unit) := do
  match ← authorizeViewer id token with
  | .error failure => return .error failure
  | .ok session =>
      terminateSession settings instanceId session "viewer ended session"
      return .ok ()

/-- `POST /api/sessions/:id/viewer-events`; an empty reason is a report that is no
disconnect.  The body and the telemetry append are awaited in between. -/
def postViewerEvents (settings : Settings) (instanceId : Nat) (id : SessionId)
    (token : Token) (disconnectReason : String) : Handler (Except HttpError Unit) := do
  match ← authorizeViewer id token with
  | .error failure => return .error failure
  | .ok _ =>
      pause
      pause
      if disconnectReason ≠ "" then
        markViewerDisconnectedAndSchedule settings instanceId id disconnectReason
        return .ok ()
      else
        mutate id .markViewerSeen
        return .ok ()

/-- `GET /api/sessions/:id`. -/
def getSession (id : SessionId) (token : Token) : Handler (Except HttpError Session) := do
  match ← authorizeViewer id token with
  | .error failure => return .error failure
  | .ok session =>
      mutate id .markViewerSeen
      return .ok session

/-! ## WebSocket messages -/

/-- A parsed WebSocket message.  `traits` are its own worker properties,
`metadata` those of its metadata object. -/
inductive Message where
  | poolRegister (secret : String) (workerId : Option PoolWorkerId)
      (traits metadata : WorkerTraits) (display : Viewport)
  | register (role : Role) (sessionId : SessionId) (token : Token)
  | heartbeat (metadata : WorkerTraits)
  | poolState (state : String) (lastSessionId sessionId : Option SessionId)
      (traits metadata : WorkerTraits)
  | workerState (state reason : String)
  | other (text : String)
  deriving DecidableEq

/-- The message as it is relayed to the other end. -/
def Message.signal : Message → Signal
  | .workerState state reason => .workerState state reason
  | .other text => .relayed text
  | .poolState state _ _ _ _ => .relayed state
  | _ => .relayed ""

/-- The catch clause of the message listener. -/
def failWith (connection : Connection) (message : String) : Handler Unit :=
  sync (.sendNotice connection (.error message))

/-- The checks of `pool-register` that precede its first await. -/
def validatePoolRegistration (settings : Settings) (path : SocketPath) (secret : String)
    (workerId : Option PoolWorkerId) : Except String PoolWorkerId :=
  if path.isPoolRegistrationPath = false then
    .error "Pool worker registration is not allowed on this WebSocket path"
  else if settings.warmPoolEnabled = false then .error "Warm pool is not enabled"
  else if settings.poolWorkerSecret ≠ "" ∧ secret ≠ settings.poolWorkerSecret then
    .error "Invalid pool worker registration"
  else
    match workerId with
    | none => .error "Pool worker registration requires workerId"
    | some workerId => .ok workerId

/-- The traits of `normalizePoolWorkerRegistration`. -/
def registrationTraits (settings : Settings) (traits metadata : WorkerTraits)
    (display : Viewport) : WorkerTraits :=
  (traits.orElse metadata).orElse { displayClass := settings.buildDisplayClass display }

/-- The `pool-register` message. -/
def handlePoolRegister (settings : Settings) (connection : Connection) (secret : String)
    (workerId : Option PoolWorkerId) (traits metadata : WorkerTraits)
    (display : Viewport) : Handler Unit := do
  match ← sync (.upgradeRequest connection) with
  | none => return ()
  | some (path, _) =>
      match validatePoolRegistration settings path secret workerId with
      | .error message => failWith connection message
      | .ok workerId =>
          sync (.registerPoolWorker connection workerId)
          let _ ← pool (.registerWorker workerId
            (registrationTraits settings traits metadata display) connection)
          sync (.adoptPoolSocket connection workerId)
          sync (.sendNotice connection (.poolRegistered workerId))
          flushPoolAssignments connection.instanceId workerId

/-- The path checks of `register`. -/
def validateRegistrationPath (path : SocketPath) (role : Role) (sessionId : SessionId) :
    Except String Unit :=
  match path.gatewaySignalRoute with
  | some (routeSessionId, routeRole) =>
      if role ≠ routeRole then .error "Socket role does not match gateway signaling path"
      else if sessionId ≠ routeSessionId then
        .error "Socket sessionId does not match gateway signaling path"
      else .ok ()
  | none =>
      if role = .viewer ∧ path ≠ .viewer then
        .error "Viewer registration is not allowed on this WebSocket path"
      else if role = .worker ∧ path ≠ .worker then
        .error "Worker registration is not allowed on this WebSocket path"
      else .ok ()

/-- The token of a registration: a viewer without one uses its cookie. -/
def registrationToken (cookies : List (SessionId × Token)) (role : Role)
    (sessionId : SessionId) (token : Token) : Token :=
  if role = .viewer ∧ token = .empty then (cookies.lookup sessionId).getD .empty else token

/-- The checks of `register` between the session lookup and the claim. -/
def validateRegistration (now : Nat) (path : SocketPath)
    (cookies : List (SessionId × Token)) (role : Role) (sessionId : SessionId)
    (token : Token) (session : Option Session) : Except String Session :=
  match session with
  | none => .error "Session not found"
  | some session =>
      if session.Terminated then .error "Session is terminated"
      else if session.expiresAt < now then .error "Session has expired"
      else if session.usesGatewaySignaling ∧ path.gatewaySignalRoute = none then
        .error "Session requires gateway signaling"
      else if session.usesGatewaySignaling = false ∧ path.gatewaySignalRoute ≠ none then
        .error "Session does not support gateway signaling"
      else
        match verifySessionToken now (registrationToken cookies role sessionId token)
            session role with
        | .error message => .error message
        | .ok _ => .ok session

/-- The store write of an accepted registration. -/
def recordRegistration (role : Role) (sessionId : SessionId) : Handler Unit :=
  match role with
  | .worker => mutate sessionId (.setState "ready")
  | .viewer => mutate sessionId .markViewerConnected

/-- What `register` does once the token is accepted. -/
def acceptRegistration (connection : Connection) (role : Role) (sessionId : SessionId)
    (session : Session) : Handler Unit := do
  sync (.registerSession connection ⟨sessionId, role, session.generationOrOne⟩)
  mutate sessionId (.claimSocketOwnership role connection)
  sync (.adoptSocket connection sessionId role)
  recordRegistration role sessionId
  sync (.sendNotice connection (.registered role))
  flushSignals connection.instanceId sessionId role

/-- The `register` message. -/
def handleRegister (connection : Connection) (role : Role) (sessionId : SessionId)
    (token : Token) : Handler Unit := do
  match ← sync (.upgradeRequest connection) with
  | none => return ()
  | some (path, cookies) =>
      match validateRegistrationPath path role sessionId with
      | .error message => failWith connection message
      | .ok () =>
          let stored ← store (.get sessionId)
          let now ← sync .now
          match validateRegistration now path cookies role sessionId token stored with
          | .error message => failWith connection message
          | .ok session => acceptRegistration connection role sessionId session

/-- The viewer's part of a heartbeat. -/
def heartbeatViewer (connection : Connection) : Handler Unit := do
  let registration ← sync (.registration connection)
  match registration.session with
  | some ⟨sessionId, .viewer, _⟩ => mutate sessionId .markViewerSeen
  | _ => return ()

/-- The pool worker's part of a heartbeat. -/
def heartbeatPoolWorker (connection : Connection) (metadata : WorkerTraits) :
    Handler Unit := do
  let registration ← sync (.registration connection)
  match registration.poolWorkerId with
  | none => return ()
  | some workerId =>
      let _ ← pool (.heartbeatWorker workerId metadata)
      return ()

/-- The `heartbeat` message. -/
def handleHeartbeat (connection : Connection) (metadata : WorkerTraits) :
    Handler Unit := do
  heartbeatViewer connection
  heartbeatPoolWorker connection metadata
  sync (.sendNotice connection .heartbeatAck)

/-- The `worker-state` message: the session is loaded for its generation only. -/
def handleWorkerState (connection : Connection) (state reason : String) :
    Handler Unit := do
  let registration ← sync (.registration connection)
  match registration.session with
  | none => return ()
  | some ⟨sessionId, _, _⟩ =>
      let session ← store (.get sessionId)
      let registration ← sync (.registration connection)
      match registration.session, session with
      | some ⟨sessionId, role, generation⟩, some session =>
          if role = .worker ∧ session.generation ≠ generation then return ()
          else
            mutate sessionId (.setState state)
            let registration ← sync (.registration connection)
            match registration.session with
            | none => return ()
            | some ⟨sessionId, _, _⟩ =>
                sendSignal connection.instanceId sessionId .viewer
                  (.workerState state reason)
      | _, _ => return ()

/-- A message relayed by a viewer. -/
def relayFromViewer (connection : Connection) (sessionId : SessionId) (payload : Signal) :
    Handler Unit := do
  mutate sessionId .markViewerSeen
  let registration ← sync (.registration connection)
  match registration.session with
  | some ⟨sessionId, .viewer, _⟩ =>
      sendSignal connection.instanceId sessionId .worker payload
  | some ⟨sessionId, .worker, generation⟩ =>
      match ← store (.get sessionId) with
      | none => return ()
      | some session =>
          if session.generation ≠ generation then return ()
          else sendSignal connection.instanceId sessionId .worker payload
  | none => return ()

/-- A message relayed by a worker of the current generation. -/
def relayFromWorker (connection : Connection) (sessionId : SessionId) (payload : Signal) :
    Handler Unit := do
  let session ← store (.get sessionId)
  let registration ← sync (.registration connection)
  match registration.session, session with
  | some ⟨sessionId, _, generation⟩, some session =>
      if session.generation ≠ generation then return ()
      else sendSignal connection.instanceId sessionId .viewer payload
  | _, _ => return ()

/-- All other messages of a registered session socket. -/
def relayMessage (connection : Connection) (payload : Signal) : Handler Unit := do
  let registration ← sync (.registration connection)
  match registration.session with
  | none => return ()
  | some ⟨sessionId, .viewer, _⟩ => relayFromViewer connection sessionId payload
  | some ⟨sessionId, .worker, _⟩ => relayFromWorker connection sessionId payload

/-- Messages that need a registered session socket which still owns its role. -/
def handleSessionMessage (connection : Connection) (message : Message) :
    Handler Unit := do
  let registration ← sync (.registration connection)
  match registration.session with
  | none => failWith connection "Socket not registered"
  | some ⟨sessionId, role, _⟩ =>
      if ← isCurrentSessionSocketOwner sessionId role connection then
        match message with
        | .workerState state reason => handleWorkerState connection state reason
        | _ => relayMessage connection message.signal
      else
        sync (.closeSocket connection)

/-- The `pool-state` message of a registered pool worker. -/
def handlePoolState (settings : Settings) (connection : Connection)
    (workerId : PoolWorkerId) (state : String)
    (lastSessionId sessionId : Option SessionId) (traits : WorkerTraits) :
    Handler Unit := do
  if state = "idle" then
    let _ ← pool (.markWorkerIdle workerId traits)
    match lastSessionId with
    | none => return ()
    | some lastSessionId =>
        let registration ← sync (.registration connection)
        fallbackWarmPoolSession settings connection.instanceId lastSessionId
          (registration.poolWorkerId.getD workerId)
  else
    let _ ← pool (.markWorkerBusy workerId state sessionId traits)
    return ()

/-- Messages after the stale-socket check. -/
def handleCurrentMessage (settings : Settings) (connection : Connection)
    (message : Message) : Handler Unit := do
  match message with
  | .heartbeat metadata => handleHeartbeat connection metadata
  | .poolState state lastSessionId sessionId traits metadata =>
      let registration ← sync (.registration connection)
      match registration.poolWorkerId with
      | some workerId =>
          handlePoolState settings connection workerId state lastSessionId sessionId
            (traits.orElse metadata)
      | none => handleSessionMessage connection message
  | _ => handleSessionMessage connection message

/-- The `message` listener of a socket. -/
def onMessage (settings : Settings) (connection : Connection) (message : Message) :
    Handler Unit := do
  match message with
  | .poolRegister secret workerId traits metadata display =>
      handlePoolRegister settings connection secret workerId traits metadata display
  | .register role sessionId token => handleRegister connection role sessionId token
  | _ =>
      let registration ← sync (.registration connection)
      match registration.poolWorkerId with
      | none => handleCurrentMessage settings connection message
      | some workerId =>
          if ← isCurrentPoolSocketOwner workerId connection then
            handleCurrentMessage settings connection message
          else
            sync (.closeSocket connection)

/-! ## WebSocket closes -/

/-- The close of a pool worker's socket. -/
def closePoolSocket (settings : Settings) (connection : Connection)
    (workerId : PoolWorkerId) : Handler Unit := do
  sync (.clearLocalPoolSocket connection workerId)
  if ← pool (.releaseSocketOwnership workerId connection) then
    let worker ← pool (.getWorker workerId)
    pool (.unregisterWorker workerId)
    match worker.bind PoolWorker.sessionId with
    | none => return ()
    | some sessionId =>
        fallbackWarmPoolSession settings connection.instanceId sessionId workerId
  else
    return ()

/-- The close of a session socket. -/
def closeSessionSocket (settings : Settings) (connection : Connection) (binding : Binding) :
    Handler Unit := do
  sync (.clearLocalSocket connection binding.sessionId binding.role)
  if ← store (.releaseSocketOwnership binding.sessionId binding.role connection) then
    match ← store (.get binding.sessionId) with
    | none => return ()
    | some _ =>
        match binding.role with
        | .viewer =>
            markViewerDisconnectedAndSchedule settings connection.instanceId
              binding.sessionId "viewer websocket closed"
        | .worker =>
            scheduleWorkerDisconnectTermination connection.instanceId binding.sessionId
              (some binding.generation)
  else
    return ()

/-- The `close` listener of a socket. -/
def onClose (settings : Settings) (connection : Connection) : Handler Unit := do
  if ← sync (.closeEvent connection) then
    let registration ← sync (.registration connection)
    match registration.poolWorkerId, registration.session with
    | some workerId, _ => closePoolSocket settings connection workerId
    | none, some binding => closeSessionSocket settings connection binding
    | none, none => return ()
  else
    return ()

/-! ## Timers -/

/-- A disconnect timer of an instance. -/
def onDisconnectTimer (settings : Settings) (instanceId : Nat) (id : SessionId)
    (role : Role) : Handler Unit := do
  match ← sync (.fireDisconnectTimer instanceId id role) with
  | none => return ()
  | some task => runDisconnectTimer settings instanceId id task

/-- `tombstoneGcTimer`. -/
def tombstoneGcTimer : Handler Unit := do
  let now ← sync .now
  let terminated ← store (.listTerminated 60000 now)
  Program.forEach terminated fun session => store (.remove session.id)

/-- The first half of `expiryTimer`. -/
def terminateExpired (settings : Settings) (instanceId now : Nat) : Handler Unit := do
  let expired ← store (.listExpired now)
  Program.forEach expired fun session =>
    terminateSession settings instanceId session "session expired"

/-- The second half of `expiryTimer`. -/
def terminateUnviewed (settings : Settings) (instanceId now : Nat) : Handler Unit := do
  let sessions ← store (.listSessions 500)
  Program.forEach sessions fun session =>
    onlyIf (¬session.Terminated ∧ session.viewerConnectedAt = none ∧
        session.createdAt + settings.viewerConnectTimeoutMs ≤ now)
      (terminateSession settings instanceId session "viewer never connected")

/-- `expiryTimer`. -/
def expiryTimer (settings : Settings) (instanceId : Nat) : Handler Unit := do
  let now ← sync .now
  terminateExpired settings instanceId now
  onlyIf (0 < settings.viewerConnectTimeoutMs) (terminateUnviewed settings instanceId now)

/-- One round of the loop of `reapIdleSessions`. -/
def reapIdleSession (settings : Settings) (instanceId now : Nat) (session : Session) :
    Handler Unit :=
  if session.Terminated then pure ()
  else do
    if ← store (.shouldIdleTerminate session.id now) then
      terminateSession settings instanceId session "viewer idle timeout"
    else
      return ()

def reapIdleSessions (settings : Settings) (instanceId : Nat) : Handler Unit := do
  let now ← sync .now
  let sessions ← store (.listSessions 500)
  Program.forEach sessions (reapIdleSession settings instanceId now)

/-! ## The system -/

/-- Everything that can start on the control plane: socket events, messages,
requests, timers, bus notifications, and what the environment does to sockets and
time. -/
inductive Job where
  | connect (connection : Connection) (path : SocketPath)
      (cookies : List (SessionId × Token))
  | message (connection : Connection) (message : Message)
  | peerClosing (connection : Connection)
  | close (connection : Connection)
  | elapse (ms : Nat)
  | disconnectTimer (instanceId : Nat) (id : SessionId) (role : Role)
  | createSession (instanceId : Nat) (body : SessionBody)
  | internalEvent (instanceId : Nat) (id : SessionId) (event : InternalEvent)
  | internalUpdate (instanceId : Nat) (id : SessionId) (update : InternalUpdate)
  | deleteSession (instanceId : Nat) (id : SessionId) (token : Token)
  | viewerEvents (instanceId : Nat) (id : SessionId) (token : Token)
      (disconnectReason : String)
  | getSession (instanceId : Nat) (id : SessionId) (token : Token)
  | sendSignal (instanceId : Nat) (id : SessionId) (role : Role) (payload : Signal)
  | flushSignals (instanceId : Nat) (id : SessionId) (role : Role)
  | flushPoolAssignments (instanceId : Nat) (workerId : PoolWorkerId)
  | assignSessionWorker (instanceId : Nat) (session : Session)
  | fallbackWarmPoolSession (instanceId : Nat) (id : SessionId) (workerId : PoolWorkerId)
  | terminateSession (instanceId : Nat) (id : SessionId) (reason : String)
  | tombstoneGc (instanceId : Nat)
  | expiry (instanceId : Nat)
  | reapIdle (instanceId : Nat)
  deriving DecidableEq

/-- The handler of a job; responses are not part of the shared state. -/
def Job.body (settings : Settings) : Job → Handler Unit
  | .connect connection path cookies => sync (.accept connection path cookies)
  | .message connection received => onMessage settings connection received
  | .peerClosing connection => sync (.peerClosing connection)
  | .close connection => onClose settings connection
  | .elapse ms => sync (.elapse ms)
  | .disconnectTimer instanceId id role => onDisconnectTimer settings instanceId id role
  | .createSession instanceId body => do
      let _ ← createRemoteSession settings instanceId body
      return ()
  | .internalEvent instanceId id event => do
      let _ ← applyInternalSessionEvent settings instanceId id event
      return ()
  | .internalUpdate instanceId id update => do
      let _ ← applyInternalSessionUpdate settings instanceId id update
      return ()
  | .deleteSession instanceId id token => do
      let _ ← RemoteBrowser.deleteSession settings instanceId id token
      return ()
  | .viewerEvents instanceId id token disconnectReason => do
      let _ ← postViewerEvents settings instanceId id token disconnectReason
      return ()
  | .getSession _ id token => do
      let _ ← RemoteBrowser.getSession id token
      return ()
  | .sendSignal instanceId id role payload =>
      RemoteBrowser.sendSignal instanceId id role payload
  | .flushSignals instanceId id role => RemoteBrowser.flushSignals instanceId id role
  | .flushPoolAssignments instanceId workerId =>
      RemoteBrowser.flushPoolAssignments instanceId workerId
  | .assignSessionWorker instanceId session => do
      let _ ← RemoteBrowser.assignSessionWorker settings instanceId session
      return ()
  | .fallbackWarmPoolSession instanceId id workerId =>
      RemoteBrowser.fallbackWarmPoolSession settings instanceId id workerId
  | .terminateSession instanceId id reason =>
      terminateSessionById settings instanceId id reason
  | .tombstoneGc _ => tombstoneGcTimer
  | .expiry instanceId => expiryTimer settings instanceId
  | .reapIdle instanceId => reapIdleSessions settings instanceId

/-- All interleavings of the handlers of all instances. -/
@[reducible] def controlPlane (settings : Settings) : System where
  face := controlPlane.face
  State := State
  Choice := LaunchOutcome
  Job := Job
  exec := State.exec settings
  body := Job.body settings
  canStart := fun _ _ => true

namespace controlPlane

/-- Sessions of one second without a warm pool, for concrete runs. -/
def plainSettings : Settings := { store := ⟨1000, 500⟩ }

/-- The same with a warm pool. -/
def pooledSettings : Settings := { plainSettings with warmPoolEnabled := true }

/-- Resume a handler several times; launches succeed. -/
def run {settings : Settings} (index count : Nat) : List (Action (controlPlane settings)) :=
  Action.resumes index count .succeeds

/-- Pool worker 7 registers, and a new session is assigned to it. -/
def assignPooledWorker : List (Action (controlPlane pooledSettings)) :=
  .start (.connect ⟨0, 1⟩ .worker []) :: run 0 1 ++
    .start (.message ⟨0, 1⟩ (.poolRegister "" (some 7) {} {} {})) :: run 1 8 ++
    .start (.createSession 0 {}) :: run 2 8

end controlPlane

end RemoteBrowser
