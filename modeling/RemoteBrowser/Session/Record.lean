import Mathlib.Logic.Function.Basic

/-!
# Session records

The stored session of the control plane (`buildSession` in `app/session-store.js`)
and the record updates that every store backend applies to it.  Each update is a
function of the record and of the time at which the backend performs it, so the
in-memory map, the Redis scripts and the control plane share one definition.

Fields that no modelled function reads (viewport scale, client labels, experiment
flags, TURN credentials, request context) are left out.  Objects that JavaScript
represents by `null` when they are empty are records of empty strings: every
reader normalises both to the empty string.
-/

namespace RemoteBrowser

abbrev SessionId := Nat
abbrev PoolWorkerId := Nat

/-- The two ends of a session. -/
inductive Role where
  | viewer
  | worker
  deriving DecidableEq

/-- A WebSocket of one control-plane instance, and equally the `socketOwner`
record that `buildSocketOwner` derives from it. -/
structure Connection where
  instanceId : Nat
  connectionId : Nat
  deriving DecidableEq

/-- The runtimes behind `workerRuntime.launch`. -/
inductive RuntimeKind where
  | docker
  | ecs
  | hostAgent
  | kubernetes
  deriving DecidableEq

inductive LaunchMode where
  | warmPool
  | runtime (kind : RuntimeKind)
  deriving DecidableEq

/-- The `session.worker` object: a pooled worker or the result of
`workerRuntime.launch`. -/
structure Worker where
  launchMode : LaunchMode
  workerId : Nat
  poolWorkerId : Option PoolWorkerId
  deriving DecidableEq

namespace Worker

/-- The worker object built from a pool record by `assignSessionWorker`. -/
def pooled (poolWorkerId : PoolWorkerId) : Worker :=
  ⟨.warmPool, poolWorkerId, some poolWorkerId⟩

/-- `worker?.launchMode === "warm-pool"`. -/
def IsWarmPool (worker : Option Worker) : Prop :=
  worker.map Worker.launchMode = some .warmPool

instance (worker : Option Worker) : Decidable (IsWarmPool worker) :=
  inferInstanceAs (Decidable (_ = _))

end Worker

/-! ## Tokens -/

/-- The JSON payload of a session token.  Viewer tokens carry no generation. -/
structure TokenPayload where
  role : Role
  sessionId : SessionId
  generation : Option Nat
  exp : Option Nat
  deriving DecidableEq

/-- A token string.  HMAC signatures are unforgeable, so a string either begins
with the serialization of a payload signed with the server's secret, possibly
followed by further dot-separated text that `verifyToken` ignores, or it does not. -/
inductive Token where
  | signed (payload : TokenPayload) (trailing : String)
  | unsigned (text : String)
  deriving DecidableEq

namespace Token

/-- The empty string, which stands for a missing token. -/
def empty : Token := .unsigned ""

/-- `signToken`. -/
def sign (payload : TokenPayload) : Token := .signed payload ""

end Token

/-! ## Placement -/

structure GatewayAssignment where
  gatewayId : String := ""
  publicWsURL : String := ""
  publicWsUrl : String := ""
  publicBaseURL : String := ""
  relayMode : String := ""
  deriving DecidableEq

structure WorkerAssignment where
  region : String := ""
  runtimeClass : String := ""
  deriving DecidableEq

structure SessionPlacement where
  gatewayAssignment : GatewayAssignment := {}
  workerAssignment : WorkerAssignment := {}
  deriving DecidableEq

structure MediaTermination where
  relayMode : String := ""
  mediaPlaneMode : String := ""
  deriving DecidableEq

structure GatewayTransport where
  mediaPlaneMode : String := ""
  protocol : String := ""
  mediaGatewayUrl : String := ""
  mediaTermination : MediaTermination := {}
  deriving DecidableEq

structure WorkerBridge where
  relayMode : String := ""
  mediaGatewayUrl : String := ""
  deriving DecidableEq

structure Viewport where
  width : Nat := 0
  height : Nat := 0
  deriving DecidableEq

/-! ## Sessions -/

/-- A session as the store keeps it.  `state` is a free string because
`worker-state` messages store theirs verbatim.  Generations start at 1 and only
grow. -/
structure Session where
  id : SessionId
  state : String := "allocating"
  generation : Nat := 1
  generationPos : 0 < generation := by decide
  createdAt : Nat
  updatedAt : Nat
  expiresAt : Nat
  viewerToken : Token := .empty
  workerToken : Token := .empty
  viewport : Viewport := {}
  sessionPlacement : SessionPlacement := {}
  transport : GatewayTransport := {}
  workerBridge : WorkerBridge := {}
  viewerConnectedAt : Option Nat := none
  viewerDisconnectedAt : Option Nat := none
  viewerDisconnectReason : Option String := none
  lastViewerAt : Option Nat := none
  terminatedAt : Option Nat := none
  worker : Option Worker := none
  viewerOwner : Option Connection := none
  workerOwner : Option Connection := none
  deriving DecidableEq

/-- The creation input that the model keeps. -/
structure SessionInput where
  viewport : Viewport := {}
  sessionPlacement : SessionPlacement := {}
  transport : GatewayTransport := {}
  workerBridge : WorkerBridge := {}
  deriving DecidableEq

/-- Fields that an `update` call may overwrite. -/
structure SessionPatch where
  viewerToken : Option Token := none
  workerToken : Option Token := none
  sessionPlacement : Option SessionPlacement := none
  transport : Option GatewayTransport := none
  workerBridge : Option WorkerBridge := none
  expiresAt : Option Nat := none
  terminatedAt : Option Nat := none
  deriving DecidableEq

/-- `buildSession`: a new session expires `sessionTtlMs` after its creation. -/
def buildSession (id : SessionId) (now sessionTtlMs : Nat) (input : SessionInput) :
    Session where
  id := id
  createdAt := now
  updatedAt := now
  expiresAt := now + sessionTtlMs
  viewport := input.viewport
  sessionPlacement := input.sessionPlacement
  transport := input.transport
  workerBridge := input.workerBridge

namespace Session

/-- `session.state === "terminated"`. -/
def Terminated (session : Session) : Prop := session.state = "terminated"

instance (session : Session) : Decidable session.Terminated :=
  inferInstanceAs (Decidable (_ = _))

/-- `session.generation || 1`. -/
def generationOrOne (session : Session) : Nat :=
  if session.generation = 0 then 1 else session.generation

@[simp] theorem generationOrOne_eq (session : Session) :
    session.generationOrOne = session.generation :=
  if_neg (Nat.pos_iff_ne_zero.mp session.generationPos)

/-- `session.socketOwners?.[role] || null`. -/
def socketOwner (session : Session) : Role → Option Connection
  | .viewer => session.viewerOwner
  | .worker => session.workerOwner

def setSocketOwner (session : Session) (role : Role) (owner : Option Connection) :
    Session :=
  match role with
  | .viewer => { session with viewerOwner := owner }
  | .worker => { session with workerOwner := owner }

/-- The stored token of a role, as `getStoredToken` reads it. -/
def storedToken (session : Session) : Role → Token
  | .viewer => session.viewerToken
  | .worker => session.workerToken

def update (now : Nat) (patch : SessionPatch) (session : Session) : Session :=
  { session with
    viewerToken := patch.viewerToken.getD session.viewerToken
    workerToken := patch.workerToken.getD session.workerToken
    sessionPlacement := patch.sessionPlacement.getD session.sessionPlacement
    transport := patch.transport.getD session.transport
    workerBridge := patch.workerBridge.getD session.workerBridge
    expiresAt := patch.expiresAt.getD session.expiresAt
    terminatedAt := patch.terminatedAt.or session.terminatedAt
    updatedAt := now }

def markViewerSeen (now : Nat) (session : Session) : Session :=
  { session with
    lastViewerAt := some now
    viewerDisconnectedAt := none
    viewerDisconnectReason := none
    updatedAt := now }

def markViewerConnected (now : Nat) (session : Session) : Session :=
  { session with
    viewerConnectedAt := session.viewerConnectedAt.or (some now)
    lastViewerAt := some now
    viewerDisconnectedAt := none
    viewerDisconnectReason := none
    updatedAt := now }

def markViewerDisconnected (now : Nat) (reason : String) (session : Session) : Session :=
  let text := if reason = "" then "viewer disconnected" else reason
  { session with
    viewerDisconnectedAt := some now
    viewerDisconnectReason := some (String.ofList (text.toList.take 160))
    updatedAt := now }

def setState (now : Nat) (state : String) (session : Session) : Session :=
  { session with
    state := state
    terminatedAt := if state = "terminated" then some now else session.terminatedAt
    updatedAt := now }

def setWorker (now : Nat) (worker : Option Worker) (session : Session) : Session :=
  { session with worker := worker, updatedAt := now }

def incrementGeneration (now : Nat) (session : Session) : Session :=
  { session with
    generation := session.generationOrOne + 1
    generationPos := Nat.succ_pos _
    updatedAt := now }

def claimSocketOwnership (now : Nat) (role : Role) (owner : Connection)
    (session : Session) : Session :=
  { session.setSocketOwner role (some owner) with updatedAt := now }

/-- Clearing an owner record; the caller has compared it with the releasing socket. -/
def releaseSocketOwnership (now : Nat) (role : Role) (session : Session) : Session :=
  { session.setSocketOwner role none with updatedAt := now }

/-- `shouldIdleTerminate` on a loaded session.  A timestamp of `0` is falsy. -/
def shouldIdleTerminate (now idleTimeoutMs : Nat) (session : Session) : Bool :=
  let reference := match session.viewerDisconnectedAt with
    | some (time + 1) => some (time + 1)
    | _ => session.lastViewerAt
  match reference with
  | some time => decide (idleTimeoutMs < now - time)
  | none => false

@[simp] theorem setSocketOwner_state (session : Session) (role : Role)
    (owner : Option Connection) : (session.setSocketOwner role owner).state = session.state := by
  cases role <;> rfl

@[simp] theorem setSocketOwner_id (session : Session) (role : Role)
    (owner : Option Connection) : (session.setSocketOwner role owner).id = session.id := by
  cases role <;> rfl

@[simp] theorem setSocketOwner_worker (session : Session) (role : Role)
    (owner : Option Connection) :
    (session.setSocketOwner role owner).worker = session.worker := by
  cases role <;> rfl

@[simp] theorem setSocketOwner_expiresAt (session : Session) (role : Role)
    (owner : Option Connection) :
    (session.setSocketOwner role owner).expiresAt = session.expiresAt := by
  cases role <;> rfl

@[simp] theorem setSocketOwner_generation (session : Session) (role : Role)
    (owner : Option Connection) :
    (session.setSocketOwner role owner).generation = session.generation := by
  cases role <;> rfl

@[simp] theorem setSocketOwner_workerToken (session : Session) (role : Role)
    (owner : Option Connection) :
    (session.setSocketOwner role owner).workerToken = session.workerToken := by
  cases role <;> rfl

end Session

end RemoteBrowser
