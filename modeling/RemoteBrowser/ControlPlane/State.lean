import RemoteBrowser.Async.System
import RemoteBrowser.Pool.Store
import RemoteBrowser.Session.Store
import RemoteBrowser.Session.Token

/-!
# State and operations of the control plane

Any number of control-plane instances (`app/server.js`) share the Redis session
store and the Redis pool store.  Each instance keeps its own maps of sockets and
timers; each WebSocket has the closure variables of its `connection` listener.

What a handler does between two awaits is one operation on this state.  Calls of
a store, of `workerRuntime` and of the gateway are awaits; the operations of
`SyncOp` are the stretches of synchronous code between them.  Notifications on
the two buses carry no data and can arrive at any time on any instance, so they
have no state.
-/

namespace RemoteBrowser

/-! ## Configuration -/

/-- The values of `config` that the modelled code reads.  `allocationRounds`
bounds the unrolling of the loop in `allocateWarmWorker`. -/
structure Settings where
  store : SessionStoreConfig
  warmPoolEnabled : Bool := false
  warmPoolAllocationWaitMs : Nat := 0
  workerPoolLeaseTtlMs : Nat := 45000
  poolWorkerSecret : String := ""
  workerImageDigest : String := ""
  displayWidth : Nat := 1280
  displayHeight : Nat := 720
  singleActiveSessionMode : Bool := false
  viewerConnectTimeoutMs : Nat := 0
  rbiInternalSharedSecret : String := ""
  runtimeKind : RuntimeKind := .docker
  allocationRounds : Nat := 1
  deriving DecidableEq

/-! ## Sockets and timers -/

/-- The path of a WebSocket upgrade.  Pool workers may register on `/ws/worker`
and on the path of `poolWsUrl`. -/
inductive SocketPath where
  | viewer
  | worker
  | pool
  | gateway (sessionId : SessionId) (role : Role)
  deriving DecidableEq

/-- `isPoolRegistrationPath`. -/
def SocketPath.isPoolRegistrationPath : SocketPath → Bool
  | .worker => true
  | .pool => true
  | _ => false

/-- `parseGatewaySignalingPath`. -/
def SocketPath.gatewaySignalRoute : SocketPath → Option (SessionId × Role)
  | .gateway sessionId role => some (sessionId, role)
  | _ => none

/-- `registeredSessionId`, `registeredRole` and `registeredGeneration`, which are
assigned together. -/
structure Binding where
  sessionId : SessionId
  role : Role
  generation : Nat
  deriving DecidableEq

/-- The closure variables of a `connection` listener. -/
structure Registration where
  session : Option Binding := none
  poolWorkerId : Option PoolWorkerId := none
  deriving DecidableEq

/-- A WebSocket: its upgrade request, whether it is `OPEN`, whether its `close`
event was delivered, and its closure variables. -/
structure Socket where
  path : SocketPath
  cookies : List (SessionId × Token)
  isOpen : Bool := true
  closed : Bool := false
  registration : Registration := {}
  deriving DecidableEq

/-- The callback of a disconnect timer. -/
inductive TimerTask where
  | viewerIdle
  | workerDisconnect (generation : Option Nat)
  deriving DecidableEq

structure Timer where
  task : TimerTask
  dueAt : Nat
  fired : Bool := false
  deriving DecidableEq

/-- Messages that the control plane itself sends on a socket. -/
inductive Notice where
  | registered (role : Role)
  | poolRegistered (workerId : PoolWorkerId)
  | heartbeatAck
  | error (message : String)
  deriving DecidableEq

/-- What was sent on a socket: a signal for one end of a session, an assignment
for a pool worker, or a notice. -/
inductive Sent where
  | signal (connection : Connection) (sessionId : SessionId) (role : Role)
      (payload : Signal)
  | assignment (connection : Connection) (workerId : PoolWorkerId) (payload : Assignment)
  | notice (connection : Connection) (notice : Notice)
  deriving DecidableEq

/-! ## State -/

/-- The stores, the sockets and timers of all instances, and what was done
outside: workers launched and stopped, messages sent. -/
structure State where
  clock : Nat
  store : RedisSessionStore
  pool : RedisWorkerPool
  nextSessionId : SessionId
  nextWorkerId : Nat
  sockets : Connection → Option Socket
  localSockets : Nat → SessionId → Role → Option Connection
  localPoolSockets : Nat → PoolWorkerId → Option Connection
  timers : Nat → SessionId → Role → Option Timer
  launched : List (SessionId × Worker)
  stopped : List (Option Worker)
  sent : List Sent

namespace State

def initial : State where
  clock := 0
  store := .empty
  pool := .empty
  nextSessionId := 0
  nextWorkerId := 0
  sockets := fun _ => none
  localSockets := fun _ _ _ => none
  localPoolSockets := fun _ _ => none
  timers := fun _ _ _ => none
  launched := []
  stopped := []
  sent := []

/-- The stored session, as `sessionStore.get` would read it now. -/
def stored (state : State) (id : SessionId) : Option Session :=
  state.store.loadSession state.clock id

/-- The pool record of a worker, as `workerPoolStore.getWorker` would read it now. -/
def poolWorker (state : State) (workerId : PoolWorkerId) : Option PoolWorker :=
  state.pool.loadWorker state.clock workerId

/-- `ws.readyState === WebSocket.OPEN`. -/
def isOpen (state : State) (connection : Connection) : Bool :=
  (state.sockets connection).any Socket.isOpen

def modifySocket (state : State) (connection : Connection) (change : Socket → Socket) :
    State :=
  { state with
    sockets := Function.update state.sockets connection
      ((state.sockets connection).map change) }

/-- `closeSocket`: the socket leaves `OPEN` at once. -/
def closeSocket (state : State) (connection : Connection) : State :=
  state.modifySocket connection fun socket => { socket with isOpen := false }

def setLocalSocket (state : State) (instanceId : Nat) (id : SessionId) (role : Role)
    (connection : Option Connection) : State :=
  { state with
    localSockets := Function.update state.localSockets instanceId
      (Function.update (state.localSockets instanceId) id
        (Function.update (state.localSockets instanceId id) role connection)) }

def setLocalPoolSocket (state : State) (instanceId : Nat) (workerId : PoolWorkerId)
    (connection : Option Connection) : State :=
  { state with
    localPoolSockets := Function.update state.localPoolSockets instanceId
      (Function.update (state.localPoolSockets instanceId) workerId connection) }

def setTimer (state : State) (instanceId : Nat) (id : SessionId) (role : Role)
    (timer : Option Timer) : State :=
  { state with
    timers := Function.update state.timers instanceId
      (Function.update (state.timers instanceId) id
        (Function.update (state.timers instanceId id) role timer)) }

/-- `clearLocalSocket(sessionId, role, ws)`: only this socket's own entry. -/
def clearLocalSocket (state : State) (id : SessionId) (role : Role)
    (connection : Connection) : State :=
  if state.localSockets connection.instanceId id role = some connection then
    state.setLocalSocket connection.instanceId id role none
  else state

def clearLocalPoolSocket (state : State) (workerId : PoolWorkerId)
    (connection : Connection) : State :=
  if state.localPoolSockets connection.instanceId workerId = some connection then
    state.setLocalPoolSocket connection.instanceId workerId none
  else state

/-- Close the local socket of one end of a session and forget it. -/
def dismissLocalSocket (state : State) (instanceId : Nat) (id : SessionId) (role : Role) :
    State :=
  match state.localSockets instanceId id role with
  | none => state
  | some connection => (state.closeSocket connection).setLocalSocket instanceId id role none

/-- `ws.send`: a socket that is no longer open drops the message. -/
def send (state : State) (connection : Connection) (message : Sent) : State :=
  if state.isOpen connection then { state with sent := state.sent ++ [message] } else state

end State

/-! ## Operations -/

/-- Synchronous stretches of handler code. -/
inductive SyncOp where
  /-- `Date.now()` -/
  | now
  /-- the `upgrade` and `connection` events of a new socket -/
  | accept (connection : Connection) (path : SocketPath)
      (cookies : List (SessionId × Token))
  /-- the upgrade request of a socket -/
  | upgradeRequest (connection : Connection)
  | registration (connection : Connection)
  | isOpen (connection : Connection)
  /-- the local socket of one end of a session, if it is open -/
  | openSocket (instanceId : Nat) (id : SessionId) (role : Role)
  | openPoolSocket (instanceId : Nat) (workerId : PoolWorkerId)
  | registerSession (connection : Connection) (binding : Binding)
  | registerPoolWorker (connection : Connection) (workerId : PoolWorkerId)
  /-- `clearDisconnectTimer` and `setLocalSocket` of a registered socket -/
  | adoptSocket (connection : Connection) (id : SessionId) (role : Role)
  /-- `setLocalPoolSocket`, which closes the socket it replaces -/
  | adoptPoolSocket (connection : Connection) (workerId : PoolWorkerId)
  | clearLocalSocket (connection : Connection) (id : SessionId) (role : Role)
  | clearLocalPoolSocket (connection : Connection) (workerId : PoolWorkerId)
  | closeSocket (connection : Connection)
  /-- the end of `terminateSession`: both local sockets are closed and cleared -/
  | dismissSockets (instanceId : Nat) (id : SessionId)
  | sendSignal (connection : Connection) (id : SessionId) (role : Role) (payload : Signal)
  /-- the loop of `flushSignals`: send in order while the socket is open -/
  | sendSignals (connection : Connection) (id : SessionId) (role : Role)
      (payloads : List Signal)
  | sendAssignment (connection : Connection) (workerId : PoolWorkerId)
      (payload : Assignment)
  | sendNotice (connection : Connection) (notice : Notice)
  | setDisconnectTimer (instanceId : Nat) (id : SessionId) (role : Role) (delayMs : Nat)
      (task : TimerTask)
  | clearDisconnectTimer (instanceId : Nat) (id : SessionId) (role : Role)
  /-- a disconnect timer that is due and was neither cleared nor replaced fires -/
  | fireDisconnectTimer (instanceId : Nat) (id : SessionId) (role : Role)
  /-- the `close` event of a socket; it is delivered once, after the socket left `OPEN` -/
  | closeEvent (connection : Connection)
  /-- the peer begins to close the socket -/
  | peerClosing (connection : Connection)
  /-- time passes -/
  | elapse (ms : Nat)
  deriving DecidableEq

@[reducible] def SyncOp.Reply : SyncOp → Type
  | .now => Nat
  | .upgradeRequest _ => Option (SocketPath × List (SessionId × Token))
  | .registration _ => Registration
  | .isOpen _ => Bool
  | .openSocket _ _ _ => Option Connection
  | .openPoolSocket _ _ => Option Connection
  | .sendSignals _ _ _ _ => List Signal
  | .fireDisconnectTimer _ _ _ => Option TimerTask
  | .closeEvent _ => Bool
  | _ => Unit

/-- Everything a handler can await. -/
inductive Op where
  /-- `sessionStore.createSession` with a new random identifier -/
  | createSession (input : SessionInput)
  | session (op : SessionOp)
  | pool (op : PoolOp)
  | sync (op : SyncOp)
  /-- `workerRuntime.launch` -/
  | launch (session : Session)
  /-- `workerRuntime.stop`, where it succeeds: a timer's `stop` that fails is in `Reaping` -/
  | stop (worker : Option Worker)
  /-- the terminate request to the session's gateway -/
  | notifyGateway (id : SessionId)
  /-- a notification on the signal or pool bus, a timeout, or another await
  without effect on the modelled state -/
  | pause
  deriving DecidableEq

@[reducible] def Op.Reply : Op → Type
  | .createSession _ => Session
  | .session op => op.Reply
  | .pool op => op.Reply
  | .sync op => op.Reply
  | .launch _ => Except String Worker
  | .stop _ => Unit
  | .notifyGateway _ => Unit
  | .pause => Unit

abbrev controlPlane.face : Async.Interface := ⟨Op, Op.Reply⟩

/-- Whether `workerRuntime.launch` succeeds; no other operation leaves a choice. -/
inductive LaunchOutcome where
  | succeeds
  | fails (message : String)
  deriving DecidableEq

namespace State

/-- A due timer fires once; clearing or replacing it prevents that. -/
def fireDisconnectTimer (state : State) (instanceId : Nat) (id : SessionId) (role : Role) :
    State × Option TimerTask :=
  match state.timers instanceId id role with
  | none => (state, none)
  | some timer =>
      if timer.fired ∨ state.clock < timer.dueAt then (state, none)
      else
        (state.setTimer instanceId id role (some { timer with fired := true }),
          some timer.task)

/-- The effect of a synchronous stretch. -/
@[grind =] def execSync : (op : SyncOp) → State → State × op.Reply
  | .now, state => (state, state.clock)
  | .accept connection path cookies, state =>
      match state.sockets connection with
      | some _ => (state, ())
      | none =>
          ({ state with
              sockets := Function.update state.sockets connection
                (some { path := path, cookies := cookies }) }, ())
  | .upgradeRequest connection, state =>
      (state, (state.sockets connection).map fun socket => (socket.path, socket.cookies))
  | .registration connection, state =>
      (state, ((state.sockets connection).map Socket.registration).getD {})
  | .isOpen connection, state => (state, state.isOpen connection)
  | .openSocket instanceId id role, state =>
      (state, (state.localSockets instanceId id role).filter state.isOpen)
  | .openPoolSocket instanceId workerId, state =>
      (state, (state.localPoolSockets instanceId workerId).filter state.isOpen)
  | .registerSession connection binding, state =>
      (state.modifySocket connection fun socket =>
        { socket with registration := { socket.registration with session := some binding } },
        ())
  | .registerPoolWorker connection workerId, state =>
      (state.modifySocket connection fun socket =>
        { socket with
          registration := { socket.registration with poolWorkerId := some workerId } }, ())
  | .adoptSocket connection id role, state =>
      ((state.setTimer connection.instanceId id role none).setLocalSocket
        connection.instanceId id role (some connection), ())
  | .adoptPoolSocket connection workerId, state =>
      let replaced := match state.localPoolSockets connection.instanceId workerId with
        | some existing => if existing = connection then state else state.closeSocket existing
        | none => state
      (replaced.setLocalPoolSocket connection.instanceId workerId (some connection), ())
  | .clearLocalSocket connection id role, state =>
      (state.clearLocalSocket id role connection, ())
  | .clearLocalPoolSocket connection workerId, state =>
      (state.clearLocalPoolSocket workerId connection, ())
  | .closeSocket connection, state => (state.closeSocket connection, ())
  | .dismissSockets instanceId id, state =>
      ((state.dismissLocalSocket instanceId id .viewer).dismissLocalSocket instanceId id
        .worker, ())
  | .sendSignal connection id role payload, state =>
      (state.send connection (.signal connection id role payload), ())
  | .sendSignals connection id role payloads, state =>
      if state.isOpen connection then
        ({ state with
            sent := state.sent ++ payloads.map (Sent.signal connection id role) }, [])
      else (state, payloads)
  | .sendAssignment connection workerId payload, state =>
      (state.send connection (.assignment connection workerId payload), ())
  | .sendNotice connection notice, state =>
      (state.send connection (.notice connection notice), ())
  | .setDisconnectTimer instanceId id role delayMs task, state =>
      (state.setTimer instanceId id role
        (some { task := task, dueAt := state.clock + delayMs }), ())
  | .clearDisconnectTimer instanceId id role, state =>
      (state.setTimer instanceId id role none, ())
  | .fireDisconnectTimer instanceId id role, state =>
      state.fireDisconnectTimer instanceId id role
  | .closeEvent connection, state =>
      match state.sockets connection with
      | none => (state, false)
      | some socket =>
          if socket.isOpen ∨ socket.closed then (state, false)
          else (state.modifySocket connection fun socket =>
            { socket with closed := true }, true)
  | .peerClosing connection, state => (state.closeSocket connection, ())
  | .elapse ms, state => ({ state with clock := state.clock + ms }, ())

/-- `workerRuntime.launch`: a new worker of the configured runtime. -/
def launch (settings : Settings) (outcome : LaunchOutcome) (session : Session)
    (state : State) : State × Except String Worker :=
  match outcome with
  | .fails message => (state, .error message)
  | .succeeds =>
      let worker : Worker := ⟨.runtime settings.runtimeKind, state.nextWorkerId, none⟩
      ({ state with
          nextWorkerId := state.nextWorkerId + 1
          launched := state.launched ++ [(session.id, worker)] }, .ok worker)

/-- The effect of one operation and its reply. -/
@[grind =] def exec (settings : Settings) (outcome : LaunchOutcome) :
    (op : Op) → State → State × op.Reply
  | .createSession input, state =>
      let result := state.store.createSession settings.store state.clock
        state.nextSessionId input
      ({ state with store := result.1, nextSessionId := state.nextSessionId + 1 }, result.2)
  | .session op, state =>
      let result := RedisSessionStore.exec settings.store state.clock op state.store
      ({ state with store := result.1 }, result.2)
  | .pool op, state =>
      let result := RedisWorkerPool.exec settings.workerPoolLeaseTtlMs state.clock op
        state.pool
      ({ state with pool := result.1 }, result.2)
  | .sync op, state => execSync op state
  | .launch session, state => state.launch settings outcome session
  | .stop worker, state => ({ state with stopped := state.stopped ++ [worker] }, ())
  | .notifyGateway _, state => (state, ())
  | .pause, state => (state, ())

end State

end RemoteBrowser
