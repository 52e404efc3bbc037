import RemoteBrowser.Redis.Keyspace
import RemoteBrowser.Session.Record

/-!
# The warm pool of workers

The Redis scripts of `app/worker-pool-store.js`.  A pool worker has a record
under its own expiring key, a place in the sorted set of idle workers (by the
time of its last change) while its state is `idle`, and a list of assignments
that wait for its socket.

Record fields that no script or handler reads (mode, task, metadata), and the
expiry of the assignment lists, are left out.  A missing trait is the empty
string.
-/

namespace RemoteBrowser

open Redis

/-- The five properties by which a session selects a pooled worker. -/
structure WorkerTraits where
  region : String := ""
  runtimeClass : String := ""
  mediaMode : String := ""
  imageDigest : String := ""
  displayClass : String := ""
  deriving DecidableEq

namespace WorkerTraits

/-- Field by field, the first value that is not empty. -/
def orElse (first second : WorkerTraits) : WorkerTraits where
  region := if first.region = "" then second.region else first.region
  runtimeClass :=
    if first.runtimeClass = "" then second.runtimeClass else first.runtimeClass
  mediaMode := if first.mediaMode = "" then second.mediaMode else first.mediaMode
  imageDigest := if first.imageDigest = "" then second.imageDigest else first.imageDigest
  displayClass :=
    if first.displayClass = "" then second.displayClass else first.displayClass

/-- `matches_filter` for one trait: an empty filter accepts everything. -/
def matchesFilter (got want : String) : Bool := want = "" || got = want

/-- All five calls of `matches_filter`. -/
def matchesFilters (traits filters : WorkerTraits) : Bool :=
  matchesFilter traits.region filters.region &&
    matchesFilter traits.runtimeClass filters.runtimeClass &&
    matchesFilter traits.mediaMode filters.mediaMode &&
    matchesFilter traits.imageDigest filters.imageDigest &&
    matchesFilter traits.displayClass filters.displayClass

end WorkerTraits

/-- A pool worker's record. -/
structure PoolWorker where
  workerId : PoolWorkerId
  state : String
  traits : WorkerTraits
  connectedAt : Nat
  updatedAt : Nat
  lastHeartbeatAt : Nat
  expiresAt : Option Nat
  sessionId : Option SessionId
  socketOwner : Option Connection
  deriving DecidableEq

/-- `buildSessionAssignmentPayload`, the part that identifies the assignment. -/
structure Assignment where
  sessionId : SessionId
  generation : Nat
  workerToken : Token
  viewerToken : Token
  deriving DecidableEq

/-! ## Operations -/

inductive PoolOp where
  | registerWorker (workerId : PoolWorkerId) (traits : WorkerTraits) (owner : Connection)
  | getWorker (workerId : PoolWorkerId)
  | allocateWorkerWithAssignment (sessionId : SessionId) (payload : Assignment)
      (filters : WorkerTraits)
  | markWorkerIdle (workerId : PoolWorkerId) (traits : WorkerTraits)
  | markWorkerBusy (workerId : PoolWorkerId) (state : String)
      (sessionId : Option SessionId) (traits : WorkerTraits)
  | heartbeatWorker (workerId : PoolWorkerId) (traits : WorkerTraits)
  | getSocketOwner (workerId : PoolWorkerId)
  | releaseSocketOwnership (workerId : PoolWorkerId) (owner : Connection)
  | unregisterWorker (workerId : PoolWorkerId)
  | addPendingAssignment (workerId : PoolWorkerId) (payload : Assignment)
  | drainPendingAssignments (workerId : PoolWorkerId)
  deriving DecidableEq

@[reducible] def PoolOp.Reply : PoolOp → Type
  | .registerWorker _ _ _ => PoolWorker
  | .getWorker _ => Option PoolWorker
  | .allocateWorkerWithAssignment _ _ _ => Option PoolWorker
  | .markWorkerIdle _ _ => Option PoolWorker
  | .markWorkerBusy _ _ _ _ => Option PoolWorker
  | .heartbeatWorker _ _ => Option PoolWorker
  | .getSocketOwner _ => Option Connection
  | .releaseSocketOwnership _ _ => Bool
  | .unregisterWorker _ => Unit
  | .addPendingAssignment _ _ => Unit
  | .drainPendingAssignments _ => List Assignment

/-- The keys that `RedisWorkerPoolStoreImpl` owns. -/
structure RedisWorkerPool where
  workers : PoolWorkerId → Option (Entry PoolWorker)
  workersIndex : PoolWorkerId → Bool
  idleIndex : SortedSet PoolWorkerId
  pendingAssignments : PoolWorkerId → List Assignment

namespace RedisWorkerPool

def empty : RedisWorkerPool := ⟨fun _ => none, fun _ => false, .empty, fun _ => []⟩

/-- `#loadWorker`. -/
def loadWorker (now : Nat) (pool : RedisWorkerPool) (workerId : PoolWorkerId) :
    Option PoolWorker :=
  Entry.read now (pool.workers workerId)

/-- `SET` and `PEXPIREAT` of a record. -/
def writeWorker (now : Nat) (pool : RedisWorkerPool) (workerId : PoolWorkerId)
    (worker : PoolWorker) (expiry : Nat) : RedisWorkerPool :=
  { pool with workers := Function.update pool.workers workerId (Entry.save now worker expiry) }

/-- `DEL` of a record and `SREM` from the index of all workers. -/
def dropWorker (pool : RedisWorkerPool) (workerId : PoolWorkerId) : RedisWorkerPool :=
  { pool with
    workers := Function.update pool.workers workerId none
    workersIndex := Function.update pool.workersIndex workerId false }

/-- `SAVE_WORKER_CHANGES`: an expired record is deleted, an idle one is indexed. -/
def saveWorkerChanges (now fallbackExpiresAt : Nat) (pool : RedisWorkerPool)
    (worker : PoolWorker) : RedisWorkerPool × PoolWorker :=
  let expiry := worker.expiresAt.getD fallbackExpiresAt
  let worker := { worker with expiresAt := some expiry }
  if expiry ≤ now then
    ({ pool.dropWorker worker.workerId with
        idleIndex := pool.idleIndex.remove worker.workerId }, worker)
  else
    ({ pool.writeWorker now worker.workerId worker expiry with
        workersIndex := Function.update pool.workersIndex worker.workerId true
        idleIndex :=
          if worker.state = "idle" then pool.idleIndex.add worker.updatedAt worker.workerId
          else pool.idleIndex.remove worker.workerId }, worker)

/-- `REGISTER_WORKER_SCRIPT`: the record starts over as idle and unassigned,
whatever an existing record says. -/
def registerWorker (leaseTtlMs now : Nat) (pool : RedisWorkerPool)
    (workerId : PoolWorkerId) (traits : WorkerTraits) (owner : Connection) :
    RedisWorkerPool × PoolWorker :=
  let existing := pool.loadWorker now workerId
  pool.saveWorkerChanges now (now + leaseTtlMs)
    { workerId := workerId
      state := "idle"
      traits := traits.orElse ((existing.map PoolWorker.traits).getD {})
      connectedAt := (existing.map PoolWorker.connectedAt).getD now
      updatedAt := now
      lastHeartbeatAt := now
      expiresAt := some (now + leaseTtlMs)
      sessionId := none
      socketOwner := some owner }

/-- The scripts that change an existing record and do nothing without one. -/
def changeWorker (leaseTtlMs now : Nat) (pool : RedisWorkerPool) (workerId : PoolWorkerId)
    (change : PoolWorker → PoolWorker) : RedisWorkerPool × Option PoolWorker :=
  match pool.loadWorker now workerId with
  | none => (pool, none)
  | some worker =>
      let result := pool.saveWorkerChanges now (now + leaseTtlMs) (change worker)
      (result.1, some result.2)

/-- The record changes of `MARK_WORKER_IDLE_SCRIPT`. -/
def markedIdle (leaseTtlMs now : Nat) (traits : WorkerTraits) (worker : PoolWorker) :
    PoolWorker :=
  { worker with
    traits := traits.orElse worker.traits
    state := "idle"
    sessionId := none
    updatedAt := now
    lastHeartbeatAt := now
    expiresAt := some (now + leaseTtlMs) }

/-- The record changes of `MARK_WORKER_BUSY_SCRIPT`. -/
def markedBusy (leaseTtlMs now : Nat) (state : String) (sessionId : Option SessionId)
    (traits : WorkerTraits) (worker : PoolWorker) : PoolWorker :=
  { worker with
    traits := traits.orElse worker.traits
    state := if state = "" then "assigned" else state
    sessionId := sessionId.or worker.sessionId
    updatedAt := now
    lastHeartbeatAt := now
    expiresAt := some (now + leaseTtlMs) }

/-- The record changes of `HEARTBEAT_WORKER_SCRIPT`. -/
def heartbeat (leaseTtlMs now : Nat) (traits : WorkerTraits) (worker : PoolWorker) :
    PoolWorker :=
  { worker with
    traits := traits.orElse worker.traits
    updatedAt := now
    lastHeartbeatAt := now
    expiresAt := some (now + leaseTtlMs) }

/-- `RELEASE_POOL_SOCKET_OWNER_SCRIPT`. -/
def releaseSocketOwnership (leaseTtlMs now : Nat) (pool : RedisWorkerPool)
    (workerId : PoolWorkerId) (owner : Connection) : RedisWorkerPool × Bool :=
  match pool.loadWorker now workerId with
  | none => (pool, false)
  | some worker =>
      if worker.socketOwner = some owner then
        ((pool.saveWorkerChanges now (now + leaseTtlMs)
          { worker with socketOwner := none, updatedAt := now }).1, true)
      else (pool, false)

def unregisterWorker (pool : RedisWorkerPool) (workerId : PoolWorkerId) :
    RedisWorkerPool where
  workers := Function.update pool.workers workerId none
  workersIndex := Function.update pool.workersIndex workerId false
  idleIndex := pool.idleIndex.remove workerId
  pendingAssignments := Function.update pool.pendingAssignments workerId []

def addPendingAssignment (pool : RedisWorkerPool) (workerId : PoolWorkerId)
    (payload : Assignment) : RedisWorkerPool :=
  { pool with
    pendingAssignments := Function.update pool.pendingAssignments workerId
      (pool.pendingAssignments workerId ++ [payload]) }

def drainPendingAssignments (pool : RedisWorkerPool) (workerId : PoolWorkerId) :
    RedisWorkerPool × List Assignment :=
  ({ pool with
      pendingAssignments := Function.update pool.pendingAssignments workerId [] },
    pool.pendingAssignments workerId)

/-- The skipped workers return to the idle index with their old scores. -/
def restoreSkipped (pool : RedisWorkerPool) (skipped : List PoolWorker) : RedisWorkerPool :=
  { pool with
    idleIndex := skipped.foldl
      (fun index worker => index.add worker.updatedAt worker.workerId) pool.idleIndex }

/-- The record that `ALLOCATE_AND_QUEUE_WORKER_SCRIPT` writes for its choice. -/
def assigned (now expiry : Nat) (sessionId : SessionId) (worker : PoolWorker) : PoolWorker :=
  { worker with
    expiresAt := some expiry
    state := "assigned"
    sessionId := some sessionId
    updatedAt := now
    lastHeartbeatAt := now }

/-- The loop of `ALLOCATE_AND_QUEUE_WORKER_SCRIPT` over the idle index in order.
Each round takes the first worker off the index: it drops dangling, expired and
ownerless records, skips workers that are not idle or do not match, and assigns
the first one that does. -/
def allocateLoop (now fallbackExpiresAt : Nat) (sessionId : SessionId)
    (payload : Assignment) (filters : WorkerTraits) :
    List PoolWorkerId → List PoolWorker → RedisWorkerPool →
      RedisWorkerPool × Option PoolWorker
  | [], skipped, pool => (pool.restoreSkipped skipped, none)
  | workerId :: rest, skipped, pool =>
      let pool := { pool with idleIndex := pool.idleIndex.remove workerId }
      match pool.loadWorker now workerId with
      | none =>
          allocateLoop now fallbackExpiresAt sessionId payload filters rest skipped
            { pool with workersIndex := Function.update pool.workersIndex workerId false }
      | some worker =>
          let expiry := worker.expiresAt.getD fallbackExpiresAt
          let extended := { worker with expiresAt := some expiry }
          -- a record without an expiry is given one and written back
          let kept :=
            if worker.expiresAt = none then pool.writeWorker now workerId extended expiry
            else pool
          if expiry ≤ now ∨ worker.socketOwner = none then
            allocateLoop now fallbackExpiresAt sessionId payload filters rest skipped
              (pool.dropWorker workerId)
          else if worker.state = "idle" then
            if worker.traits.matchesFilters filters then
              let chosen := assigned now expiry sessionId worker
              let pool := pool.writeWorker now workerId chosen expiry
              let pool := { pool with
                workersIndex := Function.update pool.workersIndex workerId true }
              ((pool.addPendingAssignment workerId payload).restoreSkipped skipped,
                some chosen)
            else
              allocateLoop now fallbackExpiresAt sessionId payload filters rest
                (skipped ++ [extended]) kept
          else
            allocateLoop now fallbackExpiresAt sessionId payload filters rest skipped kept

def allocateWorkerWithAssignment (leaseTtlMs now : Nat) (pool : RedisWorkerPool)
    (sessionId : SessionId) (payload : Assignment) (filters : WorkerTraits) :
    RedisWorkerPool × Option PoolWorker :=
  allocateLoop now (now + leaseTtlMs) sessionId payload filters pool.idleIndex.members []
    pool

/-- One call of the Redis pool store at time `now`. -/
@[grind =] def exec (leaseTtlMs now : Nat) :
    (op : PoolOp) → RedisWorkerPool → RedisWorkerPool × op.Reply
  | .registerWorker workerId traits owner, pool =>
      pool.registerWorker leaseTtlMs now workerId traits owner
  | .getWorker workerId, pool => (pool, pool.loadWorker now workerId)
  | .allocateWorkerWithAssignment sessionId payload filters, pool =>
      pool.allocateWorkerWithAssignment leaseTtlMs now sessionId payload filters
  | .markWorkerIdle workerId traits, pool =>
      pool.changeWorker leaseTtlMs now workerId (markedIdle leaseTtlMs now traits)
  | .markWorkerBusy workerId state sessionId traits, pool =>
      pool.changeWorker leaseTtlMs now workerId
        (markedBusy leaseTtlMs now state sessionId traits)
  | .heartbeatWorker workerId traits, pool =>
      pool.changeWorker leaseTtlMs now workerId (heartbeat leaseTtlMs now traits)
  | .getSocketOwner workerId, pool =>
      (pool, (pool.loadWorker now workerId).bind PoolWorker.socketOwner)
  | .releaseSocketOwnership workerId owner, pool =>
      pool.releaseSocketOwnership leaseTtlMs now workerId owner
  | .unregisterWorker workerId, pool => (pool.unregisterWorker workerId, ())
  | .addPendingAssignment workerId payload, pool =>
      (pool.addPendingAssignment workerId payload, ())
  | .drainPendingAssignments workerId, pool => pool.drainPendingAssignments workerId

end RedisWorkerPool

end RemoteBrowser
