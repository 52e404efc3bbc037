import RemoteBrowser.Async.Program
import RemoteBrowser.Redis.Keyspace
import RemoteBrowser.Session.Record

/-!
# The session store and its two backends

`app/session-store.js` offers one interface with an in-memory and a Redis
implementation.  The interface is the type `SessionOp` of operations with their
replies; each backend is a state and an atomic transition for every operation.

A Redis session lives under a key that expires at `session.expiresAt` and is
listed in two sorted sets, by expiry and by creation.  Viewer telemetry, the
expiry of pending-signal lists and the unused single-session guard are left out.
-/

namespace RemoteBrowser

open Redis

/-- A message relayed to one end of a session. -/
inductive Signal where
  | workerState (state reason : String)
  | sessionTerminated (reason : String)
  | relayed (text : String)
  deriving DecidableEq

/-! ## Operations -/

/-- Operations that rewrite one stored session and return it. -/
inductive SessionMutation where
  | update (patch : SessionPatch)
  | markViewerSeen
  | markViewerConnected
  | markViewerDisconnected (reason : String)
  | setState (state : String)
  | setWorker (worker : Option Worker)
  | incrementGeneration
  | claimSocketOwnership (role : Role) (owner : Connection)
  deriving DecidableEq

namespace SessionMutation

/-- The record after the mutation, which both backends compute alike. -/
def apply (now : Nat) : SessionMutation → Session → Session
  | .update patch => Session.update now patch
  | .markViewerSeen => Session.markViewerSeen now
  | .markViewerConnected => Session.markViewerConnected now
  | .markViewerDisconnected reason => Session.markViewerDisconnected now reason
  | .setState state => Session.setState now state
  | .setWorker worker => Session.setWorker now worker
  | .incrementGeneration => Session.incrementGeneration now
  | .claimSocketOwnership role owner => Session.claimSocketOwnership now role owner

@[simp] theorem apply_id (now : Nat) (mutation : SessionMutation) (session : Session) :
    (mutation.apply now session).id = session.id := by
  cases mutation with
  | claimSocketOwnership role owner => cases role <;> rfl
  | _ => rfl

end SessionMutation

/-- The store interface, apart from `createSession`. -/
inductive SessionOp where
  | get (id : SessionId)
  | mutate (id : SessionId) (mutation : SessionMutation)
  | getSocketOwner (id : SessionId) (role : Role)
  | releaseSocketOwnership (id : SessionId) (role : Role) (owner : Connection)
  | addPendingSignal (id : SessionId) (role : Role) (payload : Signal)
  | drainPendingSignals (id : SessionId) (role : Role)
  | listExpired (now : Nat)
  | listTerminated (olderThanMs now : Nat)
  | listSessions (limit : Nat)
  | shouldIdleTerminate (id : SessionId) (now : Nat)
  | acquireTerminationLock (id : SessionId) (ttlMs : Nat)
  | remove (id : SessionId)
  deriving DecidableEq

@[reducible] def SessionOp.Reply : SessionOp → Type
  | .get _ => Option Session
  | .mutate _ _ => Option Session
  | .getSocketOwner _ _ => Option Connection
  | .releaseSocketOwnership _ _ _ => Bool
  | .addPendingSignal _ _ _ => Unit
  | .drainPendingSignals _ _ => List Signal
  | .listExpired _ => List Session
  | .listTerminated _ _ => List Session
  | .listSessions _ => List Session
  | .shouldIdleTerminate _ _ => Bool
  | .acquireTerminationLock _ _ => Bool
  | .remove _ => Unit

/-- The configuration values that the stores read. -/
structure SessionStoreConfig where
  sessionTtlMs : Nat
  idleTimeoutMs : Nat
  deriving DecidableEq

/-- The filter of `listTerminated`. -/
def Session.terminatedBefore (olderThanMs now : Nat) (session : Session) : Bool :=
  session.state = "terminated" &&
    match session.terminatedAt with
    | some time => decide (olderThanMs < now - time)
    | none => false

/-! ## Redis -/

/-- The keys that `RedisSessionStoreImpl` owns. -/
structure RedisSessionStore where
  sessions : SessionId → Option (Entry Session)
  sessionsExpires : SortedSet SessionId
  sessionsCreated : SortedSet SessionId
  pending : SessionId → Role → List Signal
  terminationLocks : SessionId → Option (Entry Unit)

namespace RedisSessionStore

def empty : RedisSessionStore :=
  ⟨fun _ => none, .empty, .empty, fun _ _ => [], fun _ => none⟩

/-- `#loadSession`. -/
def loadSession (now : Nat) (store : RedisSessionStore) (id : SessionId) : Option Session :=
  Entry.read now (store.sessions id)

/-- `#saveSession` and `SAVE_SESSION_CHANGES`: write the key, its expiry and both
indexes. -/
def saveSession (now : Nat) (store : RedisSessionStore) (id : SessionId)
    (session : Session) : RedisSessionStore :=
  { store with
    sessions := Function.update store.sessions id (Entry.save now session session.expiresAt)
    sessionsExpires := store.sessionsExpires.add session.expiresAt session.id
    sessionsCreated := store.sessionsCreated.add session.createdAt session.id }

/-- `createSession`; `id` is the identifier that `buildSession` draws with
`crypto.randomUUID`. -/
def createSession (config : SessionStoreConfig) (now : Nat) (store : RedisSessionStore)
    (id : SessionId) (input : SessionInput) : RedisSessionStore × Session :=
  let session := buildSession id now config.sessionTtlMs input
  (store.saveSession now id session, session)

/-- `#runSessionMutation`: the read-modify-write scripts, which do nothing and
return `null` when the key is absent. -/
def runSessionMutation (now : Nat) (store : RedisSessionStore) (id : SessionId)
    (mutation : SessionMutation) : RedisSessionStore × Option Session :=
  match store.loadSession now id with
  | none => (store, none)
  | some session =>
      let changed := mutation.apply now session
      (store.saveSession now id changed, some changed)

def getSocketOwner (now : Nat) (store : RedisSessionStore) (id : SessionId) (role : Role) :
    Option Connection :=
  (store.loadSession now id).bind fun session => session.socketOwner role

def releaseSocketOwnership (now : Nat) (store : RedisSessionStore) (id : SessionId)
    (role : Role) (owner : Connection) : RedisSessionStore × Bool :=
  match store.loadSession now id with
  | none => (store, false)
  | some session =>
      if session.socketOwner role = some owner then
        (store.saveSession now id (session.releaseSocketOwnership now role), true)
      else (store, false)

/-- A signal for an absent session is dropped. -/
def addPendingSignal (now : Nat) (store : RedisSessionStore) (id : SessionId)
    (role : Role) (payload : Signal) : RedisSessionStore :=
  match store.loadSession now id with
  | none => store
  | some _ =>
      { store with
        pending := Function.update store.pending id
          (Function.update (store.pending id) role (store.pending id role ++ [payload])) }

def drainPendingSignals (store : RedisSessionStore) (id : SessionId) (role : Role) :
    RedisSessionStore × List Signal :=
  ({ store with
      pending := Function.update store.pending id
        (Function.update (store.pending id) role []) },
    store.pending id role)

/-- The index is searched up to `bound`; the keys are then read at time `now`. -/
def listExpired (now : Nat) (store : RedisSessionStore) (bound : Nat) : List Session :=
  (store.sessionsExpires.membersUpTo bound).filterMap (store.loadSession now)

def listTerminated (now : Nat) (store : RedisSessionStore) (olderThanMs bound : Nat) :
    List Session :=
  (store.sessionsCreated.members.filterMap (store.loadSession now)).filter
    (Session.terminatedBefore olderThanMs bound)

/-- `ZRANGE 0 max(limit - 1, 0) REV`. -/
def listSessions (now : Nat) (store : RedisSessionStore) (limit : Nat) : List Session :=
  (store.sessionsCreated.members.reverse.take (max limit 1)).filterMap
    (store.loadSession now)

def shouldIdleTerminate (config : SessionStoreConfig) (now : Nat)
    (store : RedisSessionStore) (id : SessionId) (bound : Nat) : Bool :=
  match store.loadSession now id with
  | none => false
  | some session => session.shouldIdleTerminate bound config.idleTimeoutMs

/-- `SET NX PX`. -/
def acquireTerminationLock (now : Nat) (store : RedisSessionStore) (id : SessionId)
    (ttlMs : Nat) : RedisSessionStore × Bool :=
  match Entry.read now (store.terminationLocks id) with
  | some _ => (store, false)
  | none =>
      ({ store with
          terminationLocks := Function.update store.terminationLocks id
            (some ⟨(), some (now + ttlMs)⟩) },
        true)

def remove (store : RedisSessionStore) (id : SessionId) : RedisSessionStore where
  sessions := Function.update store.sessions id none
  sessionsExpires := store.sessionsExpires.remove id
  sessionsCreated := store.sessionsCreated.remove id
  pending := Function.update store.pending id fun _ => []
  terminationLocks := Function.update store.terminationLocks id none

/-- One call of the Redis store at time `now`, apart from `createSession`. -/
@[grind =] def exec (config : SessionStoreConfig) (now : Nat) :
    (op : SessionOp) → RedisSessionStore → RedisSessionStore × op.Reply
  | .get id, store => (store, store.loadSession now id)
  | .mutate id mutation, store => store.runSessionMutation now id mutation
  | .getSocketOwner id role, store => (store, store.getSocketOwner now id role)
  | .releaseSocketOwnership id role owner, store =>
      store.releaseSocketOwnership now id role owner
  | .addPendingSignal id role payload, store =>
      (store.addPendingSignal now id role payload, ())
  | .drainPendingSignals id role, store => store.drainPendingSignals id role
  | .listExpired bound, store => (store, store.listExpired now bound)
  | .listTerminated olderThanMs bound, store =>
      (store, store.listTerminated now olderThanMs bound)
  | .listSessions limit, store => (store, store.listSessions now limit)
  | .shouldIdleTerminate id bound, store =>
      (store, store.shouldIdleTerminate config now id bound)
  | .acquireTerminationLock id ttlMs, store => store.acquireTerminationLock now id ttlMs
  | .remove id, store => (store.remove id, ())

end RedisSessionStore

/-! ## Memory -/

/-- The maps of `MemorySessionStoreImpl`; `sessions` is in insertion order. -/
structure MemorySessionStore where
  sessions : List (SessionId × Session)
  unique : (sessions.map Prod.fst).Nodup
  pendingSignals : SessionId → Role → List Signal
  terminationLocks : SessionId → Option Nat

namespace MemorySessionStore

def empty : MemorySessionStore := ⟨[], .nil, fun _ _ => [], fun _ => none⟩

/-- `sessions.get(id)`. -/
def lookup (store : MemorySessionStore) (id : SessionId) : Option Session :=
  store.sessions.lookup id

/-- Replace the value of an existing key in place. -/
def replace (store : MemorySessionStore) (id : SessionId) (session : Session) :
    MemorySessionStore where
  sessions := store.sessions.map fun entry =>
    if entry.1 = id then (id, session) else entry
  unique := by
    have keys : (store.sessions.map fun entry =>
        if entry.1 = id then (id, session) else entry).map Prod.fst =
        store.sessions.map Prod.fst := by
      rw [List.map_map]
      refine List.map_congr_left fun entry _ => ?_
      by_cases same : entry.1 = id <;> simp [same]
    rw [keys]
    exact store.unique
  pendingSignals := store.pendingSignals
  terminationLocks := store.terminationLocks

/-- `sessions.delete(id)`. -/
def delete (store : MemorySessionStore) (id : SessionId) : MemorySessionStore where
  sessions := store.sessions.filter fun entry => entry.1 ≠ id
  unique := store.unique.sublist (List.filter_sublist.map _)
  pendingSignals := store.pendingSignals
  terminationLocks := store.terminationLocks

/-- `sessions.set(id, session)`: a new key is appended. -/
def set (store : MemorySessionStore) (id : SessionId) (session : Session) :
    MemorySessionStore :=
  if present : id ∈ store.sessions.map Prod.fst then store.replace id session
  else
    { store with
      sessions := store.sessions ++ [(id, session)]
      unique := by
        rw [List.map_append, List.map_singleton]
        refine List.nodup_append.mpr ⟨store.unique, by simp, ?_⟩
        rintro key member other only rfl
        have same : key = id := List.mem_singleton.mp only
        exact present (same ▸ member) }

def createSession (config : SessionStoreConfig) (now : Nat) (store : MemorySessionStore)
    (id : SessionId) (input : SessionInput) : MemorySessionStore × Session :=
  let session := buildSession id now config.sessionTtlMs input
  (store.set id session, session)

/-- The mutating methods: nothing happens when the session is absent. -/
def mutate (now : Nat) (store : MemorySessionStore) (id : SessionId)
    (mutation : SessionMutation) : MemorySessionStore × Option Session :=
  match store.lookup id with
  | none => (store, none)
  | some session =>
      let changed := mutation.apply now session
      (store.replace id changed, some changed)

def releaseSocketOwnership (now : Nat) (store : MemorySessionStore) (id : SessionId)
    (role : Role) (owner : Connection) : MemorySessionStore × Bool :=
  match store.lookup id with
  | none => (store, false)
  | some session =>
      if session.socketOwner role = some owner then
        (store.replace id (session.releaseSocketOwnership now role), true)
      else (store, false)

/-- Unlike Redis, the map accepts a signal for an absent session. -/
def addPendingSignal (store : MemorySessionStore) (id : SessionId) (role : Role)
    (payload : Signal) : MemorySessionStore :=
  { store with
    pendingSignals := Function.update store.pendingSignals id
      (Function.update (store.pendingSignals id) role
        (store.pendingSignals id role ++ [payload])) }

def drainPendingSignals (store : MemorySessionStore) (id : SessionId) (role : Role) :
    MemorySessionStore × List Signal :=
  ({ store with
      pendingSignals := Function.update store.pendingSignals id
        (Function.update (store.pendingSignals id) role []) },
    store.pendingSignals id role)

def listExpired (store : MemorySessionStore) (bound : Nat) : List Session :=
  (store.sessions.map Prod.snd).filter fun session => session.expiresAt ≤ bound

/-- Newest first; sessions created at the same time stay in insertion order. -/
def listSessions (store : MemorySessionStore) (limit : Nat) : List Session :=
  ((store.sessions.map Prod.snd).insertionSort
    fun left right => right.createdAt ≤ left.createdAt).take limit

def shouldIdleTerminate (config : SessionStoreConfig) (store : MemorySessionStore)
    (id : SessionId) (bound : Nat) : Bool :=
  match store.lookup id with
  | none => false
  | some session => session.shouldIdleTerminate bound config.idleTimeoutMs

def acquireTerminationLock (now : Nat) (store : MemorySessionStore) (id : SessionId)
    (ttlMs : Nat) : MemorySessionStore × Bool :=
  if (store.terminationLocks id).any (now < ·) then (store, false)
  else
    ({ store with
        terminationLocks := Function.update store.terminationLocks id (some (now + ttlMs)) },
      true)

def remove (store : MemorySessionStore) (id : SessionId) : MemorySessionStore :=
  { store.delete id with
    pendingSignals := Function.update store.pendingSignals id fun _ => []
    terminationLocks := Function.update store.terminationLocks id none }

/-- One call of the in-memory store at time `now`, apart from `createSession`. -/
@[grind =] def exec (config : SessionStoreConfig) (now : Nat) :
    (op : SessionOp) → MemorySessionStore → MemorySessionStore × op.Reply
  | .get id, store => (store, store.lookup id)
  | .mutate id mutation, store => store.mutate now id mutation
  | .getSocketOwner id role, store =>
      (store, (store.lookup id).bind fun session => session.socketOwner role)
  | .releaseSocketOwnership id role owner, store =>
      store.releaseSocketOwnership now id role owner
  | .addPendingSignal id role payload, store =>
      (store.addPendingSignal id role payload, ())
  | .drainPendingSignals id role, store => store.drainPendingSignals id role
  | .listExpired bound, store => (store, store.listExpired bound)
  | .listTerminated olderThanMs bound, store =>
      (store, (store.sessions.map Prod.snd).filter
        (Session.terminatedBefore olderThanMs bound))
  | .listSessions limit, store => (store, store.listSessions limit)
  | .shouldIdleTerminate id bound, store =>
      (store, store.shouldIdleTerminate config id bound)
  | .acquireTerminationLock id ttlMs, store => store.acquireTerminationLock now id ttlMs
  | .remove id, store => (store.remove id, ())

end MemorySessionStore

end RemoteBrowser
