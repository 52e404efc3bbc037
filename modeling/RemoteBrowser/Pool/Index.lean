import RemoteBrowser.Json.Reencoding
import RemoteBrowser.Redis.Keyspace
import Mathlib.Data.String.Basic

/-!
# The indexes of the worker pool

The Redis scripts of `app/worker-pool-store.js` with all arguments that the store passes them.
A worker has a record, a place in the sorted set of idle workers while its state is `idle`, and
a place in the set of all workers.  A script runs at a time of the Redis server, its arguments
carry the time of the caller, and the two need not agree.

A record is a Lua table: the members that the scripts rely on are fields, a patch may set all
others to any value.  The replies of the scripts are left out.  `PEXPIREAT` fails on a time that
is no integer, and a failed call ends its script without undoing the writes before it.  A time
that is not even finite cannot be encoded, which ends the script before its first write.
-/

namespace RemoteBrowser.PoolIndex

open Redis Json

/-! ## Records -/

structure WorkerTable where
  /-- empty for a record without one -/
  workerId : String
  updatedAt : Nat
  expiresAt : Option ℚ
  /-- the other members -/
  members : String → Option Json

/-- `left or right` of Lua. -/
def luaOr (left right : Option Json) : Option Json :=
  match left with
  | none => right
  | some (.bool false) => right
  | some value => some value

/-- Neither `nil` nor `cjson.null`. -/
def present : Option Json → Bool
  | none => false
  | some .null => false
  | some _ => true

def hasText (text : String) : Option Json → Bool
  | some (.str content) => content = text
  | _ => false

namespace WorkerTable

def isIdle (worker : WorkerTable) : Bool := hasText "idle" (worker.members "state")

def isOwned (worker : WorkerTable) : Bool := present (worker.members "socketOwner")

/-- `for key, value in pairs(patch) do worker[key] = value end`, for the other members. -/
def patched (patch : Fields) (worker : WorkerTable) : WorkerTable :=
  { worker with members := fun key => ((patch.lookup key).map recode).or (worker.members key) }

def set (key : String) (value : Json) (worker : WorkerTable) : WorkerTable :=
  { worker with members := fun name => if name = key then some value else worker.members name }

@[simp] theorem workerId_patched (patch : Fields) (worker : WorkerTable) :
    (worker.patched patch).workerId = worker.workerId := rfl

@[simp] theorem workerId_set (key : String) (value : Json) (worker : WorkerTable) :
    (worker.set key value).workerId = worker.workerId := rfl

@[simp] theorem expiresAt_set (key : String) (value : Json) (worker : WorkerTable) :
    (worker.set key value).expiresAt = worker.expiresAt := rfl

/-- The members that a registration takes from its input or from the existing record. -/
def inherited : List String :=
  ["taskArn", "runtimeId", "region", "runtimeClass", "mediaMode", "imageDigest", "displayClass",
    "socketOwner"]

/-- The record of `REGISTER_WORKER_SCRIPT`. -/
def registered (workerId : String) (input : Fields) (existing : Option WorkerTable) (now : Nat)
    (expiresAt : ℚ) : WorkerTable :=
  let given key := luaOr ((input.lookup key).map recode) (existing.bind fun old => old.members key)
  { workerId
    updatedAt := now
    expiresAt := some expiresAt
    members := fun key =>
      if key = "state" then some (.str "idle")
      else if key = "mode" then luaOr (given "mode") (some (.str "warm-pool"))
      else if key = "connectedAt" then
        luaOr (existing.bind fun old => old.members "connectedAt") (some (.num now))
      else if key = "lastHeartbeatAt" then some (.num now)
      else if key = "sessionId" then some .null
      else if key = "metadata" then luaOr (given "metadata") (some (.obj []))
      else if key ∈ inherited then luaOr (given key) (some .null)
      else none }

/-- The record of `MARK_WORKER_IDLE_SCRIPT`. -/
def markedIdle (patch : Fields) (now : Nat) (expiresAt : ℚ) (worker : WorkerTable) :
    WorkerTable :=
  { ((((worker.patched patch).set "state" (.str "idle")).set "sessionId" .null).set
      "lastHeartbeatAt" (.num now)) with updatedAt := now, expiresAt := some expiresAt }

/-- The record of `MARK_WORKER_BUSY_SCRIPT`. -/
def markedBusy (patch : Fields) (now : Nat) (expiresAt : ℚ) (worker : WorkerTable) :
    WorkerTable :=
  let state := (luaOr ((patch.lookup "state").map recode) none).getD (.str "assigned")
  { (((worker.patched patch).set "state" state).set "lastHeartbeatAt" (.num now)) with
    updatedAt := now, expiresAt := some expiresAt }

/-- The record of `HEARTBEAT_WORKER_SCRIPT`. -/
def heartbeat (patch : Fields) (now : Nat) (expiresAt : ℚ) (worker : WorkerTable) :
    WorkerTable :=
  { ((worker.patched patch).set "lastHeartbeatAt" (.num now)) with
    updatedAt := now, expiresAt := some expiresAt }

/-- The record with another `socketOwner`. -/
def ownedBy (owner : Json) (now : Nat) (worker : WorkerTable) : WorkerTable :=
  { worker.set "socketOwner" owner with updatedAt := now }

/-- The record that an allocation writes. -/
def assigned (sessionId : String) (now : Nat) (worker : WorkerTable) : WorkerTable :=
  { (((worker.set "state" (.str "assigned")).set "sessionId" (.str sessionId)).set
      "lastHeartbeatAt" (.num now)) with updatedAt := now }

end WorkerTable

/-! ## Keys -/

/-- The keys of the pool. -/
structure PoolKeys where
  records : String → Option (Entry WorkerTable)
  workers : String → Bool
  idle : SortedSet String
  pending : String → List Json

/-- The time that `PEXPIREAT` takes, unless it fails. -/
def expireTime (time : ℚ) : Option Nat :=
  if time.den = 1 ∧ time < 2 ^ 63 then some time.num.toNat else none

namespace PoolKeys

def empty : PoolKeys := ⟨fun _ => none, fun _ => false, .empty, fun _ => []⟩

/-- `GET` of a record at a time. -/
def read (time : Nat) (keys : PoolKeys) (id : String) : Option WorkerTable :=
  Entry.read time (keys.records id)

/-- A record that is past its expiry is gone. -/
def purge (time : Nat) (keys : PoolKeys) : PoolKeys :=
  { keys with records := fun id => (keys.records id).filter fun entry => entry.Live time }

def get (keys : PoolKeys) (id : String) : Option WorkerTable := (keys.records id).map Entry.value

/-- `SET` of a record; the key does not expire. -/
def set (id : String) (worker : WorkerTable) (keys : PoolKeys) : PoolKeys :=
  { keys with records := Function.update keys.records id (some ⟨worker, none⟩) }

/-- `SET` and `PEXPIREAT` of a record. -/
def write (clock : Nat) (id : String) (worker : WorkerTable) (time : Nat) (keys : PoolKeys) :
    PoolKeys :=
  { keys with records := Function.update keys.records id (Entry.save clock worker time) }

/-- `DEL` of a record. -/
def delete (id : String) (keys : PoolKeys) : PoolKeys :=
  { keys with records := Function.update keys.records id none }

/-- `SADD` to the workers. -/
def enlist (id : String) (keys : PoolKeys) : PoolKeys :=
  { keys with workers := Function.update keys.workers id true }

/-- `SREM` from the workers. -/
def discharge (id : String) (keys : PoolKeys) : PoolKeys :=
  { keys with workers := Function.update keys.workers id false }

/-- `ZADD` to the idle workers. -/
def enqueue (score : Nat) (id : String) (keys : PoolKeys) : PoolKeys :=
  { keys with idle := keys.idle.add score id }

/-- `ZREM` from the idle workers. -/
def dequeue (id : String) (keys : PoolKeys) : PoolKeys :=
  { keys with idle := keys.idle.remove id }

/-- `RPUSH` of an assignment. -/
def assign (id : String) (payload : Json) (keys : PoolKeys) : PoolKeys :=
  { keys with pending := Function.update keys.pending id (keys.pending id ++ [payload]) }

end PoolKeys

/-! ## Scripts -/

section Scripts

variable (clock now : Nat)

/-- `SAVE_WORKER_CHANGES`.  A record without an identifier has no argument for `SREM` and `SADD`,
which fail. -/
def saveWorkerChanges (fallback : ℚ) (id : String) (worker : WorkerTable) (keys : PoolKeys) :
    PoolKeys :=
  let expiry := worker.expiresAt.getD fallback
  let worker := { worker with expiresAt := some expiry }
  if expiry ≤ now then
    let keys := keys.delete id
    if worker.workerId = "" then keys
    else (keys.discharge worker.workerId).dequeue worker.workerId
  else
    match expireTime expiry with
    | none => keys.set id worker
    | some time =>
        let keys := keys.write clock id worker time
        if worker.workerId = "" then keys
        else
          let keys := keys.enlist worker.workerId
          if worker.isIdle then keys.enqueue worker.updatedAt worker.workerId
          else keys.dequeue worker.workerId

/-- The scripts that do nothing without a record. -/
def changeWorker (fallback : ℚ) (id : String) (change : WorkerTable → WorkerTable)
    (keys : PoolKeys) : PoolKeys :=
  match keys.get id with
  | none => keys
  | some worker => saveWorkerChanges clock now fallback id (change worker) keys

/-- A member of a socket owner, unless the script cannot index it. -/
def ownerMember (name : String) : Json → Option (Option Json)
  | .obj fields => some (fields.lookup name)
  | .arr _ => some none
  | .str _ => some none
  | _ => none

variable (tostring : Json → String)

/-- `tostring(owner[name] or "")`. -/
def ownerText (name : String) (owner : Json) : Option String :=
  (ownerMember name owner).map fun value => tostring ((luaOr value none).getD (.str ""))

/-- Both texts of the current owner, which are empty without one. -/
def currentOwner (worker : WorkerTable) : Option (String × String) :=
  match worker.members "socketOwner" with
  | none => some ("", "")
  | some .null => some ("", "")
  | some owner => do
      let instanceId ← ownerText tostring "instanceId" owner
      let connectionId ← ownerText tostring "connectionId" owner
      return (instanceId, connectionId)

/-- The comparison of `RELEASE_POOL_SOCKET_OWNER_SCRIPT`, unless it fails. -/
def ownerMatches (worker : WorkerTable) (owner : Json) : Option Bool := do
  let (instanceId, connectionId) ← currentOwner tostring worker
  let expectedInstance ← ownerText tostring "instanceId" owner
  if instanceId ≠ expectedInstance then return false
  else
    let expectedConnection ← ownerText tostring "connectionId" owner
    return connectionId = expectedConnection

/-- `RELEASE_POOL_SOCKET_OWNER_SCRIPT`. -/
def releaseSocketOwner (fallback : ℚ) (id : String) (owner : Json) (keys : PoolKeys) :
    PoolKeys :=
  match keys.get id with
  | none => keys
  | some worker =>
      if ownerMatches tostring worker owner = some true then
        saveWorkerChanges clock now fallback id (worker.ownedBy .null now) keys
      else keys

/-- `matches_filter` -/
def matchesFilter (filters : Fields) (worker : WorkerTable) (key : String) : Bool :=
  match filters.lookup key with
  | none => true
  | some .null => true
  | some want =>
      if tostring want = "" then true
      else match worker.members key with
        | none => false
        | some .null => false
        | some got => tostring got = tostring want

def filterKeys : List String :=
  ["region", "runtimeClass", "mediaMode", "imageDigest", "displayClass"]

/-- The skipped workers return to the idle workers. -/
def restore (skipped : List WorkerTable) (keys : PoolKeys) : PoolKeys :=
  skipped.foldl (fun keys worker => keys.enqueue worker.updatedAt worker.workerId) keys

/-- The search of `ALLOCATE_WORKER_SCRIPT` and, with an assignment, of
`ALLOCATE_AND_QUEUE_WORKER_SCRIPT` over the idle workers in order. -/
def allocateLoop (fallback : ℚ) (sessionId : String) (assignment : Option Json)
    (filters : Fields) : List String → List WorkerTable → PoolKeys → PoolKeys
  | [], skipped, keys => restore skipped keys
  | id :: rest, skipped, keys =>
      let keys := keys.dequeue id
      match keys.get id with
      | none =>
          allocateLoop fallback sessionId assignment filters rest skipped (keys.discharge id)
      | some worker =>
          let expiry := worker.expiresAt.getD fallback
          let extended := { worker with expiresAt := some expiry }
          let kept := if worker.isIdle then skipped ++ [extended] else skipped
          if expiry ≤ now ∨ worker.isOwned = false then
            allocateLoop fallback sessionId assignment filters rest skipped
              ((keys.delete id).discharge id)
          else if worker.isIdle && filterKeys.all (matchesFilter tostring filters worker) then
            let chosen := extended.assigned sessionId now
            match expireTime expiry with
            | none => keys.set id chosen
            | some time =>
                let keys := keys.write clock id chosen time
                restore skipped (match assignment with
                  | none => keys
                  | some payload =>
                      (keys.enlist chosen.workerId).assign chosen.workerId payload)
          else if worker.expiresAt = none then
            -- a record without an expiry is given one and written back
            match expireTime expiry with
            | none => keys.set id extended
            | some time =>
                allocateLoop fallback sessionId assignment filters rest kept
                  (keys.write clock id extended time)
          else
            allocateLoop fallback sessionId assignment filters rest kept keys

end Scripts

/-! ## Calls -/

/-- The calls of the store with the arguments of their scripts. -/
inductive PoolCall where
  | registerWorker (workerId : String) (input : Fields) (now : Nat) (expiresAt : ℚ)
  | markWorkerIdle (workerId : String) (patch : Fields) (now : Nat) (expiresAt : ℚ)
  | markWorkerBusy (workerId : String) (patch : Fields) (now : Nat) (expiresAt : ℚ)
  | heartbeatWorker (workerId : String) (patch : Fields) (now : Nat) (expiresAt : ℚ)
  | claimSocketOwnership (workerId : String) (owner : Json) (now : Nat) (fallback : ℚ)
  | releaseSocketOwnership (workerId : String) (owner : Json) (now : Nat) (fallback : ℚ)
  | allocateWorker (sessionId : String) (filters : Fields) (now : Nat) (fallback : ℚ)
  | allocateWorkerWithAssignment (sessionId : String) (payload : Json) (filters : Fields)
      (now : Nat) (fallback : ℚ)
  | unregisterWorker (workerId : String)

/-- The script of a call. -/
def script (tostring : Json → String) (clock : Nat) : PoolCall → PoolKeys → PoolKeys
  | .registerWorker workerId input now expiresAt, keys =>
      saveWorkerChanges clock now expiresAt workerId
        (.registered workerId input (keys.get workerId) now expiresAt) keys
  | .markWorkerIdle workerId patch now expiresAt, keys =>
      changeWorker clock now expiresAt workerId (.markedIdle patch now expiresAt) keys
  | .markWorkerBusy workerId patch now expiresAt, keys =>
      changeWorker clock now expiresAt workerId (.markedBusy patch now expiresAt) keys
  | .heartbeatWorker workerId patch now expiresAt, keys =>
      changeWorker clock now expiresAt workerId (.heartbeat patch now expiresAt) keys
  | .claimSocketOwnership workerId owner now fallback, keys =>
      changeWorker clock now fallback workerId (.ownedBy owner.recode now) keys
  | .releaseSocketOwnership workerId owner now fallback, keys =>
      releaseSocketOwner clock now tostring fallback workerId owner.recode keys
  | .allocateWorker sessionId filters now fallback, keys =>
      allocateLoop clock now tostring fallback sessionId none filters keys.idle.members [] keys
  | .allocateWorkerWithAssignment sessionId payload filters now fallback, keys =>
      allocateLoop clock now tostring fallback sessionId (some payload) filters
        keys.idle.members [] keys
  | .unregisterWorker workerId, keys =>
      let keys := { keys.delete workerId with
        pending := Function.update keys.pending workerId [] }
      (keys.discharge workerId).dequeue workerId

/-- A call at a time of the server. -/
def step (tostring : Json → String) (clock : Nat) (call : PoolCall) (keys : PoolKeys) :
    PoolKeys :=
  script tostring clock call (keys.purge clock)

/-! ## The invariant -/

/-- A record under its own identifier, with an expiry time that Redis takes. -/
structure Sound (id : String) (worker : WorkerTable) : Prop where
  own : worker.workerId = id
  named : id ≠ ""
  expires : ∃ time, worker.expiresAt = some time ∧ (expireTime time).isSome = true

/-- Every record is sound and listed, and it is idle exactly if it is queued. -/
def Consistent (queued : String → Prop) (keys : PoolKeys) : Prop :=
  ∀ id entry, keys.records id = some entry →
    Sound id entry.value ∧ (entry.value.isIdle = true ↔ queued id) ∧ keys.workers id = true

/-- The idle workers are those in the sorted set. -/
def Indexed (keys : PoolKeys) : Prop := Consistent (· ∈ keys.idle.members) keys

section Invariant

variable {clock now : Nat} {fallback : ℚ} {tostring : Json → String} {keys after : PoolKeys}
  {queued queued' : String → Prop} {id : String} {worker : WorkerTable}

/-- A change that concerns one worker. -/
theorem Consistent.change (consistent : Consistent queued keys) (id : String)
    (others : ∀ other, other ≠ id → after.records other = keys.records other ∧
      after.workers other = keys.workers other ∧ (queued' other ↔ queued other))
    (own : ∀ entry, after.records id = some entry →
      Sound id entry.value ∧ (entry.value.isIdle = true ↔ queued' id) ∧
        after.workers id = true) :
    Consistent queued' after := by
  intro other entry found
  by_cases same : other = id
  · subst same
    exact own entry found
  · obtain ⟨records, workers, membership⟩ := others other same
    rw [records] at found
    rw [workers, membership]
    exact consistent other entry found

theorem Consistent.get (consistent : Consistent queued keys) (found : keys.get id = some worker) :
    Sound id worker ∧ (worker.isIdle = true ↔ queued id) ∧ keys.workers id = true := by
  obtain ⟨entry, stored, rfl⟩ := Option.map_eq_some_iff.mp found
  exact consistent id entry stored

theorem Consistent.purge (consistent : Consistent queued keys) (time : Nat) :
    Consistent queued (keys.purge time) := by
  intro id entry found
  exact consistent id entry (Option.eq_some_of_filter_eq_some found)

/-- What is written is the only record of its worker. -/
theorem value_write {time : Nat} {entry : Entry WorkerTable}
    (found : (keys.write clock id worker time).records id = some entry) :
    entry.value = worker := by
  simp only [PoolKeys.write, Function.update_self, Entry.save] at found
  split at found
  · cases found
  · cases found
    rfl

/-- Saving a record keeps the indexes if Redis takes its expiry time. -/
theorem Indexed.saveWorkerChanges (indexed : Indexed keys) (own : worker.workerId = id)
    (savable : worker.expiresAt.getD fallback ≤ now ∨
      id ≠ "" ∧ (expireTime (worker.expiresAt.getD fallback)).isSome = true) :
    Indexed (saveWorkerChanges clock now fallback id worker keys) := by
  subst own
  simp only [PoolIndex.saveWorkerChanges]
  split
  · -- the record is deleted
    split
    · apply indexed.change worker.workerId
      · intro other different
        exact ⟨Function.update_of_ne different .., rfl, Iff.rfl⟩
      · intro entry found
        simp [PoolKeys.delete] at found
    · apply indexed.change worker.workerId
      · intro other different
        refine ⟨Function.update_of_ne different .., Function.update_of_ne different .., ?_⟩
        simp [PoolKeys.dequeue, PoolKeys.discharge, PoolKeys.delete,
          SortedSet.mem_members_remove, different]
      · intro entry found
        simp [PoolKeys.delete, PoolKeys.discharge, PoolKeys.dequeue] at found
  next late =>
    obtain ⟨named, valid⟩ := savable.resolve_left late
    obtain ⟨time, accepted⟩ := Option.isSome_iff_exists.mp valid
    simp only [accepted, named, if_false]
    split
    next idle =>
      -- the record is written and enters the sorted set
      apply indexed.change worker.workerId
      · intro other different
        refine ⟨Function.update_of_ne different .., Function.update_of_ne different .., ?_⟩
        simp [PoolKeys.enqueue, PoolKeys.enlist, PoolKeys.write, SortedSet.mem_members_add,
          different]
      · intro entry found
        rw [value_write found]
        refine ⟨⟨rfl, named, _, rfl, valid⟩, ?_, Function.update_self ..⟩
        exact iff_of_true idle (SortedSet.mem_members_add.mpr (.inl rfl))
    next busy =>
      -- the record is written and leaves the sorted set
      apply indexed.change worker.workerId
      · intro other different
        refine ⟨Function.update_of_ne different .., Function.update_of_ne different .., ?_⟩
        simp [PoolKeys.dequeue, PoolKeys.enlist, PoolKeys.write, SortedSet.mem_members_remove,
          different]
      · intro entry found
        rw [value_write found]
        refine ⟨⟨rfl, named, _, rfl, valid⟩, ?_, Function.update_self ..⟩
        exact iff_of_false busy fun listed => (SortedSet.mem_members_remove.mp listed).2 rfl

theorem Indexed.changeWorker (indexed : Indexed keys) {change : WorkerTable → WorkerTable}
    (own : ∀ worker, (change worker).workerId = worker.workerId)
    (savable : ∀ worker, keys.get id = some worker →
      (change worker).expiresAt.getD fallback ≤ now ∨
        (expireTime ((change worker).expiresAt.getD fallback)).isSome = true) :
    Indexed (changeWorker clock now fallback id change keys) := by
  simp only [PoolIndex.changeWorker]
  split
  · exact indexed
  next worker found =>
    have sound := (indexed.get found).1
    apply indexed.saveWorkerChanges ((own worker).trans sound.own)
    exact (savable worker found).imp_right fun valid => ⟨sound.named, valid⟩

/-- A change of the owner keeps the expiry time, which Redis has taken before. -/
theorem Indexed.savable_owner (indexed : Indexed keys) (owner : Json)
    (found : keys.get id = some worker) :
    (expireTime ((worker.ownedBy owner now).expiresAt.getD fallback)).isSome = true := by
  obtain ⟨time, expires, valid⟩ := (indexed.get found).1.expires
  simp only [WorkerTable.ownedBy, WorkerTable.expiresAt_set, expires, Option.getD_some]
  exact valid

theorem Indexed.releaseSocketOwner (indexed : Indexed keys) (owner : Json) :
    Indexed (releaseSocketOwner clock now tostring fallback id owner keys) := by
  simp only [PoolIndex.releaseSocketOwner]
  split
  · exact indexed
  next worker found =>
    split
    · have sound := (indexed.get found).1
      exact indexed.saveWorkerChanges sound.own
        (.inr ⟨sound.named, indexed.savable_owner .null found⟩)
    · exact indexed

/-! ### Allocation -/

/-- A worker is queued in the sorted set or among those that the search has skipped. -/
def Waiting (skipped : List WorkerTable) (keys : PoolKeys) (id : String) : Prop :=
  id ∈ keys.idle.members ∨ id ∈ skipped.map WorkerTable.workerId

theorem members_restore (skipped : List WorkerTable) (keys : PoolKeys) (id : String) :
    id ∈ (restore skipped keys).idle.members ↔ Waiting skipped keys id := by
  induction skipped generalizing keys with
  | nil => simp [restore, Waiting]
  | cons worker rest ih =>
      have first : restore (worker :: rest) keys =
          restore rest (keys.enqueue worker.updatedAt worker.workerId) := rfl
      rw [first, ih]
      simp only [Waiting, PoolKeys.enqueue, SortedSet.mem_members_add, List.map_cons,
        List.mem_cons]
      tauto

theorem records_restore (skipped : List WorkerTable) (keys : PoolKeys) :
    (restore skipped keys).records = keys.records ∧
      (restore skipped keys).workers = keys.workers := by
  induction skipped generalizing keys with
  | nil => exact ⟨rfl, rfl⟩
  | cons worker rest ih => exact ih _

theorem indexed_restore {skipped : List WorkerTable}
    (consistent : Consistent (Waiting skipped keys) keys) : Indexed (restore skipped keys) := by
  intro id entry found
  rw [(records_restore skipped keys).1] at found
  obtain ⟨sound, idle, listed⟩ := consistent id entry found
  rw [(records_restore skipped keys).2]
  exact ⟨sound, idle.trans (members_restore skipped keys id).symm, listed⟩

theorem WorkerTable.isIdle_assigned (sessionId : String) (now : Nat) (worker : WorkerTable) :
    (worker.assigned sessionId now).isIdle = false := by
  simp [WorkerTable.isIdle, WorkerTable.assigned, WorkerTable.set, hasText]

/-- What holds between two rounds of the search. -/
structure Searching (rest : List String) (skipped : List WorkerTable) (keys : PoolKeys) :
    Prop where
  consistent : Consistent (Waiting skipped keys) keys
  distinct : rest.Nodup
  fresh : ∀ id ∈ rest, id ∉ skipped.map WorkerTable.workerId

/-- The other workers wait as before when one is taken off the sorted set. -/
theorem waiting_dequeue {skipped : List WorkerTable} {other : String} (different : other ≠ id)
    (same : after.idle = (keys.dequeue id).idle) :
    Waiting skipped after other ↔ Waiting skipped keys other := by
  simp only [Waiting, same, PoolKeys.dequeue, SortedSet.mem_members_remove, different, ne_eq,
    not_false_eq_true, and_true]

/-- The worker that is taken off does not wait any more. -/
theorem Searching.not_waiting {rest : List String} {skipped : List WorkerTable}
    (searching : Searching (id :: rest) skipped keys)
    (same : after.idle = (keys.dequeue id).idle) : ¬Waiting skipped after id := by
  rintro (queued | listed)
  · rw [same] at queued
    exact (SortedSet.mem_members_remove.mp queued).2 rfl
  · exact searching.fresh id (by simp) listed

/-- A round that leaves no idle record of its worker. -/
theorem Searching.taken {rest : List String} {skipped : List WorkerTable}
    (searching : Searching (id :: rest) skipped keys)
    (same : after.idle = (keys.dequeue id).idle)
    (others : ∀ other, other ≠ id → after.records other = keys.records other ∧
      after.workers other = keys.workers other)
    (own : ∀ entry, after.records id = some entry →
      Sound id entry.value ∧ entry.value.isIdle = false ∧ after.workers id = true) :
    Searching rest skipped after := by
  refine ⟨?_, searching.distinct.of_cons, fun other member => searching.fresh other (by simp [member])⟩
  apply searching.consistent.change id
  · intro other different
    obtain ⟨records, workers⟩ := others other different
    exact ⟨records, workers, waiting_dequeue different same⟩
  · intro entry found
    obtain ⟨sound, busy, listed⟩ := own entry found
    refine ⟨sound, iff_of_false ?_ (searching.not_waiting same), listed⟩
    rw [busy]
    exact Bool.false_ne_true

/-- A round that skips its worker. -/
theorem Searching.skip {rest : List String} {skipped : List WorkerTable}
    (searching : Searching (id :: rest) skipped keys) (found : keys.get id = some worker)
    (idle : worker.isIdle = true) (own : worker.workerId = id) :
    Searching rest (skipped ++ [worker]) (keys.dequeue id) := by
  have outside : id ∉ rest := (List.nodup_cons.mp searching.distinct).1
  refine ⟨?_, searching.distinct.of_cons, ?_⟩
  · apply searching.consistent.change id
    · intro other different
      refine ⟨rfl, rfl, ?_⟩
      rw [← @waiting_dequeue keys (keys.dequeue id) id skipped other different rfl]
      simp [Waiting, own, different]
    · intro entry stored
      obtain ⟨sound, _, listed⟩ := searching.consistent id entry stored
      have same : entry.value = worker := by
        have again : keys.get id = some entry.value :=
          Option.map_eq_some_iff.mpr ⟨entry, stored, rfl⟩
        exact Option.some.inj (again.symm.trans found)
      refine ⟨sound, iff_of_true (same ▸ idle) (.inr ?_), listed⟩
      simp [own]
  · intro other member listed
    simp only [List.map_append, List.map_cons, List.map_nil, List.mem_append,
      List.mem_singleton, own] at listed
    rcases listed with old | rfl
    · exact searching.fresh other (by simp [member]) old
    · exact outside member

/-- A round that assigns its worker. -/
theorem Searching.assigned {rest : List String} {skipped : List WorkerTable} {sessionId : String}
    {deadline : Nat} (searching : Searching (id :: rest) skipped keys) (sound : Sound id worker)
    (same : after.idle = (keys.dequeue id).idle)
    (records : after.records = ((keys.dequeue id).write clock id
      (worker.assigned sessionId now) deadline).records)
    (listed : after.workers id = true)
    (others : ∀ other, other ≠ id → after.workers other = keys.workers other) :
    Searching rest skipped after := by
  refine searching.taken same ?_ ?_
  · intro other different
    rw [records]
    exact ⟨Function.update_of_ne different .., others other different⟩
  · intro entry stored
    rw [records] at stored
    rw [value_write stored]
    exact ⟨⟨sound.own, sound.named, sound.expires⟩, WorkerTable.isIdle_assigned .., listed⟩

/-- The search ends with consistent indexes. -/
theorem Searching.allocateLoop {sessionId : String} {assignment : Option Json} {filters : Fields}
    {rest : List String} {skipped : List WorkerTable} (searching : Searching rest skipped keys) :
    Indexed (allocateLoop clock now tostring fallback sessionId assignment filters rest skipped
      keys) := by
  induction rest generalizing skipped keys with
  | nil => exact indexed_restore searching.consistent
  | cons id rest ih =>
      simp only [PoolIndex.allocateLoop]
      split
      next missing =>
        -- a dangling entry of the sorted set
        apply ih
        refine searching.taken rfl ?_ ?_
        · intro other different
          exact ⟨rfl, Function.update_of_ne different ..⟩
        · intro entry stored
          have found : (keys.dequeue id).get id = some entry.value :=
            Option.map_eq_some_iff.mpr ⟨entry, stored, rfl⟩
          rw [missing] at found
          cases found
      next worker found =>
        obtain ⟨sound, idle, listed⟩ := searching.consistent.get found
        obtain ⟨time, expires, valid⟩ := sound.expires
        split
        · -- an expired record or one without an owner
          apply ih
          refine searching.taken rfl ?_ ?_
          · intro other different
            exact ⟨Function.update_of_ne different .., Function.update_of_ne different ..⟩
          · intro entry stored
            simp [PoolKeys.delete, PoolKeys.discharge, PoolKeys.dequeue] at stored
        · split
          · -- the worker is assigned
            simp only [expires, Option.getD_some]
            obtain ⟨deadline, accepted⟩ := Option.isSome_iff_exists.mp valid
            simp only [accepted]
            apply indexed_restore
            have extended : Sound id { worker with expiresAt := some time } :=
              ⟨sound.own, sound.named, time, rfl, valid⟩
            cases assignment with
            | none =>
                exact Searching.consistent
                  (searching.assigned extended rfl rfl listed fun _ _ => rfl)
            | some payload =>
                refine Searching.consistent (searching.assigned extended rfl rfl ?_ ?_)
                · simp [PoolKeys.assign, PoolKeys.enlist, WorkerTable.assigned, sound.own]
                · intro other different
                  refine Function.update_of_ne ?_ ..
                  exact fun same => different (same.trans extended.own)
          · split
            next unlimited =>
              rw [expires] at unlimited
              cases unlimited
            next =>
              -- the worker is passed by
              have same : { worker with
                  expiresAt := some (worker.expiresAt.getD fallback) } = worker := by
                cases worker
                cases expires
                rfl
              rw [same]
              apply ih
              split
              next waits => exact searching.skip found waits sound.own
              next busy =>
                refine searching.taken rfl (fun _ _ => ⟨rfl, rfl⟩) ?_
                intro entry stored
                have again : keys.get id = some entry.value :=
                  Option.map_eq_some_iff.mpr ⟨entry, stored, rfl⟩
                have value := Option.some.inj (again.symm.trans found)
                rw [value]
                exact ⟨sound, eq_false_of_ne_true busy, listed⟩

/-- The conditions on a call: an expiry time that is not past is one that Redis takes, and a
registered worker has an identifier. -/
def Expirable (keys : PoolKeys) : PoolCall → Prop
  | .registerWorker workerId _ now expiresAt =>
      expiresAt ≤ now ∨ workerId ≠ "" ∧ (expireTime expiresAt).isSome = true
  | .markWorkerIdle workerId _ now expiresAt =>
      keys.get workerId ≠ none → expiresAt ≤ now ∨ (expireTime expiresAt).isSome = true
  | .markWorkerBusy workerId _ now expiresAt =>
      keys.get workerId ≠ none → expiresAt ≤ now ∨ (expireTime expiresAt).isSome = true
  | .heartbeatWorker workerId _ now expiresAt =>
      keys.get workerId ≠ none → expiresAt ≤ now ∨ (expireTime expiresAt).isSome = true
  | _ => True

/-- The search starts with no worker skipped. -/
theorem Indexed.searching (indexed : Indexed keys) : Searching keys.idle.members [] keys where
  consistent := by
    intro id entry found
    obtain ⟨sound, idle, listed⟩ := indexed id entry found
    exact ⟨sound, idle.trans (by simp [Waiting]), listed⟩
  distinct := keys.idle.unique
  fresh := by simp

/-- Every script keeps the indexes. -/
theorem Indexed.script {call : PoolCall} (indexed : Indexed keys)
    (expirable : Expirable keys call) : Indexed (script tostring clock call keys) := by
  cases call with
  | registerWorker workerId input now expiresAt =>
      exact indexed.saveWorkerChanges rfl expirable
  | markWorkerIdle workerId patch now expiresAt =>
      simp only [PoolIndex.script]
      refine indexed.changeWorker (fun _ => rfl) ?_
      intro worker found
      exact expirable (Option.ne_none_iff_exists'.mpr ⟨worker, found⟩)
  | markWorkerBusy workerId patch now expiresAt =>
      simp only [PoolIndex.script]
      refine indexed.changeWorker (fun _ => rfl) ?_
      intro worker found
      exact expirable (Option.ne_none_iff_exists'.mpr ⟨worker, found⟩)
  | heartbeatWorker workerId patch now expiresAt =>
      simp only [PoolIndex.script]
      refine indexed.changeWorker (fun _ => rfl) ?_
      intro worker found
      exact expirable (Option.ne_none_iff_exists'.mpr ⟨worker, found⟩)
  | claimSocketOwnership workerId owner now fallback =>
      simp only [PoolIndex.script]
      refine indexed.changeWorker (fun _ => rfl) ?_
      intro worker found
      exact .inr (indexed.savable_owner owner.recode found)
  | releaseSocketOwnership workerId owner now fallback => exact indexed.releaseSocketOwner _
  | allocateWorker sessionId filters now fallback => exact indexed.searching.allocateLoop
  | allocateWorkerWithAssignment sessionId payload filters now fallback =>
      exact indexed.searching.allocateLoop
  | unregisterWorker workerId =>
      apply indexed.change workerId
      · intro other different
        refine ⟨Function.update_of_ne different .., Function.update_of_ne different .., ?_⟩
        simp [PoolIndex.script, PoolKeys.dequeue, PoolKeys.discharge, PoolKeys.delete,
          SortedSet.mem_members_remove, different]
      · intro entry found
        simp [PoolIndex.script, PoolKeys.delete, PoolKeys.discharge, PoolKeys.dequeue] at found

theorem Indexed.step {call : PoolCall} (indexed : Indexed keys)
    (expirable : Expirable (keys.purge clock) call) :
    Indexed (step tostring clock call keys) :=
  Indexed.script (Consistent.purge indexed clock) expirable

end Invariant

/-! ## Runs -/

/-- The calls in order, each at a time of the server. -/
def run (tostring : Json → String) : List (Nat × PoolCall) → PoolKeys → PoolKeys
  | [], keys => keys
  | (clock, call) :: rest, keys => run tostring rest (step tostring clock call keys)

/-- Every call of the run meets the conditions in the state that it finds. -/
def ExpirableRun (tostring : Json → String) : List (Nat × PoolCall) → PoolKeys → Prop
  | [], _ => True
  | (clock, call) :: rest, keys =>
      Expirable (keys.purge clock) call ∧
        ExpirableRun tostring rest (step tostring clock call keys)

theorem Indexed.run {tostring : Json → String} {calls : List (Nat × PoolCall)}
    {keys : PoolKeys} (indexed : Indexed keys) (expirable : ExpirableRun tostring calls keys) :
    Indexed (run tostring calls keys) := by
  induction calls generalizing keys with
  | nil => exact indexed
  | cons timed rest ih => exact ih (indexed.step expirable.1) expirable.2

/-- What is seen of the pool at a time: an idle worker's record is idle, an idle record is among
the idle workers, and every record is among the workers. -/
structure AgreesAt (time : Nat) (keys : PoolKeys) : Prop where
  idle_of_queued : ∀ id ∈ keys.idle.members, ∀ worker, keys.read time id = some worker →
    worker.isIdle = true
  queued_of_idle : ∀ id worker, keys.read time id = some worker → worker.isIdle = true →
    id ∈ keys.idle.members
  listed : ∀ id worker, keys.read time id = some worker → keys.workers id = true

theorem Indexed.agreesAt {keys : PoolKeys} (indexed : Indexed keys) (time : Nat) :
    AgreesAt time keys := by
  have stored : ∀ id worker, keys.read time id = some worker →
      (worker.isIdle = true ↔ id ∈ keys.idle.members) ∧ keys.workers id = true := by
    intro id worker found
    obtain ⟨entry, present, -, rfl⟩ := Entry.read_eq_some.mp found
    exact (indexed id entry present).2
  exact
    { idle_of_queued := fun id queued worker found => (stored id worker found).1.mpr queued
      queued_of_idle := fun id worker found => (stored id worker found).1.mp
      listed := fun id worker found => (stored id worker found).2 }

/-- The main result: after any calls with expiry times that Redis takes, at any times, the
indexes agree with the records. -/
theorem indexes_agree_with_records (tostring : Json → String) (calls : List (Nat × PoolCall))
    (expirable : ExpirableRun tostring calls .empty) (time : Nat) :
    AgreesAt time (run tostring calls .empty) := by
  have start : Indexed .empty := fun _ _ found => nomatch found
  exact (start.run expirable).agreesAt time

/-- Registrations of two workers with sockets, with leases of 1000 ms, and an allocation. -/
def leaseCalls : List (Nat × PoolCall) :=
  let owned : Fields := [("socketOwner", .obj [("connectionId", .str "socket-1")])]
  [(1000, .registerWorker "worker-1" owned 1000 2000),
    (1001, .registerWorker "worker-2" owned 1001 2001),
    (1002, .allocateWorker "sess-1" [] 1002 2002)]

theorem indexes_agree_after_allocation :
    AgreesAt 1002 (run (fun _ => "") leaseCalls .empty) ∧
      (run (fun _ => "") leaseCalls .empty).workers "worker-1" = true ∧
      (run (fun _ => "") leaseCalls .empty).idle.members = ["worker-2"] := by
  have expirable : ExpirableRun (fun _ => "") leaseCalls .empty :=
    ⟨.inr ⟨by decide, by rfl⟩, .inr ⟨by decide, by rfl⟩, trivial, trivial⟩
  refine ⟨indexes_agree_with_records (fun _ => "") leaseCalls expirable 1002, ?_, ?_⟩
  · decide +kernel
  · decide +kernel

/-- A registration at 1000 with a lease of 1000.5 ms: `PEXPIREAT` fails after the record is
written, and the worker is in neither set. -/
theorem fractional_lease_is_not_indexed :
    ¬AgreesAt 1000 (run (fun _ => "")
      [(1000, .registerWorker "worker-1" [] 1000 (1000 + 2001 / 2))] .empty) := by
  intro agrees
  have late : ¬(1000 + 2001 / 2 : ℚ) ≤ (1000 : Nat) := by decide +kernel
  have refused : expireTime (1000 + 2001 / 2) = none := by decide +kernel
  have stored : (run (fun _ => "")
      [(1000, .registerWorker "worker-1" [] 1000 (1000 + 2001 / 2))] .empty).workers "worker-1" =
        true := by
    refine agrees.listed "worker-1"
      (.registered "worker-1" [] none 1000 (1000 + 2001 / 2)) ?_
    simp only [run, step, script, saveWorkerChanges, WorkerTable.registered, Option.getD_some,
      if_neg late, refused]
    rfl
  simp only [run, step, script, saveWorkerChanges, WorkerTable.registered, Option.getD_some,
    if_neg late, refused] at stored
  cases stored

end RemoteBrowser.PoolIndex
