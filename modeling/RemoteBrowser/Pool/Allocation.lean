import RemoteBrowser.Pool.Index

/-!
# Allocation from the pool

The allocation scripts take the idle workers off the sorted set one by one, until one of them
matches the filters.  Workers that have expired or lost their socket are dropped; workers that
do not match are put back with the time of their record for a score.  A record without an expiry
time is given one on the way, which fails like every `PEXPIREAT` at a time that is no integer.
-/

namespace RemoteBrowser.PoolIndex

open Redis Json

/-! ## The index -/

/-- Records are stored under their identifiers, and a queued worker's record is idle. -/
structure Agrees (keys : PoolKeys) : Prop where
  own : ∀ id worker, keys.get id = some worker → worker.workerId = id
  idle_iff : ∀ id worker, keys.get id = some worker →
    (worker.isIdle = true ↔ id ∈ keys.idle.members)

/-! ## The search -/

inductive AllocationReply where
  /-- a command has failed -/
  | failed
  | nobody
  | worker (record : WorkerTable)

/-- What a round of the search leads to. -/
inductive Round where
  | next (skipped : List WorkerTable) (keys : PoolKeys)
  | reply (answer : AllocationReply) (keys : PoolKeys)

/-- The arguments of an allocation script, and the time of the Redis server. -/
structure Allocation where
  clock : Nat
  now : Nat
  fallback : ℚ
  sessionId : String
  /-- only of `ALLOCATE_AND_QUEUE_WORKER_SCRIPT` -/
  assignment : Option Json
  filters : Fields
  tostring : Json → String

namespace Allocation

variable (call : Allocation)

def expiry (worker : WorkerTable) : ℚ := worker.expiresAt.getD call.fallback

/-- The record with an expiry time. -/
def extended (worker : WorkerTable) : WorkerTable :=
  { worker with expiresAt := some (call.expiry worker) }

def matchesFilters (worker : WorkerTable) : Bool :=
  filterKeys.all (matchesFilter call.tostring call.filters worker)

/-- The record that the worker is assigned with. -/
def chosen (worker : WorkerTable) : WorkerTable :=
  (call.extended worker).assigned call.sessionId call.now

/-- The assignment is queued for the chosen worker. -/
def queued (chosen : WorkerTable) (keys : PoolKeys) : PoolKeys :=
  match call.assignment with
  | none => keys
  | some payload => (keys.enlist chosen.workerId).assign chosen.workerId payload

/-- A round of the loop, for a worker that was taken off the idle workers. -/
def round (id : String) (skipped : List WorkerTable) (keys : PoolKeys) : Round :=
  match keys.get id with
  | none => .next skipped (keys.discharge id)
  | some worker =>
      let kept := if worker.isIdle then skipped ++ [call.extended worker] else skipped
      if call.expiry worker ≤ call.now ∨ worker.isOwned = false then
        .next skipped ((keys.delete id).discharge id)
      else if worker.isIdle && call.matchesFilters worker then
        match expireTime (call.expiry worker) with
        | none => .reply .failed (keys.set id (call.chosen worker))
        | some time =>
            let keys := keys.write call.clock id (call.chosen worker) time
            .reply (.worker (call.chosen worker))
              (restore skipped (call.queued (call.chosen worker) keys))
      else if worker.expiresAt = none then
        match expireTime (call.expiry worker) with
        | none => .reply .failed (keys.set id (call.extended worker))
        | some time => .next kept (keys.write call.clock id (call.extended worker) time)
      else .next kept keys

/-- The keys after the script in the model of all scripts. -/
def loop (queue : List String) (skipped : List WorkerTable) (keys : PoolKeys) : PoolKeys :=
  allocateLoop call.clock call.now call.tostring call.fallback call.sessionId call.assignment
    call.filters queue skipped keys

variable {call} {keys after : PoolKeys} {skipped : List WorkerTable} {answer : AllocationReply}

/-- Taking the first member off leaves the others in order. -/
theorem entries_dequeue {entry : Scored String} {rest : List (Scored String)}
    (queue : keys.idle.entries = entry :: rest) :
    (keys.dequeue entry.member).idle.entries = rest := by
  have unique := keys.idle.unique
  rw [queue, List.map_cons, List.nodup_cons] at unique
  simp only [PoolKeys.dequeue, SortedSet.remove, queue]
  rw [List.filter_cons_of_neg (by simp), List.filter_eq_self]
  intro other listed
  apply decide_eq_true
  intro same
  exact unique.1 (same ▸ List.mem_map_of_mem listed)

variable (call)

/-- The record of an idle worker with a socket whose lease has not ended. -/
structure Live (keys : PoolKeys) (id : String) (worker : WorkerTable) : Prop where
  found : keys.get id = some worker
  idle : worker.isIdle = true
  owned : worker.isOwned = true
  unexpired : call.now < call.expiry worker

/-- The search goes on after the worker. -/
def Passes (keys : PoolKeys) (id : String) : Prop :=
  ∀ worker, call.Live keys id worker → call.matchesFilters worker = false ∧
    (worker.expiresAt = none → (expireTime call.fallback).isSome = true)

/-- The worker that is put back later. -/
def spared (keys : PoolKeys) (id : String) : Option WorkerTable :=
  (keys.get id).bind fun worker =>
    if call.expiry worker ≤ call.now ∨ worker.isOwned = false then none
    else some (call.extended worker)

/-- The keys after the round of a worker that is passed by. -/
def passed (id : String) (keys : PoolKeys) : PoolKeys :=
  match keys.get id with
  | none => (keys.dequeue id).discharge id
  | some worker =>
      if call.expiry worker ≤ call.now ∨ worker.isOwned = false then
        ((keys.dequeue id).delete id).discharge id
      else
        match worker.expiresAt, expireTime call.fallback with
        | none, some time => (keys.dequeue id).write call.clock id (call.extended worker) time
        | _, _ => keys.dequeue id

def passAll : List String → PoolKeys → PoolKeys
  | [], keys => keys
  | id :: rest, keys => passAll rest (call.passed id keys)

variable {call} {id : String} {worker : WorkerTable}

theorem passed_idle : (call.passed id keys).idle = (keys.dequeue id).idle := by
  unfold passed
  split
  · rfl
  · split
    · rfl
    · split <;> rfl

theorem passed_pending : (call.passed id keys).pending = keys.pending := by
  unfold passed
  split
  · rfl
  · split
    · rfl
    · split <;> rfl

/-- A round changes the record of its own worker only. -/
theorem passed_records_of_ne {other : String} (different : other ≠ id) :
    (call.passed id keys).records other = keys.records other := by
  unfold passed
  split
  · rfl
  · split
    · exact Function.update_of_ne different ..
    · split
      · exact Function.update_of_ne different ..
      · rfl

/-- What is put back later depends on nothing but the record. -/
theorem spared_congr {others : PoolKeys} (same : keys.records id = others.records id) :
    call.spared keys id = call.spared others id := by
  have found : keys.get id = others.get id := congrArg (Option.map Entry.value) same
  rw [spared, found, spared]

theorem live_congr {others : PoolKeys} (same : keys.records id = others.records id) :
    call.Live keys id worker ↔ call.Live others id worker := by
  have found : keys.get id = others.get id := congrArg (Option.map Entry.value) same
  constructor
  case mp => exact fun live => ⟨found ▸ live.found, live.idle, live.owned, live.unexpired⟩
  case mpr => exact fun live => ⟨found ▸ live.found, live.idle, live.owned, live.unexpired⟩

theorem passes_congr {others : PoolKeys} (same : keys.records id = others.records id) :
    call.Passes keys id ↔ call.Passes others id := by
  unfold Passes
  simp only [live_congr same]

/-- How a search ends: all workers are passed by, or it stops at the first one that is not. -/
inductive Ends (call : Allocation) (skipped : List WorkerTable) (keys : PoolKeys) :
    AllocationReply → PoolKeys → Prop where
  | nobody (passes : ∀ entry ∈ keys.idle.entries, call.Passes keys entry.member) :
      Ends call skipped keys .nobody
        (restore
          (skipped ++ keys.idle.entries.filterMap fun entry => call.spared keys entry.member)
          (call.passAll (keys.idle.entries.map Scored.member) keys))
  | stops {front rest : List (Scored String)} {entry : Scored String} {answer : AllocationReply}
      {after met : PoolKeys} (queue : keys.idle.entries = front ++ entry :: rest)
      (passes : ∀ earlier ∈ front, call.Passes keys earlier.member)
      (stopped : ¬ call.Passes keys entry.member)
      (remaining : met.idle.entries = rest)
      (others : met.records = (call.passAll (front.map Scored.member) keys).records)
      (pending : met.pending = keys.pending)
      (round : call.round entry.member
        (skipped ++ front.filterMap fun earlier => call.spared keys earlier.member) met =
          .reply answer after) :
      Ends call skipped keys answer after

theorem passed_records_of_rest {entry later : Scored String} {rest : List (Scored String)}
    (queue : keys.idle.entries = entry :: rest) (listed : later ∈ rest) :
    (call.passed entry.member keys).records later.member = keys.records later.member := by
  have unique := keys.idle.unique
  rw [queue, List.map_cons, List.nodup_cons] at unique
  apply passed_records_of_ne
  intro equal
  exact unique.1 (equal ▸ List.mem_map_of_mem listed)

/-- A search that goes on after its first worker ends as the rest of it does. -/
theorem Ends.cons {entry : Scored String} {rest : List (Scored String)}
    (queue : keys.idle.entries = entry :: rest) (passes : call.Passes keys entry.member)
    (ends : Ends call (skipped ++ (call.spared keys entry.member).toList)
      (call.passed entry.member keys) answer after) :
    Ends call skipped keys answer after := by
  have left : (call.passed entry.member keys).idle.entries = rest := by
    rw [passed_idle, entries_dequeue queue]
  have sparedAll : ∀ some : List (Scored String), some ⊆ rest →
      skipped ++ (call.spared keys entry.member).toList ++
          some.filterMap (fun later =>
            call.spared (call.passed entry.member keys) later.member) =
        skipped ++ (entry :: some).filterMap fun later => call.spared keys later.member := by
    intro some listed
    rw [List.append_assoc]
    congr 1
    rw [List.filterMap_congr (g := fun later => call.spared keys later.member)]
    · cases head : call.spared keys entry.member <;> simp [head]
    · intro later member
      exact spared_congr (passed_records_of_rest queue (listed member))
  cases ends with
  | nobody passesRest =>
      rw [left] at passesRest ⊢
      rw [sparedAll rest (List.Subset.refl _)]
      have all := @Ends.nobody call skipped keys (by
        intro later listed
        rw [queue] at listed
        cases List.mem_cons.mp listed with
        | inl same => exact same ▸ passes
        | inr member =>
            exact (passes_congr (passed_records_of_rest queue member)).mp
              (passesRest later member))
      rw [queue] at all
      exact all
  | @stops front back stopper _ _ met split passesFront stopped remaining others pending round =>
      rw [left] at split
      have frontListed : front ⊆ rest := by
        rw [split]
        exact List.subset_append_left ..
      have stopperListed : stopper ∈ rest := by rw [split]; simp
      refine @Ends.stops call skipped keys (entry :: front) back stopper answer after met
        (by rw [queue, split]; rfl) ?_ ?_ remaining others (pending.trans passed_pending) ?_
      · intro earlier listed
        cases List.mem_cons.mp listed with
        | inl same => exact same ▸ passes
        | inr member =>
            exact (passes_congr (passed_records_of_rest queue (frontListed member))).mp
              (passesFront earlier member)
      · exact fun stopperPasses => stopped
          ((passes_congr (passed_records_of_rest queue stopperListed)).mpr stopperPasses)
      · rw [← sparedAll front frontListed]
        exact round

end Allocation

end RemoteBrowser.PoolIndex
