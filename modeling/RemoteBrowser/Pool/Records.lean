import RemoteBrowser.Pool.Store

/-!
# Effects of the pool scripts on one record

Everything a single script can do to the record of a worker.  Most scripts keep its
state and its session; `registerWorker` and `markWorkerIdle` make it idle, and only an
idle record with a socket owner is ever allocated.
-/

namespace RemoteBrowser

open Redis

/-- The two records agree in what allocation depends on; a socket owner may have been
cleared. -/
structure PoolWorker.Agrees (before after : PoolWorker) : Prop where
  workerId : after.workerId = before.workerId
  state : after.state = before.state
  sessionId : after.sessionId = before.sessionId
  socketOwner : after.socketOwner = before.socketOwner ∨ after.socketOwner = none

theorem PoolWorker.Agrees.refl (worker : PoolWorker) : worker.Agrees worker :=
  ⟨rfl, rfl, rfl, .inl rfl⟩

theorem PoolWorker.Agrees.trans {first second third : PoolWorker}
    (before : first.Agrees second) (behind : second.Agrees third) : first.Agrees third := by
  refine ⟨behind.workerId.trans before.workerId, behind.state.trans before.state,
    behind.sessionId.trans before.sessionId, ?_⟩
  rcases behind.socketOwner with same | cleared
  · rcases before.socketOwner with sameBefore | clearedBefore
    · exact .inl (same.trans sameBefore)
    · exact .inr (same.trans clearedBefore)
  · exact .inr cleared

/-- A record that can be allocated. -/
structure PoolWorker.Allocatable (worker : PoolWorker) : Prop where
  idle : worker.state = "idle"
  owned : worker.socketOwner ≠ none

theorem PoolWorker.Agrees.allocatable {before after : PoolWorker}
    (agrees : before.Agrees after) (allocatable : after.Allocatable) : before.Allocatable := by
  refine ⟨agrees.state.symm.trans allocatable.idle, fun unowned => ?_⟩
  rcases agrees.socketOwner with same | cleared
  · exact allocatable.owned (same.trans unowned)
  · exact allocatable.owned cleared

/-- The record that an allocation writes. -/
structure PoolWorker.AssignedTo (before : PoolWorker) (sessionId : SessionId)
    (after : PoolWorker) : Prop where
  workerId : after.workerId = before.workerId
  state : after.state = "assigned"
  session : after.sessionId = some sessionId
  socketOwner : after.socketOwner = before.socketOwner

theorem PoolWorker.Agrees.assignedTo {before middle after : PoolWorker}
    {sessionId : SessionId} (agrees : before.Agrees middle) (allocatable : middle.Allocatable)
    (assigned : middle.AssignedTo sessionId after) : before.AssignedTo sessionId after := by
  refine ⟨assigned.workerId.trans agrees.workerId, assigned.state, assigned.session, ?_⟩
  rcases agrees.socketOwner with same | cleared
  · exact assigned.socketOwner.trans same
  · exact absurd cleared allocatable.owned

namespace RedisWorkerPool

variable {leaseTtlMs now : Nat} {pool : RedisWorkerPool} {workerId other : PoolWorkerId}
  {found : PoolWorker}

/-- Every record is stored under its own identifier. -/
def Keyed (now : Nat) (pool : RedisWorkerPool) : Prop :=
  ∀ workerId worker, pool.loadWorker now workerId = some worker → worker.workerId = workerId

theorem loadWorker_writeWorker {worker : PoolWorker} {expiry : Nat}
    (loaded : (pool.writeWorker now other worker expiry).loadWorker now workerId = some found) :
    workerId ≠ other ∧ pool.loadWorker now workerId = some found ∨
      workerId = other ∧ found = worker := by
  by_cases same : workerId = other
  · subst same
    simp only [loadWorker, writeWorker, Function.update_self] at loaded
    obtain ⟨entry, slot, -, value⟩ := Entry.read_eq_some.mp loaded
    unfold Entry.save at slot
    split at slot
    · simp at slot
    · cases slot
      exact .inr ⟨rfl, value.symm⟩
  · exact .inl ⟨same, by
      simpa [loadWorker, writeWorker, Function.update_of_ne same] using loaded⟩

theorem loadWorker_dropWorker
    (loaded : (pool.dropWorker other).loadWorker now workerId = some found) :
    pool.loadWorker now workerId = some found ∧ workerId ≠ other := by
  by_cases same : workerId = other
  · simp [loadWorker, dropWorker, same] at loaded
  · exact ⟨by simpa [loadWorker, dropWorker, Function.update_of_ne same] using loaded, same⟩

theorem loadWorker_saveWorkerChanges {worker : PoolWorker} {fallbackExpiresAt : Nat}
    (loaded : (pool.saveWorkerChanges now fallbackExpiresAt worker).1.loadWorker now workerId =
      some found) :
    pool.loadWorker now workerId = some found ∨
      workerId = worker.workerId ∧
        found = { worker with expiresAt := some (worker.expiresAt.getD fallbackExpiresAt) } := by
  simp only [saveWorkerChanges] at loaded
  split at loaded
  · exact .inl (loadWorker_dropWorker loaded).1
  · exact (loadWorker_writeWorker loaded).imp_left And.right

/-! ## Allocation -/

/-- No record of the second pool is new or more than an older one. -/
def Weakens (now : Nat) (before after : RedisWorkerPool) : Prop :=
  ∀ workerId found, after.loadWorker now workerId = some found →
    ∃ record, before.loadWorker now workerId = some record ∧ record.Agrees found

section Allocation

variable {fallbackExpiresAt : Nat} {sessionId : SessionId} {payload : Assignment}
  {filters : WorkerTraits}

/-- One round of the search either goes on or makes an assignment. -/
theorem allocateLoop_cons (first : PoolWorkerId) (rest : List PoolWorkerId)
    (skipped : List PoolWorker) (pool : RedisWorkerPool) :
    (∃ skipped' pool',
      allocateLoop now fallbackExpiresAt sessionId payload filters (first :: rest) skipped pool =
        allocateLoop now fallbackExpiresAt sessionId payload filters rest skipped' pool' ∧
      Weakens now pool pool') ∨
    (∃ pool' record chosen,
      allocateLoop now fallbackExpiresAt sessionId payload filters (first :: rest) skipped pool =
        (pool', some chosen) ∧
      pool.loadWorker now first = some record ∧ record.Allocatable ∧
      record.AssignedTo sessionId chosen ∧
      ∀ workerId found, pool'.loadWorker now workerId = some found →
        workerId ≠ first ∧ pool.loadWorker now workerId = some found ∨
          workerId = first ∧ found = chosen) := by
  have unchanged : Weakens now pool pool := fun _ found loaded => ⟨found, loaded, .refl found⟩
  simp only [allocateLoop]
  split
  · exact .inl ⟨_, _, rfl, unchanged⟩
  · next worker loaded =>
      have dropped : Weakens now pool (pool.dropWorker first) := fun _ found loaded =>
        ⟨found, (loadWorker_dropWorker loaded).1, .refl found⟩
      -- a record that is given an expiry keeps everything else
      have kept (base : RedisWorkerPool) (same : base.workers = pool.workers) :
          Weakens now pool (if worker.expiresAt = none then
            base.writeWorker now first { worker with
              expiresAt := some (worker.expiresAt.getD fallbackExpiresAt) }
              (worker.expiresAt.getD fallbackExpiresAt) else base) := by
        have sameRecords (workerId : PoolWorkerId) :
            base.loadWorker now workerId = pool.loadWorker now workerId := by
          simp only [loadWorker, same]
        intro workerId found reloaded
        split at reloaded
        · rcases loadWorker_writeWorker reloaded with ⟨-, old⟩ | ⟨rfl, rfl⟩
          · exact ⟨found, sameRecords workerId ▸ old, .refl found⟩
          · exact ⟨worker, loaded, rfl, rfl, rfl, .inl rfl⟩
        · exact ⟨found, sameRecords workerId ▸ reloaded, .refl found⟩
      split
      · exact .inl ⟨_, _, rfl, dropped⟩
      · next usable =>
          split
          · next idle =>
              split
              · refine .inr ⟨_, worker, _, rfl, loaded, ⟨idle, fun unowned =>
                  usable (.inr unowned)⟩, ⟨rfl, rfl, rfl, rfl⟩, ?_⟩
                intro workerId found reloaded
                exact loadWorker_writeWorker reloaded
              · exact .inl ⟨_, _, rfl, kept _ rfl⟩
          · exact .inl ⟨_, _, rfl, kept _ rfl⟩

/-- What a search over the idle index leaves of a record: the same record up to its
expiry, or the assignment it made. -/
theorem loadWorker_allocateLoop {ids : List PoolWorkerId} {skipped : List PoolWorker}
    (loaded : (allocateLoop now fallbackExpiresAt sessionId payload filters ids skipped
      pool).1.loadWorker now workerId = some found) :
    ∃ record, pool.loadWorker now workerId = some record ∧
      (record.Agrees found ∨ record.Allocatable ∧ record.AssignedTo sessionId found) := by
  induction ids generalizing skipped pool with
  | nil => exact ⟨found, loaded, .inl (.refl found)⟩
  | cons first rest ih =>
      rcases allocateLoop_cons first rest skipped pool with
        ⟨skipped', pool', continues, weakens⟩ |
        ⟨pool', record, chosen, chooses, loadedFirst, allocatable, assigned, others⟩
      · rw [continues] at loaded
        obtain ⟨middle, loadedMiddle, outcome⟩ := ih loaded
        obtain ⟨record, loadedRecord, agrees⟩ := weakens workerId middle loadedMiddle
        refine ⟨record, loadedRecord, outcome.imp agrees.trans ?_⟩
        rintro ⟨allocatable, assigned⟩
        exact ⟨agrees.allocatable allocatable, agrees.assignedTo allocatable assigned⟩
      · rw [chooses] at loaded
        rcases others workerId found loaded with ⟨-, old⟩ | ⟨rfl, rfl⟩
        · exact ⟨found, old, .inl (.refl found)⟩
        · exact ⟨record, loadedFirst, .inr ⟨allocatable, assigned⟩⟩

/-- An allocated worker had an idle record with a socket owner. -/
theorem allocatable_of_allocateLoop {ids : List PoolWorkerId} {skipped : List PoolWorker}
    {chosen : PoolWorker}
    (allocated : (allocateLoop now fallbackExpiresAt sessionId payload filters ids skipped
      pool).2 = some chosen) :
    ∃ workerId record, pool.loadWorker now workerId = some record ∧ record.Allocatable ∧
      record.AssignedTo sessionId chosen := by
  induction ids generalizing skipped pool with
  | nil => simp [allocateLoop] at allocated
  | cons first rest ih =>
      rcases allocateLoop_cons first rest skipped pool with
        ⟨skipped', pool', continues, weakens⟩ |
        ⟨pool', record, other, chooses, loadedFirst, allocatable, assigned, -⟩
      · rw [continues] at allocated
        obtain ⟨workerId, middle, loaded, allocatable, assigned⟩ := ih allocated
        obtain ⟨record, loadedRecord, agrees⟩ := weakens workerId middle loaded
        exact ⟨workerId, record, loadedRecord, agrees.allocatable allocatable,
          agrees.assignedTo allocatable assigned⟩
      · rw [chooses] at allocated
        cases allocated
        exact ⟨first, record, loadedFirst, allocatable, assigned⟩

/-- The record of an allocated worker is the assignment. -/
theorem loadWorker_of_allocateLoop {ids : List PoolWorkerId} {skipped : List PoolWorker}
    {chosen : PoolWorker} (keyed : pool.Keyed now)
    (allocated : (allocateLoop now fallbackExpiresAt sessionId payload filters ids skipped
      pool).2 = some chosen)
    (loaded : (allocateLoop now fallbackExpiresAt sessionId payload filters ids skipped
      pool).1.loadWorker now chosen.workerId = some found) : found = chosen := by
  induction ids generalizing skipped pool with
  | nil => simp [allocateLoop] at allocated
  | cons first rest ih =>
      rcases allocateLoop_cons first rest skipped pool with
        ⟨skipped', pool', continues, weakens⟩ |
        ⟨pool', record, other, chooses, loadedFirst, -, assigned, others⟩
      · rw [continues] at allocated loaded
        refine ih (fun workerId worker reloaded => ?_) allocated loaded
        obtain ⟨record, loadedRecord, agrees⟩ := weakens workerId worker reloaded
        exact agrees.workerId.trans (keyed workerId record loadedRecord)
      · rw [chooses] at allocated loaded
        cases allocated
        have own : chosen.workerId = first :=
          assigned.workerId.trans (keyed first record loadedFirst)
        rcases others _ found loaded with ⟨different, -⟩ | ⟨-, same⟩
        · exact absurd own different
        · exact same

end Allocation

/-! ## All scripts -/

/-- What one script can do to the record of a worker. -/
inductive Rewrites (now : Nat) (pool : RedisWorkerPool) (workerId : PoolWorkerId)
    (found : PoolWorker) : PoolOp → Prop where
  | kept {op : PoolOp} {record : PoolWorker}
      (before : pool.loadWorker now workerId = some record) (agrees : record.Agrees found) :
      Rewrites now pool workerId found op
  | registered {traits : WorkerTraits} {owner : Connection}
      (own : found.workerId = workerId) :
      Rewrites now pool workerId found (.registerWorker workerId traits owner)
  | idled {traits : WorkerTraits} {record : PoolWorker}
      (before : pool.loadWorker now workerId = some record)
      (own : found.workerId = record.workerId) (free : found.sessionId = none)
      (owner : found.socketOwner = record.socketOwner) :
      Rewrites now pool workerId found (.markWorkerIdle workerId traits)
  | busied {state : String} {sessionId : Option SessionId} {traits : WorkerTraits}
      {record : PoolWorker} (before : pool.loadWorker now workerId = some record)
      (own : found.workerId = record.workerId)
      (busy : found.state = if state = "" then "assigned" else state) :
      Rewrites now pool workerId found (.markWorkerBusy workerId state sessionId traits)
  | allocated {sessionId : SessionId} {payload : Assignment} {filters : WorkerTraits}
      {record : PoolWorker} (before : pool.loadWorker now workerId = some record)
      (allocatable : record.Allocatable) (assigned : record.AssignedTo sessionId found) :
      Rewrites now pool workerId found
        (.allocateWorkerWithAssignment sessionId payload filters)

theorem loadWorker_changeWorker {change : PoolWorker → PoolWorker} (keyed : pool.Keyed now)
    (loaded : (pool.changeWorker leaseTtlMs now other change).1.loadWorker now workerId =
      some found)
    (own : ∀ worker, (change worker).workerId = worker.workerId) :
    pool.loadWorker now workerId = some found ∨
      workerId = other ∧ ∃ record, pool.loadWorker now workerId = some record ∧
        found = { change record with
          expiresAt := some ((change record).expiresAt.getD (now + leaseTtlMs)) } := by
  unfold changeWorker at loaded
  split at loaded
  · exact .inl loaded
  · next record before =>
      rcases loadWorker_saveWorkerChanges loaded with kept | ⟨same, rfl⟩
      · exact .inl kept
      · have isOther : workerId = other :=
          same.trans ((own record).trans (keyed other record before))
        subst isOther
        exact .inr ⟨rfl, record, before, rfl⟩

/-- Inversion of a script: where a readable record comes from. -/
theorem rewrites_exec {op : PoolOp} (keyed : pool.Keyed now)
    (loaded : (exec leaseTtlMs now op pool).1.loadWorker now workerId = some found) :
    Rewrites now pool workerId found op := by
  have same (before : pool.loadWorker now workerId = some found) :
      Rewrites now pool workerId found op := .kept before (.refl found)
  cases op with
  | registerWorker other traits owner =>
      rcases loadWorker_saveWorkerChanges loaded with kept | ⟨rfl, rfl⟩
      · exact same kept
      · exact .registered rfl
  | markWorkerIdle other traits =>
      rcases loadWorker_changeWorker keyed loaded (fun _ => rfl) with
        kept | ⟨rfl, record, before, rfl⟩
      · exact same kept
      · exact .idled before rfl rfl rfl
  | markWorkerBusy other state sessionId traits =>
      rcases loadWorker_changeWorker keyed loaded (fun _ => rfl) with
        kept | ⟨rfl, record, before, rfl⟩
      · exact same kept
      · exact .busied before rfl rfl
  | heartbeatWorker other traits =>
      rcases loadWorker_changeWorker keyed loaded (fun _ => rfl) with
        kept | ⟨rfl, record, before, rfl⟩
      · exact same kept
      · exact .kept before ⟨rfl, rfl, rfl, .inl rfl⟩
  | releaseSocketOwnership other owner =>
      simp only [exec, releaseSocketOwnership] at loaded
      split at loaded
      · exact same loaded
      · next record before =>
          split at loaded
          · rcases loadWorker_saveWorkerChanges loaded with kept | ⟨isOther, rfl⟩
            · exact same kept
            · have own : workerId = other := isOther.trans (keyed other record before)
              subst own
              exact .kept before ⟨rfl, rfl, rfl, .inr rfl⟩
          · exact same loaded
  | allocateWorkerWithAssignment sessionId payload filters =>
      obtain ⟨record, before, agrees | ⟨allocatable, assigned⟩⟩ :=
        loadWorker_allocateLoop loaded
      · exact .kept before agrees
      · exact .allocated before allocatable assigned
  | unregisterWorker other =>
      refine same ?_
      by_cases isOther : workerId = other
      · simp [exec, loadWorker, unregisterWorker, isOther] at loaded
      · simpa [exec, loadWorker, unregisterWorker, Function.update_of_ne isOther] using loaded
  | _ => exact same loaded

theorem Keyed.exec {op : PoolOp} (keyed : pool.Keyed now) :
    (exec leaseTtlMs now op pool).1.Keyed now := by
  intro workerId found loaded
  cases rewrites_exec keyed loaded with
  | kept before agrees => exact agrees.workerId.trans (keyed workerId _ before)
  | registered own => exact own
  | idled before own => exact own.trans (keyed workerId _ before)
  | busied before own => exact own.trans (keyed workerId _ before)
  | allocated before _ assigned => exact assigned.workerId.trans (keyed workerId _ before)

/-- An allocated worker had an idle record with a socket owner under its own key. -/
theorem allocatable_of_allocated {sessionId : SessionId} {payload : Assignment}
    {filters : WorkerTraits} {chosen : PoolWorker} (keyed : pool.Keyed now)
    (allocated : (pool.allocateWorkerWithAssignment leaseTtlMs now sessionId payload
      filters).2 = some chosen) :
    ∃ record, pool.loadWorker now chosen.workerId = some record ∧ record.Allocatable ∧
      record.AssignedTo sessionId chosen := by
  obtain ⟨workerId, record, loaded, allocatable, assigned⟩ :=
    allocatable_of_allocateLoop allocated
  have own : chosen.workerId = workerId :=
    assigned.workerId.trans (keyed workerId record loaded)
  exact ⟨record, own ▸ loaded, allocatable, assigned⟩

/-! ## Records that stay -/

theorem loadWorker_saveWorkerChanges_of_ne {worker : PoolWorker} {fallbackExpiresAt : Nat}
    (different : workerId ≠ worker.workerId) :
    (pool.saveWorkerChanges now fallbackExpiresAt worker).1.loadWorker now workerId =
      pool.loadWorker now workerId := by
  simp only [saveWorkerChanges]
  split
  · simp [loadWorker, dropWorker, Function.update_of_ne different]
  · simp [loadWorker, writeWorker, Function.update_of_ne different]

theorem loadWorker_changeWorker_of_ne {change : PoolWorker → PoolWorker}
    (keyed : pool.Keyed now) (own : ∀ worker, (change worker).workerId = worker.workerId)
    (different : workerId ≠ other) :
    (pool.changeWorker leaseTtlMs now other change).1.loadWorker now workerId =
      pool.loadWorker now workerId := by
  unfold changeWorker
  split
  · rfl
  · next record before =>
      refine loadWorker_saveWorkerChanges_of_ne fun same => different ?_
      exact same.trans ((own record).trans (keyed other record before))

/-- Releasing a socket keeps every record whose lease has not run out. -/
theorem loadWorker_releaseSocketOwnership (leaseTtlMs : Nat) (other : PoolWorkerId)
    (owner : Connection) {record : PoolWorker} {time : Nat} (keyed : pool.Keyed now)
    (loaded : pool.loadWorker now workerId = some record) (lease : record.expiresAt = some time)
    (unexpired : now < time) :
    ∃ kept, (pool.releaseSocketOwnership leaseTtlMs now other owner).1.loadWorker now workerId =
      some kept ∧ record.Agrees kept ∧ kept.expiresAt = some time := by
  unfold releaseSocketOwnership
  split
  · exact ⟨record, loaded, .refl record, lease⟩
  · next changed before =>
      split
      · by_cases same : workerId = other
        · subst same
          cases loaded.symm.trans before
          refine ⟨{ record with socketOwner := none, updatedAt := now }, ?_,
            ⟨rfl, rfl, rfl, .inr rfl⟩, lease⟩
          simp only [saveWorkerChanges, lease, Option.getD_some, if_neg (not_le.mpr unexpired),
            loadWorker, writeWorker, keyed workerId record loaded, Function.update_self]
          exact (Entry.read_save now now time _).mpr ⟨unexpired, unexpired.le⟩
        · refine ⟨record, ?_, .refl record, lease⟩
          rw [loadWorker_saveWorkerChanges_of_ne, loaded]
          rw [keyed other changed before]
          exact same
      · exact ⟨record, loaded, .refl record, lease⟩

/-- A worker whose socket was released has no socket owner. -/
theorem unowned_of_released {owner : Connection} (keyed : pool.Keyed now)
    (released : (pool.releaseSocketOwnership leaseTtlMs now workerId owner).2 = true)
    (loaded : (pool.releaseSocketOwnership leaseTtlMs now workerId owner).1.loadWorker now
      workerId = some found) : found.socketOwner = none := by
  unfold releaseSocketOwnership at released loaded
  split at loaded
  · next absent => simp [absent] at released
  · next record before =>
      split at loaded
      · simp only [saveWorkerChanges] at loaded
        have own := keyed workerId record before
        split at loaded
        · exact absurd own.symm (loadWorker_dropWorker loaded).2
        · rcases loadWorker_writeWorker loaded with ⟨different, -⟩ | ⟨-, rfl⟩
          · exact absurd own.symm different
          · rfl
      · next foreign => simp [before, foreign] at released

end RedisWorkerPool

end RemoteBrowser
