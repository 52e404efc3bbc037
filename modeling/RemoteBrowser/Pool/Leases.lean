import RemoteBrowser.Pool.Records

/-!
# Leases in force

A registered worker holds its record until the lease runs out.  Only three scripts
can take the record or its socket away before that: another registration of the
worker, the release of its socket, and `unregisterWorker`.  Every other script keeps
the owner and does not shorten the lease.
-/

namespace RemoteBrowser

open Redis

/-- The script takes the record or its socket away from the owner. -/
def PoolOp.Evicts (workerId : PoolWorkerId) (owner : Connection) : PoolOp → Prop
  | .registerWorker other _ _ => other = workerId
  | .releaseSocketOwnership other released => other = workerId ∧ released = owner
  | .unregisterWorker other => other = workerId
  | _ => False

namespace RedisWorkerPool

variable {leaseTtlMs now deadline : Nat} {pool after : RedisWorkerPool}
  {workerId other : PoolWorkerId} {owner : Connection}

/-- The worker has a record with this socket owner that is kept up to the deadline. -/
def LeasedTo (workerId : PoolWorkerId) (owner : Connection) (deadline : Nat)
    (pool : RedisWorkerPool) : Prop :=
  ∃ record time, pool.workers workerId = some ⟨record, some time⟩ ∧
    record.workerId = workerId ∧ record.socketOwner = some owner ∧
    record.expiresAt = some time ∧ deadline ≤ time

theorem LeasedTo.of_eq (leased : pool.LeasedTo workerId owner deadline)
    (same : after.workers workerId = pool.workers workerId) :
    after.LeasedTo workerId owner deadline := by
  obtain ⟨record, time, found, rest⟩ := leased
  exact ⟨record, time, same.trans found, rest⟩

theorem LeasedTo.mono {sooner : Nat} (leased : pool.LeasedTo workerId owner deadline)
    (order : sooner ≤ deadline) : pool.LeasedTo workerId owner sooner := by
  obtain ⟨record, time, found, own, owned, lease, late⟩ := leased
  exact ⟨record, time, found, own, owned, lease, order.trans late⟩

theorem LeasedTo.loadWorker (leased : pool.LeasedTo workerId owner deadline)
    (inTime : now < deadline) :
    ∃ record time, pool.loadWorker now workerId = some record ∧
      record.workerId = workerId ∧ record.socketOwner = some owner ∧
      record.expiresAt = some time ∧ deadline ≤ time := by
  obtain ⟨record, time, found, own, owned, lease, late⟩ := leased
  refine ⟨record, time, ?_, own, owned, lease, late⟩
  apply Entry.read_eq_some.mpr
  refine ⟨_, found, fun expiry expires => ?_, rfl⟩
  cases expires
  omega

theorem leasedTo_writeWorker {worker : PoolWorker} {time : Nat} (future : now < time)
    (own : worker.workerId = workerId) (owned : worker.socketOwner = some owner)
    (lease : worker.expiresAt = some time) (late : deadline ≤ time) :
    (pool.writeWorker now workerId worker time).LeasedTo workerId owner deadline := by
  refine ⟨worker, time, ?_, own, owned, lease, late⟩
  simp [writeWorker, Entry.save, Nat.not_le.mpr future]

theorem leasedTo_saveWorkerChanges {worker : PoolWorker} {fallbackExpiresAt time : Nat}
    (future : now < time) (own : worker.workerId = workerId)
    (owned : worker.socketOwner = some owner) (lease : worker.expiresAt = some time)
    (late : deadline ≤ time) :
    (pool.saveWorkerChanges now fallbackExpiresAt worker).1.LeasedTo workerId owner
      deadline := by
  subst own
  simp only [saveWorkerChanges, lease, Option.getD_some, if_neg (Nat.not_le.mpr future)]
  have written : (pool.writeWorker now worker.workerId worker time).LeasedTo worker.workerId
    owner deadline := leasedTo_writeWorker future rfl owned lease late
  exact written.of_eq (by simp [writeWorker, ← lease])

theorem workers_saveWorkerChanges_of_ne {worker : PoolWorker} {fallbackExpiresAt : Nat}
    (different : worker.workerId ≠ workerId) :
    (pool.saveWorkerChanges now fallbackExpiresAt worker).1.workers workerId =
      pool.workers workerId := by
  simp only [saveWorkerChanges]
  split
  · exact Function.update_of_ne (Ne.symm different) ..
  · exact Function.update_of_ne (Ne.symm different) ..

/-- A new registration is a lease of its own socket. -/
theorem leasedTo_registerWorker (positive : 0 < leaseTtlMs) (traits : WorkerTraits) :
    (pool.registerWorker leaseTtlMs now workerId traits owner).1.LeasedTo workerId owner
      (now + leaseTtlMs) :=
  leasedTo_saveWorkerChanges (Nat.lt_add_of_pos_right positive) rfl rfl rfl le_rfl

/-- A report about a worker keeps its owner and renews its lease. -/
theorem LeasedTo.changeWorker {change : PoolWorker → PoolWorker} (keyed : pool.Keyed now)
    (leased : pool.LeasedTo workerId owner deadline) (inTime : now < deadline)
    (renewed : deadline ≤ now + leaseTtlMs)
    (keeps : ∀ worker, (change worker).workerId = worker.workerId ∧
      (change worker).socketOwner = worker.socketOwner ∧
      (change worker).expiresAt = some (now + leaseTtlMs)) :
    (pool.changeWorker leaseTtlMs now other change).1.LeasedTo workerId owner deadline := by
  unfold RedisWorkerPool.changeWorker
  split
  · exact leased
  · next record before =>
      obtain ⟨sameId, sameOwner, lease⟩ := keeps record
      by_cases same : other = workerId
      · subst same
        obtain ⟨held, _, found, own, owned, -, -⟩ := leased.loadWorker inTime
        cases found.symm.trans before
        exact leasedTo_saveWorkerChanges (Nat.lt_of_lt_of_le inTime renewed)
          (sameId.trans own) (sameOwner.trans owned) lease renewed
      · apply leased.of_eq
        apply workers_saveWorkerChanges_of_ne
        rw [sameId, keyed other record before]
        exact same

/-- The search over the idle index assigns the worker or passes it by. -/
theorem LeasedTo.allocateLoop {fallbackExpiresAt : Nat} {sessionId : SessionId}
    {payload : Assignment} {filters : WorkerTraits} {ids : List PoolWorkerId}
    {skipped : List PoolWorker} (leased : pool.LeasedTo workerId owner deadline)
    (inTime : now < deadline) :
    (allocateLoop now fallbackExpiresAt sessionId payload filters ids skipped
      pool).1.LeasedTo workerId owner deadline := by
  induction ids generalizing pool skipped with
  | nil => exact leased.of_eq rfl
  | cons first rest ih =>
      by_cases same : first = workerId
      · subst same
        obtain ⟨record, time, found, own, owned, lease, late⟩ := leased.loadWorker inTime
        have future : now < time := Nat.lt_of_lt_of_le inTime late
        have loaded : RedisWorkerPool.loadWorker now
            { pool with idleIndex := pool.idleIndex.remove first } first = some record := found
        simp only [RedisWorkerPool.allocateLoop, loaded, lease, Option.getD_some, owned,
          Nat.not_le.mpr future, reduceCtorEq, or_self, if_false]
        split
        · split
          · have assigned : (pool.writeWorker now first
                (RedisWorkerPool.assigned now time sessionId record) time).LeasedTo first owner
                deadline := leasedTo_writeWorker future own owned rfl late
            exact assigned.of_eq rfl
          · exact ih (leased.of_eq rfl)
        · exact ih (leased.of_eq rfl)
      · have elsewhere : workerId ≠ first := Ne.symm same
        simp only [RedisWorkerPool.allocateLoop]
        split
        · exact ih (leased.of_eq rfl)
        · split
          · exact ih (leased.of_eq (Function.update_of_ne elsewhere ..))
          · split
            · split
              · exact leased.of_eq (Function.update_of_ne elsewhere ..)
              · apply ih
                apply leased.of_eq
                split
                · exact Function.update_of_ne elsewhere ..
                · rfl
            · apply ih
              apply leased.of_eq
              split
              · exact Function.update_of_ne elsewhere ..
              · rfl

/-- Every script that does not evict the owner keeps the lease. -/
theorem LeasedTo.exec {op : PoolOp} (keyed : pool.Keyed now)
    (leased : pool.LeasedTo workerId owner deadline) (inTime : now < deadline)
    (renewed : deadline ≤ now + leaseTtlMs) (stays : ¬op.Evicts workerId owner) :
    (RedisWorkerPool.exec leaseTtlMs now op pool).1.LeasedTo workerId owner deadline := by
  cases op with
  | registerWorker other traits claimed =>
      exact leased.of_eq (workers_saveWorkerChanges_of_ne stays)
  | markWorkerIdle other traits =>
      exact leased.changeWorker keyed inTime renewed fun _ => ⟨rfl, rfl, rfl⟩
  | markWorkerBusy other state sessionId traits =>
      exact leased.changeWorker keyed inTime renewed fun _ => ⟨rfl, rfl, rfl⟩
  | heartbeatWorker other traits =>
      exact leased.changeWorker keyed inTime renewed fun _ => ⟨rfl, rfl, rfl⟩
  | allocateWorkerWithAssignment sessionId payload filters => exact leased.allocateLoop inTime
  | releaseSocketOwnership other released =>
      simp only [RedisWorkerPool.exec, releaseSocketOwnership]
      split
      · exact leased
      · next record before =>
          split
          · next holds =>
              apply leased.of_eq
              apply workers_saveWorkerChanges_of_ne
              intro same
              have isOther : other = workerId := (keyed other record before).symm.trans same
              subst isOther
              obtain ⟨held, _, found, -, owned, -, -⟩ := leased.loadWorker inTime
              cases found.symm.trans before
              exact stays ⟨rfl, Option.some.inj (holds.symm.trans owned)⟩
          · exact leased
  | unregisterWorker other => exact leased.of_eq (Function.update_of_ne (Ne.symm stays) ..)
  | _ => exact leased.of_eq rfl

end RedisWorkerPool

end RemoteBrowser
