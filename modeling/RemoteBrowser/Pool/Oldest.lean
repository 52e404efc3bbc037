import RemoteBrowser.Pool.Allocation

/-!
# The oldest worker

An allocation gives out the oldest worker that fits.  The workers that it meets before keep their
place if they were queued with the time of their record, and their record if the expiry time that
it may lack can be filled in.
-/

namespace RemoteBrowser.PoolIndex

open Redis Json

namespace Allocation

variable {call : Allocation} {keys after : PoolKeys} {skipped : List WorkerTable}
  {answer : AllocationReply} {id : String} {worker : WorkerTable}

/-! ## Workers that are put back -/

variable (call) in
/-- The record is given an expiry time that the server takes and that is not past. -/
def Fills (worker : WorkerTable) : Prop :=
  worker.expiresAt = none → ∃ time, expireTime call.fallback = some time ∧ call.clock < time

variable (call)

/-- The worker may be allocated. -/
structure Eligible (keys : PoolKeys) (id : String) (worker : WorkerTable) : Prop where
  live : call.Live keys id worker
  fits : call.matchesFilters worker = true

/-- No worker that may be allocated comes before this entry of the sorted set. -/
def First (keys : PoolKeys) (entry : Scored String) : Prop :=
  ∀ other ∈ keys.idle.entries, ∀ worker, call.Eligible keys other.member worker →
    entry.Before other

end Allocation

namespace Allocation

variable (call : Allocation)

/-- The condition: Redis takes the expiry time of the worker that is found, and of the workers
that come before it each is queued with the time of its record, which has an expiry time or gets
one that Redis takes and that is not past. -/
def Undisturbed (keys : PoolKeys) : Prop :=
  ∀ entry ∈ keys.idle.entries, ∀ worker, call.Live keys entry.member worker →
    call.First keys entry →
      if call.matchesFilters worker = true then (expireTime (call.expiry worker)).isSome = true
      else entry.score = worker.updatedAt ∧ call.Fills worker

variable {call} {keys after : PoolKeys} {skipped : List WorkerTable} {answer : AllocationReply}
  {id : String} {worker : WorkerTable}

/-- A live worker is queued. -/
theorem Live.queued (agrees : Agrees keys) (live : call.Live keys id worker) :
    ∃ score, ⟨score, id⟩ ∈ keys.idle.entries :=
  SortedSet.mem_members.mp ((agrees.idle_iff id worker live.found).mp live.idle)

end Allocation

def leased (fallback : ℚ) : Allocation where
  clock := 1500
  now := 1500
  fallback := fallback
  sessionId := "sess-1"
  assignment := none
  filters := []
  tostring _ := ""

end RemoteBrowser.PoolIndex
