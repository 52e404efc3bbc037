import RemoteBrowser.ControlPlane.Effects
import RemoteBrowser.ControlPlane.Jobs

/-!
# One session for each pooled worker

A pooled worker is allocated only while its record is idle, and allocation makes the
record assigned.  Two scripts make it idle again whatever it says: `registerWorker`,
when the worker reconnects, and `markWorkerIdle`, for every idle report, also one about
an earlier session.  In every run in which neither of them runs for an assigned worker
before the assignment ends, the worker is not allocated to a second session.
-/

namespace RemoteBrowser

open Async Program

/-! ## Busy reports are busy -/

/-- `markWorkerBusy` is not given the state `"idle"`. -/
def Op.Honest : Op → Prop
  | .pool (.markWorkerBusy _ state _ _) => state ≠ "idle"
  | _ => True

/-- A report with the state `"idle"` is stored by `markWorkerIdle`. -/
theorem Op.IssuedBy.honest {job : Job} {op : Op} (issued : op.IssuedBy job) : op.Honest := by
  cases op with
  | pool script =>
      cases script with
      | markWorkerBusy workerId state sessionId traits => exact issued
      | _ => trivial
  | _ => trivial

/-- The handlers that concern the pool: those that allocate, the messages and closes of
pool sockets, and the delivery of assignments; and time. -/
def Job.concernsPool : Job → Bool
  | .connect _ _ _ => true
  | .peerClosing _ => true
  | .elapse _ => true
  | .createSession _ _ => true
  | .internalUpdate _ _ _ => true
  | .flushPoolAssignments _ _ => true
  | .close _ => true
  | .message _ (.poolRegister _ _ _ _ _) => true
  | .message _ (.poolState _ _ _ _ _) => true
  | _ => false

/-! ## Assignments -/

section Runs

variable {settings : Settings} {workerId : PoolWorkerId} {sessionId : SessionId}

/-- Only handlers that concern the pool run. -/
def PoolHandlersOnly (_ : Config (controlPlane settings)) :
    Action (controlPlane settings) → Prop
  | .start job => job.concernsPool = true
  | .resume _ _ => True

/-- The action is a call of `allocateWorkerWithAssignment` for the session that returns
the worker. -/
def Allocates (config : Config (controlPlane settings)) (action : Action (controlPlane settings))
    (sessionId : SessionId) (workerId : PoolWorkerId) : Prop :=
  ∃ index outcome payload filters record, action = .resume index outcome ∧
    config.awaits index =
      some (.pool (.allocateWorkerWithAssignment sessionId payload filters)) ∧
    (RedisWorkerPool.allocateWorkerWithAssignment settings.workerPoolLeaseTtlMs
      config.state.clock config.state.pool sessionId payload filters).2 = some record ∧
    record.workerId = workerId

/-- The worker reports idle with the session as its last one, or its registration is
gone after the action. -/
def EndsAssignment (workerId : PoolWorkerId) (sessionId : SessionId)
    (config : Config (controlPlane settings)) (action : Action (controlPlane settings)) : Prop :=
  (∃ index outcome thread connection next reported metadata traits,
    action = .resume index outcome ∧ config.threads[index]? = some thread ∧
    thread.job = .message connection
      (.poolState "idle" (some sessionId) next reported metadata) ∧
    config.awaits index = some (.pool (.markWorkerIdle workerId traits))) ∨
  ∃ after, config.step action = some after ∧ after.state.poolWorker workerId = none

/-- The assignment of the worker to the session goes on. -/
def DuringAssignment (workerId : PoolWorkerId) (sessionId : SessionId)
    (config : Config (controlPlane settings)) (action : Action (controlPlane settings)) : Prop :=
  PoolHandlersOnly config action ∧ ¬EndsAssignment workerId sessionId config action

/-- The assignment goes on, and no reconnect and no other idle report of the worker is
stored. -/
def UndisturbedAssignment (workerId : PoolWorkerId) (sessionId : SessionId)
    (config : Config (controlPlane settings)) (action : Action (controlPlane settings)) : Prop :=
  DuringAssignment workerId sessionId config action ∧
    ∀ index outcome, action = .resume index outcome →
      (∀ traits owner,
        config.awaits index ≠ some (.pool (.registerWorker workerId traits owner))) ∧
      ∀ traits, config.awaits index ≠ some (.pool (.markWorkerIdle workerId traits))

/-- The worker has no idle record. -/
def State.Busy (workerId : PoolWorkerId) (state : State) : Prop :=
  ∀ record, state.poolWorker workerId = some record → record.state ≠ "idle"

/-- Only a reconnect or an idle report makes a busy worker idle. -/
theorem State.Busy.exec {state : State} {outcome : LaunchOutcome} {op : Op}
    (busy : state.Busy workerId) (keyed : state.PoolKeyed) (honest : op.Honest)
    (registered : ∀ traits owner, op ≠ .pool (.registerWorker workerId traits owner))
    (reported : ∀ traits, op ≠ .pool (.markWorkerIdle workerId traits)) :
    (State.exec settings outcome op state).1.Busy workerId := by
  intro found loaded
  rcases State.poolWorker_exec keyed loaded with before | ⟨script, rfl, rewrites⟩
  · exact busy found before
  · cases rewrites with
    | kept before agrees => exact agrees.state ▸ busy _ before
    | registered => exact absurd rfl (registered _ _)
    | idled => exact absurd rfl (reported _)
    | busied before own isBusy =>
        rw [isBusy]
        split
        · decide
        · exact honest
    | allocated before allocatable assigned =>
        rw [assigned.state]
        decide

/-- A worker is busy right after it was allocated. -/
theorem busy_of_allocates {before after : Config (controlPlane settings)}
    {action : Action (controlPlane settings)} (keyed : before.state.PoolKeyed)
    (allocates : Allocates before action sessionId workerId)
    (stepped : before.step action = some after) : after.state.Busy workerId := by
  obtain ⟨index, outcome, payload, filters, record, rfl, awaited, allocated, rfl⟩ := allocates
  obtain ⟨thread, next, -, -, rfl⟩ := Config.step_resume stepped awaited
  intro assigned loaded
  have same : assigned = record :=
    RedisWorkerPool.loadWorker_of_allocateLoop keyed allocated loaded
  obtain ⟨_, -, -, assignment⟩ := RedisWorkerPool.allocatable_of_allocated keyed allocated
  rw [same, assignment.state]
  decide

theorem poolKeyed_of_run {allowed : Config (controlPlane settings) → Action _ → Prop}
    {start final : Config (controlPlane settings)} (run : Run allowed start final)
    (keyed : start.state.PoolKeyed) : final.state.PoolKeyed := by
  have preserved : Inductive allowed State.PoolKeyed fun _ _ => True :=
    ⟨fun _ _ _ _ _ => trivial, fun _ _ _ _ op _ holds _ _ _ =>
      ⟨holds.state.exec op, trivial, fun _ _ _ _ => trivial⟩⟩
  exact (preserved.run run ⟨keyed, fun _ _ => trivial⟩).state

/-- In every run, after a worker was allocated to a session and while neither a
reconnect nor an idle report of it is stored, the worker is not allocated to another
session before the assignment ends. -/
theorem pooled_worker_serves_one_session {before middle final : Config (controlPlane settings)}
    {action : Action (controlPlane settings)}
    (reached : Run PoolHandlersOnly ⟨State.initial, []⟩ before)
    (allocates : Allocates before action sessionId workerId)
    (stepped : before.step action = some middle)
    (window : Run (UndisturbedAssignment workerId sessionId) middle final) :
    ∀ later other, other ≠ sessionId → ¬Allocates final later other workerId := by
  have keyedBefore := poolKeyed_of_run reached State.initial_poolKeyed
  have extended : Run PoolHandlersOnly ⟨State.initial, []⟩ middle := by
    obtain ⟨index, outcome, _, _, _, rfl, -⟩ := allocates
    have permitted : PoolHandlersOnly before (.resume index outcome) := trivial
    exact reached.tail permitted stepped
  have issued {config : Config (controlPlane settings)}
      (run : Run (UndisturbedAssignment workerId sessionId) middle config) :=
    issuedBy_of_run run (issuedBy_of_run extended (by simp))
  have keyed {config : Config (controlPlane settings)}
      (run : Run (UndisturbedAssignment workerId sessionId) middle config) :=
    poolKeyed_of_run run (poolKeyed_of_run extended State.initial_poolKeyed)
  have busy : final.state.Busy workerId := by
    induction window with
    | refl => exact busy_of_allocates keyedBefore allocates stepped
    | tail earlier permitted stepped ih =>
        obtain ⟨job, rfl, -, rfl⟩ | ⟨index, outcome, thread, op, next, rfl, found, suspended,
          rfl⟩ := Config.step_cases stepped
        · exact ih
        · have issues := issued earlier thread (List.mem_of_getElem? found)
          rw [suspended] at issues
          have undisturbed := permitted.2 index outcome rfl
          rw [Config.awaits_eq_some found suspended] at undisturbed
          refine ih.exec (keyed earlier) issues.1.honest (fun traits owner same => ?_)
            fun traits same => ?_
          · exact undisturbed.1 traits owner (congrArg some same)
          · exact undisturbed.2 traits (congrArg some same)
  rintro later other - ⟨index, outcome, payload, filters, record, -, -, allocated, rfl⟩
  obtain ⟨idle, loaded, allocatable, -⟩ :=
    RedisWorkerPool.allocatable_of_allocated (keyed window) allocated
  exact busy idle loaded allocatable.idle

end Runs

section PoolRuns

open controlPlane

variable {settings : Settings}

/-- The session and the worker of the allocation that a handler awaits. -/
def allocation (config : Config (controlPlane settings)) (index : Nat) :
    Option (SessionId × PoolWorkerId) :=
  match config.awaits index with
  | some (.pool (.allocateWorkerWithAssignment sessionId payload filters)) =>
      (RedisWorkerPool.allocateWorkerWithAssignment settings.workerPoolLeaseTtlMs
        config.state.clock config.state.pool sessionId payload filters).2.map
        fun record => (sessionId, record.workerId)
  | _ => none

theorem allocates_of_allocation {config : Config (controlPlane settings)} {index : Nat}
    {sessionId : SessionId} {workerId : PoolWorkerId}
    (returns : allocation config index = some (sessionId, workerId)) :
    Allocates config (.resume index .succeeds) sessionId workerId := by
  unfold allocation at returns
  split at returns
  · next awaited =>
      obtain ⟨record, allocated, same⟩ := Option.map_eq_some_iff.mp returns
      cases same
      exact ⟨index, .succeeds, _, _, record, rfl, awaited, allocated, rfl⟩
  · simp at returns

/-- The session for which a handler awaits an allocation. -/
def asksForWorker (config : Config (controlPlane settings)) (index : Nat) : Option SessionId :=
  match config.awaits index with
  | some (.pool (.allocateWorkerWithAssignment sessionId _ _)) => some sessionId
  | _ => none

theorem awaits_of_asksForWorker {config : Config (controlPlane settings)} {index : Nat}
    {sessionId : SessionId} (asks : asksForWorker config index = some sessionId) :
    ∃ payload filters, config.awaits index =
      some (.pool (.allocateWorkerWithAssignment sessionId payload filters)) := by
  unfold asksForWorker at asks
  split at asks
  · next awaited =>
      cases asks
      exact ⟨_, _, awaited⟩
  · simp at asks

/-- Only handlers that concern the pool run. -/
def poolHandlers (_ : Config (controlPlane settings)) :
    Action (controlPlane settings) → Bool
  | .start job => Job.concernsPool job
  | .resume _ _ => true

theorem poolHandlersOnly_of_poolHandlers (config : Config (controlPlane settings))
    (action : Action (controlPlane settings)) (passes : poolHandlers config action = true) :
    PoolHandlersOnly config action := by
  cases action with
  | start job => exact passes
  | resume index outcome => trivial

/-- Worker 7 stays registered and no idle report of it is stored. -/
def assignedWorkerStays (config : Config (controlPlane settings))
    (action : Action (controlPlane settings)) : Bool :=
  poolHandlers config action &&
    (match action with
    | .start _ => true
    | .resume index _ => match config.awaits index with
        | some (.pool (.markWorkerIdle workerId _)) => workerId ≠ 7
        | _ => true) &&
    (config.step action).all fun after => (State.poolWorker after.state 7).isSome

theorem duringAssignment_of_stays {sessionId : SessionId}
    (config : Config (controlPlane settings)) (action : Action (controlPlane settings))
    (passes : assignedWorkerStays config action = true) :
    DuringAssignment 7 sessionId config action := by
  simp only [assignedWorkerStays, Bool.and_eq_true] at passes
  obtain ⟨⟨handlers, unreported⟩, registered⟩ := passes
  refine ⟨poolHandlersOnly_of_poolHandlers config action handlers, ?_⟩
  rintro (⟨index, outcome, _, _, _, _, _, traits, rfl, -, -, awaited⟩ | ⟨after, stepped, absent⟩)
  · simp [awaited] at unreported
  · simp [stepped, absent] at registered

/-- In addition, worker 7 does not register again. -/
def assignedWorkerRests (config : Config (controlPlane settings))
    (action : Action (controlPlane settings)) : Bool :=
  assignedWorkerStays config action &&
    match action with
    | .start _ => true
    | .resume index _ => match config.awaits index with
        | some (.pool (.registerWorker workerId _ _)) => workerId ≠ 7
        | _ => true

theorem undisturbedAssignment_of_rests {sessionId : SessionId}
    (config : Config (controlPlane settings)) (action : Action (controlPlane settings))
    (passes : assignedWorkerRests config action = true) :
    UndisturbedAssignment 7 sessionId config action := by
  obtain ⟨stays, unregistered⟩ := Bool.and_eq_true_iff.mp passes
  refine ⟨duringAssignment_of_stays config action stays, ?_⟩
  rintro index outcome rfl
  refine ⟨fun traits owner awaited => ?_, fun traits awaited => ?_⟩
  · simp [awaited] at unregistered
  · simp [assignedWorkerStays, awaited] at stays

/-- Pool worker 7 registers, and a session is about to be given a worker. -/
def awaitAllocation : List (Action (controlPlane pooledSettings)) :=
  .start (.connect ⟨0, 1⟩ .worker []) :: run 0 1 ++
    .start (.message ⟨0, 1⟩ (.poolRegister "" (some 7) {} {} {})) :: run 1 8 ++
    .start (.createSession 0 {}) :: run 2 3

/-- The next allocation of handler 2 gives worker 7 to session 0, and from then on the
actions pass a check and reach a configuration of which a test can tell. -/
def assignsThen
    (check : Config (controlPlane pooledSettings) → Action (controlPlane pooledSettings) → Bool)
    (actions : List (Action (controlPlane pooledSettings)))
    (test : Config (controlPlane pooledSettings) → Bool)
    (config : Config (controlPlane pooledSettings)) : Bool :=
  decide (allocation config 2 = some (0, 7)) &&
    (config.step (.resume 2 .succeeds)).any fun middle =>
      (middle.schedule check actions).any test

/-- A second session asks for a worker while worker 7 serves the first: it does not get
that one. -/
theorem second_session_does_not_get_worker :
    ∃ before middle final : Config (controlPlane pooledSettings),
      Run PoolHandlersOnly ⟨State.initial, []⟩ before ∧
      Allocates before (.resume 2 .succeeds) 0 7 ∧
      before.step (.resume 2 .succeeds) = some middle ∧
      Run (UndisturbedAssignment 7 0) middle final ∧
      (∃ payload filters, final.awaits 3 =
        some (.pool (.allocateWorkerWithAssignment 1 payload filters))) ∧
      ∀ later other, other ≠ 0 → ¬Allocates final later other 7 := by
  obtain ⟨before, reached, holds⟩ := Run.exists_of_schedule poolHandlersOnly_of_poolHandlers
    (⟨State.initial, []⟩ : Config (controlPlane pooledSettings)) awaitAllocation
    (assignsThen assignedWorkerRests (run 2 4 ++ .start (.createSession 0 {}) :: run 3 3)
      fun final => decide (asksForWorker final 3 = some 1)) (by decide)
  obtain ⟨allocates, continues⟩ := Bool.and_eq_true_iff.mp holds
  have allocated := allocates_of_allocation (of_decide_eq_true allocates)
  obtain ⟨middle, stepped, rest⟩ := Option.any_eq_true _ _ |>.mp continues
  obtain ⟨final, window, asks⟩ := Run.exists_of_schedule undisturbedAssignment_of_rests _ _ _ rest
  refine ⟨before, middle, final, reached, allocated, stepped, window,
    awaits_of_asksForWorker (of_decide_eq_true asks), ?_⟩
  exact pooled_worker_serves_one_session reached allocated stepped window

/-- Worker 7 reconnects while it serves session 0, and is allocated to session 1. -/
theorem reconnected_worker_gets_second_session :
    ¬∀ (settings : Settings) (sessionId : SessionId) (workerId : PoolWorkerId)
      (before middle final : Config (controlPlane settings))
      (action : Action (controlPlane settings)),
      Run PoolHandlersOnly ⟨State.initial, []⟩ before →
      Allocates before action sessionId workerId → before.step action = some middle →
      Run (DuringAssignment workerId sessionId) middle final →
      ∀ later other, other ≠ sessionId → ¬Allocates final later other workerId := by
  intro exclusive
  obtain ⟨before, reached, holds⟩ := Run.exists_of_schedule poolHandlersOnly_of_poolHandlers
    (⟨State.initial, []⟩ : Config (controlPlane pooledSettings)) awaitAllocation
    (assignsThen assignedWorkerStays (run 2 4 ++
      .start (.connect ⟨0, 2⟩ .worker []) :: run 3 1 ++
      .start (.message ⟨0, 2⟩ (.poolRegister "" (some 7) {} {} {})) :: run 4 11 ++
      .start (.createSession 0 {}) :: run 5 3)
      fun final => decide (allocation final 5 = some (1, 7))) (by decide)
  obtain ⟨allocates, continues⟩ := Bool.and_eq_true_iff.mp holds
  obtain ⟨middle, stepped, rest⟩ := Option.any_eq_true _ _ |>.mp continues
  obtain ⟨final, window, again⟩ := Run.exists_of_schedule duringAssignment_of_stays _ _ _ rest
  exact exclusive pooledSettings 0 7 before middle final _ reached
    (allocates_of_allocation (of_decide_eq_true allocates)) stepped window _ 1 (by decide)
    (allocates_of_allocation (of_decide_eq_true again))

end PoolRuns

end RemoteBrowser
