import RemoteBrowser.ControlPlane.Rescue

/-!
# Sessions stranded with a pooled worker that is gone

A session that waits for a pooled worker must not stay so when the worker's socket
closes or the worker reports idle: `fallbackWarmPoolSession` then launches a
replacement.  It decides from the stored session, so two windows defeat it.  The worker
can be gone before `assignSessionWorker` stores it, and a viewer disconnect can change
the stored state from `"allocating"` to `"idle"` before the fallback reads it.

Outside these windows, whenever the session's worker is pooled, the worker's record is
assigned to the session, or some handler is still bound to give the session another
worker.
-/

namespace RemoteBrowser

open Async Program

/-! ## Pool records that serve a session -/

/-- The pool worker is registered with a current lease, assigned to the session and not
idle. -/
def State.Serves (id : SessionId) (workerId : PoolWorkerId) (state : State) : Prop :=
  ∃ record, state.poolWorker workerId = some record ∧ record.state ≠ "idle" ∧
    record.sessionId = some id ∧ ∃ time, record.expiresAt = some time ∧ state.clock < time

/-- The pool worker is unregistered or idle. -/
def State.Unavailable (workerId : PoolWorkerId) (state : State) : Prop :=
  ∀ record, state.poolWorker workerId = some record → record.state = "idle"

/-- The session waits for a pooled worker that is unregistered or idle. -/
def State.Stranded (id : SessionId) (state : State) : Prop :=
  ∃ session workerId, state.stored id = some session ∧ ¬session.Terminated ∧
    Worker.IsPooledAs workerId session.worker ∧ state.Unavailable workerId

theorem State.Serves.available {id : SessionId} {workerId : PoolWorkerId} {state : State}
    (serves : state.Serves id workerId) : ¬state.Unavailable workerId := by
  obtain ⟨record, loaded, busy, -⟩ := serves
  exact fun unavailable => busy (unavailable record loaded)

/-- The operation may change the record of the worker. -/
def Op.Disturbs (workerId : PoolWorkerId) : Op → Prop
  | .pool (.registerWorker _ _ _) => True
  | .pool (.markWorkerBusy _ _ _ _) => True
  | .pool (.heartbeatWorker _ _) => True
  | .pool (.allocateWorkerWithAssignment _ _ _) => True
  | .pool (.markWorkerIdle other _) => other = workerId
  | .pool (.unregisterWorker other) => other = workerId
  | .sync (.elapse _) => True
  | _ => False

/-- A record that serves a session stays until it is taken away; a released socket does
not change it. -/
theorem State.Serves.exec {settings : Settings} {outcome : LaunchOutcome} {state : State}
    {id : SessionId} {workerId : PoolWorkerId} {op : Op} (serves : state.Serves id workerId)
    (keyed : state.PoolKeyed) (undisturbed : ¬op.Disturbs workerId) :
    (State.exec settings outcome op state).1.Serves id workerId := by
  obtain ⟨record, loaded, busy, assigned, time, lease, unexpired⟩ := serves
  have kept (script : PoolOp) (same : (RedisWorkerPool.exec settings.workerPoolLeaseTtlMs
      state.clock script state.pool).1.loadWorker state.clock workerId = some record) :
      (State.exec settings outcome (.pool script) state).1.Serves id workerId :=
    ⟨record, same, busy, assigned, time, lease, unexpired⟩
  cases op with
  | pool script =>
      cases script with
      | releaseSocketOwnership other owner =>
          obtain ⟨changed, reloaded, agrees, sameLease⟩ :=
            RedisWorkerPool.loadWorker_releaseSocketOwnership settings.workerPoolLeaseTtlMs
              other owner keyed loaded lease unexpired
          exact ⟨changed, reloaded, agrees.state ▸ busy, agrees.sessionId.trans assigned, time,
            sameLease, unexpired⟩
      | markWorkerIdle other traits =>
          refine kept _ ((RedisWorkerPool.loadWorker_changeWorker_of_ne keyed ?_ ?_).trans loaded)
          · exact fun _ => rfl
          · exact fun same => undisturbed same.symm
      | unregisterWorker other =>
          have different : workerId ≠ other := fun same => undisturbed same.symm
          refine kept _ ?_
          simpa [State.poolWorker, RedisWorkerPool.exec, RedisWorkerPool.loadWorker,
            RedisWorkerPool.unregisterWorker, Function.update_of_ne different] using loaded
      | registerWorker other traits owner => exact absurd trivial undisturbed
      | markWorkerBusy other busyState sessionId traits => exact absurd trivial undisturbed
      | heartbeatWorker other traits => exact absurd trivial undisturbed
      | allocateWorkerWithAssignment sessionId payload filters =>
          exact absurd trivial undisturbed
      | _ => exact kept _ loaded
  | sync op =>
      have frame := execSync_frame op state
      have still : (execSync op state).1.clock = state.clock := by
        cases op with
        | elapse ms => exact absurd trivial undisturbed
        | _ => exact frame.clock
      refine ⟨record, ?_, busy, assigned, time, lease, ?_⟩
      · simp only [State.exec, State.poolWorker, still, frame.pool]
        exact loaded
      · simp only [State.exec, still]
        exact unexpired
  | launch requester =>
      cases outcome <;> exact ⟨record, loaded, busy, assigned, time, lease, unexpired⟩
  | _ => exact ⟨record, loaded, busy, assigned, time, lease, unexpired⟩

/-! ## The invariant -/

/-- The shared part: which pool worker each socket has registered does not change, the
session is not terminated and has no worker socket. -/
structure State.RescueSound (id : SessionId) (sockets : Connection → Option PoolWorkerId)
    (state : State) : Prop where
  idsDrawn : state.IdsDrawn
  poolKeyed : state.PoolKeyed
  drawn : id < state.nextSessionId
  live : ∀ session, state.stored id = some session → ¬session.Terminated
  registered : ∀ connection, state.poolWorkerOf connection = sockets connection
  noSocket : state.NoLocalSocket id .worker

/-- A handler that has released a socket knows its worker's record: nobody can allocate
the worker again, and if the record did not name the session, it does not now. -/
def Rescue.Fits (id : SessionId) (state : State) (current : Rescue) : Prop :=
  ∀ workerId record, current.own = some workerId → state.poolWorker workerId = some record →
    (current.phase = .released ∨ current.phase = .unassigned → record.socketOwner = none) ∧
    (current.phase = .unassigned → record.sessionId ≠ some id)

section Steps

variable {settings : Settings} {outcome : LaunchOutcome} {id : SessionId}
  {sockets : Connection → Option PoolWorkerId} {state : State} {current : Rescue} {op : Op}

/-- No permitted operation gives a released worker an owner or a session. -/
theorem Rescue.Fits.exec {actor : Rescue} (fits : current.Fits id state)
    (keyed : state.PoolKeyed) (allows : actor.allows id op) :
    current.Fits id (State.exec settings outcome op state).1 := by
  intro workerId record own loaded
  rcases State.poolWorker_exec keyed loaded with before | ⟨script, rfl, rewrites⟩
  · exact fits workerId record own before
  · cases rewrites with
    | kept before agrees =>
        obtain ⟨unowned, unassigned⟩ := fits workerId _ own before
        refine ⟨fun phase => ?_, fun phase => agrees.sessionId ▸ unassigned phase⟩
        rcases agrees.socketOwner with same | cleared
        · exact same.trans (unowned phase)
        · exact cleared
    | registered => exact allows.elim
    | idled before isOwn free owner =>
        obtain ⟨unowned, -⟩ := fits workerId _ own before
        exact ⟨fun phase => owner.trans (unowned phase), fun _ => by simp [free]⟩
    | busied => exact allows.elim
    | allocated before allocatable =>
        obtain ⟨unowned, -⟩ := fits workerId _ own before
        exact ⟨fun phase => absurd (unowned phase) allocatable.owned,
          fun phase => absurd (unowned (.inr phase)) allocatable.owned⟩

/-- The shared part is kept by what handlers may issue. -/
theorem State.RescueSound.exec (sound : state.RescueSound id sockets)
    (allows : current.allows id op) :
    (State.exec settings outcome op state).1.RescueSound id sockets where
  idsDrawn := sound.idsDrawn.exec op
  poolKeyed := sound.poolKeyed.exec op
  drawn := sound.drawn.trans_le (State.nextSessionId_exec op)
  live := by
    intro found stored terminated
    rcases (State.stored_exec stored).state_cases with
      ⟨session, before, same⟩ | rfl | ⟨fresh, -⟩
    · exact sound.live session before (same.symm.trans terminated)
    · exact allows rfl terminated
    · exact absurd fresh sound.drawn.ne
  registered := by
    intro connection
    rw [State.poolWorkerOf_exec, sound.registered]
    rintro workerId rfl
    exact allows
  noSocket := by
    refine sound.noSocket.exec ?_
    rintro connection rfl
    exact allows

/-- A store write returns the session that it is about. -/
theorem State.IdsDrawn.id_of_mutate {other : SessionId} {mutation : SessionMutation}
    {session : Session} (drawn : state.IdsDrawn)
    (reply : (State.exec settings outcome (.session (.mutate other mutation)) state).2 =
      some session) : session.id = other := by
  simp only [State.exec, RedisSessionStore.exec, RedisSessionStore.runSessionMutation] at reply
  split at reply
  · simp at reply
  · next before loaded =>
      cases reply
      rw [SessionMutation.apply_id]
      exact (drawn other before loaded).1

/-- The monitor lets go of no handler. -/
theorem exists_rescue (current : Rescue) (sound : state.RescueSound id sockets)
    (succeeds : ∀ requester, op = .launch requester → outcome = .succeeds) :
    ∃ after, (rescue id sockets).next current op (State.exec settings outcome op state).2 =
      some after := by
  suffices ∃ phase, current.phaseAfter id sockets op (State.exec settings outcome op state).2 =
      some phase by
    obtain ⟨phase, next⟩ := this
    exact ⟨_, Option.map_eq_some_iff.mpr ⟨phase, next, rfl⟩⟩
  cases op with
  | session op =>
      cases op with
      | get other =>
          simp only [Rescue.phaseAfter, Rescue.afterStore]
          split <;> exact ⟨_, rfl⟩
      | mutate other mutation =>
          cases reply : (State.exec settings outcome (.session (.mutate other mutation)) state).2 with
          | none =>
              cases mutation with
              | setWorker worker => exact ⟨_, rfl⟩
              | _ =>
                  simp only [Rescue.phaseAfter, Rescue.afterStore]
                  split <;> exact ⟨_, rfl⟩
          | some session =>
              have own := sound.idsDrawn.id_of_mutate reply
              cases mutation with
              | setWorker worker => exact ⟨_, rfl⟩
              | _ =>
                  refine ⟨current.phase, if_neg ?_⟩
                  rintro ⟨-, rfl, foreign⟩
                  exact foreign own
      | _ => exact ⟨_, rfl⟩
  | pool op => cases op <;> exact ⟨_, rfl⟩
  | sync op =>
      cases op with
      | registration connection =>
          refine ⟨current.phase, if_pos ?_⟩
          rw [State.poolWorkerId_registration, sound.registered]
      | openSocket instanceId other role =>
          refine ⟨current.phase, if_neg ?_⟩
          rintro ⟨-, rfl, rfl, found⟩
          simp [State.exec, State.execSync, sound.noSocket instanceId] at found
      | _ => exact ⟨_, rfl⟩
  | launch requester =>
      cases succeeds requester rfl
      exact ⟨_, rfl⟩
  | _ => exact ⟨_, rfl⟩

/-- A handler knows the record of its worker after its own operations too. -/
theorem Rescue.Fits.advance {reply : op.Reply} {after : Rescue}
    (result : reply = (State.exec settings outcome op state).2) (fits : current.Fits id state)
    (keyed : state.PoolKeyed) (allows : current.allows id op)
    (moved : (rescue id sockets).next current op reply = some after) :
    after.Fits id (State.exec settings outcome op state).1 := by
  have kept : current.Fits id (State.exec settings outcome op state).1 := fits.exec keyed allows
  obtain ⟨phase, phaseAfter, rfl⟩ := rescue_next_eq_some moved
  cases Rescue.moves_of_phaseAfter phaseAfter with
  | same => exact kept
  | released =>
      intro workerId record own loaded
      obtain ⟨-, isWorker⟩ := allows
      cases isWorker.symm.trans own
      exact ⟨fun _ => RedisWorkerPool.unowned_of_released keyed result.symm loaded, by simp⟩
  | @unnamed _ read names =>
      intro workerId record own loaded
      obtain ⟨released, isWorker⟩ := allows
      refine ⟨fun _ => (kept workerId record own loaded).1 (.inl released), fun _ named => ?_⟩
      cases isWorker.symm.trans own
      have read : read = some record := result.trans loaded
      exact names (by simp [read, named])
  | _ => exact fun _ _ _ _ => by simp

/-- An assignment lasts until the worker is stored. -/
theorem assigning_of_next {reply : op.Reply} {after : Rescue} (allows : current.allows id op)
    (assigning : current.phase = .assigning)
    (moved : (rescue id sockets).next current op reply = some after)
    (unassigned : ∀ worker, op ≠ .session (.mutate id (.setWorker worker))) :
    after.phase = .assigning := by
  obtain ⟨phase, phaseAfter, rfl⟩ := rescue_next_eq_some moved
  cases Rescue.moves_of_phaseAfter phaseAfter with
  | same => exact assigning
  | stored => exact absurd rfl (unassigned _)
  | declined committed => simp [assigning] at committed
  | gone committed => simp [assigning] at committed
  | idled => simp [Rescue.allows, assigning] at allows
  | released => simp [Rescue.allows, assigning] at allows
  | named => simp [Rescue.allows, assigning] at allows
  | unnamed => simp [Rescue.allows, assigning] at allows
  | unregistered wasUnassigned => simp [assigning] at wasUnassigned

/-- A handler that owes a replacement stays so as long as the session is stored and the
fallback finds it waiting. -/
theorem committed_of_next {reply : op.Reply} {after : Rescue} {session : Session}
    (result : reply = (State.exec settings outcome op state).2)
    (allows : current.allows id op) (committed : current.phase = .committed)
    (stored : state.stored id = some session)
    (waits : op = .session (.get id) → session.FallsBack current.own)
    (moved : (rescue id sockets).next current op reply = some after)
    (unassigned : ∀ worker, op ≠ .session (.mutate id (.setWorker worker))) :
    after.phase = .committed := by
  obtain ⟨phase, phaseAfter, rfl⟩ := rescue_next_eq_some moved
  cases Rescue.moves_of_phaseAfter phaseAfter with
  | same => exact committed
  | stored => exact absurd rfl (unassigned _)
  | @declined found _ stays =>
      have read : found = some session := result.trans stored
      simp [read, waits rfl] at stays
  | @gone mutation _ =>
      have writes : (State.exec settings outcome (.session (.mutate id mutation)) state).2 =
          some (mutation.apply state.clock session) := by
        simp only [State.exec, RedisSessionStore.exec, RedisSessionStore.runSessionMutation]
        rw [show state.store.loadSession state.clock id = some session from stored]
      simp [writes] at result
  | idled => rfl
  | released => simp [Rescue.allows, committed] at allows
  | named => rfl
  | unnamed => simp [Rescue.allows, committed] at allows
  | unregistered wasUnassigned => simp [committed] at wasUnassigned

/-- `setWorker` stores its worker. -/
theorem State.worker_of_setWorker {worker : Option Worker} {found : Session}
    (stored : (State.exec settings outcome (.session (.mutate id (.setWorker worker)))
      state).1.stored id = some found) : found.worker = worker := by
  simp only [State.exec, RedisSessionStore.exec, RedisSessionStore.runSessionMutation,
    State.stored] at stored
  split at stored
  · next absent =>
      simp only at stored
      rw [absent] at stored
      simp at stored
  · rw [(RedisSessionStore.eq_of_loadSession_saveSession stored).1]
    rfl

end Steps

/-! ## Runs -/

section Runs

variable {settings : Settings} {id : SessionId} {sockets : Connection → Option PoolWorkerId}

/-- Only the assignment of the session, closes of sockets, idle reports about the session
and viewer disconnects run, and launches succeed. -/
def FallbackHandlersOnly (id : SessionId) (config : Config (controlPlane settings)) :
    Action (controlPlane settings) → Prop
  | .start job => job.concernsFallback id = true
  | .resume index outcome => ∀ requester,
      config.awaits index = some (.launch requester) → outcome = .succeeds

/-- In addition, a pooled worker is stored in the session only while it serves it, and
the handlers of a pool worker's socket that read the session with this worker find it
in state `"allocating"`. -/
def FallbackFindsSession (id : SessionId) (config : Config (controlPlane settings))
    (action : Action (controlPlane settings)) : Prop :=
  FallbackHandlersOnly id config action ∧
    ∀ index outcome thread, action = .resume index outcome →
      config.threads[index]? = some thread →
      (∀ worker workerId,
        config.awaits index = some (.session (.mutate id (.setWorker worker))) →
        Worker.IsPooledAs workerId worker → State.Serves id workerId config.state) ∧
      ∀ connection workerId session, Job.socket thread.job = some connection →
        State.poolWorkerOf config.state connection = some workerId →
        config.awaits index = some (.session (.get id)) →
        State.stored config.state id = some session →
        Worker.IsPooledAs workerId session.worker → session.state = "allocating"

/-- A state in which the session is stored without a worker and no worker has registered
for it. -/
structure State.AwaitsWorker (id : SessionId) (state : State) : Prop where
  idsDrawn : state.IdsDrawn
  poolKeyed : state.PoolKeyed
  present : ∃ session, state.stored id = some session ∧ session.worker = none ∧
    ¬session.Terminated
  noSocket : state.NoLocalSocket id .worker

/-- The monitor state of a running handler. -/
def rescuing (id : SessionId) (sockets : Connection → Option PoolWorkerId)
    (thread : Thread (controlPlane settings)) : Option Rescue :=
  (rescue id sockets).after (Job.rescue id sockets thread.job) thread.past

/-- The monitor follows the handler, which knows the record of its worker. -/
def Watched (id : SessionId) (sockets : Connection → Option PoolWorkerId) (state : State)
    (thread : Thread (controlPlane settings)) : Prop :=
  ∃ current, rescuing id sockets thread = some current ∧
    current.own = (Job.socket thread.job).bind sockets ∧ current.Fits id state

/-- The handler is bound to give the session another worker than this one. -/
def BoundToReplace (id : SessionId) (sockets : Connection → Option PoolWorkerId)
    (workerId : PoolWorkerId) (thread : Thread (controlPlane settings)) : Prop :=
  ∃ current, rescuing id sockets thread = some current ∧
    (current.phase = .assigning ∨ current.phase = .committed ∧ current.own = some workerId)

/-- The pooled worker of the session serves it, or is going to be replaced. -/
def Covered (id : SessionId) (sockets : Connection → Option PoolWorkerId)
    (config : Config (controlPlane settings)) : Prop :=
  ∀ session workerId, State.stored config.state id = some session →
    Worker.IsPooledAs workerId session.worker →
    State.Serves id workerId config.state ∨
      ∃ thread ∈ config.threads, BoundToReplace id sockets workerId thread

/-- The handler follows the monitor. -/
def Bounden (id : SessionId) (sockets : Connection → Option PoolWorkerId)
    (thread : Thread (controlPlane settings)) : Prop :=
  thread.Obeys (rescue id sockets) (Job.rescue id sockets) fun final => final.phase = .free

theorem rescuing_advance {thread : Thread (controlPlane settings)} {current after : Rescue}
    {op : Op} {reply : op.Reply} {program : Handler Unit}
    (known : rescuing id sockets thread = some current)
    (moved : (rescue id sockets).next current op reply = some after) :
    rescuing id sockets (thread.advance op reply program) = some after :=
  Option.bind_eq_some_iff.mpr ⟨current, known, moved⟩

/-- An action taken while all handlers follow the monitor. -/
def FallbackWithBounds (id : SessionId) (sockets : Connection → Option PoolWorkerId)
    (config : Config (controlPlane settings)) (action : Action (controlPlane settings)) : Prop :=
  FallbackFindsSession id config action ∧ ∀ thread ∈ config.threads, Bounden id sockets thread

theorem watched_inductive :
    Inductive (FallbackWithBounds id sockets : Config (controlPlane settings) → Action _ → Prop)
      (State.RescueSound id sockets) (Watched id sockets) := by
  refine ⟨fun config job holds permitted _ => ?_, ?_⟩
  · refine ⟨⟨(Job.socket job).bind sockets, Job.rescuePhase job⟩, if_pos permitted.1.1, rfl, ?_⟩
    intro workerId record own loaded
    cases job <;> simp [Job.rescuePhase]
  · intro config index outcome thread op next holds permitted found suspended
    obtain ⟨⟨only, -⟩, bounden⟩ := permitted
    have member := List.mem_of_getElem? found
    have awaited := Config.awaits_eq_some found suspended
    obtain ⟨current, known, own, fits⟩ := holds.threads thread member
    have allows : current.allows id op := (bounden thread member).allows known suspended
    obtain ⟨after, moved⟩ : ∃ after, (rescue id sockets).next current op
        (State.exec settings outcome op config.state).2 = some after :=
      exists_rescue current holds.state fun requester asks => only requester (asks ▸ awaited)
    refine ⟨holds.state.exec allows, ⟨after, rescuing_advance known moved,
      (rescue_next_own moved).trans own, fits.advance rfl holds.state.poolKeyed allows moved⟩, ?_⟩
    intro other thread' found' different
    obtain ⟨current', known', own', fits'⟩ := holds.threads thread' (List.mem_of_getElem? found')
    exact ⟨current', known', own', fits'.exec holds.state.poolKeyed allows⟩

/-- What a pooled worker's record loses, a handler makes good. -/
theorem Covered.of_disturbed {before : Config (controlPlane settings)}
    {index : Nat} {outcome : LaunchOutcome} {thread : Thread (controlPlane settings)} {op : Op}
    {next : op.Reply → Handler Unit} {current after : Rescue} {workerId : PoolWorkerId}
    (found : before.threads[index]? = some thread)
    (known : rescuing id sockets thread = some current)
    (fits : current.Fits id before.state) (allows : current.allows id op)
    (moved : (rescue id sockets).next current op
      (State.exec settings outcome op before.state).2 = some after)
    (serves : State.Serves id workerId before.state) (disturbs : op.Disturbs workerId) :
    ∃ other ∈ before.threads.set index
      (thread.advance op (State.exec settings outcome op before.state).2
        (next (State.exec settings outcome op before.state).2)),
      BoundToReplace id sockets workerId other := by
  refine ⟨_, List.mem_set (List.getElem?_eq_some_iff.mp found).1 _, after,
    rescuing_advance known moved, ?_⟩
  have own := rescue_next_own moved
  cases op with
  | pool script =>
      cases script with
      | allocateWorkerWithAssignment sessionId payload filters =>
          exact .inl (assigning_of_next allows allows moved (by simp))
      | markWorkerIdle other traits =>
          obtain ⟨-, isWorker⟩ := allows
          cases disturbs
          cases moved
          exact .inr ⟨rfl, isWorker⟩
      | unregisterWorker other =>
          cases disturbs
          have unregisters := allows
          rcases unregisters with assigning | ⟨isWorker, unassigned | committed⟩
          · exact .inl (assigning_of_next allows assigning moved (by simp))
          · obtain ⟨record, loaded, -, assigned, -⟩ := serves
            exact absurd assigned ((fits workerId record isWorker loaded).2 unassigned)
          · refine .inr ⟨?_, own.trans isWorker⟩
            cases moved
            simp [committed]
      | registerWorker => exact allows.elim
      | markWorkerBusy => exact allows.elim
      | heartbeatWorker => exact allows.elim
      | _ => exact disturbs.elim
  | sync op =>
      cases op with
      | elapse ms => exact allows.elim
      | _ => exact disturbs.elim
  | _ => exact disturbs.elim

/-- No step uncovers the session. -/
theorem Covered.step {before after : Config (controlPlane settings)}
    {action : Action (controlPlane settings)} (covered : Covered id sockets before)
    (holds : before.Satisfies (State.RescueSound id sockets) (Watched id sockets))
    (permitted : FallbackWithBounds id sockets before action)
    (stepped : before.step action = some after) : Covered id sockets after := by
  intro session workerId stored pooled
  obtain ⟨job, rfl, -, rfl⟩ | ⟨index, outcome, thread, op, next, rfl, found, suspended, rfl⟩ :=
    Config.step_cases stepped
  · refine (covered session workerId stored pooled).imp_right ?_
    exact fun ⟨other, member, bound⟩ => ⟨other, List.mem_append_left _ member, bound⟩
  obtain ⟨⟨only, finds⟩, bounden⟩ := permitted
  obtain ⟨assigns, reads⟩ := finds index outcome thread rfl found
  have member := List.mem_of_getElem? found
  have awaited := Config.awaits_eq_some found suspended
  obtain ⟨current, known, own, fits⟩ := holds.threads thread member
  have allows : current.allows id op := (bounden thread member).allows known suspended
  obtain ⟨moved, next'⟩ : ∃ moved, (rescue id sockets).next current op
      (State.exec settings outcome op before.state).2 = some moved :=
    exists_rescue current holds.state fun requester asks => only requester (asks ▸ awaited)
  by_cases stores : ∃ worker, op = .session (.mutate id (.setWorker worker))
  · obtain ⟨worker, rfl⟩ := stores
    have written : (State.exec settings outcome
        (.session (.mutate id (.setWorker worker))) before.state).1.stored id = some session :=
      stored
    rw [State.worker_of_setWorker written] at pooled
    exact .inl ((assigns worker workerId awaited pooled).exec holds.state.poolKeyed
      fun disturbs => disturbs)
  have unassigned (worker : Option Worker) : op ≠ .session (.mutate id (.setWorker worker)) :=
    fun same => stores ⟨worker, same⟩
  obtain ⟨old, loaded, same⟩ : ∃ old, State.stored before.state id = some old ∧
      session.worker = old.worker := by
    rcases (State.stored_exec stored).worker_cases with kept | assigned | fresh
    · exact kept
    · exact absurd assigned (unassigned _)
    · exact absurd fresh holds.state.drawn.ne
  rw [same] at pooled
  rcases covered old workerId loaded pooled with serves | bound
  · by_cases disturbs : op.Disturbs workerId
    · exact .inr (Covered.of_disturbed found known fits allows next' serves disturbs)
    · exact .inl (serves.exec holds.state.poolKeyed disturbs)
  · right
    rcases Config.exists_mem_set _ found bound with ⟨current', known', phase⟩ | elsewhere
    · cases known.symm.trans known'
      refine ⟨_, List.mem_set (List.getElem?_eq_some_iff.mp found).1 _, moved,
        rescuing_advance known next', ?_⟩
      rcases phase with assigning | ⟨committed, isWorker⟩
      · exact .inl (assigning_of_next allows assigning next' unassigned)
      · refine .inr ⟨?_, (rescue_next_own next').trans isWorker⟩
        refine committed_of_next rfl allows committed loaded ?_ next' unassigned
        rintro rfl
        obtain ⟨connection, socket, registered⟩ := Option.bind_eq_some_iff.mp (own.symm.trans isWorker)
        refine ⟨holds.state.live old loaded, ?_, workerId, isWorker, pooled⟩
        exact reads connection workerId old socket
          ((holds.state.registered connection).trans registered) awaited loaded pooled
    · exact elsewhere

/-- The whole invariant. -/
def Safeguarded (id : SessionId) (sockets : Connection → Option PoolWorkerId)
    (config : Config (controlPlane settings)) : Prop :=
  config.Satisfies (State.RescueSound id sockets) (Watched id sockets) ∧
    Covered id sockets config

theorem bounden_of_run {state : State} {final : Config (controlPlane settings)}
    (run : Run (FallbackFindsSession id) ⟨state, []⟩ final) :
    ∀ thread ∈ final.threads, Bounden id sockets thread :=
  run.obeys (Job.body_rescue settings) (by simp)

/-- In every run in which a pooled worker is stored only while it serves the session, and
its close and idle handlers find the session in state `"allocating"`, whenever no handler
is in progress the session is not left with a pooled worker that is unregistered or
idle. -/
theorem no_session_stranded {state : State} {final : Config (controlPlane settings)}
    (awaits : state.AwaitsWorker id) (run : Run (FallbackFindsSession id) ⟨state, []⟩ final)
    (idle : final.Quiescent) : ¬State.Stranded id final.state := by
  obtain ⟨fresh, stored, noWorker, live⟩ := awaits.present
  have sameSession {session : Session} (found : state.stored id = some session) :
      session = fresh := Option.some.inj (found.symm.trans stored)
  have initially : (⟨state, []⟩ : Config (controlPlane settings)).Satisfies
      (State.RescueSound id state.poolWorkerOf) (Watched id state.poolWorkerOf) := by
    refine ⟨⟨awaits.idsDrawn, awaits.poolKeyed, (awaits.idsDrawn id fresh stored).2, ?_,
      fun _ => rfl, awaits.noSocket⟩, by simp⟩
    exact fun session found => sameSession found ▸ live
  have followed : Run (FallbackWithBounds id state.poolWorkerOf) ⟨state, []⟩ final :=
    run.assuming fun config reached => bounden_of_run reached
  obtain ⟨-, covered⟩ : Safeguarded id state.poolWorkerOf final := by
    refine followed.invariant ⟨initially, fun session workerId found pooled => ?_⟩ ?_
    · rw [sameSession found, noWorker] at pooled
      simp [Worker.IsPooledAs] at pooled
    · rintro before after action ⟨holds, covered⟩ permitted stepped
      exact ⟨watched_inductive.step holds permitted stepped,
        covered.step holds permitted stepped⟩
  rintro ⟨session, workerId, found, -, pooled, unavailable⟩
  rcases covered session workerId found pooled with
    serves | ⟨thread, member, current, known, phase⟩
  · exact serves.available unavailable
  · -- a handler that has returned is bound to nothing
    have free := (bounden_of_run run thread member).post_of_finished known (idle thread member)
    rcases phase with assigning | ⟨committed, -⟩
    · simp [free] at assigning
    · simp [free] at committed

end Runs

section FallbackRuns

open controlPlane

/-- Pool worker 7 is registered on a socket and session 0 was created. -/
def poolAndSession : State :=
  [Op.sync (.accept ⟨0, 1⟩ .worker []), .sync (.registerPoolWorker ⟨0, 1⟩ 7),
    .pool (.registerWorker 7 (registrationTraits pooledSettings {} {} {}) ⟨0, 1⟩),
    .sync (.adoptPoolSocket ⟨0, 1⟩ 7), .createSession {}].foldl
    (fun state op => (State.exec pooledSettings .succeeds op state).1) State.initial

theorem poolAndSession_awaitsWorker : poolAndSession.AwaitsWorker 0 where
  idsDrawn := ((((State.initial_idsDrawn.exec _).exec _).exec _).exec _).exec _
  poolKeyed := ((((State.initial_poolKeyed.exec _).exec _).exec _).exec _).exec _
  present := ⟨_, rfl, rfl, by decide⟩
  noSocket := fun _ => rfl

/-- Session 0 gets worker 7, and the socket of the worker begins to close. -/
def assignThenClose (steps : Nat) : List (Action (controlPlane pooledSettings)) :=
  .start (.assignSessionWorker 0 (buildSession 0 0 1000 {})) :: run 0 steps ++
    .start (.peerClosing ⟨0, 1⟩) :: run 1 1 ++ [.start (.close ⟨0, 1⟩)]

/-- Handlers that concern the fallback of session 0 run and launches succeed. -/
def fallbackHandlers (_ : Config (controlPlane pooledSettings)) :
    Action (controlPlane pooledSettings) → Bool
  | .start job => Job.concernsFallback 0 job
  | .resume _ outcome => outcome = .succeeds

theorem fallbackHandlersOnly_of_fallbackHandlers (config : Config (controlPlane pooledSettings))
    (action : Action (controlPlane pooledSettings))
    (passes : fallbackHandlers config action = true) : FallbackHandlersOnly 0 config action := by
  cases action with
  | start job => exact passes
  | resume index outcome => exact fun _ _ => of_decide_eq_true passes

/-- Worker 7 serves session 0, as a test. -/
def servedBySeven (state : State) : Bool :=
  (state.poolWorker 7).any fun record => record.state ≠ "idle" && record.sessionId = some 0 &&
    record.expiresAt.any (state.clock < ·)

theorem serves_of_servedBySeven {state : State} (served : servedBySeven state = true) :
    state.Serves 0 7 := by
  obtain ⟨record, loaded, holds⟩ := (Option.any_eq_true _ _).mp served
  simp only [Bool.and_eq_true, decide_eq_true_eq] at holds
  obtain ⟨⟨busy, assigned⟩, leased⟩ := holds
  obtain ⟨time, lease, unexpired⟩ := (Option.any_eq_true _ _).mp leased
  exact ⟨record, loaded, busy, assigned, time, lease, of_decide_eq_true unexpired⟩

/-- In addition, only worker 7 is stored as a pooled worker, while it serves session 0, and
whoever reads the session finds it allocating. -/
def fallbackFinds (config : Config (controlPlane pooledSettings))
    (action : Action (controlPlane pooledSettings)) : Bool :=
  fallbackHandlers config action &&
    match action with
    | .start _ => true
    | .resume index _ => match config.awaits index with
        | some (.session (.mutate _ (.setWorker worker))) =>
            worker.bind Worker.poolWorkerId = none ||
              worker.bind Worker.poolWorkerId = some 7 && servedBySeven config.state
        | some (.session (.get _)) =>
            (State.stored config.state 0).all fun session => session.state = "allocating"
        | _ => true

theorem fallbackFindsSession_of_finds (config : Config (controlPlane pooledSettings))
    (action : Action (controlPlane pooledSettings)) (passes : fallbackFinds config action = true) :
    FallbackFindsSession 0 config action := by
  obtain ⟨handlers, finds⟩ := Bool.and_eq_true_iff.mp passes
  refine ⟨fallbackHandlersOnly_of_fallbackHandlers config action handlers, ?_⟩
  rintro index outcome thread rfl -
  refine ⟨fun worker workerId awaited pooled => ?_, fun _ _ session _ _ awaited stored _ => ?_⟩
  · simp only [awaited, pooled.2, reduceCtorEq, decide_false, Bool.false_or,
      Bool.and_eq_true, decide_eq_true_eq, Option.some.injEq] at finds
    exact finds.1 ▸ serves_of_servedBySeven finds.2
  · simpa [awaited, stored] using finds

/-- No handler is in progress, and session 0 has the given worker. -/
def settledWith (worker : Worker) (config : Config (controlPlane pooledSettings)) : Bool :=
  config.Quiescent && (State.stored config.state 0).any fun session => session.worker = some worker

/-- The worker's socket closes after the assignment: the session gets a launched worker. -/
theorem closed_worker_is_replaced :
    ∃ final : Config (controlPlane pooledSettings),
      Run (FallbackFindsSession 0) ⟨poolAndSession, []⟩ final ∧ final.Quiescent ∧
      (State.stored final.state 0).any
        (fun session => session.worker = some ⟨.runtime .docker, 0, none⟩) = true ∧
      ¬State.Stranded 0 final.state := by
  obtain ⟨final, reached, holds⟩ := Run.exists_of_schedule fallbackFindsSession_of_finds
    (⟨poolAndSession, []⟩ : Config (controlPlane pooledSettings))
    (assignThenClose 6 ++ run 2 16) (settledWith ⟨.runtime .docker, 0, none⟩) (by decide)
  obtain ⟨idle, replaced⟩ := Bool.and_eq_true_iff.mp holds
  have quiescent := of_decide_eq_true idle
  exact ⟨final, reached, quiescent, replaced,
    no_session_stranded poolAndSession_awaitsWorker reached quiescent⟩

/-- No handler is in progress, session 0 is live with worker 7, and the worker is
unregistered. -/
def strandedWithSeven (config : Config (controlPlane pooledSettings)) : Bool :=
  config.Quiescent &&
    (State.stored config.state 0).any (fun session =>
      session.worker = some (.pooled 7) ∧ ¬session.Terminated) &&
    (State.poolWorker config.state 7).isNone

/-- The worker's socket closes between its allocation and `setWorker`: the session keeps
a worker that is gone. -/
theorem worker_lost_before_setWorker_strands_session :
    ¬∀ (settings : Settings) (id : SessionId) (state : State)
      (final : Config (controlPlane settings)), state.AwaitsWorker id →
      Run (FallbackHandlersOnly id) ⟨state, []⟩ final → final.Quiescent →
      ¬State.Stranded id final.state := by
  intro neverStranded
  obtain ⟨final, reached, holds⟩ := Run.exists_of_schedule fallbackHandlersOnly_of_fallbackHandlers
    (⟨poolAndSession, []⟩ : Config (controlPlane pooledSettings))
    (assignThenClose 4 ++ run 2 7 ++ run 0 2)
    strandedWithSeven (by decide)
  simp only [strandedWithSeven, Bool.and_eq_true, decide_eq_true_eq, Option.isNone_iff_eq_none]
    at holds
  obtain ⟨⟨idle, waits⟩, unregistered⟩ := holds
  obtain ⟨session, stored, isSeven⟩ := (Option.any_eq_true _ _).mp waits
  obtain ⟨worker, live⟩ := of_decide_eq_true isSeven
  refine neverStranded pooledSettings 0 poolAndSession final poolAndSession_awaitsWorker reached
    idle ⟨session, 7, stored, live, ?_, fun record loaded => ?_⟩
  · rw [worker]
    exact ⟨rfl, rfl⟩
  · simp [unregistered] at loaded

end FallbackRuns

end RemoteBrowser
