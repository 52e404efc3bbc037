import RemoteBrowser.ControlPlane.Sockets
import RemoteBrowser.ControlPlane.WarmPool
import RemoteBrowser.Pool.Leases

/-!
# Registrations of pool workers

A close handler releases its socket atomically and unregisters the worker two awaits
later; `allocateWarmWorker` unregisters a worker after it has read that the worker has
no socket owner.  Neither looks again, so a registration that lands in between is
deleted.  A registration that finds no handler in such a gap stays: from then on every
look at the record finds its owner.
-/

namespace RemoteBrowser

open Async Program

/-! ## Looks at the owner -/

/-- The operation reports whether the worker has a socket owner. -/
def Op.ReadsPoolOwner (workerId : PoolWorkerId) : Op → Prop
  | .pool (.getSocketOwner other) => other = workerId
  | .pool (.releaseSocketOwnership other _) => other = workerId
  | _ => False

/-- The operation deletes the record of the worker. -/
def Op.UnregistersWorker (workerId : PoolWorkerId) : Op → Prop
  | .pool (.unregisterWorker other) => other = workerId
  | _ => False

/-- The worker was found with a socket owner. -/
def FindsPoolOwner (workerId : PoolWorkerId) : Event controlPlane.face → Prop
  | ⟨.pool (.getSocketOwner other), owner⟩ => other = workerId ∧ owner ≠ none
  | ⟨.pool (.releaseSocketOwnership other _), released⟩ => other = workerId ∧ released = false
  | _ => False

/-- The handler unregisters the worker only after it has found it without an owner. -/
abbrev LooksFirst {α : Type} (workerId : PoolWorkerId) (handler : Handler α) : Prop :=
  handler.Guarded (Op.ReadsPoolOwner workerId) (Op.UnregistersWorker workerId)
    (FindsPoolOwner workerId)

section Handlers

variable {workerId : PoolWorkerId} (settings : Settings) (instanceId : Nat)

/-- A handler that is not among those that unregister workers need not look. -/
theorem looksFirst_of_issuedBy {α : Type} {job : Job} {handler : Handler α}
    (issues : handler.Issues (Op.IssuedBy job)) (other : ¬job.MayUnregister) :
    LooksFirst workerId handler := by
  apply issues.guarded
  intro op issued unregisters
  cases op with
  | pool script =>
      cases script with
      | unregisterWorker target => exact other issued
      | _ => exact unregisters
  | _ => exact unregisters

theorem terminateSession_looksFirst (session : Session) (reason : String) :
    LooksFirst workerId (terminateSession settings instanceId session reason) :=
  looksFirst_of_issuedBy (@terminateSession_issuedBy (.expiry instanceId) settings instanceId
    session reason) not_false

theorem fallbackWarmPoolSession_looksFirst (id : SessionId) (target : PoolWorkerId) :
    LooksFirst workerId (fallbackWarmPoolSession settings instanceId id target) :=
  looksFirst_of_issuedBy (@fallbackWarmPoolSession_issuedBy (.expiry instanceId) settings
    instanceId id target) not_false

theorem looksFirst_await {op : Op} (harmless : ¬op.UnregistersWorker workerId) :
    LooksFirst workerId (await op) :=
  Issues.guarded (issues_call.mpr harmless) fun _ => id

theorem looksFirst_mutate (id : SessionId) (mutation : SessionMutation) :
    LooksFirst workerId (mutate id mutation) := by
  have awaits : LooksFirst workerId (await (.session (.mutate id mutation))) :=
    looksFirst_await not_false
  exact awaits.bind fun _ => .pure ()

theorem hasLocalOwnerSocket_looksFirst (target : PoolWorkerId) :
    LooksFirst workerId (hasLocalOwnerSocket instanceId target) := by
  apply (hasLocalOwnerSocket_issues instanceId target).guarded
  intro op delivering unregisters
  cases op with
  | pool script => cases script <;> first | exact delivering | exact unregisters
  | _ => exact unregisters

/-- The second look of `allocateWarmWorker`, and what follows it. -/
theorem discardUnowned_looksFirst (worker : PoolWorker)
    {loop : Handler (Option PoolWorker)} (next : LooksFirst workerId loop) :
    LooksFirst workerId (do
      match ← pool (.getSocketOwner worker.workerId) with
      | some _ => return some worker
      | none =>
          pool (.unregisterWorker worker.workerId)
          loop) := by
  constructor
  · rintro (unregisters | ⟨blind, reply, later⟩)
    · exact unregisters
    · cases reply with
      | some owner => exact later
      | none =>
          rcases later with unregisters | ⟨-, reply, later⟩
          · exact blind unregisters
          · exact next.closed later
  · intro reply
    cases reply with
    | some owner => exact ⟨fun _ => id, trivial⟩
    | none =>
        refine ⟨fun found => absurd rfl found.2, fun reply => ⟨?_, next.reacts⟩⟩
        exact fun found => found.elim

theorem allocateWarmWorkerLoop_looksFirst (session : Session) (deadline rounds : Nat) :
    LooksFirst workerId
      (allocateWarmWorkerLoop settings instanceId session deadline rounds) := by
  induction rounds with
  | zero => exact ⟨id, trivial⟩
  | succ rounds ih =>
      unfold allocateWarmWorkerLoop
      refine Guarded.bind (looksFirst_await not_false) fun found => ?_
      cases found with
      | none =>
          refine Guarded.bind (looksFirst_await not_false) fun now => ?_
          split
          · exact .pure none
          · exact Guarded.bind (looksFirst_await not_false) fun _ => ih
      | some worker =>
          refine (hasLocalOwnerSocket_looksFirst instanceId worker.workerId).bind fun has => ?_
          cases has with
          | true => exact .pure (some worker)
          | false => exact discardUnowned_looksFirst worker ih

theorem assignSessionWorker_looksFirst (session : Session) :
    LooksFirst workerId (assignSessionWorker settings instanceId session) := by
  have launches : LooksFirst workerId (launchWorker session) :=
    looksFirst_of_issuedBy (@launchWorker_issuedBy (.expiry instanceId) session) not_false
  have pooled : LooksFirst workerId (pooledWorker settings instanceId session) := by
    unfold pooledWorker
    split
    · exact Guarded.bind (looksFirst_await not_false) fun now =>
        allocateWarmWorkerLoop_looksFirst settings instanceId session _ _
    · exact .pure none
  refine pooled.bind fun record => ?_
  cases record with
  | none => exact launches
  | some record =>
      refine Guarded.bind (looksFirst_await not_false) fun _ => ?_
      exact (looksFirst_mutate ..).bind fun _ => .pure _

theorem createRemoteSession_looksFirst (body : SessionBody) :
    LooksFirst workerId (createRemoteSession settings instanceId body) := by
  have others : LooksFirst workerId (onlyIf (settings.singleActiveSessionMode = true)
      (terminateOtherSessions settings instanceId)) := by
    have issues : (onlyIf (settings.singleActiveSessionMode = true)
        (terminateOtherSessions settings instanceId)).Issues
        (Op.IssuedBy (.expiry instanceId)) := by
      unfold onlyIf
      split
      · exact Issues.bind ⟨trivial, fun _ => trivial⟩ fun sessions => Issues.forEach
          fun session _ => terminateSession_issuedBy settings instanceId session _
      · trivial
    exact looksFirst_of_issuedBy issues not_false
  refine others.bind fun _ => Guarded.bind (looksFirst_await not_false) fun created => ?_
  refine (looksFirst_mutate ..).bind fun _ => ?_
  split
  · exact .pure _
  · refine (assignSessionWorker_looksFirst ..).bind fun result => ?_
    cases result with
    | ok _ => exact .pure _
    | error message => exact Guarded.bind (looksFirst_await not_false) fun _ => .pure _

theorem applyInternalSessionUpdate_looksFirst (id : SessionId) (update : InternalUpdate) :
    LooksFirst workerId (applyInternalSessionUpdate settings instanceId id update) := by
  refine Guarded.bind (looksFirst_await not_false) fun found => ?_
  cases found with
  | none => exact .pure _
  | some session =>
      dsimp only
      split
      · exact .pure _
      refine Guarded.bind (looksFirst_await not_false) fun updated => ?_
      cases updated with
      | none => exact .pure _
      | some updated =>
          dsimp only
          split
          · refine (assignSessionWorker_looksFirst ..).bind fun result => ?_
            cases result with
            | ok _ => exact Guarded.bind (looksFirst_await not_false) fun _ => .pure _
            | error message => exact (terminateSession_looksFirst ..).bind fun _ => .pure _
          · exact .pure _

theorem closePoolSocket_looksFirst (connection : Connection) (target : PoolWorkerId) :
    LooksFirst workerId (closePoolSocket settings connection target) := by
  refine Guarded.bind (looksFirst_await not_false) fun _ => ?_
  constructor
  · rintro (unregisters | ⟨blind, reply, later⟩)
    · exact unregisters
    · cases reply with
      | false => exact later
      | true =>
          obtain ⟨-, record, later⟩ := later.resolve_left id
          rcases later with unregisters | ⟨-, reply, later⟩
          · exact blind unregisters
          cases linked : record.bind PoolWorker.sessionId with
          | none =>
              rw [linked] at later
              exact later
          | some sessionId =>
              rw [linked] at later
              exact (fallbackWarmPoolSession_looksFirst ..).closed later
  · intro reply
    cases reply with
    | false => exact ⟨fun _ => id, trivial⟩
    | true =>
        refine ⟨fun found => Bool.noConfusion found.2, fun record => ⟨False.elim, ?_⟩⟩
        refine fun reply => ⟨False.elim, ?_⟩
        cases linked : record.bind PoolWorker.sessionId with
        | none => exact trivial
        | some sessionId => exact (fallbackWarmPoolSession_looksFirst ..).reacts

theorem closeSessionSocket_looksFirst (connection : Connection) (binding : Binding) :
    LooksFirst workerId (closeSessionSocket settings connection binding) := by
  refine Guarded.bind (looksFirst_await not_false) fun _ => ?_
  refine Guarded.bind (looksFirst_await not_false) fun released => ?_
  split
  · refine Guarded.bind (looksFirst_await not_false) fun found => ?_
    cases found with
    | none => exact .pure ()
    | some session =>
        dsimp only
        split
        · exact looksFirst_of_issuedBy (@markViewerDisconnectedAndSchedule_issuedBy
            (.expiry 0) settings connection.instanceId binding.sessionId _) not_false
        · exact looksFirst_await not_false
  · exact .pure ()

theorem onClose_looksFirst (connection : Connection) :
    LooksFirst workerId (onClose settings connection) := by
  refine Guarded.bind (looksFirst_await not_false) fun delivered => ?_
  split
  · refine Guarded.bind (looksFirst_await not_false) fun registration => ?_
    split
    · exact closePoolSocket_looksFirst ..
    · exact closeSessionSocket_looksFirst ..
    · exact .pure ()
  · exact .pure ()

end Handlers

theorem Job.body_looksFirst (settings : Settings) (workerId : PoolWorkerId) (job : Job) :
    LooksFirst workerId (job.body settings) := by
  cases job with
  | close connection => exact onClose_looksFirst settings connection
  | createSession instanceId body =>
      exact (createRemoteSession_looksFirst settings instanceId body).bind fun _ => .pure ()
  | internalUpdate instanceId id update =>
      exact (applyInternalSessionUpdate_looksFirst settings instanceId id update).bind
        fun _ => .pure ()
  | assignSessionWorker instanceId session =>
      exact (assignSessionWorker_looksFirst settings instanceId session).bind fun _ => .pure ()
  | _ => exact looksFirst_of_issuedBy (Job.body_issues settings _) not_false

section Runs

variable {settings : Settings} {workerId : PoolWorkerId} {connection : Connection}

/-! ## The newest registration -/

/-- The action registers the worker with the socket as its owner. -/
def Registers (config : Config (controlPlane settings)) (action : Action (controlPlane settings))
    (workerId : PoolWorkerId) (connection : Connection) : Prop :=
  ∃ index outcome traits, action = .resume index outcome ∧
    config.awaits index = some (.pool (.registerWorker workerId traits connection))

/-- The handler may unregister the worker without looking at its owner again. -/
def InUnregisterGap (workerId : PoolWorkerId) (thread : Thread (controlPlane settings)) : Prop :=
  thread.program.CanIssue (Op.ReadsPoolOwner workerId) (Op.UnregistersWorker workerId)

/-- The worker does not register again, and time does not pass the end of its lease. -/
def KeepsRegistration (workerId : PoolWorkerId) (config : Config (controlPlane settings))
    (action : Action (controlPlane settings)) : Prop :=
  (∀ connection, ¬Registers config action workerId connection) ∧
  ∀ index outcome ms, action = .resume index outcome →
    config.awaits index = some (.sync (.elapse ms)) →
    ∀ record time, State.poolWorker config.state workerId = some record →
      record.expiresAt = some time → State.clock config.state + ms < time

/-- The worker is registered with the socket, and its lease has not run out. -/
def State.RegisteredTo (workerId : PoolWorkerId) (connection : Connection) (state : State) :
    Prop :=
  state.pool.LeasedTo workerId connection (state.clock + 1)

theorem State.RegisteredTo.poolWorker {state : State}
    (registered : state.RegisteredTo workerId connection) :
    ∃ record time, state.poolWorker workerId = some record ∧
      record.socketOwner = some connection ∧ record.expiresAt = some time ∧
      state.clock < time := by
  obtain ⟨record, time, found, -, owned, lease, late⟩ :=
    RedisWorkerPool.LeasedTo.loadWorker registered (Nat.lt_succ_self _)
  exact ⟨record, time, found, owned, lease, late⟩

/-- A look at a registered worker finds its owner, unless its own socket is released. -/
theorem State.RegisteredTo.findsOwner {state : State} {outcome : LaunchOutcome} {op : Op}
    (registered : state.RegisteredTo workerId connection) (reads : op.ReadsPoolOwner workerId)
    (spares : ¬op.ClosesOut connection) :
    FindsPoolOwner workerId ⟨op, (State.exec settings outcome op state).2⟩ := by
  obtain ⟨record, time, found, owned, -, -⟩ := registered.poolWorker
  have loaded : state.pool.loadWorker state.clock workerId = some record := found
  cases op with
  | pool script =>
      cases script with
      | getSocketOwner target =>
          obtain rfl : target = workerId := reads
          refine ⟨rfl, ?_⟩
          simp [State.exec, RedisWorkerPool.exec, loaded, owned]
      | releaseSocketOwnership target released =>
          obtain rfl : target = workerId := reads
          refine ⟨rfl, ?_⟩
          have foreign : connection ≠ released := by
            rintro rfl
            exact spares rfl
          simp [State.exec, RedisWorkerPool.exec, RedisWorkerPool.releaseSocketOwnership,
            loaded, owned, foreign]
      | _ => exact reads.elim
  | _ => exact reads.elim

/-- What neither evicts the worker nor lets its lease run out keeps the registration. -/
theorem State.RegisteredTo.exec {state : State} {outcome : LaunchOutcome} {op : Op}
    (registered : state.RegisteredTo workerId connection) (keyed : state.PoolKeyed)
    (positive : 0 < settings.workerPoolLeaseTtlMs)
    (stays : ∀ script, op = .pool script → ¬script.Evicts workerId connection)
    (inTime : ∀ ms record time, op = .sync (.elapse ms) →
      state.poolWorker workerId = some record → record.expiresAt = some time →
      state.clock + ms < time) :
    (State.exec settings outcome op state).1.RegisteredTo workerId connection := by
  cases op with
  | pool script =>
      exact RedisWorkerPool.LeasedTo.exec keyed registered (Nat.lt_succ_self _)
        (Nat.add_le_add_left positive _) (stays script rfl)
  | sync call =>
      have frame := State.execSync_frame call state
      obtain ⟨record, time, found, own, owned, lease, late⟩ := registered
      refine ⟨record, time, ?_, own, owned, lease, ?_⟩
      · exact (congrFun (congrArg RedisWorkerPool.workers frame.pool) workerId).trans found
      · change (State.execSync call state).1.clock + 1 ≤ time
        rw [frame.clock]
        cases call with
        | elapse ms =>
            have readable : state.poolWorker workerId = some record :=
              Redis.Entry.read_eq_some.mpr ⟨_, found, fun expiry expires => by
                cases expires
                omega, rfl⟩
            exact inTime ms record time rfl readable lease
        | _ => exact late
  | launch session => cases outcome <;> exact registered
  | _ => exact registered

variable {before middle final : Config (controlPlane settings)}
  {action : Action (controlPlane settings)}

/-- Right after its registration the worker is registered. -/
theorem registeredTo_of_registers (positive : 0 < settings.workerPoolLeaseTtlMs)
    (registers : Registers before action workerId connection)
    (stepped : before.step action = some middle) :
    State.RegisteredTo workerId connection middle.state := by
  obtain ⟨index, outcome, traits, rfl, awaited⟩ := registers
  obtain ⟨thread, next, -, -, rfl⟩ := Config.step_resume stepped awaited
  exact (RedisWorkerPool.leasedTo_registerWorker positive traits).mono
    (Nat.add_le_add_left positive _)

/-- A handler outside the gap stays outside over the registration. -/
theorem looksFirst_of_registers (reached : Run anyAction ⟨State.initial, []⟩ before)
    (registers : Registers before action workerId connection)
    (quiet : ∀ thread ∈ before.threads, ¬InUnregisterGap workerId thread)
    (stepped : before.step action = some middle) :
    ∀ thread ∈ middle.threads, LooksFirst workerId thread.program := by
  have looks : ∀ thread ∈ before.threads, LooksFirst workerId thread.program := by
    intro thread member
    refine ⟨quiet thread member, ?_⟩
    exact reached.reacts (fun job => (Job.body_looksFirst settings workerId job).reacts)
      (by simp) thread member
  obtain ⟨index, outcome, traits, rfl, awaited⟩ := registers
  obtain ⟨thread, next, found, suspended, rfl⟩ := Config.step_resume stepped awaited
  intro other member
  rcases List.mem_or_eq_of_mem_set member with old | rfl
  · exact looks other old
  · have guarded := looks thread (List.mem_of_getElem? found)
    rw [suspended] at guarded
    exact guarded.next _ False.elim

/-- In every run: after a registration of a pool worker at which no handler is about to
unregister it unseen, and while the worker does not register again and its lease does
not run out, the record names the registered socket as its owner for as long as that
socket has not closed. -/
theorem newest_registration_stays (positive : 0 < settings.workerPoolLeaseTtlMs)
    (reached : Run anyAction ⟨State.initial, []⟩ before)
    (registers : Registers before action workerId connection)
    (quiet : ∀ thread ∈ before.threads, ¬InUnregisterGap workerId thread)
    (stepped : before.step action = some middle)
    (newest : Run (KeepsRegistration workerId) middle final)
    (isOpen : State.isOpen final.state connection = true) :
    ∃ record, State.poolWorker final.state workerId = some record ∧
      record.socketOwner = some connection := by
  have unclosed : Unclosed connection final := by
    intro socket found
    simpa [State.isOpen, found] using isOpen
  obtain ⟨unclosedMiddle, checked⟩ := newest.inherited (Unclosed connection)
    (fun _ _ _ stepped => unclosed_of_step stepped) unclosed
  have started : Run anyAction ⟨State.initial, []⟩ middle := reached.tail trivial stepped
  have spared (config : Config (controlPlane settings))
      (run : Run (Throughout (Unclosed connection) (KeepsRegistration workerId)) middle config) :
      ∀ thread ∈ config.threads, SparesSocket connection thread :=
    sparesSocket_of_run (started.trans (run.mono fun _ _ _ => trivial)) (run.holds unclosedMiddle)
  have preserved : Inductive (fun (config : Config (controlPlane settings)) action =>
        Throughout (Unclosed connection) (KeepsRegistration workerId) config action ∧
          ∀ thread ∈ config.threads, SparesSocket connection thread)
      (fun state => State.PoolKeyed state ∧ State.RegisteredTo workerId connection state)
      fun _ thread => LooksFirst workerId thread.program := by
    refine ⟨fun config job _ _ _ => Job.body_looksFirst settings workerId job, ?_⟩
    intro config index outcome thread op next holds permitted found suspended
    have member := List.mem_of_getElem? found
    have awaited := Config.awaits_eq_some found suspended
    have looks := holds.threads thread member
    rw [suspended] at looks
    have spares : ¬Op.ClosesOut connection op :=
      (permitted.2 thread member).not_closesOut suspended
    have stays (script : PoolOp) (same : op = .pool script) :
        ¬script.Evicts workerId connection := by
      subst same
      cases script with
      | registerWorker target traits owner =>
          rintro rfl
          exact permitted.1.1.1 owner ⟨index, outcome, traits, rfl, awaited⟩
      | releaseSocketOwnership target released =>
          rintro ⟨rfl, rfl⟩
          exact spares rfl
      | unregisterWorker target =>
          rintro rfl
          exact looks.closed (.inl rfl)
      | _ => exact id
    refine ⟨⟨holds.state.1.exec op, holds.state.2.exec holds.state.1 positive stays ?_⟩, ?_,
      fun _ other located _ => holds.threads other (List.mem_of_getElem? located)⟩
    · rintro ms record time rfl loaded lease
      exact permitted.1.1.2 index outcome ms rfl awaited record time loaded lease
    · exact looks.next _ fun reads => holds.state.2.findsOwner reads spares
  have kept := preserved.run (checked.assuming spared)
    ⟨⟨poolKeyed_of_run started State.initial_poolKeyed,
      registeredTo_of_registers positive registers stepped⟩,
      looksFirst_of_registers reached registers quiet stepped⟩
  obtain ⟨record, -, found, owned, -⟩ := kept.state.2.poolWorker
  exact ⟨record, found, owned⟩

end Runs

section PoolRuns

open controlPlane

variable {settings : Settings}

/-- The worker and the socket of the registration that a handler awaits. -/
def registration (config : Config (controlPlane settings)) (index : Nat) :
    Option (PoolWorkerId × Connection) :=
  match config.awaits index with
  | some (.pool (.registerWorker workerId _ connection)) => some (workerId, connection)
  | _ => none

theorem registers_of_registration {config : Config (controlPlane settings)} {index : Nat}
    {workerId : PoolWorkerId} {connection : Connection}
    (awaits : registration config index = some (workerId, connection)) :
    Registers config (.resume index .succeeds) workerId connection := by
  unfold registration at awaits
  split at awaits
  · next awaited =>
      cases awaits
      exact ⟨index, .succeeds, _, rfl, awaited⟩
  · simp at awaits

/-- Worker 7 does not register again, and time does not pass the end of its lease. -/
def registrationKept (config : Config (controlPlane settings))
    (action : Action (controlPlane settings)) : Bool :=
  match action with
  | .start _ => true
  | .resume index _ =>
      match config.awaits index with
      | some (.pool (.registerWorker workerId _ _)) => workerId ≠ 7
      | some (.sync (.elapse ms)) => (State.poolWorker config.state 7).all fun record =>
          record.expiresAt.all fun time => State.clock config.state + ms < time
      | _ => true

theorem keepsRegistration_of_kept (config : Config (controlPlane settings))
    (action : Action (controlPlane settings)) (passes : registrationKept config action = true) :
    KeepsRegistration 7 config action := by
  constructor
  · rintro connection ⟨index, outcome, traits, rfl, awaited⟩
    simp [registrationKept, awaited] at passes
  · rintro index outcome ms rfl awaited record time found lease
    simpa [registrationKept, awaited, found, lease] using passes

/-- Every handler has returned or is that of a message. -/
def noneUnregisters (config : Config (controlPlane settings)) : Bool :=
  config.threads.all fun thread => thread.program.Finished ||
    match Thread.job thread with
    | Job.message _ _ => true
    | _ => false

/-- The handler of a message does not unregister workers. -/
theorem noGap_of_noneUnregisters {config : Config (controlPlane settings)}
    {workerId : PoolWorkerId} (reached : Run anyAction ⟨State.initial, []⟩ config)
    (passes : noneUnregisters config = true) :
    ∀ thread ∈ config.threads, ¬InUnregisterGap workerId thread := by
  intro thread member
  have checked := List.all_eq_true.mp passes thread member
  rcases Bool.or_eq_true_iff.mp checked with finished | handles
  · exact not_canIssue_of_finished (of_decide_eq_true finished)
  · have issues := issuedBy_of_run reached (by simp) thread member
    split at handles
    · next connection received isMessage =>
        rw [isMessage] at issues
        exact (looksFirst_of_issuedBy issues not_false).closed
    · simp at handles

/-- Worker 7 is registered on a socket that closes; its close handler performs the given
number of awaits, and then the worker is about to register on a new socket. -/
def reconnect (closing : Nat) : List (Action (controlPlane pooledSettings)) :=
  .start (.connect ⟨0, 1⟩ .worker []) :: run 0 1 ++
    .start (.message ⟨0, 1⟩ (.poolRegister "" (some 7) {} {} {})) :: run 1 8 ++
    .start (.peerClosing ⟨0, 1⟩) :: run 2 1 ++
    .start (.close ⟨0, 1⟩) :: run 3 closing ++
    .start (.connect ⟨0, 2⟩ .worker []) :: run 4 1 ++
    .start (.message ⟨0, 2⟩ (.poolRegister "" (some 7) {} {} {})) :: run 5 2

/-- The next registration is that of worker 7 on its new socket, and from then on the
actions keep it and reach a configuration of which a test can tell. -/
def registersThen (actions : List (Action (controlPlane pooledSettings)))
    (test : Config (controlPlane pooledSettings) → Bool)
    (config : Config (controlPlane pooledSettings)) : Bool :=
  decide (registration config 5 = some (7, ⟨0, 2⟩)) &&
    (config.step (.resume 5 .succeeds)).any fun middle =>
      (middle.schedule registrationKept actions).any test

/-- The old socket's close is handled before the worker registers again: half a minute
later the record names the new socket. -/
theorem reconnected_worker_stays_registered :
    ∃ before middle final : Config (controlPlane pooledSettings),
      Run anyAction ⟨State.initial, []⟩ before ∧
      Registers before (.resume 5 .succeeds) 7 ⟨0, 2⟩ ∧
      (∀ thread ∈ before.threads, ¬InUnregisterGap 7 thread) ∧
      before.step (.resume 5 .succeeds) = some middle ∧
      Run (KeepsRegistration 7) middle final ∧
      State.isOpen final.state ⟨0, 2⟩ = true ∧ State.clock final.state = 30000 ∧
      ∃ record, State.poolWorker final.state 7 = some record ∧
        record.socketOwner = some ⟨0, 2⟩ := by
  obtain ⟨before, reached, holds⟩ := Run.exists_of_actions
    (⟨State.initial, []⟩ : Config (controlPlane pooledSettings)) (reconnect 6)
    (fun before => noneUnregisters before && registersThen
      (run 5 5 ++ .start (.elapse 30000) :: run 6 1) (fun final => decide
        (State.isOpen final.state ⟨0, 2⟩ = true ∧ State.clock final.state = 30000)) before)
    (by decide)
  obtain ⟨calm, registersNext⟩ := Bool.and_eq_true_iff.mp holds
  obtain ⟨awaits, continues⟩ := Bool.and_eq_true_iff.mp registersNext
  have registers := registers_of_registration (of_decide_eq_true awaits)
  have quiet : ∀ thread ∈ before.threads, ¬InUnregisterGap 7 thread :=
    noGap_of_noneUnregisters reached calm
  obtain ⟨middle, stepped, rest⟩ := Option.any_eq_true _ _ |>.mp continues
  obtain ⟨final, newest, told⟩ := Run.exists_of_schedule keepsRegistration_of_kept _ _ _ rest
  obtain ⟨isOpen, late⟩ := of_decide_eq_true told
  exact ⟨before, middle, final, reached, registers, quiet, stepped, newest, isOpen, late,
    newest_registration_stays (by decide) reached registers quiet stepped newest isOpen⟩

/-- Worker 7 registers on a new socket while the close handler of its old socket is
between the release and `unregisterWorker`: the registration is acknowledged, and its
record is gone when all handlers have returned. -/
theorem late_close_deletes_newer_registration :
    ¬∀ (settings : Settings) (workerId : PoolWorkerId) (connection : Connection)
      (before middle final : Config (controlPlane settings))
      (action : Action (controlPlane settings)),
      0 < settings.workerPoolLeaseTtlMs →
      Run anyAction ⟨State.initial, []⟩ before →
      Registers before action workerId connection → before.step action = some middle →
      Run (KeepsRegistration workerId) middle final → final.Quiescent →
      .notice connection (.poolRegistered workerId) ∈ State.sent final.state →
      State.isOpen final.state connection = true →
      ∃ record, State.poolWorker final.state workerId = some record ∧
        record.socketOwner = some connection := by
  intro stays
  obtain ⟨before, reached, holds⟩ := Run.exists_of_actions
    (⟨State.initial, []⟩ : Config (controlPlane pooledSettings)) (reconnect 4)
    (registersThen (run 5 5 ++ run 3 2) fun final => decide (final.Quiescent ∧
      Sent.notice ⟨0, 2⟩ (.poolRegistered 7) ∈ State.sent final.state ∧
      State.isOpen final.state ⟨0, 2⟩ = true ∧ State.poolWorker final.state 7 = none))
    (by decide)
  obtain ⟨awaits, continues⟩ := Bool.and_eq_true_iff.mp holds
  have registers := registers_of_registration (of_decide_eq_true awaits)
  obtain ⟨middle, stepped, rest⟩ := Option.any_eq_true _ _ |>.mp continues
  obtain ⟨final, newest, told⟩ := Run.exists_of_schedule keepsRegistration_of_kept _ _ _ rest
  obtain ⟨quiescent, acknowledged, isOpen, absent⟩ := of_decide_eq_true told
  obtain ⟨record, found, -⟩ := stays pooledSettings 7 ⟨0, 2⟩ before middle final _ (by decide)
    reached registers stepped newest quiescent acknowledged isOpen
  cases absent.symm.trans found

end PoolRuns

end RemoteBrowser
