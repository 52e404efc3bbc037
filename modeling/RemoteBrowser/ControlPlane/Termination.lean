import RemoteBrowser.ControlPlane.Oversight

/-!
# Termination is final and has one source

Whether `"terminated"` is absorbing depends on the gaps between a handler's look at
a session and the state it then stores: a termination that falls into such a gap is
overwritten.  In every run in which terminations keep out of these gaps, and no
`worker-state` message is applied to a session that is already terminated, a
terminated session stays so.

Whether `"terminated"` is only ever stored under the termination lock depends on
the state strings that messages and internal events carry; whether the worker that is
then stopped is the stored one, on no worker being stored between the handler's look
at the session and the end of the termination, or after it.
-/

namespace RemoteBrowser

open Async Program

namespace Op

/-- The operation stores a state other than `"terminated"`. -/
def Reopens (id : SessionId) (op : Op) : Prop :=
  ∃ state, op.storesState id = some state ∧ state ≠ "terminated"

/-- The operation loads the session. -/
def Reads (id : SessionId) (op : Op) : Prop := op = .session (.get id)

end Op

section Absorbing

variable {settings : Settings}

/-- A handler that has looked at the session can still store a state other than
`"terminated"` without looking again. -/
def InGap (id : SessionId) (thread : Thread (controlPlane settings)) : Prop :=
  thread.program.CanIssue (Op.Reads id) (Op.Reopens id)

/-- The session is stored as terminated. -/
def State.TerminatedNow (state : State) (id : SessionId) : Prop :=
  ∃ session ∈ state.stored id, session.Terminated

instance (state : State) (id : SessionId) : Decidable (state.TerminatedNow id) :=
  inferInstanceAs (Decidable (∃ session ∈ state.stored id, session.Terminated))

/-- Steps that do not disturb a termination: `"terminated"` is stored only while no
other handler is in a gap, and a `worker-state` message does not store its state
into a session that is already terminated. -/
def KeepsTermination (id : SessionId) (config : Config (controlPlane settings)) :
    Action (controlPlane settings) → Prop
  | .start _ => True
  | .resume index _ => ∀ thread op, config.threads[index]? = some thread →
      config.awaits index = some op →
      (op.storesState id = some "terminated" → config.Others index fun other =>
        other.job.isWorkerStateMessage = true ∨ ¬InGap id other) ∧
      (thread.job.isWorkerStateMessage = true → op.Reopens id →
        ¬config.state.TerminatedNow id)

/-- The handler cannot overwrite a termination. -/
def Harmless (id : SessionId) (thread : Thread (controlPlane settings)) : Prop :=
  thread.job.isWorkerStateMessage = true ∨ (overseen id thread).live = false ∨
    ¬InGap id thread

variable {id : SessionId} {outcome : LaunchOutcome}

theorem live_eq_false_of_get {current : Oversight} {state : State}
    (terminated : state.TerminatedNow id) :
    (current.after id (.session (.get id)) (state.stored id)).live = false := by
  obtain ⟨session, stored, isTerminated⟩ := terminated
  rw [Option.mem_def.mp stored]
  simp [Oversight.after, Op.liveAfter, isTerminated]

/-- While the session stays terminated, a harmless handler stays harmless. -/
theorem Harmless.advance {thread : Thread (controlPlane settings)} {op : Op}
    {next : op.Reply → Handler Unit} (harmless : Harmless id thread)
    (suspended : thread.program = .request op next) {state : State}
    (terminated : state.TerminatedNow id) :
    Harmless id (thread.advance op (State.exec settings outcome op state).2
      (next (State.exec settings outcome op state).2)) := by
  by_cases reads : op.Reads id
  · cases reads
    exact .inr (.inl (live_eq_false_of_get terminated))
  · rcases harmless with relaxed | notLive | closed
    · exact .inl relaxed
    · refine .inr (.inl ?_)
      rw [overseen_advance]
      unfold Oversight.after Op.liveAfter
      split
      · next other _ _ _ =>
          rw [if_neg fun same => reads (by rw [same]; rfl)]
          exact notLive
      · simp [notLive]
      · exact notLive
    · refine .inr (.inr ?_)
      unfold InGap at closed
      rw [suspended] at closed
      exact not_canIssue_next closed reads _

theorem live_eq_false_of_storesTerminated {current : Oversight} {op : Op}
    (stores : op.storesState id = some "terminated") (reply : op.Reply) :
    (current.after id op reply).live = false := by
  unfold Op.storesState at stores
  split at stores
  · split at stores
    · next same =>
        cases stores
        simp [Oversight.after, Op.liveAfter, same]
    · simp at stores
  · simp at stores

/-- A session becomes terminated only by storing that state. -/
theorem storesTerminated_of_exec {op : Op} {state : State}
    (before : ¬state.TerminatedNow id)
    (after : (State.exec settings outcome op state).1.TerminatedNow id) :
    op.storesState id = some "terminated" := by
  obtain ⟨session, stored, isTerminated⟩ := after
  unfold Session.Terminated at isTerminated
  rcases (State.stored_exec stored).state_cases with
    ⟨old, storedOld, same⟩ | stores | ⟨-, allocating⟩
  · exact absurd ⟨old, storedOld, same.symm.trans isTerminated⟩ before
  · rw [stores, isTerminated]
    simp [Op.storesState]
  · rw [isTerminated] at allocating
    exact absurd allocating (by decide)

/-- In an undisturbed run, no handler can overwrite a termination. -/
theorem harmless_of_run {final : Config (controlPlane settings)}
    (run : Run (KeepsTermination id) ⟨State.initial, []⟩ final) :
    final.Satisfies State.IdsDrawn
      fun (state : State) thread => state.TerminatedNow id → Harmless id thread := by
  have preserved : Inductive
      (KeepsTermination id : Config (controlPlane settings) → Action _ → Prop) State.IdsDrawn
      fun (state : State) thread => state.TerminatedNow id → Harmless id thread := by
    refine ⟨fun config job _ _ _ _ => .inr (.inl rfl), ?_⟩
    intro config index choice thread op next holds permitted found suspended
    have conditions := permitted thread op found (Config.awaits_eq_some found suspended)
    refine ⟨holds.state.exec op, ?_⟩
    by_cases before : config.state.TerminatedNow id
    · refine ⟨fun _ => ?_, fun other thread' found' _ _ => ?_⟩
      · exact (holds.threads thread (List.mem_of_getElem? found) before).advance suspended before
      · exact holds.threads thread' (List.mem_of_getElem? found') before
    · have stores (after : ((controlPlane settings).exec choice op config.state).1.TerminatedNow
          id) : op.storesState id = some "terminated" := storesTerminated_of_exec before after
      refine ⟨fun after => .inr (.inl ?_), fun other thread' found' different after => ?_⟩
      · exact live_eq_false_of_storesTerminated (stores after) _
      · rcases conditions.1 (stores after) other thread' found' different with
          relaxed | closed
        · exact .inl relaxed
        · exact .inr (.inr closed)
  exact preserved.run run ⟨State.initial_idsDrawn, by simp⟩

/-- A permitted step leaves a terminated session terminated or makes it unreadable. -/
theorem terminated_of_step {before after : Config (controlPlane settings)}
    {action : Action (controlPlane settings)}
    (reached : Run (KeepsTermination id) ⟨State.initial, []⟩ before)
    (permitted : KeepsTermination id before action) (stepped : before.step action = some after)
    (terminated : ∀ session, before.state.stored id = some session → session.Terminated)
    (drawn : id < before.state.nextSessionId) :
    (∀ session, after.state.stored id = some session → session.Terminated) ∧
      id < after.state.nextSessionId := by
  obtain ⟨job, rfl, -, rfl⟩ | ⟨index, choice, thread, op, next, rfl, found, suspended, rfl⟩ :=
    Config.step_cases stepped
  · exact ⟨terminated, drawn⟩
  refine ⟨fun session stored => ?_, drawn.trans_le (State.nextSessionId_exec op)⟩
  rcases (State.stored_exec stored).state_cases with
    ⟨old, storedOld, same⟩ | isStore | ⟨fresh, -⟩
  · exact same.trans (terminated old storedOld)
  · by_contra reopened
    change session.state ≠ "terminated" at reopened
    have stores : op.storesState id = some session.state := by simp [isStore, Op.storesState]
    have presentBefore : before.state.TerminatedNow id := by
      cases State.stored_exec stored with
      | kept sameRecord => exact ⟨session, sameRecord, terminated session sameRecord⟩
      | mutated wasStored => exact ⟨_, wasStored, terminated _ wasStored⟩
      | released wasStored => exact ⟨_, wasStored, terminated _ wasStored⟩
      | created _ fresh => exact absurd drawn (by rw [fresh]; exact lt_irrefl _)
    have member := List.mem_of_getElem? found
    have mayStore := mayStore_of_obeys (run_obeys id reached thread member) suspended stores
    rw [Oversight.MayStore, if_neg reopened] at mayStore
    have notRelaxed : thread.job.isWorkerStateMessage ≠ true := fun relaxed =>
      (permitted thread op found (Config.awaits_eq_some found suspended)).2 relaxed
        ⟨session.state, stores, reopened⟩ presentBefore
    rcases (harmless_of_run reached).threads thread member presentBefore with
      relaxed | notLive | closed
    · exact notRelaxed relaxed
    · rw [overseen_relaxed] at mayStore
      simp [notLive, notRelaxed] at mayStore
    · refine closed ?_
      unfold InGap
      rw [suspended]
      exact .inl ⟨session.state, stores, reopened⟩
  · exact absurd drawn (by rw [fresh]; exact lt_irrefl _)

/-- In every undisturbed run, once a session is stored as terminated it is stored
as terminated for as long as it is stored at all. -/
theorem terminated_is_absorbing {middle final : Config (controlPlane settings)}
    (reached : Run (KeepsTermination id) ⟨State.initial, []⟩ middle)
    (terminated : middle.state.TerminatedNow id)
    (later : Run (KeepsTermination id) middle final) :
    ∀ session, final.state.stored id = some session → session.Terminated := by
  suffices stays : (∀ session, final.state.stored id = some session → session.Terminated) ∧
      id < final.state.nextSessionId from stays.1
  induction later with
  | refl =>
      obtain ⟨session, stored, isTerminated⟩ := terminated
      refine ⟨fun other storedOther => ?_, ((harmless_of_run reached).state id session stored).2⟩
      cases stored.symm.trans storedOther
      exact isTerminated
  | tail earlier permitted stepped ih =>
      exact terminated_of_step (reached.trans earlier) permitted stepped ih.1 ih.2

/-- A handler runs while all others have returned, and none of them is a
`worker-state` message. -/
def sequential (config : Config (controlPlane settings))
    (action : Action (controlPlane settings)) : Bool :=
  config.alone action &&
    config.threads.all fun thread : Thread (controlPlane settings) =>
      !thread.job.isWorkerStateMessage

theorem keepsTermination_of_sequential (id : SessionId)
    (config : Config (controlPlane settings))
    (action : Action (controlPlane settings)) (passes : sequential config action = true) :
    KeepsTermination id config action := by
  obtain ⟨isAlone, noMessages⟩ := Bool.and_eq_true_iff.mp passes
  cases action with
  | start job => trivial
  | resume index choice =>
      refine fun thread op found _ => ⟨fun _ other thread' found' different => .inr ?_, ?_⟩
      · exact not_canIssue_of_finished
          (Config.others_of_alone isAlone other thread' found' different)
      · intro relaxed
        have isMessage := List.all_eq_true.mp noMessages thread (List.mem_of_getElem? found)
        simp [relaxed] at isMessage

end Absorbing

section AbsorbingRuns

open controlPlane

/-- A session that its viewer ended stays terminated when the gateway then reports
its worker ready. -/
theorem terminated_session_ignores_worker_ready :
    ∃ middle final : Config (controlPlane plainSettings),
      Run (KeepsTermination 0) ⟨State.initial, []⟩ middle ∧ middle.state.TerminatedNow 0 ∧
      Run (KeepsTermination 0) middle final ∧ final.threads.length = 3 ∧
      ∀ session, final.state.stored 0 = some session → session.Terminated := by
  obtain ⟨middle, reached, holds⟩ := Run.exists_of_schedule
    (keepsTermination_of_sequential 0)
    (⟨State.initial, []⟩ : Config (controlPlane plainSettings))
    (.start (.createSession 0 {}) :: run 0 4 ++
      .start (.terminateSession 0 0 "viewer ended session") :: run 1 11)
    (fun middle => decide (middle.state.TerminatedNow 0) &&
      (middle.schedule sequential (.start (.internalEvent 0 0 ⟨.workerReady, "", "", none⟩) ::
        run 2 1)).any fun final => final.threads.length = 3) (by decide)
  obtain ⟨terminated, reports⟩ := Bool.and_eq_true_iff.mp holds
  obtain ⟨final, later, three⟩ := Run.exists_of_schedule
    (keepsTermination_of_sequential 0) _ _ _ reports
  refine ⟨middle, final, reached, of_decide_eq_true terminated, later,
    of_decide_eq_true three, ?_⟩
  exact terminated_is_absorbing reached (of_decide_eq_true terminated) later

/-- A worker registers while its session is terminated: it has read the session
before, and stores `"ready"` over `"terminated"` afterwards. -/
theorem register_reopens_terminated_session :
    ¬∀ (settings : Settings) (id : SessionId) (middle final : Config (controlPlane settings)),
      Run anyAction ⟨State.initial, []⟩ middle → middle.state.TerminatedNow id →
      Run anyAction middle final →
      ∀ session, final.state.stored id = some session → session.Terminated := by
  intro absorbing
  obtain ⟨middle, reached, holds⟩ := Run.exists_of_actions
    (⟨State.initial, []⟩ : Config (controlPlane plainSettings))
    (.start (.createSession 0 {}) :: run 0 4 ++
      .start (.connect ⟨0, 1⟩ .worker []) :: run 1 1 ++
      .start (.message ⟨0, 1⟩ (.register .worker 0 (makeWorkerToken 0 1000 1))) :: run 2 3 ++
      .start (.terminateSession 0 0 "viewer ended session") :: run 3 11)
    (fun middle => decide (middle.state.TerminatedNow 0) &&
      (middle.schedule (fun _ _ => true) (run 2 4)).any fun final =>
        (final.state.stored 0).any fun session => session.state = "ready") (by decide)
  obtain ⟨terminated, continues⟩ := Bool.and_eq_true_iff.mp holds
  obtain ⟨final, later, reopened⟩ := Run.exists_of_actions _ _ _ continues
  obtain ⟨session, stored, ready⟩ := Option.any_eq_true _ _ |>.mp reopened
  have isTerminated := absorbing plainSettings 0 middle final reached
    (of_decide_eq_true terminated) later session stored
  rw [Session.Terminated, of_decide_eq_true ready] at isTerminated
  exact absurd isTerminated (by decide)

end AbsorbingRuns

/-! ## Only `terminateSession` terminates -/

section Locked

variable {settings : Settings} {id : SessionId} {outcome : LaunchOutcome}

/-- The handler acquired the termination lock of the session. -/
def AcquiredLock (id : SessionId) (thread : Thread (controlPlane settings)) : Prop :=
  ∃ ttlMs : Nat, (⟨.session (.acquireTerminationLock id ttlMs), true⟩ :
    Event controlPlane.face) ∈ thread.past

/-- The workers in the copies of the session that the handler read last. -/
def heldWorkers (id : SessionId) (thread : Thread (controlPlane settings)) :
    List (Option Worker) :=
  thread.past.foldr (fun event held => event.1.heldAfter id event.2 held) []

/-- Nobody holds the termination lock of the session. -/
def State.Unlocked (state : State) (id : SessionId) : Prop :=
  Redis.Entry.read state.clock (state.store.terminationLocks id) = none

/-- Steps that end the session as it is stored: no message or internal event asks to
store `"terminated"`; a handler that acquires the lock holds a copy with the stored
worker, unless that is pooled; and none but pooled workers are stored once a handler has
acquired the lock. -/
def EndsAsStored (id : SessionId) (config : Config (controlPlane settings)) :
    Action (controlPlane settings) → Prop
  | .start job => job.carriesTerminated = false
  | .resume index _ => ∀ thread op, config.threads[index]? = some thread →
      config.awaits index = some op →
      (∀ ttlMs, op = .session (.acquireTerminationLock id ttlMs) → config.state.Unlocked id →
        ∀ session, config.state.stored id = some session →
          ¬Worker.IsWarmPool session.worker →
          ∀ worker ∈ heldWorkers id thread, worker = session.worker) ∧
      (∀ worker, op = .session (.mutate id (.setWorker worker)) →
        ¬Worker.IsWarmPool worker → ∀ other ∈ config.threads, ¬AcquiredLock id other)

/-! ### What the monitor has recorded -/

theorem overseen_held (thread : Thread (controlPlane settings)) :
    (overseen id thread).held = heldWorkers id thread := by
  obtain ⟨job, past, program⟩ := thread
  induction past with
  | nil => rfl
  | cons event past ih => exact congrArg (event.1.heldAfter id event.2) ih

theorem locks_eq_true {op : Op} {reply : op.Reply} (locks : op.locks id reply = true) :
    ∃ ttlMs : Nat, (⟨op, reply⟩ : Event controlPlane.face) =
      ⟨.session (.acquireTerminationLock id ttlMs), true⟩ := by
  unfold Op.locks at locks
  split at locks
  · next other ttlMs acquired =>
      obtain ⟨same, gained⟩ := Bool.and_eq_true_iff.mp locks
      cases of_decide_eq_true same
      cases gained
      exact ⟨ttlMs, rfl⟩
  · simp at locks

theorem acquiredLock_of_taken {thread : Thread (controlPlane settings)}
    (taken : (overseen id thread).taken ≠ none) : AcquiredLock id thread := by
  obtain ⟨job, past, program⟩ := thread
  induction past with
  | nil => simp [overseen, Job.oversight] at taken
  | cons event past ih =>
      change ((overseen id ⟨job, past, program⟩).after id event.1 event.2).taken ≠ none at taken
      cases locks : event.1.locks id event.2 with
      | true =>
          obtain ⟨ttlMs, same⟩ := locks_eq_true locks
          exact ⟨ttlMs, same ▸ List.mem_cons_self ..⟩
      | false =>
          rw [Oversight.taken_after locks] at taken
          obtain ⟨ttlMs, member⟩ := ih taken
          exact ⟨ttlMs, List.mem_cons_of_mem _ member⟩

theorem stop_of_stopped {thread : Thread (controlPlane settings)} {worker : Option Worker}
    (stopped : worker ∈ (overseen id thread).stopped) :
    (⟨.stop worker, ()⟩ : Event controlPlane.face) ∈ thread.past := by
  obtain ⟨job, past, program⟩ := thread
  induction past with
  | nil => simp [overseen, Job.oversight] at stopped
  | cons event past ih =>
      rcases List.mem_append.mp stopped with now | earlier
      · obtain ⟨op, reply⟩ := event
        cases op with
        | stop other =>
            cases List.mem_singleton.mp now
            exact List.mem_cons_self ..
        | _ => simp [Op.stops] at now
      · exact List.mem_cons_of_mem _ (ih earlier)

/-! ### The invariant -/

/-- The lock was acquired for the session as it is stored now. -/
def AsStored (id : SessionId) (state : State) (workers : List (Option Worker)) : Prop :=
  id < state.nextSessionId ∧
    ∀ session, state.stored id = some session → ¬Worker.IsWarmPool session.worker →
      ∀ worker ∈ workers, worker = session.worker

structure Supervised (id : SessionId) (state : State)
    (thread : Thread (controlPlane settings)) : Prop where
  uncarried : thread.job.carriesTerminated = false
  follows : thread.program.Follows (oversight id) (fun _ after => after.Settled)
    (overseen id thread)
  drawn : (overseen id thread).held ≠ [] → id < state.nextSessionId
  asStored : ∀ workers, (overseen id thread).taken = some workers →
    AsStored id state workers

/-- Whoever gets a copy of a session gets one that was created. -/
theorem drawn_of_copied {state : State} {op : Op} {session : Session}
    (drawn : state.IdsDrawn)
    (copied : session ∈ op.copies (State.exec settings outcome op state).2) :
    session.id < (State.exec settings outcome op state).1.nextSessionId := by
  have loaded {loadedId : SessionId}
      (found : state.store.loadSession state.clock loadedId = some session) :
      session.id < state.nextSessionId :=
    (drawn _ session found).1 ▸ (drawn _ session found).2
  cases op with
  | createSession input =>
      cases List.mem_singleton.mp copied
      exact Nat.lt_succ_self _
  | session script =>
      cases script with
      | get other => exact loaded (Option.mem_toList.mp copied)
      | listExpired bound =>
          obtain ⟨other, -, found⟩ := List.mem_filterMap.mp copied
          exact loaded found
      | listTerminated olderThanMs bound =>
          obtain ⟨other, -, found⟩ := List.mem_filterMap.mp (List.mem_filter.mp copied).1
          exact loaded found
      | listSessions limit =>
          obtain ⟨other, -, found⟩ := List.mem_filterMap.mp copied
          exact loaded found
      | mutate other mutation =>
          cases mutation with
          | update patch =>
              have updated := Option.mem_toList.mp copied
              change session ∈ (RedisSessionStore.runSessionMutation state.clock state.store other
                (.update patch)).2 at updated
              cases present : state.store.loadSession state.clock other with
              | none => simp [RedisSessionStore.runSessionMutation, present] at updated
              | some before =>
                  simp only [RedisSessionStore.runSessionMutation, present, Option.mem_def,
                    Option.some.injEq] at updated
                  rw [← updated, SessionMutation.apply_id]
                  exact (drawn _ before present).1 ▸ (drawn _ before present).2
          | _ => simp [Op.copies] at copied
      | _ => simp [Op.copies] at copied
  | _ => simp [Op.copies] at copied

theorem copied_of_heldAfter {op : Op} {reply : op.Reply} {held : List (Option Worker)}
    (empty : held = []) (holds : op.heldAfter id reply held ≠ []) :
    ∃ session ∈ op.copies reply, session.id = id := by
  by_contra none
  refine holds ?_
  have apart : (op.copies reply).filter (fun session => session.id = id) = [] :=
    List.filter_eq_nil_iff.mpr fun session copied same =>
      none ⟨session, copied, of_decide_eq_true same⟩
  simp [Op.heldAfter, apart, empty]

/-- Only a worker that is not pooled undoes that the lock was acquired as stored. -/
theorem AsStored.exec {state : State} {workers : List (Option Worker)}
    (asStored : AsStored id state workers) (op : Op)
    (unassigned : ∀ worker, op = .session (.mutate id (.setWorker worker)) →
      Worker.IsWarmPool worker) :
    AsStored id (State.exec settings outcome op state).1 workers := by
  refine ⟨asStored.1.trans_le (State.nextSessionId_exec op), fun session stored direct => ?_⟩
  rcases (State.stored_exec stored).worker_cases with ⟨old, before, same⟩ | assigned | fresh
  · rw [same] at direct ⊢
    exact asStored.2 old before direct
  · exact absurd (unassigned _ assigned) direct
  · exact absurd asStored.1 (by rw [fresh]; exact lt_irrefl _)

theorem unlocked_of_acquired {state : State} {ttlMs : Nat}
    (acquired : (State.exec settings outcome
      (.session (.acquireTerminationLock id ttlMs)) state).2 = true) : state.Unlocked id := by
  change (RedisSessionStore.acquireTerminationLock state.clock state.store id ttlMs).2 = true
    at acquired
  unfold RedisSessionStore.acquireTerminationLock at acquired
  split at acquired
  · cases acquired
  · next free => exact free

theorem Supervised.advance {config : Config (controlPlane settings)} {index : Nat}
    {thread : Thread (controlPlane settings)} {op : Op} {next : op.Reply → Handler Unit}
    (supervised : Supervised id config.state thread) (drawn : config.state.IdsDrawn)
    (permitted : EndsAsStored id config (.resume index outcome))
    (found : config.threads[index]? = some thread)
    (suspended : thread.program = .request op next) :
    Supervised id (State.exec settings outcome op config.state).1
      (thread.advance op (State.exec settings outcome op config.state).2
        (next (State.exec settings outcome op config.state).2)) := by
  have follows := supervised.follows
  rw [suspended] at follows
  obtain ⟨takes, assigns⟩ := permitted thread op found (Config.awaits_eq_some found suspended)
  have member := List.mem_of_getElem? found
  exact
    { uncarried := supervised.uncarried
      follows := follows.2 _ _ rfl
      drawn := by
        intro holds
        by_cases before : (overseen id thread).held = []
        · obtain ⟨session, copied, isSession⟩ := copied_of_heldAfter before holds
          exact isSession ▸ drawn_of_copied drawn copied
        · exact (supervised.drawn before).trans_le (State.nextSessionId_exec op)
      asStored := by
        intro workers taken
        rw [overseen_advance] at taken
        cases locks : op.locks id (State.exec settings outcome op config.state).2 with
        | true =>
            obtain ⟨ttlMs, same⟩ := locks_eq_true locks
            have isLock : op = .session (.acquireTerminationLock id ttlMs) :=
              congrArg Sigma.fst same
            subst isLock
            simp only [Oversight.after, locks, if_true, Option.some.injEq] at taken
            subst taken
            have free := unlocked_of_acquired (by simpa [Op.locks] using locks)
            refine AsStored.exec ⟨supervised.drawn (follows.1.2 ttlMs rfl), ?_⟩ _ (by simp)
            intro session stored direct worker holds
            exact takes ttlMs rfl free session stored direct worker (overseen_held thread ▸ holds)
        | false =>
            rw [Oversight.taken_after locks] at taken
            refine (supervised.asStored workers taken).exec op fun worker assigned => ?_
            by_contra direct
            exact assigns worker assigned direct thread member
              (acquiredLock_of_taken (by simp [taken])) }

/-- In every run that ends the session as it is stored. -/
theorem supervised_of_run {final : Config (controlPlane settings)}
    (run : Run (EndsAsStored id) ⟨State.initial, []⟩ final) :
    final.Satisfies State.IdsDrawn (Supervised id) := by
  have preserved : Inductive
      (EndsAsStored id : Config (controlPlane settings) → Action _ → Prop) State.IdsDrawn
      (Supervised id) := by
    refine ⟨fun config job _ permitted _ => ?_, ?_⟩
    · refine ⟨permitted, (Job.body_minds settings id job).mono fun _ after finished => ?_,
        fun holds => absurd rfl holds, fun workers taken => by cases taken⟩
      exact finished.2 fun workers taken => by cases taken
    · intro config index choice thread op next holds permitted found suspended
      have member := List.mem_of_getElem? found
      refine ⟨holds.state.exec op,
        (holds.threads thread member).advance holds.state permitted found suspended,
        fun other thread' found' _ => ?_⟩
      have member' := List.mem_of_getElem? found'
      have supervised := holds.threads thread' member'
      have assigns := (permitted thread op found (Config.awaits_eq_some found suspended)).2
      refine ⟨supervised.uncarried, supervised.follows, fun held =>
        (supervised.drawn held).trans_le (State.nextSessionId_exec op), fun workers taken => ?_⟩
      refine (supervised.asStored workers taken).exec op fun worker assigned => ?_
      by_contra direct
      exact assigns worker assigned direct thread' member'
        (acquiredLock_of_taken (by simp [taken]))
  exact preserved.run run ⟨State.initial_idsDrawn, by simp⟩

/-- A stored `"terminated"` was stored by a handler that took the lock. -/
theorem taken_of_terminated {final : Config (controlPlane settings)}
    (run : Run (EndsAsStored id) ⟨State.initial, []⟩ final)
    (terminated : final.state.TerminatedNow id) :
    ∃ thread ∈ final.threads, (overseen id thread).taken ≠ none := by
  induction run with
  | refl => simp [State.TerminatedNow, State.stored, State.initial, RedisSessionStore.empty,
      RedisSessionStore.loadSession] at terminated
  | @tail before after action reached permitted stepped ih =>
      by_cases wasTerminated : before.state.TerminatedNow id
      · refine Config.exists_thread_step stepped (fun thread op next reply _ taken => ?_)
          (ih wasTerminated)
        rw [overseen_advance]
        exact (Oversight.extends_after id _ op reply).taken taken
      obtain ⟨job, rfl, -, rfl⟩ | ⟨index, choice, thread, op, next, rfl, found, suspended,
        rfl⟩ := Config.step_cases stepped
      · exact absurd terminated wasTerminated
      · have supervised := (supervised_of_run reached).threads thread
          (List.mem_of_getElem? found)
        have stores : op.storesState id = some "terminated" :=
          storesTerminated_of_exec wasTerminated terminated
        have follows := supervised.follows
        rw [suspended] at follows
        have mayStore := follows.1.1 "terminated" stores
        rw [Oversight.MayStore, if_pos rfl, overseen_mayTerminate, supervised.uncarried]
          at mayStore
        refine ⟨_, List.mem_set (List.getElem?_eq_some_iff.mp found).1 _, ?_⟩
        rw [overseen_advance]
        exact (Oversight.extends_after id _ op _).taken (by simpa using mayStore)

/-- In every run that ends the session as it is stored, a terminated session was locked
by a handler in `terminateSession`, which by the time it returns has passed the stored
worker to `workerRuntime.stop` unless that worker is pooled. -/
theorem terminated_only_under_lock {final : Config (controlPlane settings)}
    {session : Session} (run : Run (EndsAsStored id) ⟨State.initial, []⟩ final)
    (stored : final.state.stored id = some session) (terminated : session.Terminated) :
    ∃ thread ∈ final.threads, AcquiredLock id thread ∧
      (thread.program.Finished → ¬Worker.IsWarmPool session.worker →
        (⟨.stop session.worker, ()⟩ : Event controlPlane.face) ∈ thread.past) := by
  obtain ⟨thread, member, locked⟩ := taken_of_terminated run ⟨session, stored, terminated⟩
  refine ⟨thread, member, acquiredLock_of_taken locked, fun finished direct => ?_⟩
  obtain ⟨workers, taken⟩ := Option.ne_none_iff_exists'.mp locked
  have supervised := (supervised_of_run run).threads thread member
  have settled := (run_obeys id run thread member).post_of_finished (oversight_after id thread)
    finished
  obtain ⟨worker, held, ended⟩ := settled workers taken
  rw [(supervised.asStored workers taken).2 session stored direct worker held] at ended
  exact stop_of_stopped (ended.resolve_left direct)

/-- No handler asked for a termination lock. -/
def lockless (config : Config (controlPlane settings)) : Bool :=
  config.threads.all fun thread => thread.past.all fun event =>
    match event.1 with
    | .session (.acquireTerminationLock _ _) => false
    | _ => true

theorem not_acquiredLock_of_lockless {config : Config (controlPlane settings)}
    (passes : lockless config = true) {thread : Thread (controlPlane settings)}
    (member : thread ∈ config.threads) : ¬AcquiredLock id thread := by
  rintro ⟨ttlMs, locked⟩
  have checked := List.all_eq_true.mp (List.all_eq_true.mp passes thread member) _ locked
  simp at checked

/-- Workers are stored before a lock is asked for, and copies are up to date. -/
def endingAsStored (id : SessionId) (config : Config (controlPlane settings)) :
    Action (controlPlane settings) → Bool
  | .start job => !Job.carriesTerminated job
  | .resume index _ =>
      config.threads[index]?.all fun thread => (config.awaits index).all fun op =>
        match op with
        | .session (.acquireTerminationLock _ _) => (config.state.stored id).all fun session =>
            (heldWorkers id thread).all fun worker => worker = session.worker
        | .session (.mutate _ (.setWorker _)) => lockless config
        | _ => true

theorem endsAsStored_of_ending (id : SessionId) (config : Config (controlPlane settings))
    (action : Action (controlPlane settings)) (passes : endingAsStored id config action = true) :
    EndsAsStored id config action := by
  cases action with
  | start job => simpa [endingAsStored, EndsAsStored] using passes
  | resume index choice =>
      intro thread op found awaits
      simp only [endingAsStored, found, awaits, Option.all_some] at passes
      refine ⟨fun ttlMs isLock _ session stored _ worker held => ?_,
        fun worker assigned _ other member => ?_⟩
      · subst isLock
        simp only [stored, Option.all_some, List.all_eq_true, decide_eq_true_eq] at passes
        exact passes worker held
      · subst assigned
        exact not_acquiredLock_of_lockless passes member

end Locked

section LockedRuns

open controlPlane

/-- A session that its viewer ended was locked, and the worker that had been launched
for it was stopped. -/
theorem ended_session_was_locked :
    ∃ (final : Config (controlPlane plainSettings)) (session : Session),
      Run (EndsAsStored 0) ⟨State.initial, []⟩ final ∧
      final.state.stored 0 = some session ∧ session.Terminated ∧
      (∃ worker, session.worker = some worker ∧ ¬Worker.IsWarmPool session.worker) ∧
      final.Quiescent ∧ ∃ thread ∈ final.threads, AcquiredLock 0 thread ∧
        (thread.program.Finished → ¬Worker.IsWarmPool session.worker →
          (⟨.stop session.worker, ()⟩ : Event controlPlane.face) ∈ thread.past) := by
  obtain ⟨final, reached, holds⟩ := Run.exists_of_schedule (endsAsStored_of_ending 0)
    (⟨State.initial, []⟩ : Config (controlPlane plainSettings))
    (.start (.createSession 0 {}) :: run 0 4 ++
      .start (.terminateSession 0 0 "viewer ended session") :: run 1 11)
    (fun final => (final.state.stored 0).any fun session : Session =>
      decide (session.Terminated ∧ session.worker ≠ none ∧
        ¬Worker.IsWarmPool session.worker ∧ final.Quiescent)) (by decide)
  obtain ⟨session, stored, checked⟩ := Option.any_eq_true _ _ |>.mp holds
  obtain ⟨terminated, launched, direct, finished⟩ := of_decide_eq_true checked
  obtain ⟨worker, same⟩ := Option.ne_none_iff_exists'.mp launched
  exact ⟨final, session, reached, stored, terminated, ⟨worker, same, direct⟩, finished,
    terminated_only_under_lock reached stored terminated⟩

/-- A viewer registers and reports the worker state `"terminated"`: the session is
stored as terminated, and nobody has taken its termination lock. -/
theorem viewer_message_terminates_session :
    ¬∀ (settings : Settings) (id : SessionId) (final : Config (controlPlane settings)),
      Run anyAction ⟨State.initial, []⟩ final → final.state.TerminatedNow id →
      ∃ thread ∈ final.threads, AcquiredLock id thread := by
  intro onlyLocked
  obtain ⟨final, reached, holds⟩ := Run.exists_of_actions
    (⟨State.initial, []⟩ : Config (controlPlane plainSettings))
    (.start (.createSession 0 {}) :: run 0 4 ++
      .start (.connect ⟨0, 1⟩ .viewer []) :: run 1 1 ++
      .start (.message ⟨0, 1⟩ (.register .viewer 0 (makeViewerToken 0 1000))) :: run 2 12 ++
      .start (.message ⟨0, 1⟩ (.workerState "terminated" "")) :: run 3 7)
    (fun final => decide (final.state.TerminatedNow 0) && lockless final) (by decide)
  obtain ⟨terminated, noLock⟩ := Bool.and_eq_true_iff.mp holds
  obtain ⟨thread, member, locked⟩ := onlyLocked plainSettings 0 final reached
    (of_decide_eq_true terminated)
  exact not_acquiredLock_of_lockless noLock member locked

end LockedRuns

end RemoteBrowser
