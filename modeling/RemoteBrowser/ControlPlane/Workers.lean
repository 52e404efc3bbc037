import RemoteBrowser.ControlPlane.Custody

/-!
# Launched workers are not lost

A launched worker is lost where `setWorker` overwrites another launched worker, writes
into a session that is terminated or gone, or comes between a terminating handler's
look at the session and its store.  In every run in which `setWorker` does none of
this, each launched worker is stored by a live session or has been stopped whenever no
handler is in progress.
-/

namespace RemoteBrowser

open Async Program

section Runs

variable {settings : Settings} {id : SessionId}

/-! ## The condition -/

/-- Only handlers that manage workers run, and launches succeed. -/
def WorkerHandlersOnly (config : Config (controlPlane settings)) :
    Action (controlPlane settings) → Prop
  | .start job => job.managesWorkers = true
  | .resume index outcome => ∀ requester,
      config.awaits index = some (.launch requester) → outcome = .succeeds

/-- The operation looks at the session again.  A launch counts as one: a handler
whose launch succeeds does not terminate the session. -/
def Op.Consults (id : SessionId) : Op → Prop
  | .session (.get other) => other = id
  | .session (.listSessions _) => True
  | .launch _ => True
  | _ => False

/-- The handler can still store `"terminated"` from what it has read. -/
def Poised (id : SessionId) (thread : Thread (controlPlane settings)) : Prop :=
  thread.program.CanIssue (Op.Consults id) (Op.Terminates id)

/-- The session can take a worker: it is stored, not terminated, and has no worker
that would have to be stopped. -/
def State.TakesWorker (id : SessionId) (state : State) : Prop :=
  ∃ session, state.stored id = some session ∧ ¬session.Terminated ∧
    (session.worker = none ∨ Worker.IsWarmPool session.worker)

/-- `setWorker` runs only while the session can take a worker and no other handler is
about to terminate it from an older copy. -/
def AssignsSafely (id : SessionId) (config : Config (controlPlane settings))
    (action : Action (controlPlane settings)) : Prop :=
  WorkerHandlersOnly config action ∧
    ∀ index outcome worker, action = .resume index outcome →
      config.awaits index = some (.session (.mutate id (.setWorker worker))) →
      config.state.TakesWorker id ∧ config.Others index fun other => ¬Poised id other

/-- A state in which no worker has been launched for the session. -/
structure State.Unlaunched (id : SessionId) (state : State) : Prop where
  idsDrawn : state.IdsDrawn
  unexpired : state.Unexpired id
  none : ∀ worker, (id, worker) ∉ state.launched

/-! ## The invariant -/

/-- The custody of a handler. -/
def custodyOf (id : SessionId) (thread : Thread (controlPlane settings)) : Option Custody :=
  (custody id).after (Job.custody thread.job) thread.past

theorem custodyOf_advance {thread : Thread (controlPlane settings)} {current after : Custody}
    {op : Op} {reply : op.Reply} {program : Handler Unit}
    (known : custodyOf id thread = some current)
    (moved : current.after id op reply = some after) :
    custodyOf id (thread.advance op reply program) = some after :=
  Option.bind_eq_some_iff.mpr ⟨current, known, moved⟩

/-- The worker is stored by a live session. -/
def State.StoresWorker (id : SessionId) (worker : Worker) (state : State) : Prop :=
  ∃ session, state.stored id = some session ∧ session.worker = some worker ∧
    ¬session.Terminated

/-- The handler is about to store the worker, or to stop it. -/
def Keeps (id : SessionId) (worker : Worker) (thread : Thread (controlPlane settings)) :
    Prop :=
  ∃ current, custodyOf id thread = some current ∧
    (current.carrying = some worker ∨ current.owes = some worker)

/-- Every launched worker is stored by a live session, stopped, or kept by a handler. -/
def Accounted (id : SessionId) (config : Config (controlPlane settings)) : Prop :=
  ∀ worker, (id, worker) ∈ config.state.launched →
    config.state.StoresWorker id worker ∨ some worker ∈ config.state.stopped ∨
      ∃ thread ∈ config.threads, Keeps id worker thread

/-- The shared part of the invariant. -/
structure State.Sound (id : SessionId) (state : State) : Prop where
  idsDrawn : state.IdsDrawn
  unexpired : state.Unexpired id
  direct : ∀ worker, (id, worker) ∈ state.launched → ¬Worker.IsWarmPool (some worker)

/-- A followed handler that is about to terminate the session holds a copy with the
stored worker. -/
def UpToDate (id : SessionId) (state : State) (thread : Thread (controlPlane settings)) :
    Prop :=
  ∃ current, custodyOf id thread = some current ∧
    ∀ worker, current.held = some worker → id < state.nextSessionId ∧
      (Poised id thread → ∀ session, state.stored id = some session →
        session.worker = worker)

/-! ## One step of the monitor -/

/-- Everything an answered operation can do to the custody of a handler. -/
inductive Custody.Moves (id : SessionId) (current : Custody) (op : Op) (reply : op.Reply) :
    Custody → Prop where
  | kept (apart : ¬op.Consults id)
      (unassigned : ∀ worker, op ≠ .session (.mutate id (.setWorker worker))) :
      Moves id current op reply current
  | read (held : Option (Option Worker))
      (looks : (∃ limit, op = .session (.listSessions limit)) ∨ op = .session (.get id))
      (copied : ∀ worker, held = some worker →
        ∃ session ∈ op.observed reply, session.worker = worker ∧
          (session.id = id ∨ op = .session (.get id))) :
      Moves id current op reply { current with held := held }
  | stored (worker : Option Worker) (assigns : op = .session (.mutate id (.setWorker worker))) :
      Moves id current op reply { current with held := none, carrying := none }
  | terminated (ends : op.Terminates id) (owed : Option Worker) :
      Moves id current op reply { current with owes := owed }
  | launched (requester : Session) (asks : op = .launch requester)
      (carrying : Option Worker)
      (result : carrying = (op.launches id reply).or current.carrying) :
      Moves id current op reply { current with held := none, carrying := carrying }
  | stopped (worker : Option Worker) (stops : op = .stop worker) :
      Moves id current op reply { current with owes := none }

theorem Custody.moves_of_get {current after : Custody} {other : SessionId}
    {found : Option Session}
    (moved : current.after id (.session (.get other)) found = some after) :
    Custody.Moves id current (.session (.get other)) found after := by
  simp only [Custody.after] at moved
  split at moved
  · next same =>
      cases moved
      subst same
      refine .read _ (.inr rfl) fun worker copied => ?_
      obtain ⟨session, rfl, rfl⟩ := Option.map_eq_some_iff.mp copied
      exact ⟨session, by simp [Op.observed], rfl, .inr rfl⟩
  · next different =>
      split at moved <;> cases moved
      exact .kept different (by simp)

theorem Custody.moves_of_list {current after : Custody} {limit : Nat}
    {sessions : List Session}
    (moved : current.after id (.session (.listSessions limit)) sessions = some after) :
    Custody.Moves id current (.session (.listSessions limit)) sessions after := by
  simp only [Custody.after, Custody.read] at moved
  split at moved
  · cases moved
    exact .read none (.inl ⟨limit, rfl⟩) (by simp)
  · next worker rest copies =>
      split at moved <;> cases moved
      refine .read _ (.inl ⟨limit, rfl⟩) fun held copied => ?_
      cases copied
      have first : worker ∈ (sessions.filter fun session => session.id = id).map
          Session.worker := by simp [copies]
      obtain ⟨session, filtered, rfl⟩ := List.mem_map.mp first
      obtain ⟨member, same⟩ := List.mem_filter.mp filtered
      exact ⟨session, member, rfl, .inl (of_decide_eq_true same)⟩

theorem Custody.moves_of_launch {current after : Custody} {requester : Session}
    {result : Except String Worker}
    (moved : current.after id (.launch requester) result = some after) :
    Custody.Moves id current (.launch requester) result after := by
  cases result with
  | ok worker =>
      simp only [Custody.after] at moved
      split at moved
      · next same =>
          cases moved
          exact .launched requester rfl _ (by simp [Op.launches, same])
      · next different =>
          cases moved
          exact .launched requester rfl _ (by simp [Op.launches, different])
  | error message =>
      simp only [Custody.after] at moved
      split at moved <;> cases moved
      exact .launched requester rfl _ (by simp [Op.launches])

theorem Custody.moves_of_mutate {current after : Custody} {other : SessionId}
    {mutation : SessionMutation} {reply : Option Session}
    (moved : current.after id (.session (.mutate other mutation)) reply = some after) :
    Custody.Moves id current (.session (.mutate other mutation)) reply after := by
  cases mutation with
  | setWorker worker =>
      simp only [Custody.after] at moved
      split at moved
      · next same =>
          cases moved
          subst same
          exact .stored worker rfl
      · next different =>
          cases moved
          exact .kept (fun consults => consults) (by simp [different])
  | setState state =>
      simp only [Custody.after] at moved
      split at moved
      · next ends =>
          cases moved
          obtain ⟨rfl, rfl⟩ := ends
          exact .terminated rfl _
      · cases moved
        exact .kept (fun consults => consults) (by simp)
  | _ =>
      cases moved
      exact .kept (fun consults => consults) (by simp)

theorem Custody.moves {current after : Custody} {op : Op} {reply : op.Reply}
    (moved : current.after id op reply = some after) :
    Custody.Moves id current op reply after := by
  cases op with
  | stop worker =>
      cases moved
      exact .stopped worker rfl
  | launch requester => exact moves_of_launch moved
  | session op =>
      cases op with
      | get other => exact moves_of_get moved
      | listSessions limit => exact moves_of_list moved
      | mutate other mutation => exact moves_of_mutate moved
      | _ =>
          cases moved
          exact .kept (fun consults => consults) (by simp)
  | _ =>
      cases moved
      exact .kept (fun consults => consults) (by simp)

/-- A carried worker stays carried until it is stored. -/
theorem Custody.carrying_after {current after : Custody} {op : Op} {reply : op.Reply}
    {worker : Worker} (allowed : current.Allows id op)
    (moved : current.after id op reply = some after)
    (carrying : current.carrying = some worker) :
    after.carrying = some worker ∨ op = .session (.mutate id (.setWorker (some worker))) := by
  cases Custody.moves moved with
  | stored stored assigns =>
      subst assigns
      exact .inr (by rw [allowed rfl worker carrying])
  | launched requester asks next result =>
      left
      rw [result]
      cases launches : op.launches id reply with
      | none => exact carrying
      | some other =>
          obtain ⟨requester, rfl, same⟩ := Op.launches_eq_some launches
          simp [allowed same] at carrying
  | _ => exact .inl carrying

/-- An owed worker stays owed until it is stopped. -/
theorem Custody.owes_after {current after : Custody} {op : Op} {reply : op.Reply}
    {worker : Worker} (allowed : current.Allows id op)
    (moved : current.after id op reply = some after)
    (owes : current.owes = some worker) :
    after.owes = some worker ∨ op = .stop (some worker) := by
  cases Custody.moves moved with
  | terminated ends owed =>
      subst ends
      simp [(allowed rfl rfl).2] at owes
  | stopped stopped stops =>
      subst stops
      exact .inr (by rw [allowed worker owes])
  | _ => exact .inl owes

/-! ## One step of a run -/

theorem Custody.exists_read {sessions : List Session} (current : Custody)
    (agree : ∀ session ∈ sessions, ∀ other ∈ sessions, session.id = id → other.id = id →
      session.worker = other.worker) :
    ∃ after, current.read id sessions = some after := by
  have copied {worker : Option Worker}
      (isCopy : worker ∈ (sessions.filter fun session => session.id = id).map
        Session.worker) : ∃ session ∈ sessions, session.id = id ∧ session.worker = worker := by
    simpa [and_assoc] using isCopy
  unfold Custody.read
  split
  · exact ⟨_, rfl⟩
  · next worker rest copies =>
      rw [copies] at copied
      refine ⟨_, if_pos fun other member => ?_⟩
      obtain ⟨session, listed, same, rfl⟩ := copied (List.mem_cons_of_mem _ member)
      obtain ⟨first, listedFirst, sameFirst, rfl⟩ := copied (List.mem_cons_self ..)
      exact agree session listed first listedFirst same sameFirst

/-- A followed handler stays followed: replies come from one atomic read, and
launches succeed. -/
theorem exists_after {state : State} {outcome : LaunchOutcome} (drawn : state.IdsDrawn)
    (op : Op) (succeeds : ∀ requester, op = .launch requester → outcome = .succeeds)
    (current : Custody) :
    ∃ after, current.after id op (State.exec settings outcome op state).2 = some after := by
  cases op with
  | launch requester =>
      cases succeeds requester rfl
      by_cases same : requester.id = id
      · exact ⟨_, if_pos same⟩
      · exact ⟨_, if_neg same⟩
  | session op =>
      cases op with
      | get other =>
          by_cases same : other = id
          · exact ⟨_, if_pos same⟩
          · refine ⟨current, (if_neg same).trans (if_neg ?_)⟩
            intro found
            obtain ⟨session, stored, isSession⟩ := Option.any_eq_true _ _ |>.mp found
            have own := (drawn other session stored).1
            exact same (own.symm.trans (of_decide_eq_true isSession))
      | listSessions limit =>
          refine Custody.exists_read current fun session listed other listedOther same
            sameOther => ?_
          have stored := State.stored_of_listed drawn listed
          have storedOther := State.stored_of_listed drawn listedOther
          rw [same] at stored
          rw [sameOther, stored] at storedOther
          cases storedOther
          rfl
      | mutate other mutation =>
          cases mutation with
          | setWorker worker => exact ⟨_, (apply_ite some _ _ _).symm⟩
          | setState state => exact ⟨_, (apply_ite some _ _ _).symm⟩
          | _ => exact ⟨current, rfl⟩
      | _ => exact ⟨current, rfl⟩
  | stop worker => exact ⟨_, rfl⟩
  | _ => exact ⟨current, rfl⟩

/-- A copy that a handler reads is the stored session. -/
theorem stored_of_copied {state : State} {outcome : LaunchOutcome} {op : Op}
    {session : Session} (drawn : state.IdsDrawn)
    (looks : (∃ limit, op = .session (.listSessions limit)) ∨ op = .session (.get id))
    (returned : session ∈ op.observed (State.exec settings outcome op state).2)
    (isSession : session.id = id ∨ op = .session (.get id)) :
    (State.exec settings outcome op state).1.stored id = some session := by
  rcases looks with ⟨limit, rfl⟩ | rfl
  · rcases isSession with rfl | other
    · exact State.stored_of_listed drawn returned
    · cases other
  · exact Option.mem_toList.mp returned

/-- Only `setWorker` changes the worker of a session that exists. -/
theorem worker_eq_of_exec {state : State} {outcome : LaunchOutcome} {op : Op}
    {found : Session} (drawn : id < state.nextSessionId)
    (unassigned : ∀ worker, op ≠ .session (.mutate id (.setWorker worker)))
    (stored : (State.exec settings outcome op state).1.stored id = some found) :
    ∃ session, state.stored id = some session ∧ found.worker = session.worker := by
  rcases (State.stored_exec stored).worker_cases with kept | assigned | fresh
  · exact kept
  · exact absurd assigned (unassigned _)
  · exact absurd drawn (by rw [fresh]; exact lt_irrefl _)

/-- The resumed handler stays up to date. -/
theorem UpToDate.advance {state : State} {outcome : LaunchOutcome}
    {thread : Thread (controlPlane settings)} {op : Op} {next : op.Reply → Handler Unit}
    (upToDate : UpToDate id state thread) (drawn : state.IdsDrawn)
    (suspended : thread.program = .request op next)
    (succeeds : ∀ requester, op = .launch requester → outcome = .succeeds) :
    UpToDate id (State.exec settings outcome op state).1
      (thread.advance op (State.exec settings outcome op state).2
        (next (State.exec settings outcome op state).2)) := by
  obtain ⟨current, known, fresh⟩ := upToDate
  obtain ⟨after, moved⟩ : ∃ after,
      current.after id op (State.exec settings outcome op state).2 = some after :=
    exists_after drawn op succeeds current
  refine ⟨after, custodyOf_advance known moved, fun worker held => ?_⟩
  -- without a new look at the session the handler was poised before
  have unchanged (apart : ¬op.Consults id)
      (unassigned : ∀ worker, op ≠ .session (.mutate id (.setWorker worker)))
      (same : current.held = some worker) :
      id < (State.exec settings outcome op state).1.nextSessionId ∧
        (Poised id (thread.advance op (State.exec settings outcome op state).2
          (next (State.exec settings outcome op state).2)) →
          ∀ session, (State.exec settings outcome op state).1.stored id = some session →
            session.worker = worker) := by
    obtain ⟨bound, agrees⟩ := fresh worker same
    refine ⟨bound.trans_le (State.nextSessionId_exec op), fun poised found stored => ?_⟩
    obtain ⟨session, storedBefore, sameWorker⟩ := worker_eq_of_exec bound unassigned stored
    rw [sameWorker]
    refine agrees ?_ session storedBefore
    unfold Poised
    rw [suspended]
    exact .inr ⟨apart, _, poised⟩
  cases Custody.moves moved with
  | kept apart unassigned => exact unchanged apart unassigned held
  | terminated ends owed =>
      subst ends
      exact unchanged (fun consults => consults) (by simp) held
  | stopped stopped stops =>
      subst stops
      exact unchanged (fun consults => consults) (by simp) held
  | read copy looks copied =>
      obtain ⟨session, returned, rfl, isSession⟩ := copied worker held
      have stored := stored_of_copied drawn looks returned isSession
      refine ⟨((drawn.exec op) id session stored).2, fun _ found storedFound => ?_⟩
      cases stored.symm.trans storedFound
      rfl
  | stored _ _ => simp at held
  | launched _ _ _ _ => simp at held

/-- The other handlers stay up to date. -/
theorem UpToDate.other {state : State} {outcome : LaunchOutcome} {op : Op}
    {thread : Thread (controlPlane settings)} (upToDate : UpToDate id state thread)
    (calm : ∀ worker, op = .session (.mutate id (.setWorker worker)) → ¬Poised id thread) :
    UpToDate id (State.exec settings outcome op state).1 thread := by
  obtain ⟨current, known, fresh⟩ := upToDate
  refine ⟨current, known, fun worker held => ?_⟩
  obtain ⟨bound, agrees⟩ := fresh worker held
  refine ⟨bound.trans_le (State.nextSessionId_exec op), fun poised found stored => ?_⟩
  obtain ⟨session, storedBefore, sameWorker⟩ := worker_eq_of_exec bound
    (fun worker assigns => calm worker assigns poised) stored
  rw [sameWorker]
  exact agrees poised session storedBefore

theorem Custody.Allows.retains {current : Custody} {op : Op}
    (allowed : current.Allows id op) : op.Retains id := by
  cases op with
  | session op =>
      cases op with
      | mutate other mutation =>
          cases mutation with
          | update patch => exact allowed
          | _ => trivial
      | _ => exact allowed
  | launch requester => trivial
  | stop worker => trivial
  | _ => exact allowed

/-- The store never forgets a launched worker: it stays stored, or the handler that
resumed now owes it. -/
theorem accounted_of_stored {state : State} {outcome : LaunchOutcome} {op : Op}
    {thread : Thread (controlPlane settings)} {next : op.Reply → Handler Unit}
    {worker : Worker} {current after : Custody} (sound : state.Sound id)
    (launched : (id, worker) ∈ state.launched) (stores : state.StoresWorker id worker)
    (allowed : current.Allows id op) (known : custodyOf id thread = some current)
    (moved : current.after id op (State.exec settings outcome op state).2 = some after)
    (upToDate : UpToDate id state thread) (suspended : thread.program = .request op next)
    (takes : ∀ worker, op = .session (.mutate id (.setWorker worker)) →
      state.TakesWorker id) :
    (State.exec settings outcome op state).1.StoresWorker id worker ∨
      after.owes = some worker := by
  obtain ⟨session, stored, assigned, live⟩ := stores
  have bound := (sound.idsDrawn id session stored).2
  have unassigned : ∀ worker, op ≠ .session (.mutate id (.setWorker worker)) := by
    intro other assigns
    obtain ⟨present, storedPresent, -, free⟩ := takes other assigns
    cases stored.symm.trans storedPresent
    rw [assigned] at free
    exact free.elim (by simp) (sound.direct worker launched)
  obtain ⟨found, storedFound⟩ := Option.isSome_iff_exists.mp
    (State.isSome_stored_exec allowed.retains bound sound.unexpired (Option.isSome_of_eq_some stored))
  obtain ⟨same, storedSame, sameWorker⟩ := worker_eq_of_exec bound unassigned storedFound
  cases stored.symm.trans storedSame
  by_cases ended : found.Terminated
  · right
    obtain rfl : op = .session (.mutate id (.setState "terminated")) := by
      rcases (State.stored_exec storedFound).state_cases with
        ⟨old, storedOld, sameState⟩ | ends | ⟨fresh, -⟩
      · cases stored.symm.trans storedOld
        exact absurd (sameState.symm.trans ended) live
      · rwa [show found.state = "terminated" from ended] at ends
      · exact absurd bound (by rw [fresh]; exact lt_irrefl _)
    obtain ⟨owner, custody, fresh⟩ := upToDate
    cases known.symm.trans custody
    obtain ⟨held, isHeld⟩ := Option.ne_none_iff_exists'.mp (allowed rfl rfl).1
    have poised : Poised id thread := by
      unfold Poised
      rw [suspended]
      exact .inl rfl
    have sameHeld := (fresh held isHeld).2 poised session stored
    rw [assigned] at sameHeld
    simp only [Custody.after, and_self, if_true, isHeld, Option.bind_some, ← sameHeld,
      if_neg (sound.direct worker launched), Option.some.injEq] at moved
    rw [← moved]
  · exact .inl ⟨found, storedFound, sameWorker.trans assigned, ended⟩

/-- A worker that is stored where it can be stays known. -/
theorem storesWorker_of_assigned {state : State} {worker : Worker} (outcome : LaunchOutcome)
    (unexpired : state.Unexpired id) (takes : state.TakesWorker id) :
    (State.exec settings outcome (.session (.mutate id (.setWorker (some worker))))
      state).1.StoresWorker id worker := by
  obtain ⟨session, stored, live, -⟩ := takes
  refine ⟨session.setWorker state.clock (some worker), ?_, rfl, live⟩
  have loaded : state.store.loadSession state.clock id = some session := stored
  have later : state.clock < (session.setWorker state.clock (some worker)).expiresAt :=
    unexpired session stored
  simp only [State.stored, State.exec, RedisSessionStore.exec,
    RedisSessionStore.runSessionMutation, loaded]
  exact RedisSessionStore.loadSession_saveSession_self later

theorem carrying_of_launches {current after : Custody} {op : Op} {reply : op.Reply}
    {worker : Worker} (moved : current.after id op reply = some after)
    (launches : op.launches id reply = some worker) : after.carrying = some worker := by
  obtain ⟨requester, rfl, same⟩ := Op.launches_eq_some launches
  cases reply with
  | error message => simp [Op.launches] at launches
  | ok launched =>
      simp only [Op.launches, same, if_true, Option.some.injEq] at launches
      simp only [Custody.after, same, if_true, Option.some.injEq] at moved
      rw [← moved, launches]

/-- The handler follows the custody discipline. -/
def Disciplined (id : SessionId) (thread : Thread (controlPlane settings)) : Prop :=
  thread.Obeys (custody id) Job.custody Custody.Clear

/-- No step loses a launched worker. -/
theorem Accounted.step {before after : Config (controlPlane settings)}
    {action : Action (controlPlane settings)} (accounted : Accounted id before)
    (holds : before.Satisfies (State.Sound id) (UpToDate id))
    (permitted : AssignsSafely id before action)
    (disciplined : ∀ thread ∈ before.threads, Disciplined id thread)
    (stepped : before.step action = some after) : Accounted id after := by
  intro worker launched
  obtain ⟨job, rfl, -, rfl⟩ | ⟨index, outcome, thread, op, next, rfl, found, suspended, rfl⟩ :=
    Config.step_cases stepped
  · rcases accounted worker launched with stored | stopped | ⟨keeper, member, keeps⟩
    · exact .inl stored
    · exact .inr (.inl stopped)
    · exact .inr (.inr ⟨keeper, List.mem_append_left _ member, keeps⟩)
  have member := List.mem_of_getElem? found
  have awaited := Config.awaits_eq_some found suspended
  obtain ⟨current, known, fresh⟩ := holds.threads thread member
  have allowed : current.Allows id op := (disciplined thread member).allows known suspended
  obtain ⟨moved, next'⟩ : ∃ moved,
      current.after id op (State.exec settings outcome op before.state).2 = some moved :=
    exists_after holds.state.idsDrawn op
      (fun requester asks => permitted.1 requester (asks ▸ awaited)) current
  have takes (stored : Option Worker) (assigns : op = .session (.mutate id (.setWorker stored))) :
      before.state.TakesWorker id :=
    (permitted.2 index outcome stored rfl (assigns ▸ awaited)).1
  -- the resumed handler is still among the handlers
  have self (keeps : moved.carrying = some worker ∨ moved.owes = some worker) :
      ∃ keeper ∈ before.threads.set index
        (thread.advance op (State.exec settings outcome op before.state).2
          (next (State.exec settings outcome op before.state).2)), Keeps id worker keeper :=
    ⟨_, List.mem_set (List.getElem?_eq_some_iff.mp found).1 _, moved,
      custodyOf_advance known next', keeps⟩
  rcases State.launched_exec launched with old | ⟨launches, -⟩
  · rcases accounted worker old with stored | stopped | kept
    · rcases accounted_of_stored holds.state old stored allowed known next'
        ⟨current, known, fresh⟩ suspended takes with still | owes
      · exact .inl still
      · exact .inr (.inr (self (.inr owes)))
    · exact .inr (.inl (State.stopped_exec stopped))
    · rcases Config.exists_mem_set _ found kept with ⟨same, isKnown, keeps⟩ | elsewhere
      · cases known.symm.trans isKnown
        rcases keeps with carrying | owes
        · rcases Custody.carrying_after allowed next' carrying with still | rfl
          · exact .inr (.inr (self (.inl still)))
          · exact .inl (storesWorker_of_assigned outcome holds.state.unexpired (takes _ rfl))
        · rcases Custody.owes_after allowed next' owes with still | rfl
          · exact .inr (.inr (self (.inr still)))
          · exact .inr (.inl (List.mem_append_right _ (List.mem_singleton.mpr rfl)))
      · exact .inr (.inr elsewhere)
  · exact .inr (.inr (self (.inl (carrying_of_launches next' launches))))

/-! ## Whole runs -/

/-- Handlers in a run of worker handlers are disciplined. -/
theorem disciplined_of_run {state : State} {final : Config (controlPlane settings)}
    (run : Run (AssignsSafely id) ⟨state, []⟩ final) :
    ∀ thread ∈ final.threads, Disciplined id thread :=
  run.obeys (Job.body_custody settings id) (by simp)

/-- A safe action taken while all handlers are disciplined. -/
def AssignsWithDiscipline (id : SessionId) (config : Config (controlPlane settings))
    (action : Action (controlPlane settings)) : Prop :=
  AssignsSafely id config action ∧ ∀ thread ∈ config.threads, Disciplined id thread

/-- In a safe run the store stays sound and terminating handlers up to date. -/
theorem upToDate_inductive :
    Inductive (AssignsWithDiscipline id : Config (controlPlane settings) → Action _ → Prop)
      (State.Sound id) (UpToDate id) := by
  refine ⟨fun config job _ permitted _ => ?_, ?_⟩
  · have followed : custodyOf id (Thread.new (controlPlane settings) job) = some {} :=
      if_pos permitted.1.1
    exact ⟨{}, followed, fun worker held => by simp at held⟩
  · intro config index outcome thread op next holds permitted found suspended
    obtain ⟨⟨only, safely⟩, disciplined⟩ := permitted
    have member := List.mem_of_getElem? found
    have awaited := Config.awaits_eq_some found suspended
    obtain ⟨current, known, -⟩ := holds.threads thread member
    have allowed : current.Allows id op := (disciplined thread member).allows known suspended
    refine ⟨⟨holds.state.idsDrawn.exec op, holds.state.unexpired.exec allowed.retains,
      fun worker launched => ?_⟩, ?_, fun other thread' found' different => ?_⟩
    · rcases State.launched_exec launched with old | ⟨-, direct⟩
      · exact holds.state.direct worker old
      · exact direct
    · exact (holds.threads thread member).advance holds.state.idsDrawn suspended
        fun requester asks => only requester (asks ▸ awaited)
    · refine (holds.threads thread' (List.mem_of_getElem? found')).other fun worker assigns => ?_
      exact (safely index outcome worker rfl (assigns ▸ awaited)).2 other thread' found' different

/-- The whole invariant. -/
def Tracked (id : SessionId) (config : Config (controlPlane settings)) : Prop :=
  config.Satisfies (State.Sound id) (UpToDate id) ∧ Accounted id config

/-- In every run in which `setWorker` meets only a live session without a launched
worker and no handler that is about to terminate it, whenever no handler is in progress
each launched worker is stored by a live session or was passed to
`workerRuntime.stop`. -/
theorem launched_workers_stored_or_stopped {state : State}
    {final : Config (controlPlane settings)} (unlaunched : state.Unlaunched id)
    (run : Run (AssignsSafely id) ⟨state, []⟩ final) (quiescent : final.Quiescent) :
    ∀ worker, (id, worker) ∈ final.state.launched →
      final.state.StoresWorker id worker ∨ some worker ∈ final.state.stopped := by
  have initially : (⟨state, []⟩ : Config (controlPlane settings)).Satisfies (State.Sound id)
      (UpToDate id) :=
    ⟨⟨unlaunched.idsDrawn, unlaunched.unexpired,
      fun worker launched => absurd launched (unlaunched.none worker)⟩, by simp⟩
  have followed : Run (AssignsWithDiscipline id) ⟨state, []⟩ final :=
    run.assuming fun config reached => disciplined_of_run reached
  obtain ⟨-, accounted⟩ : Tracked id final := by
    refine followed.invariant ?_ ?_
    · exact ⟨initially, fun worker launched => absurd launched (unlaunched.none worker)⟩
    · rintro before after action ⟨holds, accounted⟩ permitted stepped
      exact ⟨upToDate_inductive.step holds permitted stepped,
        accounted.step holds permitted.1 permitted.2 stepped⟩
  intro worker launched
  rcases accounted worker launched with stored | stopped | ⟨thread, member, current, known, keeps⟩
  · exact .inl stored
  · exact .inr stopped
  · -- a handler that has returned keeps nothing
    obtain ⟨carriesNone, owesNone⟩ :=
      (disciplined_of_run run thread member).post_of_finished known (quiescent thread member)
    rcases keeps with carrying | owes
    · simp [carriesNone] at carrying
    · simp [owesNone] at owes

end Runs

section WorkerRuns

open controlPlane

theorem State.initial_unlaunched (id : SessionId) : State.initial.Unlaunched id :=
  ⟨State.initial_idsDrawn, fun session stored => by
    simp [State.stored, State.initial, RedisSessionStore.empty,
      RedisSessionStore.loadSession] at stored, by simp [State.initial]⟩

instance (id : SessionId) (state : State) : Decidable (state.TakesWorker id) :=
  decidable_of_iff (∃ session ∈ state.stored id, ¬session.Terminated ∧
    (session.worker = none ∨ Worker.IsWarmPool session.worker)) (by
      simp [State.TakesWorker])

/-- The first worker that the plain settings launch. -/
def firstWorker : Worker := ⟨.runtime .docker, 0, none⟩

/-- Worker handlers run one after the other and find the session able to take a
worker. -/
def oneByOne {settings : Settings} (config : Config (controlPlane settings)) :
    Action (controlPlane settings) → Bool
  | .start job => Job.managesWorkers job
  | .resume index outcome =>
      decide (outcome = .succeeds) && config.alone (.resume index outcome) &&
        match config.awaits index with
        | some (.session (.mutate id (.setWorker _))) => config.state.TakesWorker id
        | _ => true

theorem assignsSafely_of_oneByOne {settings : Settings} (id : SessionId)
    (config : Config (controlPlane settings)) (action : Action (controlPlane settings))
    (passes : oneByOne config action = true) : AssignsSafely id config action := by
  cases action with
  | start job => exact ⟨passes, by simp⟩
  | resume index outcome =>
      simp only [oneByOne, Bool.and_eq_true, decide_eq_true_eq] at passes
      obtain ⟨⟨succeeds, isAlone⟩, takes⟩ := passes
      refine ⟨fun _ _ => succeeds, ?_⟩
      rintro _ _ worker ⟨⟩ awaited
      rw [awaited] at takes
      refine ⟨of_decide_eq_true takes, fun other thread found different => ?_⟩
      exact not_canIssue_of_finished (Config.others_of_alone isAlone other thread found different)

/-- Worker handlers run in any order, and launches succeed. -/
def launching {settings : Settings} (_ : Config (controlPlane settings)) :
    Action (controlPlane settings) → Bool
  | .start job => Job.managesWorkers job
  | .resume _ outcome => outcome = .succeeds

theorem workerHandlersOnly_of_launching {settings : Settings}
    (config : Config (controlPlane settings)) (action : Action (controlPlane settings))
    (passes : launching config action = true) : WorkerHandlersOnly config action := by
  cases action with
  | start job => exact passes
  | resume index outcome => exact fun _ _ => of_decide_eq_true passes

/-- A session is created and ended: its worker was launched and stopped. -/
theorem ended_session_stopped_its_worker :
    State.initial.Unlaunched 0 ∧ ∃ final : Config (controlPlane plainSettings),
      Run (AssignsSafely 0) ⟨State.initial, []⟩ final ∧ final.Quiescent ∧
      (0, firstWorker) ∈ final.state.launched ∧
      ∀ worker, (0, worker) ∈ final.state.launched →
        final.state.StoresWorker 0 worker ∨ some worker ∈ final.state.stopped := by
  refine ⟨State.initial_unlaunched 0, ?_⟩
  obtain ⟨final, reached, holds⟩ := Run.exists_of_schedule (assignsSafely_of_oneByOne 0)
    (⟨State.initial, []⟩ : Config (controlPlane plainSettings))
    (.start (.createSession 0 {}) :: run 0 4 ++
      .start (.terminateSession 0 0 "viewer ended session") :: run 1 11)
    (fun final => decide final.Quiescent &&
      decide ((0, firstWorker) ∈ final.state.launched)) (by decide)
  obtain ⟨quiescent, launched⟩ := Bool.and_eq_true_iff.mp holds
  refine ⟨final, reached, of_decide_eq_true quiescent, of_decide_eq_true launched, ?_⟩
  exact launched_workers_stored_or_stopped (State.initial_unlaunched 0) reached
    (of_decide_eq_true quiescent)

/-- A session is ended while its worker is being launched: the launched worker is
stored in a terminated session and never stopped. -/
theorem termination_during_launch_loses_worker :
    ¬∀ (settings : Settings) (id : SessionId) (state : State)
      (final : Config (controlPlane settings)), state.Unlaunched id →
      Run WorkerHandlersOnly ⟨state, []⟩ final → final.Quiescent →
      ∀ worker, (id, worker) ∈ final.state.launched →
        final.state.StoresWorker id worker ∨ some worker ∈ final.state.stopped := by
  intro kept
  obtain ⟨final, reached, holds⟩ := Run.exists_of_schedule
    workerHandlersOnly_of_launching
    (⟨State.initial, []⟩ : Config (controlPlane plainSettings))
    (.start (.createSession 0 {}) :: run 0 3 ++
      .start (.terminateSession 0 0 "viewer ended session") :: run 1 11 ++ run 0 1)
    (fun final => decide final.Quiescent &&
      decide ((0, firstWorker) ∈ final.state.launched) &&
      (final.state.stored 0).all (fun session : Session => decide session.Terminated) &&
      decide (final.state.stopped = [none])) (by decide)
  simp only [Bool.and_eq_true, decide_eq_true_eq, Option.all_eq_true] at holds
  obtain ⟨⟨⟨quiescent, launched⟩, terminated⟩, stopped⟩ := holds
  rcases kept plainSettings 0 State.initial final (State.initial_unlaunched 0) reached
    quiescent _ launched with ⟨session, stored, -, live⟩ | isStopped
  · exact live (terminated session stored)
  · simp [stopped] at isStopped

end WorkerRuns

end RemoteBrowser
