import RemoteBrowser.ControlPlane.Oversight

/-!
# One active session

In single-session mode `createRemoteSession` terminates every session that it finds before it
creates its own.  What it finds is a listing of at most 500 sessions, and nothing keeps another
call from creating a session between the listing and the creation.

A call that holds the termination lock of a session has the duty to terminate it; a call that
has listed the session attempts to acquire the lock.  If no call creates a session while another
one is between its listing and its creation, every active session but the newest one is some
call's duty, so none is left when all calls have returned.
-/

namespace RemoteBrowser

open Async Program

/-! ## Kinds of operations -/

namespace Op

def IsCreation : Op → Prop
  | .createSession _ => True
  | _ => False

def IsListing : Op → Prop
  | .session (.listSessions _) => True
  | _ => False

instance (op : Op) : Decidable op.IsCreation := by
  unfold IsCreation
  split <;> infer_instance

instance (op : Op) : Decidable op.IsListing := by
  unfold IsListing
  split <;> infer_instance

/-- The operation stores no state but `"terminated"`. -/
def Settling : Op → Prop
  | .session (.mutate _ (.setState state)) => state = "terminated"
  | _ => True

/-- The operation neither creates nor lists sessions, takes no lock and stores no state. -/
def Mild : Op → Prop
  | .createSession _ => False
  | .session (.listSessions _) => False
  | .session (.acquireTerminationLock _ _) => False
  | .session (.mutate _ (.setState _)) => False
  | _ => True

theorem exists_limit_of_listing {op : Op} (listing : op.IsListing) :
    ∃ limit, op = .session (.listSessions limit) := by
  cases op with
  | session call =>
      cases call with
      | listSessions limit => exact ⟨limit, rfl⟩
      | _ => exact listing.elim
  | _ => exact listing.elim

theorem Mild.settling {op : Op} (mild : op.Mild) : op.Settling := by
  cases op with
  | session call =>
      cases call with
      | mutate id mutation =>
          cases mutation with
          | setState state => exact mild.elim
          | _ => trivial
      | _ => trivial
  | _ => trivial

theorem Mild.not_creation {op : Op} (mild : op.Mild) : ¬op.IsCreation := by
  cases op with
  | createSession input => exact mild.elim
  | _ => exact id

theorem Mild.not_listing {op : Op} (mild : op.Mild) : ¬op.IsListing := by
  cases op with
  | session call =>
      cases call with
      | listSessions limit => exact mild.elim
      | _ => exact id
  | _ => exact id

theorem Signaling.mild {op : Op} (signaling : op.Signaling) : op.Mild := by
  cases op with
  | session call => cases call <;> first | exact signaling.elim | trivial
  | _ => first | exact signaling.elim | trivial

theorem Pooling.mild {op : Op} (pooling : op.Pooling) : op.Mild := by
  cases op with
  | session call => exact pooling.elim
  | createSession input => exact pooling.elim
  | _ => trivial

theorem Terminating.settling {session : Session} {op : Op} (terminating : op.Terminating session) :
    op.Settling := by
  rcases terminating with signaling | rfl | rfl | rfl | rfl
  · exact signaling.mild.settling
  · trivial
  · rfl
  · trivial
  · trivial

theorem Terminating.not_creation {session : Session} {op : Op}
    (terminating : op.Terminating session) : ¬op.IsCreation := by
  rcases terminating with signaling | rfl | rfl | rfl | rfl
  · exact signaling.mild.not_creation
  · exact id
  · exact id
  · exact id
  · exact id

theorem Terminating.not_listing {session : Session} {op : Op}
    (terminating : op.Terminating session) : ¬op.IsListing := by
  rcases terminating with signaling | rfl | rfl | rfl | rfl
  · exact signaling.mild.not_listing
  · exact id
  · exact id
  · exact id
  · exact id

end Op

/-! ## Duties of a call -/

def Op.Locks (id : SessionId) (op : Op) : Prop :=
  ∃ ttlMs, op = .session (.acquireTerminationLock id ttlMs)

/-- Only locks of sessions with smaller identifiers are acquired. -/
def Op.LocksBelow (bound : SessionId) (op : Op) : Prop := ∀ id, op.Locks id → id < bound

/-- The program terminates the session on every path. -/
def Owes (id : SessionId) (program : Handler Unit) : Prop :=
  program.MustIssue (fun _ => False) (Op.Terminates id)

/-- The program asks for the session's lock on every path, before it creates a session. -/
def Attempts (id : SessionId) (program : Handler Unit) : Prop :=
  program.MustIssue Op.IsCreation (Op.Locks id)

/-- The lock of the session was acquired. -/
def Acquired (id : SessionId) (event : Event controlPlane.face) : Prop :=
  ∃ ttlMs, event = ⟨.session (.acquireTerminationLock id ttlMs), true⟩

/-- The session was listed while it was not terminated. -/
def ListedActive (id : SessionId) (event : Event controlPlane.face) : Prop :=
  ∃ limit sessions, event = ⟨.session (.listSessions limit), sessions⟩ ∧
    ∃ session ∈ sessions, session.id = id ∧ ¬session.Terminated

/-- The listed sessions all have smaller identifiers. -/
def ListedBelow (bound : SessionId) (event : Event controlPlane.face) : Prop :=
  ∃ limit sessions, event = ⟨.session (.listSessions limit), sessions⟩ ∧
    ∀ session ∈ sessions, session.id < bound

theorem Op.Mild.locksBelow {op : Op} (mild : op.Mild) (bound : SessionId) :
    op.LocksBelow bound := by
  rintro id ⟨ttlMs, rfl⟩
  exact mild.elim

theorem Op.Terminating.locksBelow {session : Session} {op : Op}
    (terminating : op.Terminating session) {bound : SessionId} (smaller : session.id < bound) :
    op.LocksBelow bound := by
  rcases terminating with signaling | rfl | rfl | rfl | rfl
  · exact signaling.mild.locksBelow bound
  · rintro id ⟨ttlMs, same⟩
    cases same
    exact smaller
  all_goals
    rintro id ⟨ttlMs, same⟩
    cases same

section Termination

variable (settings : Settings) (instanceId : Nat) (session : Session) (reason : String)

/-- Once the state is stored, `terminateSession` only signals and stops the worker. -/
theorem finishTermination_eq :
    ∃ tail : Handler Unit, tail.Issues Op.Mild ∧
      finishTermination settings instanceId session reason =
        mutate session.id (.setState "terminated") >>= fun _ => tail := by
  have signals (role : Role) : (sendSignal instanceId session.id role
      (.sessionTerminated reason)).Issues Op.Mild :=
    (sendSignal_issues instanceId session.id role _).mono fun _ signaling => signaling.mild
  refine ⟨_, ?_, rfl⟩
  refine Issues.bind ?_ fun _ => ?_
  · unfold onlyIf notifyGatewaySessionTermination onlyIf
    split
    · split
      · exact ⟨trivial, fun _ => trivial⟩
      · trivial
    · trivial
  refine (signals .viewer).bind fun _ => (signals .worker).bind fun _ => ?_
  refine Issues.bind ⟨trivial, fun _ => trivial⟩ fun _ => ?_
  unfold onlyIf
  split
  · exact ⟨trivial, fun _ => trivial⟩
  · trivial

/-- Once the lock is acquired, the session is terminated. -/
theorem terminateSession_reacts (id : SessionId) :
    (terminateSession settings instanceId session reason).Reacts (Acquired id) (Owes id) := by
  unfold terminateSession
  split
  · trivial
  · intro acquired
    obtain ⟨tail, mild, shape⟩ := finishTermination_eq settings instanceId session reason
    cases acquired with
    | false => exact ⟨fun ⟨_, fires⟩ => by simp at fires, trivial⟩
    | true =>
        constructor
        · rintro ⟨ttlMs, fires⟩
          simp only [Sigma.mk.injEq, Op.session.injEq, SessionOp.acquireTerminationLock.injEq] at fires
          obtain ⟨⟨rfl, rfl⟩, -⟩ := fires
          exact .inl rfl
        · have silent : tail.Reacts (Acquired id) (Owes id) := by
            apply mild.reacts
            rintro op isMild reply ⟨ttlMs, fires⟩
            obtain ⟨rfl, -⟩ := Sigma.mk.inj fires
            exact isMild
          have finishes : (finishTermination settings instanceId session reason).Reacts
              (Acquired id) (Owes id) := by
            rw [shape]
            exact fun reply => ⟨fun ⟨_, fires⟩ => by simp at fires, silent⟩
          exact finishes

/-- A session that is not terminated is first locked. -/
theorem terminateSession_attempts (active : ¬session.Terminated) :
    Attempts session.id (terminateSession settings instanceId session reason) := by
  unfold terminateSession
  rw [if_neg active]
  exact .inl ⟨30000, rfl⟩

end Termination

/-! ## A call -/

section Creation

variable (settings : Settings) (instanceId : Nat) (body : SessionBody)

/-- What `createRemoteSession` does with the session that it has created. -/
def assignCreated (created : Session) : Handler Unit := do
  mutate created.id (.update created.tokenPatch)
  if created.shouldDeferWorkerLaunch then return ()
  else
    match ← assignSessionWorker settings instanceId created.withTokens with
    | .ok _ => return ()
    | .error _ => store (.remove created.id)

/-- The listing, the terminations, the creation and the rest. -/
theorem body_createSession (single : settings.singleActiveSessionMode = true) :
    Job.body settings (.createSession instanceId body) =
      .request (.session (.listSessions 500)) fun sessions =>
        Program.forEach sessions (fun existing => terminateSession settings instanceId existing
          "replaced by new session in single-session mode") >>= fun _ =>
        .request (.createSession (body.input settings)) (assignCreated settings instanceId) := by
  simp only [Job.body, createRemoteSession, terminateOtherSessions, onlyIf, single, if_true,
    Program.bind_assoc]
  refine congrArg (@Program.request controlPlane.face Unit (.session (.listSessions 500)))
    (funext fun sessions => ?_)
  refine congrArg (Program.forEach sessions _ >>= ·) (funext fun _ => ?_)
  refine congrArg (@Program.request controlPlane.face Unit (.createSession _))
    (funext fun created => ?_)
  refine congrArg (mutate created.id _ >>= ·) (funext fun _ => ?_)
  split
  · rfl
  · rw [Program.bind_assoc]
    refine congrArg (assignSessionWorker settings instanceId created.withTokens >>= ·)
      (funext fun outcome => ?_)
    cases outcome <;> rfl

theorem assignCreated_issues (created : Session) :
    (assignCreated settings instanceId created).Issues Op.Mild := by
  unfold assignCreated
  refine Issues.bind ⟨trivial, fun _ => trivial⟩ fun _ => ?_
  split
  · trivial
  refine Issues.bind ?_ fun outcome => ?_
  · unfold assignSessionWorker
    refine ((pooledWorker_issues settings instanceId _).mono fun _ pooling =>
      pooling.mild).bind fun found => ?_
    cases found with
    | some record =>
        exact Issues.bind ⟨trivial, fun _ => trivial⟩ fun _ =>
          Issues.bind ⟨trivial, fun _ => trivial⟩ fun _ => trivial
    | none =>
        refine Issues.bind ⟨trivial, fun _ => trivial⟩ fun launched => ?_
        cases launched with
        | error message => trivial
        | ok worker => exact Issues.bind ⟨trivial, fun _ => trivial⟩ fun _ => trivial
  · cases outcome with
    | ok worker => trivial
    | error message => exact ⟨trivial, fun _ => trivial⟩

end Creation

/-- What every call keeps to, from its start to its end. -/
structure Dutiful (program : Handler Unit) : Prop where
  settles : program.Issues Op.Settling
  finishes : ∀ id, program.Reacts (Acquired id) (Owes id)
  attempts : ∀ id, program.Reacts (ListedActive id) (Attempts id)
  bounded : ∀ bound, program.Reacts (ListedBelow bound) fun left =>
    left.Issues (Op.LocksBelow bound)
  creates_once : program.Reacts (fun event => Op.IsCreation event.1) fun left =>
    left.Issues fun op => ¬Op.IsCreation op

theorem Dutiful.next {op : Op} {next : op.Reply → Handler Unit}
    (dutiful : Dutiful (.request op next)) (reply : op.Reply) :
    Dutiful (next reply) :=
  ⟨dutiful.settles.2 reply, fun id => (dutiful.finishes id reply).2,
    fun id => (dutiful.attempts id reply).2, fun bound => (dutiful.bounded bound reply).2,
    (dutiful.creates_once reply).2⟩

theorem dutiful_of_mild {program : Handler Unit} (mild : program.Issues Op.Mild) :
    Dutiful program where
  settles := mild.mono fun _ isMild => isMild.settling
  finishes id := by
    apply mild.reacts
    rintro op isMild reply ⟨ttlMs, fires⟩
    obtain ⟨rfl, -⟩ := Sigma.mk.inj fires
    exact isMild
  attempts id := by
    apply mild.reacts
    rintro op isMild reply ⟨limit, sessions, fires, -⟩
    obtain ⟨rfl, -⟩ := Sigma.mk.inj fires
    exact isMild
  bounded bound := by
    apply mild.reacts
    rintro op isMild reply ⟨limit, sessions, fires, -⟩
    obtain ⟨rfl, -⟩ := Sigma.mk.inj fires
    exact isMild
  creates_once := mild.reacts fun op isMild _ => isMild.not_creation

/-- The terminations of a call and what follows them. -/
theorem dutiful_terminations (settings : Settings) (instanceId : Nat) (reason : String)
    (sessions : List Session) {rest : Handler Unit} (dutiful : Dutiful rest) :
    Dutiful (Program.forEach sessions (fun existing =>
      terminateSession settings instanceId existing reason) >>= fun _ => rest) := by
  induction sessions with
  | nil => exact dutiful
  | cons session others ih =>
      have issues := terminateSession_issues settings instanceId session reason
      simp only [Program.forEach, Program.bind_assoc]
      exact
        { settles := (issues.mono fun _ terminating => terminating.settling).bind
            fun _ => ih.settles
          finishes := fun id => (terminateSession_reacts settings instanceId session reason
            id).bind (fun _ => ih.finishes id) fun _ owes => owes.bind_left
          attempts := fun id => by
            refine issues.reacts_bind ?_ fun _ => ih.attempts id
            rintro op terminating reply ⟨limit, sessions, fires, -⟩
            obtain ⟨rfl, -⟩ := Sigma.mk.inj fires
            exact terminating.not_listing trivial
          bounded := fun bound => by
            refine issues.reacts_bind ?_ fun _ => ih.bounded bound
            rintro op terminating reply ⟨limit, sessions, fires, -⟩
            obtain ⟨rfl, -⟩ := Sigma.mk.inj fires
            exact terminating.not_listing trivial
          creates_once := issues.reacts_bind
            (fun _ terminating _ => terminating.not_creation) fun _ => ih.creates_once }

/-- A call keeps to the discipline, and it lists first. -/
theorem dutiful_createSession (settings : Settings)
    (single : settings.singleActiveSessionMode = true) (instanceId : Nat) (body : SessionBody) :
    Dutiful (Job.body settings (.createSession instanceId body)) := by
  have assigns := assignCreated_issues settings instanceId
  have creates : Dutiful (.request (.createSession (body.input settings))
      (assignCreated settings instanceId)) :=
    { settles := ⟨trivial, fun created => (dutiful_of_mild (assigns created)).settles⟩
      finishes := fun id created =>
        ⟨fun ⟨_, fires⟩ => by simp at fires, (dutiful_of_mild (assigns created)).finishes id⟩
      attempts := fun id created =>
        ⟨fun ⟨_, _, fires, _⟩ => by simp at fires,
          (dutiful_of_mild (assigns created)).attempts id⟩
      bounded := fun bound created =>
        ⟨fun ⟨_, _, fires, _⟩ => by simp at fires,
          (dutiful_of_mild (assigns created)).bounded bound⟩
      creates_once := fun created =>
        ⟨fun _ => (assigns created).mono fun _ isMild => isMild.not_creation,
          (dutiful_of_mild (assigns created)).creates_once⟩ }
  rw [body_createSession settings instanceId body single]
  have rest (sessions : List Session) := dutiful_terminations settings instanceId
    "replaced by new session in single-session mode" sessions creates
  exact
    { settles := ⟨trivial, fun sessions => (rest sessions).settles⟩
      finishes := fun id sessions =>
        ⟨fun ⟨_, fires⟩ => by simp at fires, (rest sessions).finishes id⟩
      attempts := fun id sessions => by
        refine ⟨?_, (rest sessions).attempts id⟩
        rintro ⟨limit, listed, fires, session, member, rfl, active⟩
        cases fires
        have issues (other : Session) : (terminateSession settings instanceId other
            "replaced by new session in single-session mode").Issues fun op =>
              ¬Op.IsCreation op :=
          (terminateSession_issues settings instanceId other _).mono
            fun _ terminating => terminating.not_creation
        have attempts : (terminateSession settings instanceId session
            "replaced by new session in single-session mode").MustIssue Op.IsCreation
              (Op.Locks session.id) := terminateSession_attempts settings instanceId session _ active
        exact (MustIssue.forEach member attempts (fun other _ => issues other)
          fun _ passes => passes).bind_left
      bounded := fun bound sessions => by
        refine ⟨?_, (rest sessions).bounded bound⟩
        rintro ⟨limit, listed, fires, smaller⟩
        cases fires
        refine Issues.bind (Issues.forEach fun session member => ?_) fun _ => ?_
        · exact (terminateSession_issues settings instanceId session _).mono
            fun _ terminating => terminating.locksBelow (smaller session member)
        · refine ⟨?_, fun created =>
            (assigns created).mono fun _ isMild => isMild.locksBelow bound⟩
          rintro id ⟨ttlMs, same⟩
          cases same
      creates_once := fun sessions => ⟨fun creation => creation.elim, (rest sessions).creates_once⟩ }

/-! ## Active sessions and locks -/

namespace State

variable {settings : Settings} {outcome : LaunchOutcome} {state : State} {op : Op}
  {id : SessionId}

/-- The session is stored and not terminated. -/
def Active (state : State) (id : SessionId) : Prop :=
  ∃ session, state.stored id = some session ∧ ¬session.Terminated

/-- Only a creation makes a session active. -/
theorem active_exec (settling : op.Settling)
    (active : (exec settings outcome op state).1.Active id) :
    state.Active id ∨ op.IsCreation ∧ id = state.nextSessionId := by
  obtain ⟨found, stored, running⟩ := active
  have rewrites := stored_exec stored
  rcases rewrites.state_cases with ⟨session, before, same⟩ | rfl | -
  · exact .inl ⟨session, before, fun ended => running (same.trans ended)⟩
  · exact absurd settling running
  · cases rewrites with
    | kept same => exact .inl ⟨found, same, running⟩
    | created ttlMs fresh result => exact .inr ⟨trivial, fresh⟩
    | @mutated mutation session before result =>
        subst result
        cases mutation with
        | setState state => exact absurd settling running
        | claimSocketOwnership role owner =>
            exact .inl ⟨session, before, fun ended => running (by cases role <;> exact ended)⟩
        | _ => exact .inl ⟨session, before, running⟩
    | @released role owner session before result =>
        subst result
        exact .inl ⟨session, before, fun ended => running (by cases role <;> exact ended)⟩

theorem not_active_of_terminates (terminates : op.Terminates id) :
    ¬(exec settings outcome op state).1.Active id := by
  rintro ⟨found, stored, running⟩
  subst terminates
  obtain ⟨session, -, rfl⟩ := stored_mutate stored
  exact running rfl

/-- A lock was there before, or it was acquired just now. -/
theorem locked_exec
    (locked : (exec settings outcome op state).1.store.terminationLocks id ≠ none) :
    state.store.terminationLocks id ≠ none ∨
      Acquired id ⟨op, (exec settings outcome op state).2⟩ := by
  cases op with
  | session call =>
      cases call with
      | acquireTerminationLock other ttlMs =>
          simp only [exec, RedisSessionStore.exec, RedisSessionStore.acquireTerminationLock]
            at locked ⊢
          split at locked
          · exact .inl locked
          · by_cases same : id = other
            · subst same
              exact .inr ⟨ttlMs, by simp [*]⟩
            · simp only [Function.update_of_ne same] at locked
              exact .inl locked
      | mutate other mutation =>
          simp only [exec, RedisSessionStore.exec, RedisSessionStore.runSessionMutation] at locked
          split at locked <;> exact .inl locked
      | releaseSocketOwnership other role owner =>
          simp only [exec, RedisSessionStore.exec, RedisSessionStore.releaseSocketOwnership]
            at locked
          split at locked
          · exact .inl locked
          · split at locked <;> exact .inl locked
      | addPendingSignal other role payload =>
          simp only [exec, RedisSessionStore.exec, RedisSessionStore.addPendingSignal] at locked
          split at locked <;> exact .inl locked
      | remove other =>
          by_cases same : id = other
          · subst same
            exact absurd (Function.update_self ..) locked
          · simp only [exec, RedisSessionStore.exec, RedisSessionStore.remove,
              Function.update_of_ne same] at locked
            exact .inl locked
      | _ => exact .inl locked
  | sync call =>
      rw [exec, (execSync_frame call state).store] at locked
      exact .inl locked
  | launch session => cases outcome <;> exact .inl locked
  | _ => exact .inl locked

theorem locked_of_refused {ttlMs : Nat}
    (refused : (exec settings outcome (.session (.acquireTerminationLock id ttlMs)) state).2 =
      false) : state.store.terminationLocks id ≠ none := by
  intro free
  simp [exec, RedisSessionStore.exec, RedisSessionStore.acquireTerminationLock, free] at refused

end State

/-! ## Runs of calls -/

/-- A call of `createRemoteSession`, or time passes. -/
def Job.Creates : Job → Prop
  | .createSession _ _ => True
  | .elapse _ => True
  | _ => False

instance (job : Job) : Decidable job.Creates := by
  unfold Job.Creates
  split <;> infer_instance

section Runs

variable {settings : Settings}

/-- The call is between its listing and its creation. -/
def Searches (thread : Thread (controlPlane settings)) : Prop :=
  (∃ event ∈ thread.past, Op.IsListing event.1) ∧ ∀ event ∈ thread.past, ¬Op.IsCreation event.1

instance (thread : Thread (controlPlane settings)) : Decidable (Searches thread) :=
  inferInstanceAs (Decidable (_ ∧ _))

/-- Every listing shows all active sessions, and a call creates its session only when no other
one is between its listing and its creation. -/
def Undisturbed (config : Config (controlPlane settings)) : Action (controlPlane settings) → Prop
  | .start job => job.Creates
  | .resume index _ =>
      (∀ limit, config.awaits index = some (.session (.listSessions limit)) →
        ∀ id session, config.state.stored id = some session → ¬session.Terminated →
          session ∈ config.state.store.listSessions config.state.clock limit) ∧
      ∀ input, config.awaits index = some (.createSession input) →
        config.Others index fun thread => ¬Searches thread

/-- How far a call has come. -/
structure Phased (thread : Thread (controlPlane settings)) : Prop where
  dutiful : Dutiful thread.program
  phase : (thread.past = [] ∧ thread.job.Creates ∧
      thread.program = Job.body settings thread.job) ∨
    (∃ event ∈ thread.past, Op.IsListing event.1) ∨ thread.program.Issues Op.Mild
  once : (∃ event ∈ thread.past, Op.IsCreation event.1) →
    thread.program.Issues fun op => ¬Op.IsCreation op

theorem issues_elapse (settings : Settings) (ms : Nat) :
    (Job.body settings (.elapse ms)).Issues Op.Mild :=
  ⟨trivial, fun _ => trivial⟩

theorem phased_new (single : settings.singleActiveSessionMode = true) {job : Job}
    (creates : job.Creates) : Phased (Thread.new (controlPlane settings) job) := by
  refine ⟨?_, .inl ⟨rfl, creates, rfl⟩, fun ⟨_, member, _⟩ => nomatch member⟩
  cases job with
  | createSession instanceId body =>
      exact dutiful_createSession settings single instanceId body
  | elapse ms => exact dutiful_of_mild (issues_elapse settings ms)
  | _ => exact creates.elim

section Thread

variable {thread : Thread (controlPlane settings)} {op : Op} {next : op.Reply → Handler Unit}

theorem Phased.advance (single : settings.singleActiveSessionMode = true)
    (phased : Phased thread) (suspended : thread.program = .request op next)
    (reply : op.Reply) :
    Phased (thread.advance op reply (next reply)) := by
  obtain ⟨dutiful, phase, once⟩ := phased
  rw [suspended] at dutiful phase once
  refine ⟨dutiful.next reply, ?_, ?_⟩
  · rcases phase with ⟨-, creates, begins⟩ | ⟨event, member, listing⟩ | mild
    · cases job : thread.job with
      | createSession instanceId body =>
          rw [job, body_createSession settings instanceId body single] at begins
          obtain ⟨rfl, -⟩ := Program.request.inj begins
          exact .inr (.inl ⟨_, List.mem_cons_self, trivial⟩)
      | elapse ms =>
          have mild := issues_elapse settings ms
          rw [job] at begins
          rw [← begins] at mild
          exact .inr (.inr (mild.2 reply))
      | _ =>
          rw [job] at creates
          exact creates.elim
    · exact .inr (.inl ⟨event, List.mem_cons_of_mem _ member, listing⟩)
    · exact .inr (.inr (mild.2 reply))
  · rintro ⟨event, member, creation⟩
    rcases List.mem_cons.mp member with rfl | earlier
    · exact (dutiful.creates_once reply).1 creation
    · exact (once ⟨event, earlier, creation⟩).2 reply

/-- A call creates its session after it has listed the others. -/
theorem Phased.searches (single : settings.singleActiveSessionMode = true)
    (phased : Phased thread) (suspended : thread.program = .request op next)
    (creation : op.IsCreation) : Searches thread := by
  obtain ⟨-, phase, once⟩ := phased
  rw [suspended] at phase once
  have first : ∀ event ∈ thread.past, ¬Op.IsCreation event.1 := by
    intro event member created
    exact (once ⟨event, member, created⟩).1 creation
  rcases phase with ⟨-, creates, begins⟩ | listed | mild
  · cases job : thread.job with
    | createSession instanceId body =>
        rw [job, body_createSession settings instanceId body single] at begins
        obtain ⟨rfl, -⟩ := Program.request.inj begins
        exact creation.elim
    | elapse ms =>
        have mild := issues_elapse settings ms
        rw [job] at begins
        rw [← begins] at mild
        exact absurd creation mild.1.not_creation
    | _ =>
        rw [job] at creates
        exact creates.elim
  · exact ⟨listed, first⟩
  · exact absurd creation mild.1.not_creation

end Thread

/-- Some call has the duty to terminate the session. -/
def Owed (config : Config (controlPlane settings)) (id : SessionId) : Prop :=
  ∃ thread ∈ config.threads, Owes id thread.program

/-- What holds throughout a run. -/
structure Orderly (config : Config (controlPlane settings)) : Prop where
  phased : ∀ thread ∈ config.threads, Phased thread
  drawn : config.state.IdsDrawn
  /-- locks are those of sessions that were created -/
  bounded : ∀ thread ∈ config.threads, thread.past ≠ [] →
    thread.program.Issues (Op.LocksBelow config.state.nextSessionId)
  fresh : ∀ id, config.state.store.terminationLocks id ≠ none → id < config.state.nextSessionId
  /-- the lock of an active session is held by a call that will terminate it -/
  locked : ∀ id, config.state.Active id → config.state.store.terminationLocks id ≠ none →
    Owed config id
  /-- every active session but one will be terminated -/
  newest : ∃ last, ∀ id, config.state.Active id → id = last ∨ Owed config id
  /-- a call that has listed the sessions attempts to terminate all that are active -/
  searched : ∀ thread ∈ config.threads, Searches thread → ∀ id, config.state.Active id →
    Attempts id thread.program ∨ Owed config id

theorem orderly_initial : Orderly (⟨State.initial, []⟩ : Config (controlPlane settings)) where
  phased := by simp
  drawn := State.initial_idsDrawn
  bounded := by simp
  fresh _ locked := absurd rfl locked
  locked _ _ locked := absurd rfl locked
  newest := by
    refine ⟨0, ?_⟩
    rintro id ⟨session, stored, -⟩
    simp [State.stored, State.initial, RedisSessionStore.empty, RedisSessionStore.loadSession]
      at stored
  searched := by simp

theorem Orderly.start {before : Config (controlPlane settings)} (orderly : Orderly before)
    (single : settings.singleActiveSessionMode = true) {job : Job} (creates : job.Creates) :
    Orderly { before with threads := before.threads ++ [Thread.new (controlPlane settings) job] } := by
  have owed : ∀ id, Owed before id →
      Owed { before with threads := before.threads ++ [Thread.new (controlPlane settings) job] }
        id := by
    rintro id ⟨thread, member, owes⟩
    exact ⟨thread, List.mem_append_left _ member, owes⟩
  obtain ⟨last, newest⟩ := orderly.newest
  exact
    { phased := by
        intro thread member
        rcases List.mem_append.mp member with old | new
        · exact orderly.phased thread old
        · rw [List.mem_singleton.mp new]
          exact phased_new single creates
      drawn := orderly.drawn
      bounded := by
        intro thread member begun
        rcases List.mem_append.mp member with old | new
        · exact orderly.bounded thread old begun
        · rw [List.mem_singleton.mp new] at begun
          exact absurd rfl begun
      fresh := orderly.fresh
      locked := fun id active locked => owed id (orderly.locked id active locked)
      newest := ⟨last, fun id active => (newest id active).imp_right (owed id)⟩
      searched := by
        intro thread member searches id active
        rcases List.mem_append.mp member with old | new
        · exact (orderly.searched thread old searches id active).imp_right (owed id)
        · rw [List.mem_singleton.mp new] at searches
          obtain ⟨⟨event, impossible, -⟩, -⟩ := searches
          cases impossible }

section Resume

variable {before : Config (controlPlane settings)} {index : Nat} {choice : LaunchOutcome}
  {thread : Thread (controlPlane settings)} {op : Op} {next : op.Reply → Handler Unit}

/-- The configuration after the awaited operation. -/
def resumed (before : Config (controlPlane settings)) (index : Nat) (choice : LaunchOutcome)
    (thread : Thread (controlPlane settings)) (op : Op) (next : op.Reply → Handler Unit) :
    Config (controlPlane settings) :=
  ⟨(State.exec settings choice op before.state).1,
    before.threads.set index (thread.advance op (State.exec settings choice op before.state).2
      (next (State.exec settings choice op before.state).2))⟩

variable (found : before.threads[index]? = some thread)
  (suspended : thread.program = .request op next)
include found

theorem mem_resumed :
    thread.advance op (State.exec settings choice op before.state).2
      (next (State.exec settings choice op before.state).2) ∈
        (resumed before index choice thread op next).threads :=
  List.mem_set (List.getElem?_eq_some_iff.mp found).1 _

include suspended

/-- A duty remains as long as the session is active. -/
theorem owed_resumed {id : SessionId} (owed : Owed before id)
    (active : (resumed before index choice thread op next).state.Active id) :
    Owed (resumed before index choice thread op next) id := by
  rcases Config.exists_mem_set (thread.advance op (State.exec settings choice op before.state).2
    (next (State.exec settings choice op before.state).2)) found owed with own | elsewhere
  · rw [suspended] at own
    have other : ¬op.Terminates id := fun terminates =>
      State.not_active_of_terminates terminates active
    exact ⟨_, mem_resumed found, own.next other _⟩
  · exact elsewhere

/-- Whoever acquires the lock has the duty. -/
theorem owed_of_acquired {id : SessionId} (phased : Phased thread)
    (acquired : Acquired id ⟨op, (State.exec settings choice op before.state).2⟩) :
    Owed (resumed before index choice thread op next) id := by
  have dutiful := phased.dutiful
  rw [suspended] at dutiful
  exact ⟨_, mem_resumed found, (dutiful.finishes id _).1 acquired⟩

theorem Orderly.locked_resumed (orderly : Orderly before) {id : SessionId}
    (active : (resumed before index choice thread op next).state.Active id)
    (known : before.state.Active id)
    (locked : (resumed before index choice thread op next).state.store.terminationLocks id ≠
      none) : Owed (resumed before index choice thread op next) id := by
  rcases State.locked_exec locked with earlier | acquired
  · exact owed_resumed found suspended (orderly.locked id known earlier) active
  · exact owed_of_acquired found suspended
      (orderly.phased thread (List.mem_of_getElem? found)) acquired

/-- A call that searches goes on to attempt what it has not attempted yet. -/
theorem Orderly.attempts_resumed (orderly : Orderly before) {id : SessionId}
    (attempts : Attempts id thread.program)
    (active : (resumed before index choice thread op next).state.Active id)
    (known : before.state.Active id) :
    Attempts id (next (State.exec settings choice op before.state).2) ∨
      Owed (resumed before index choice thread op next) id := by
  rw [suspended] at attempts
  by_cases locks : op.Locks id
  · right
    obtain ⟨ttlMs, rfl⟩ := locks
    cases reply : (State.exec settings choice
        (.session (.acquireTerminationLock id ttlMs)) before.state).2 with
    | false =>
        exact owed_resumed found suspended
          (orderly.locked id known (State.locked_of_refused reply)) active
    | true =>
        refine owed_of_acquired found suspended
          (orderly.phased thread (List.mem_of_getElem? found)) ⟨ttlMs, ?_⟩
        rw [reply]
  · exact .inl (attempts.next locks _)

/-- The locks that a call acquires from now on. -/
theorem Orderly.bounded_resumed (orderly : Orderly before)
    (single : settings.singleActiveSessionMode = true) :
    op.LocksBelow before.state.nextSessionId ∧
      (next (State.exec settings choice op before.state).2).Issues
        (Op.LocksBelow (State.exec settings choice op before.state).1.nextSessionId) := by
  have later : before.state.nextSessionId ≤
      (State.exec settings choice op before.state).1.nextSessionId := State.nextSessionId_exec op
  have member := List.mem_of_getElem? found
  have phased := orderly.phased thread member
  by_cases begun : thread.past = []
  · have dutiful := phased.dutiful
    have phase := phased.phase
    rw [suspended] at dutiful phase
    have mildly (mild : (Program.request op next : Handler Unit).Issues Op.Mild) :
        op.LocksBelow before.state.nextSessionId ∧
          (next (State.exec settings choice op before.state).2).Issues
            (Op.LocksBelow (State.exec settings choice op before.state).1.nextSessionId) :=
      ⟨mild.1.locksBelow _, (mild.2 _).mono fun _ isMild => isMild.locksBelow _⟩
    rcases phase with ⟨-, creates, begins⟩ | ⟨event, impossible, -⟩ | mild
    · cases job : thread.job with
      | createSession instanceId body =>
          rw [job, body_createSession settings instanceId body single] at begins
          obtain ⟨rfl, -⟩ := Program.request.inj begins
          refine ⟨?_, (dutiful.bounded _ _).1 ⟨500, _, rfl, fun session listed => ?_⟩⟩
          · rintro id ⟨ttlMs, same⟩
            cases same
          · have stored := State.stored_of_listed orderly.drawn listed
            exact (orderly.drawn _ session stored).2.trans_le later
      | elapse ms =>
          rw [job] at begins
          exact mildly (begins ▸ issues_elapse settings ms)
      | _ =>
          rw [job] at creates
          exact creates.elim
    · rw [begun] at impossible
      cases impossible
    · exact mildly mild
  · have bounded := orderly.bounded thread member begun
    rw [suspended] at bounded
    exact ⟨bounded.1, (bounded.2 _).mono fun op below id locks => (below id locks).trans_le later⟩

omit found suspended in
/-- The calls after the awaited operation. -/
theorem mem_resumed_cases {other : Thread (controlPlane settings)}
    (member : other ∈ (resumed before index choice thread op next).threads) :
    other = thread.advance op (State.exec settings choice op before.state).2
        (next (State.exec settings choice op before.state).2) ∨
      ∃ position, position ≠ index ∧ before.threads[position]? = some other := by
  obtain ⟨position, held⟩ := List.mem_iff_getElem?.mp member
  rw [resumed, List.getElem?_set] at held
  split at held
  · split at held <;> cases held
    exact .inl rfl
  · next different => exact .inr ⟨position, Ne.symm different, held⟩

/-- All active sessions are someone's duty when a call creates its session. -/
theorem Orderly.owed_of_creation (orderly : Orderly before)
    (single : settings.singleActiveSessionMode = true) (creation : op.IsCreation)
    {id : SessionId} (known : before.state.Active id) : Owed before id := by
  have member := List.mem_of_getElem? found
  have searches := (orderly.phased thread member).searches single suspended creation
  rcases orderly.searched thread member searches id known with attempts | owed
  · rw [suspended] at attempts
    rcases attempts with ⟨ttlMs, rfl⟩ | ⟨other, -⟩
    · exact creation.elim
    · exact absurd creation other
  · exact owed

/-- After its listing a call attempts to terminate what is active. -/
theorem Orderly.attempts_of_listing (orderly : Orderly before) {limit : Nat}
    (listing : op = .session (.listSessions limit))
    (complete : ∀ id session, before.state.stored id = some session → ¬session.Terminated →
      session ∈ before.state.store.listSessions before.state.clock limit)
    {id : SessionId} (known : before.state.Active id) :
    Attempts id (next (State.exec settings choice op before.state).2) := by
  have dutiful := (orderly.phased thread (List.mem_of_getElem? found)).dutiful
  rw [suspended] at dutiful
  subst listing
  obtain ⟨session, stored, running⟩ := known
  refine (dutiful.attempts id _).1 ⟨limit, _, rfl, session, ?_, ?_, running⟩
  · exact complete id session stored running
  · exact (orderly.drawn id session stored).1

theorem Orderly.resume (orderly : Orderly before)
    (single : settings.singleActiveSessionMode = true)
    (complete : ∀ limit, op = .session (.listSessions limit) →
      ∀ id session, before.state.stored id = some session → ¬session.Terminated →
        session ∈ before.state.store.listSessions before.state.clock limit)
    (exclusive : op.IsCreation → before.Others index fun other => ¬Searches other) :
    Orderly (resumed before index choice thread op next) := by
  have phased := orderly.phased thread (List.mem_of_getElem? found)
  have settling := phased.dutiful.settles
  rw [suspended] at settling
  have bounded : op.LocksBelow before.state.nextSessionId ∧
      (next (State.exec settings choice op before.state).2).Issues
        (Op.LocksBelow (State.exec settings choice op before.state).1.nextSessionId) :=
    orderly.bounded_resumed found suspended single
  have later : before.state.nextSessionId ≤
      (State.exec settings choice op before.state).1.nextSessionId := State.nextSessionId_exec op
  have fresh : ∀ id,
      (State.exec settings choice op before.state).1.store.terminationLocks id ≠ none →
        id < before.state.nextSessionId := by
    intro id locked
    rcases State.locked_exec locked with earlier | ⟨ttlMs, acquired⟩
    · exact orderly.fresh id earlier
    · exact bounded.1 id ⟨ttlMs, (Sigma.mk.inj acquired).1⟩
  have known {id : SessionId} (other : ¬op.IsCreation)
      (active : (resumed before index choice thread op next).state.Active id) :
      before.state.Active id :=
    (State.active_exec settling.1 active).resolve_right fun created => other created.1
  have owed {id : SessionId} := @owed_resumed _ _ _ choice _ _ _ found suspended id
  exact
    { phased := by
        intro other member
        rcases mem_resumed_cases member with rfl | ⟨position, -, held⟩
        · exact phased.advance single suspended _
        · exact orderly.phased other (List.mem_of_getElem? held)
      drawn := orderly.drawn.exec op
      bounded := by
        intro other member begun
        rcases mem_resumed_cases member with rfl | ⟨position, -, held⟩
        · exact bounded.2
        · exact (orderly.bounded other (List.mem_of_getElem? held) begun).mono
            fun _ below id locks => (below id locks).trans_le later
      fresh := fun id locked => (fresh id locked).trans_le later
      locked := by
        intro id active locked
        rcases State.active_exec settling.1 active with stayed | ⟨-, drawn⟩
        · exact orderly.locked_resumed found suspended active stayed locked
        · exact absurd drawn (fresh id locked).ne
      newest := by
        by_cases creation : op.IsCreation
        · refine ⟨before.state.nextSessionId, fun id active => ?_⟩
          rcases State.active_exec settling.1 active with stayed | ⟨-, drawn⟩
          · exact .inr (owed (orderly.owed_of_creation found suspended single creation stayed)
              active)
          · exact .inl drawn
        · obtain ⟨last, newest⟩ := orderly.newest
          exact ⟨last, fun id active =>
            (newest id (known creation active)).imp_right fun duty => owed duty active⟩
      searched := by
        intro other member searches id active
        rcases mem_resumed_cases member with rfl | ⟨position, different, held⟩
        · obtain ⟨⟨event, past, listing⟩, uncreated⟩ := searches
          have creation : ¬op.IsCreation := uncreated _ List.mem_cons_self
          rcases List.mem_cons.mp past with rfl | earlier
          · obtain ⟨limit, rfl⟩ := Op.exists_limit_of_listing listing
            exact .inl (orderly.attempts_of_listing found suspended rfl (complete limit rfl)
              (known creation active))
          · have searched : Searches thread :=
              ⟨⟨event, earlier, listing⟩, fun old past =>
                uncreated old (List.mem_cons_of_mem _ past)⟩
            rcases orderly.searched thread (List.mem_of_getElem? found) searched id
              (known creation active) with attempts | duty
            · exact orderly.attempts_resumed found suspended attempts active
                (known creation active)
            · exact .inr (owed duty active)
        · by_cases creation : op.IsCreation
          · exact absurd searches (exclusive creation position other held different)
          · exact (orderly.searched other (List.mem_of_getElem? held) searches id
              (known creation active)).imp_right fun duty => owed duty active }

end Resume

theorem orderly_of_run (single : settings.singleActiveSessionMode = true)
    {config : Config (controlPlane settings)}
    (run : Run Undisturbed (⟨State.initial, []⟩ : Config (controlPlane settings)) config) :
    Orderly config := by
  refine run.invariant orderly_initial ?_
  intro before after action orderly permitted stepped
  obtain ⟨job, rfl, -, rfl⟩ | ⟨index, choice, thread, op, next, rfl, found, suspended, rfl⟩ :=
    Config.step_cases stepped
  · exact orderly.start single permitted
  · obtain ⟨complete, exclusive⟩ := permitted
    have awaited := Config.awaits_eq_some found suspended
    refine orderly.resume found suspended single ?_ ?_
    · rintro limit rfl
      exact complete limit awaited
    · intro creation
      cases op with
      | createSession input => exact exclusive input awaited
      | _ => exact creation.elim

/-- When all calls have returned, at most one session is active, provided that no call creates
its session between the listing and the creation of another one and that every listing shows
all active sessions. -/
theorem one_active_session_when_quiescent (settings : Settings)
    (single : settings.singleActiveSessionMode = true) (config : Config (controlPlane settings))
    (run : Run Undisturbed ⟨State.initial, []⟩ config) (quiescent : config.Quiescent) :
    ∀ id other, config.state.Active id → config.state.Active other → id = other := by
  have orderly := orderly_of_run single run
  obtain ⟨last, newest⟩ := orderly.newest
  have only (id : SessionId) (active : config.state.Active id) : id = last := by
    refine (newest id active).resolve_right ?_
    rintro ⟨thread, member, owes⟩
    exact owes.not_finished (quiescent thread member)
  intro id other active running
  rw [only id active, only other running]

end Runs

/-! ## Two calls -/

open controlPlane

def singleSettings : Settings := { plainSettings with singleActiveSessionMode := true }

/-- Only calls are started. -/
def CallsOnly (_ : Config (controlPlane singleSettings)) :
    Action (controlPlane singleSettings) → Prop
  | .start job => job.Creates
  | .resume _ _ => True

instance (config : Config (controlPlane singleSettings))
    (action : Action (controlPlane singleSettings)) : Decidable (CallsOnly config action) := by
  unfold CallsOnly
  split <;> infer_instance

/-- A decidable check for `Undisturbed`, for states whose identifiers were drawn. -/
def undisturbed (config : Config (controlPlane singleSettings)) :
    Action (controlPlane singleSettings) → Bool
  | .start job => job.Creates
  | .resume index _ =>
      match config.awaits index with
      | some (.session (.listSessions limit)) =>
          (List.range config.state.nextSessionId).all fun id =>
            (State.stored config.state id).all fun session => session.Terminated ∨
              session ∈ config.state.store.listSessions config.state.clock limit
      | some (.createSession _) => config.othersPass index fun thread => ¬Searches thread
      | _ => true

theorem undisturbed_of_check {config : Config (controlPlane singleSettings)}
    {action : Action (controlPlane singleSettings)} (drawn : config.state.IdsDrawn)
    (passes : undisturbed config action = true) : Undisturbed config action := by
  cases action with
  | start job => exact @of_decide_eq_true job.Creates _ passes
  | resume index choice =>
      refine ⟨fun limit awaited id session stored active => ?_, fun input awaited => ?_⟩
      · simp only [undisturbed, awaited] at passes
        have bound := (drawn id session stored).2
        have listed := List.all_eq_true.mp passes id (List.mem_range.mpr bound)
        simpa [stored, active] using listed
      · simp only [undisturbed, awaited] at passes
        exact fun other thread found different =>
          of_decide_eq_true (Config.others_of_pass passes other thread found different)

/-- A second call lists the sessions when the first one has created its session. -/
def consecutiveCalls : List (Action (controlPlane singleSettings)) :=
  .start (.createSession 0 {}) :: run 0 2 ++ .start (.createSession 0 {}) :: run 1 15 ++ run 0 3

/-- Both calls list the sessions before they create their own. -/
def overlappingCalls : List (Action (controlPlane singleSettings)) :=
  .start (.createSession 0 {}) :: .start (.createSession 0 {}) ::
    run 0 1 ++ run 1 1 ++ run 0 4 ++ run 1 4

def activeIds (config : Config (controlPlane singleSettings)) : List SessionId :=
  (List.range config.state.nextSessionId).filter fun id =>
    (State.stored config.state id).any fun session => ¬session.Terminated

theorem active_of_mem_activeIds {config : Config (controlPlane singleSettings)} {id : SessionId}
    (member : id ∈ activeIds config) : config.state.Active id := by
  obtain ⟨-, found⟩ := List.mem_filter.mp member
  cases stored : State.stored config.state id with
  | none => simp [stored] at found
  | some session => exact ⟨session, stored, by simpa [stored] using found⟩

theorem consecutive_calls_leave_one_active_session :
    ∃ config : Config (controlPlane singleSettings),
      Run Undisturbed ⟨State.initial, []⟩ config ∧ config.Quiescent ∧ activeIds config = [1] ∧
        ∀ id other, config.state.Active id → config.state.Active other → id = other := by
  obtain ⟨config, run, tested⟩ := @Run.exists_of_schedule (controlPlane singleSettings)
    (fun config action => undisturbed config action = true) undisturbed
    (fun _ _ passes => passes) ⟨State.initial, []⟩ consecutiveCalls
    (fun config => decide config.Quiescent && activeIds config == [1]) (by decide +kernel)
  obtain ⟨quiescent, active⟩ := Bool.and_eq_true_iff.mp tested
  have allowed : Run Undisturbed ⟨State.initial, []⟩ config :=
    (run.assuming fun _ reached => idsDrawn_of_run reached).mono fun _ _ both =>
      undisturbed_of_check both.2 both.1
  have quiescent := of_decide_eq_true quiescent
  exact ⟨config, allowed, quiescent, eq_of_beq active,
    one_active_session_when_quiescent singleSettings rfl config allowed quiescent⟩

theorem overlapping_calls_leave_two_active_sessions :
    ¬∀ config : Config (controlPlane singleSettings),
      Run CallsOnly ⟨State.initial, []⟩ config → config.Quiescent →
        ∀ id other, config.state.Active id → config.state.Active other → id = other := by
  intro claimed
  obtain ⟨config, run, tested⟩ := @Run.exists_of_schedule (controlPlane singleSettings)
    CallsOnly (fun config action => CallsOnly config action)
    (fun _ _ passes => of_decide_eq_true passes) ⟨State.initial, []⟩ overlappingCalls
    (fun config => decide config.Quiescent && activeIds config == [0, 1]) (by decide +kernel)
  obtain ⟨quiescent, active⟩ := Bool.and_eq_true_iff.mp tested
  have active := eq_of_beq active
  have same := claimed config run (of_decide_eq_true quiescent) 0 1
    (active_of_mem_activeIds (by simp [active])) (active_of_mem_activeIds (by simp [active]))
  exact absurd same (by decide)

end RemoteBrowser
