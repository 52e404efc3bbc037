import RemoteBrowser.ControlPlane.Oversight

/-!
# Worker generations fence registrations

`fallbackWarmPoolSession` raises the generation of a session and then stores a worker
token of the new generation, in two store writes.  A registration that presents the
stored token is accepted without a look at the generation, so between the two writes,
and after two fallbacks wrote their tokens out of order, a token of an older generation
is accepted.

In every run in which no handler raises the generation, and no worker registration reads
the session, between these two writes of another handler, a token is only ever accepted
by a session of its own generation.
-/

namespace RemoteBrowser

open Async Program

/-! ## Issued generations and written tokens -/

namespace Op

/-- The worker token that an operation writes into a session. -/
def writesToken (id : SessionId) : Op → Option Token
  | .session (.mutate other (.update patch)) => if other = id then patch.workerToken else none
  | _ => none

/-- The generation for which a handler has to write a token after the operation. -/
def issues (id : SessionId) : (op : Op) → op.Reply → Option Nat
  | .session (.mutate other .incrementGeneration), found =>
      if other = id then found.map Session.generation else none
  | .createSession _, created => if created.id = id then some created.generation else none
  | _, _ => none

end Op

/-- A handler writes a worker token exactly when it was just issued a generation, and
the token is of that generation. -/
def minting (id : SessionId) : Monitor controlPlane.face (Option Nat) where
  allows current op := match current with
    | none => op.writesToken id = none
    | some generation =>
        ∃ expiresAt, op.writesToken id = some (makeWorkerToken id expiresAt generation)
  next _ op reply := some (op.issues id reply)

/-- The operation neither issues a generation nor writes a token. -/
def Op.Tokenless (id : SessionId) (op : Op) : Prop :=
  op.writesToken id = none ∧ ∀ reply, op.issues id reply = none

section Minting

variable {id : SessionId} {α : Type}

theorem follows_minting_of_issues {handler : Handler α}
    (issues : handler.Issues (Op.Tokenless id)) :
    handler.Follows (minting id) (fun _ after => after = none) none :=
  issues.follows_unchanged none fun op tokenless => ⟨tokenless.1, fun reply after moved => by
    cases moved
    exact tokenless.2 reply⟩

theorem Op.Signaling.tokenless {op : Op} (signaling : op.Signaling) : op.Tokenless id := by
  cases op with
  | session op => cases op <;> first | exact ⟨rfl, fun _ => rfl⟩ | exact signaling.elim
  | sync op => exact ⟨rfl, fun _ => rfl⟩
  | pause => exact ⟨rfl, fun _ => rfl⟩
  | _ => exact signaling.elim

theorem Op.Pooling.tokenless {op : Op} (pooling : op.Pooling) : op.Tokenless id := by
  cases op with
  | pool op => exact ⟨rfl, fun _ => rfl⟩
  | sync op => exact ⟨rfl, fun _ => rfl⟩
  | pause => exact ⟨rfl, fun _ => rfl⟩
  | _ => exact pooling.elim

theorem Op.Terminating.tokenless {session : Session} {op : Op}
    (terminating : op.Terminating session) : op.Tokenless id := by
  rcases terminating with signaling | rfl | rfl | rfl | rfl
  · exact signaling.tokenless
  all_goals exact ⟨rfl, fun _ => rfl⟩

variable (settings : Settings) (instanceId : Nat)

theorem sendSignal_mints (other : SessionId) (role : Role) (payload : Signal) :
    (sendSignal instanceId other role payload).Follows (minting id)
      (fun _ after => after = none) none :=
  follows_minting_of_issues ((sendSignal_issues instanceId other role payload).mono
    fun _ signaling => signaling.tokenless)

theorem launchWorker_mints (session : Session) :
    (launchWorker session).Follows (minting id) (fun _ after => after = none) none := by
  refine follows_minting_of_issues ⟨⟨rfl, fun _ => rfl⟩, fun result => ?_⟩
  cases result with
  | error message => trivial
  | ok worker => exact ⟨⟨rfl, fun _ => rfl⟩, fun _ => trivial⟩

theorem terminateSessionById_mints (other : SessionId) (reason : String) :
    (terminateSessionById settings instanceId other reason).Follows (minting id)
      (fun _ after => after = none) none := by
  refine follows_minting_of_issues ⟨⟨rfl, fun _ => rfl⟩, fun found => ?_⟩
  cases found with
  | none => trivial
  | some session =>
      exact (terminateSession_issues settings instanceId session reason).mono
        fun _ terminating => terminating.tokenless

/-- The token of the new generation is written right after the generation is raised. -/
theorem replaceWarmWorker_mints (other : SessionId) :
    (replaceWarmWorker settings instanceId other).Follows (minting id)
      (fun _ after => after = none) none := by
  refine follows_bind.mpr (follows_store.mpr ⟨rfl, fun found issued moved => ?_⟩)
  cases moved
  cases found with
  | none =>
      simp only [Op.issues, Option.map_none, ite_self]
      rfl
  | some nextGeneration =>
      refine follows_bind.mpr (follows_store.mpr ⟨?_, fun replacement after moved => ?_⟩)
      · by_cases same : other = id
        · subst same
          simp only [minting, Op.issues, if_true, Option.map_some, Op.writesToken,
            Session.generationOrOne_eq]
          exact ⟨_, rfl⟩
        · simp only [minting, Op.issues, if_neg same, Op.writesToken]
      · cases moved
        cases replacement with
        | none => rfl
        | some replacement =>
            have stays : (mutate other (.setState "allocating")).Issues (Op.Tokenless id) :=
              ⟨⟨rfl, fun _ => rfl⟩, fun _ => trivial⟩
            refine (follows_minting_of_issues stays).bind fun _ _ unissued => ?_
            subst unissued
            refine (sendSignal_mints ..).bind fun _ _ unissued => ?_
            subst unissued
            refine (launchWorker_mints replacement).bind fun result _ unissued => ?_
            subst unissued
            cases result with
            | ok _ => rfl
            | error _ => exact terminateSessionById_mints ..

theorem fallbackWarmPoolSession_mints (other : SessionId) (workerId : PoolWorkerId) :
    (fallbackWarmPoolSession settings instanceId other workerId).Follows (minting id)
      (fun _ after => after = none) none := by
  refine follows_bind.mpr (follows_store.mpr ⟨rfl, fun found after moved => ?_⟩)
  cases moved
  cases found with
  | none => rfl
  | some session =>
      dsimp only
      split
      · rfl
      split
      · rfl
      split
      · rfl
      refine follows_bind.mpr (follows_sync.mpr ⟨rfl, fun socket after moved => ?_⟩)
      cases moved
      cases socket with
      | some _ => rfl
      | none => exact replaceWarmWorker_mints ..

theorem assignSessionWorker_mints (session : Session) :
    (assignSessionWorker settings instanceId session).Follows (minting id)
      (fun _ after => after = none) none := by
  refine Follows.bind (follows_minting_of_issues ((pooledWorker_issues settings instanceId
    session).mono fun _ pooling => pooling.tokenless)) fun record _ unissued => ?_
  subst unissued
  cases record with
  | none => exact launchWorker_mints session
  | some record =>
      refine follows_minting_of_issues ⟨⟨rfl, fun _ => rfl⟩, fun _ => ?_⟩
      exact ⟨⟨rfl, fun _ => rfl⟩, fun _ => trivial⟩

/-- The first token is written right after the session is created. -/
theorem createRemoteSession_mints (body : SessionBody) :
    (createRemoteSession settings instanceId body).Follows (minting id)
      (fun _ after => after = none) none := by
  have others : (onlyIf (settings.singleActiveSessionMode = true)
      (terminateOtherSessions settings instanceId)).Follows (minting id)
      (fun _ after => after = none) none := by
    refine follows_onlyIf (fun _ => follows_minting_of_issues ?_) fun _ => rfl
    refine ⟨⟨rfl, fun _ => rfl⟩, fun sessions => Issues.forEach fun session _ => ?_⟩
    exact (terminateSession_issues settings instanceId session _).mono
      fun _ terminating => terminating.tokenless
  refine others.bind fun _ _ unissued => ?_
  subst unissued
  refine follows_bind.mpr (follows_await.mpr ⟨rfl, fun created issued moved => ?_⟩)
  cases moved
  refine follows_bind.mpr (follows_mutate.mpr ⟨?_, fun _ after moved => ?_⟩)
  · by_cases same : created.id = id
    · subst same
      simp only [minting, Op.issues, if_true, Op.writesToken, Session.tokenPatch,
        Session.generationOrOne_eq]
      exact ⟨_, rfl⟩
    · simp only [minting, Op.issues, if_neg same, Op.writesToken]
  · cases moved
    split
    · rfl
    · refine (assignSessionWorker_mints ..).bind fun result _ unissued => ?_
      subst unissued
      cases result with
      | ok _ => rfl
      | error message =>
          exact follows_minting_of_issues ⟨⟨rfl, fun _ => rfl⟩, fun _ => trivial⟩

theorem acceptRegistration_mints (connection : Connection) (role : Role)
    (other : SessionId) (session : Session) :
    (acceptRegistration connection role other session).Issues (Op.Tokenless id) := by
  have records : (recordRegistration role other).Issues (Op.Tokenless id) := by
    cases role <;> exact ⟨⟨rfl, fun _ => rfl⟩, fun _ => trivial⟩
  refine ⟨⟨rfl, fun _ => rfl⟩, fun _ => ⟨⟨rfl, fun _ => rfl⟩, fun _ =>
    ⟨⟨rfl, fun _ => rfl⟩, fun _ => records.bind fun _ => ?_⟩⟩⟩
  refine ⟨⟨rfl, fun _ => rfl⟩, fun _ => ?_⟩
  exact (flushSignals_issues ..).mono fun _ signaling => signaling.tokenless

theorem handleRegister_mints (connection : Connection) (role : Role) (other : SessionId)
    (token : Token) :
    (handleRegister connection role other token).Issues (Op.Tokenless id) := by
  have fails (message : String) : (failWith connection message).Issues (Op.Tokenless id) :=
    ⟨⟨rfl, fun _ => rfl⟩, fun _ => trivial⟩
  unfold handleRegister
  refine Issues.bind ⟨⟨rfl, fun _ => rfl⟩, fun _ => trivial⟩ fun request => ?_
  cases request with
  | none => trivial
  | some request =>
      dsimp only
      split
      · exact fails _
      · refine Issues.bind ⟨⟨rfl, fun _ => rfl⟩, fun _ => trivial⟩ fun stored => ?_
        refine Issues.bind ⟨⟨rfl, fun _ => rfl⟩, fun _ => trivial⟩ fun now => ?_
        split
        · exact fails _
        · exact acceptRegistration_mints ..

end Minting

/-- Fallbacks and registrations, with what sets them up: sockets, creations, time. -/
def Job.registersOrReplaces : Job → Bool
  | .connect _ _ _ => true
  | .peerClosing _ => true
  | .elapse _ => true
  | .createSession _ _ => true
  | .fallbackWarmPoolSession _ _ _ => true
  | .message _ (.register _ _ _) => true
  | _ => false

def Job.unissued (job : Job) : Option (Option Nat) :=
  if job.registersOrReplaces then some none else none

theorem Job.body_mints (settings : Settings) (id : SessionId) (job : Job)
    (current : Option Nat) (known : job.unissued = some current) :
    (job.body settings).Follows (minting id) (fun _ after => after = none) current := by
  have unissued : current = none := by
    unfold Job.unissued at known
    split at known
    · exact (Option.some.inj known).symm
    · simp at known
  subst unissued
  cases job with
  | connect connection path cookies =>
      exact follows_minting_of_issues ⟨⟨rfl, fun _ => rfl⟩, fun _ => trivial⟩
  | peerClosing connection =>
      exact follows_minting_of_issues ⟨⟨rfl, fun _ => rfl⟩, fun _ => trivial⟩
  | elapse ms => exact follows_minting_of_issues ⟨⟨rfl, fun _ => rfl⟩, fun _ => trivial⟩
  | createSession instanceId body =>
      exact (createRemoteSession_mints settings instanceId body).bind fun _ _ done => done
  | fallbackWarmPoolSession instanceId other workerId =>
      exact fallbackWarmPoolSession_mints settings instanceId other workerId
  | message connection received =>
      cases received with
      | register role other token =>
          exact follows_minting_of_issues (handleRegister_mints connection role other token)
      | _ => simp [Job.unissued, Job.registersOrReplaces] at known
  | _ => simp [Job.unissued, Job.registersOrReplaces] at known

/-! ## Accepted registrations -/

/-- The session that a handler has read last. -/
def Op.lastRead (id : SessionId) :
    (op : Op) → op.Reply → Option Session → Option Session
  | .session (.get other), found, earlier => if other = id then found else earlier
  | _, _, earlier => earlier

/-- A socket is registered only for the session just read, with its generation, and
after the token was verified against it. -/
def vetting (id : SessionId) (token : Token) : Monitor controlPlane.face (Option Session) where
  allows
    | current, .sync (.registerSession _ binding) =>
        ∃ session, current = some session ∧ binding.generation = session.generation ∧
          ∃ now source, verifySessionToken now token session .worker = .ok source
    | _, _ => True
  next current op reply := some (op.lastRead id reply current)

/-- The operation registers no session socket. -/
def Op.Unregistering : Op → Prop
  | .sync (.registerSession _ _) => False
  | _ => True

section Vetting

variable {id : SessionId} {token : Token} {current : Option Session}

theorem follows_vetting_of_issues {α : Type} {handler : Handler α}
    (issues : handler.Issues Op.Unregistering) :
    handler.Follows (vetting id token) (fun _ _ => True) current := by
  refine issues.follows (fun op unrelated _ => ?_) current
  cases op with
  | sync op => cases op <;> trivial
  | _ => trivial

theorem Op.Signaling.unregistering {op : Op} (signaling : op.Signaling) :
    op.Unregistering := by
  cases op with
  | sync op => cases op <;> trivial
  | _ => trivial

theorem acceptRegistration_vets (connection : Connection) (session : Session)
    (verified : ∃ now source, verifySessionToken now token session .worker = .ok source) :
    (acceptRegistration connection .worker id session).Follows (vetting id token)
      (fun _ _ => True) (some session) := by
  refine ⟨⟨session, rfl, Session.generationOrOne_eq session, verified⟩, fun _ after _ => ?_⟩
  refine follows_vetting_of_issues ⟨trivial, fun _ => ⟨trivial, fun _ => ⟨trivial, fun _ =>
    ⟨trivial, fun _ => ?_⟩⟩⟩⟩
  exact (flushSignals_issues ..).mono fun _ signaling => signaling.unregistering

theorem handleRegister_vets (connection : Connection) :
    (handleRegister connection .worker id token).Follows (vetting id token)
      (fun _ _ => True) current := by
  have fails (message : String) (read : Option Session) :
      (failWith connection message).Follows (vetting id token) (fun _ _ => True) read :=
    follows_vetting_of_issues ⟨trivial, fun _ => trivial⟩
  unfold handleRegister
  refine follows_bind.mpr (follows_sync.mpr ⟨trivial, fun request after _ => ?_⟩)
  cases request with
  | none => trivial
  | some request =>
      dsimp only
      split
      · exact fails _ _
      · refine follows_bind.mpr (follows_store.mpr ⟨trivial, fun found read moved => ?_⟩)
        simp only [vetting, Op.lastRead, if_true, Option.some.injEq] at moved
        subst moved
        refine follows_bind.mpr (follows_sync.mpr ⟨trivial, fun now same moved => ?_⟩)
        cases moved
        split
        · exact fails _ _
        · next session accepted =>
            obtain ⟨rfl, -, -, source, verified⟩ := validateRegistration_eq_ok accepted
            exact acceptRegistration_vets connection session ⟨now, source, verified⟩

end Vetting

/-! ## The condition -/

section Runs

variable {settings : Settings} {id : SessionId}

/-- The token with which a job asks to register a worker of the session. -/
def Job.workerToken (id : SessionId) : Job → Option Token
  | .message _ (.register .worker other token) => if other = id then some token else none
  | _ => none

/-- The generation that a handler was just issued: it still has to write the token. -/
def issued (id : SessionId) (thread : Thread (controlPlane settings)) : Option Nat :=
  match thread.past with
  | [] => none
  | ⟨op, reply⟩ :: _ => Op.issues id op reply

/-- Only fallbacks and registrations run, and what sets them up. -/
def FenceHandlersOnly (_ : Config (controlPlane settings)) :
    Action (controlPlane settings) → Prop
  | .start job => job.registersOrReplaces = true
  | .resume _ _ => True

/-- The generation is raised, and a worker registration reads the session, only while
every other handler that was issued a generation has written its token. -/
def WritesTokensInTurn (id : SessionId) (config : Config (controlPlane settings))
    (action : Action (controlPlane settings)) : Prop :=
  FenceHandlersOnly config action ∧
    ∀ index outcome thread op, action = .resume index outcome →
      config.threads[index]? = some thread → config.awaits index = some op →
      op = .session (.mutate id .incrementGeneration) ∨
        op = .session (.get id) ∧ Job.workerToken id thread.job ≠ none →
      config.Others index fun other => issued id other = none

/-- A minted worker token of the session is of its generation. -/
def Session.TokenCurrent (session : Session) : Prop :=
  ∀ other expiresAt generation,
    session.workerToken = makeWorkerToken other expiresAt generation →
      generation = session.generation

/-- A state in which the worker token of the session is of its generation. -/
structure State.Minted (id : SessionId) (state : State) : Prop where
  idsDrawn : state.IdsDrawn
  current : ∀ session, state.stored id = some session → session.TokenCurrent

/-! ## Steps -/

/-- What an issued generation means for the state. -/
def State.AtGeneration (id : SessionId) (generation : Nat) (state : State) : Prop :=
  id < state.nextSessionId ∧
    ∀ session, state.stored id = some session → session.generation = generation

/-- After a generation was issued it is the stored one. -/
theorem atGeneration_of_issues {state : State} {outcome : LaunchOutcome} {op : Op}
    {generation : Nat} (drawn : state.IdsDrawn)
    (issues : op.issues id (State.exec settings outcome op state).2 = some generation) :
    (State.exec settings outcome op state).1.AtGeneration id generation := by
  cases op with
  | createSession input =>
      simp only [Op.issues] at issues
      split at issues
      · next same =>
          cases issues
          have fresh : id = state.nextSessionId := same.symm
          subst fresh
          refine ⟨Nat.lt_succ_self _, fun session stored => ?_⟩
          exact congrArg Session.generation
            (RedisSessionStore.eq_of_loadSession_saveSession stored).1
      · simp at issues
  | session op =>
      cases op with
      | mutate other mutation =>
          cases mutation with
          | incrementGeneration =>
              simp only [Op.issues] at issues
              split at issues
              · next same =>
                  subst same
                  obtain ⟨raised, replied, rfl⟩ := Option.map_eq_some_iff.mp issues
                  simp only [State.exec, RedisSessionStore.exec,
                    RedisSessionStore.runSessionMutation] at replied
                  unfold State.AtGeneration
                  simp only [State.exec, RedisSessionStore.exec,
                    RedisSessionStore.runSessionMutation]
                  cases loaded : state.store.loadSession state.clock other with
                  | none => simp [loaded] at replied
                  | some session =>
                      simp only [loaded, Option.some.injEq] at replied
                      refine ⟨(drawn other session loaded).2, fun found stored => ?_⟩
                      rw [← replied]
                      exact congrArg Session.generation
                        (RedisSessionStore.eq_of_loadSession_saveSession stored).1
              · simp at issues
          | _ => simp [Op.issues] at issues
      | _ => simp [Op.issues] at issues
  | _ => simp [Op.issues] at issues

/-- Only `incrementGeneration` changes the generation of an existing session. -/
theorem State.AtGeneration.exec {state : State} {outcome : LaunchOutcome} {op : Op}
    {generation : Nat} (at' : state.AtGeneration id generation)
    (unraised : op ≠ .session (.mutate id .incrementGeneration)) :
    (State.exec settings outcome op state).1.AtGeneration id generation := by
  refine ⟨at'.1.trans_le (State.nextSessionId_exec op), fun found stored => ?_⟩
  rcases (State.stored_exec stored).generation_cases with
    ⟨session, before, same⟩ | ⟨session, raises, -⟩ | fresh
  · exact same.trans (at'.2 session before)
  · exact absurd raises unraised
  · exact absurd at'.1 (by rw [fresh]; exact lt_irrefl _)

/-- What the monitor knows is what the latest await issued. -/
theorem minting_after {thread : Thread (controlPlane settings)}
    (fenced : Job.registersOrReplaces thread.job = true) :
    (minting id).after (Job.unissued thread.job) thread.past = some (issued id thread) := by
  obtain ⟨job, past, program⟩ := thread
  induction past with
  | nil => exact if_pos fenced
  | cons event past ih =>
      rw [Monitor.after_cons, ih fenced]
      rfl

/-- The handler is one of those considered, and its issued generation is the stored
one. -/
def InTurn (id : SessionId) (state : State) (thread : Thread (controlPlane settings)) :
    Prop :=
  Job.registersOrReplaces thread.job = true ∧
    ∀ generation, issued id thread = some generation → state.AtGeneration id generation

theorem inTurn_inductive :
    Inductive (WritesTokensInTurn id : Config (controlPlane settings) → Action _ → Prop)
      State.IdsDrawn (InTurn id) := by
  refine ⟨fun config job _ permitted _ => ⟨permitted.1, fun _ issues => by
    simp [issued] at issues⟩, ?_⟩
  intro config index outcome thread op next holds permitted found suspended
  refine ⟨holds.state.exec op, ⟨(holds.threads thread (List.mem_of_getElem? found)).1,
    fun generation issues => atGeneration_of_issues holds.state issues⟩, ?_⟩
  intro other thread' found' different
  obtain ⟨fenced, current⟩ := holds.threads thread' (List.mem_of_getElem? found')
  refine ⟨fenced, fun generation issues => (current generation issues).exec ?_⟩
  rintro rfl
  have calm := permitted.2 index outcome thread _ rfl found
    (Config.awaits_eq_some found suspended) (.inl rfl) other thread' found' different
  rw [calm] at issues
  cases issues

/-! ## The stored token -/

/-- A written token is the stored one. -/
theorem stored_of_writesToken {state : State} {outcome : LaunchOutcome} {op : Op}
    {token : Token} {found : Session} (writes : op.writesToken id = some token)
    (stored : (State.exec settings outcome op state).1.stored id = some found) :
    found.workerToken = token ∧
      ∃ session, state.stored id = some session ∧ found.generation = session.generation := by
  unfold Op.writesToken at writes
  split at writes
  · next other patch =>
      split at writes
      · next same =>
          subst same
          simp only [State.exec, RedisSessionStore.exec,
            RedisSessionStore.runSessionMutation, State.stored] at stored
          cases loaded : state.store.loadSession state.clock other with
          | none =>
              rw [loaded] at stored
              exact absurd (loaded.symm.trans stored) (by simp)
          | some session =>
              rw [loaded] at stored
              obtain ⟨rfl, -⟩ := RedisSessionStore.eq_of_loadSession_saveSession stored
              refine ⟨?_, session, loaded, rfl⟩
              change patch.workerToken.getD session.workerToken = token
              rw [writes]
              rfl
      · simp at writes
  · simp at writes

/-- An operation that neither issues a generation nor writes a token keeps both. -/
theorem stored_of_tokenless {state : State} {outcome : LaunchOutcome} {op : Op}
    {found : Session} (unwritten : op.writesToken id = none)
    (unissued : op.issues id (State.exec settings outcome op state).2 = none)
    (stored : (State.exec settings outcome op state).1.stored id = some found) :
    ∃ session, state.stored id = some session ∧
      found.workerToken = session.workerToken ∧ found.generation = session.generation := by
  cases State.stored_exec stored with
  | kept same => exact ⟨found, same, rfl, rfl⟩
  | @mutated mutation session before result =>
      subst result
      cases mutation with
      | incrementGeneration =>
          have loaded : state.store.loadSession state.clock id = some session := before
          simp [Op.issues, State.exec, RedisSessionStore.exec,
            RedisSessionStore.runSessionMutation, loaded] at unissued
      | update patch =>
          simp only [Op.writesToken, if_true] at unwritten
          refine ⟨session, before, ?_, rfl⟩
          change patch.workerToken.getD session.workerToken = session.workerToken
          rw [unwritten]
          rfl
      | claimSocketOwnership role owner =>
          exact ⟨session, before, by cases role <;> rfl, by cases role <;> rfl⟩
      | _ => exact ⟨session, before, rfl, rfl⟩
  | @released role owner session before result =>
      subst result
      exact ⟨session, before, by cases role <;> rfl, by cases role <;> rfl⟩
  | created ttlMs fresh =>
      subst fresh
      simp [Op.issues, State.exec, RedisSessionStore.createSession, buildSession] at unissued

/-- The stored token is of the stored generation, or a handler is about to write it. -/
def TokenSettled (id : SessionId) (config : Config (controlPlane settings)) : Prop :=
  (∃ thread ∈ config.threads, issued id thread ≠ none) ∨
    ∀ session, config.state.stored id = some session → session.TokenCurrent

theorem TokenSettled.step {before after : Config (controlPlane settings)}
    {action : Action (controlPlane settings)} (settled : TokenSettled id before)
    (holds : before.Satisfies State.IdsDrawn (InTurn id))
    (mints : ∀ thread ∈ before.threads, thread.Obeys (minting id) Job.unissued (· = none))
    (stepped : before.step action = some after) : TokenSettled id after := by
  obtain ⟨job, rfl, -, rfl⟩ | ⟨index, outcome, thread, op, next, rfl, found, suspended, rfl⟩ :=
    Config.step_cases stepped
  · refine settled.imp_left fun ⟨issuer, member, issues⟩ => ?_
    exact ⟨issuer, List.mem_append_left _ member, issues⟩
  have member := List.mem_of_getElem? found
  obtain ⟨fenced, inTurn⟩ := holds.threads thread member
  have allowed := (mints thread member).allows (minting_after fenced) suspended
  cases isIssued : issued id thread with
  | some generation =>
      -- the awaited operation is the write of the token
      rw [isIssued] at allowed
      obtain ⟨expiresAt, writes⟩ := allowed
      refine .inr fun session stored => ?_
      obtain ⟨written, old, storedOld, sameGeneration⟩ := stored_of_writesToken writes stored
      intro other expires minted isToken
      have same : makeWorkerToken id expiresAt generation = makeWorkerToken other expires minted :=
        written.symm.trans isToken
      simp only [makeWorkerToken, Token.sign, Token.signed.injEq, TokenPayload.mk.injEq,
        Option.some.injEq] at same
      rw [sameGeneration, (inTurn generation isIssued).2 old storedOld, ← same.1.2.2.1]
  | none =>
      rw [isIssued] at allowed
      cases issues : op.issues id (State.exec settings outcome op before.state).2 with
      | some generation =>
          refine .inl ⟨_, List.mem_set (List.getElem?_eq_some_iff.mp found).1 _, ?_⟩
          intro unissued
          exact absurd (issues.symm.trans unissued) (by simp)
      | none =>
          rcases settled with issuing | current
          · rcases Config.exists_mem_set _ found issuing with own | elsewhere
            · exact absurd isIssued own
            · exact .inl elsewhere
          · refine .inr fun session stored other expires minted isToken => ?_
            obtain ⟨old, storedOld, sameToken, sameGeneration⟩ :=
              stored_of_tokenless allowed issues stored
            rw [sameGeneration]
            exact current old storedOld other expires minted (sameToken.symm.trans isToken)

/-! ## Registrations -/

/-- The copy of the session that a handler has read last. -/
def readBy (id : SessionId) : List (Event controlPlane.face) → Option Session
  | [] => none
  | ⟨op, reply⟩ :: past => Op.lastRead id op reply (readBy id past)

/-- The handler was answered that the session is as given. -/
def HasRead (id : SessionId) (found : Option Session)
    (thread : Thread (controlPlane settings)) : Prop :=
  (⟨.session (.get id), found⟩ : Event controlPlane.face) ∈ thread.past

/-- The handler registered its socket. -/
def Accepted (thread : Thread (controlPlane settings)) : Prop :=
  ∃ connection binding, (⟨.sync (.registerSession connection binding), ()⟩ :
    Event controlPlane.face) ∈ thread.past

theorem mem_of_readBy {past : List (Event controlPlane.face)} {session : Session}
    (read : readBy id past = some session) :
    (⟨.session (.get id), some session⟩ : Event controlPlane.face) ∈ past := by
  induction past with
  | nil => simp [readBy] at read
  | cons event past ih =>
      obtain ⟨op, reply⟩ := event
      simp only [readBy] at read
      unfold Op.lastRead at read
      split at read
      · split at read
        · next same =>
            subst same
            subst read
            exact List.mem_cons_self ..
        · exact List.mem_cons_of_mem _ (ih read)
      · exact List.mem_cons_of_mem _ (ih read)

/-- The handlers that register a worker with the given token. -/
def Job.vetted (id : SessionId) (token : Token) (job : Job) : Option (Option Session) :=
  if job.workerToken id = some token then some none else none

theorem Job.body_vets (settings : Settings) (id : SessionId) (token : Token) (job : Job)
    (current : Option Session) (known : job.vetted id token = some current) :
    (job.body settings).Follows (vetting id token) (fun _ _ => True) current := by
  unfold Job.vetted at known
  split at known
  · next registers =>
      unfold Job.workerToken at registers
      split at registers
      · split at registers
        · next same =>
            subst same
            cases registers
            exact handleRegister_vets _
        · simp at registers
      · simp at registers
  · simp at known

theorem vetting_after {token : Token} {thread : Thread (controlPlane settings)}
    (registers : Job.workerToken id thread.job = some token) :
    (vetting id token).after (Job.vetted id token thread.job) thread.past =
      some (readBy id thread.past) := by
  obtain ⟨job, past, program⟩ := thread
  induction past with
  | nil => exact if_pos registers
  | cons event past ih =>
      rw [Monitor.after_cons, ih registers]
      rfl

/-- The handler's token was verified against a session that it had read and that was
of the given generation. -/
def VerifiedAgainst (id : SessionId) (generation : Nat)
    (thread : Thread (controlPlane settings)) : Prop :=
  ∃ session token now source, HasRead id (some session) thread ∧
    Job.workerToken id thread.job = some token ∧
    verifySessionToken now token session .worker = .ok source ∧
    session.generation = generation

/-- A worker registration with a token of the given generation. -/
def RegistersWith (id : SessionId) (generation : Nat)
    (thread : Thread (controlPlane settings)) : Prop :=
  ∃ other expiresAt,
    Job.workerToken id thread.job = some (makeWorkerToken other expiresAt generation)

/-- A registration has read the session with a current token only, and was accepted
only by its own generation. -/
structure Fenced (id : SessionId) (thread : Thread (controlPlane settings)) : Prop where
  read : Job.workerToken id thread.job ≠ none →
    ∀ session, readBy id thread.past = some session → session.TokenCurrent
  accepted : ∀ generation, RegistersWith id generation thread → Accepted thread →
    VerifiedAgainst id generation thread

/-- All handlers obey both monitors, and the stored token is settled. -/
structure FencingFacts (id : SessionId) (config : Config (controlPlane settings)) : Prop where
  inTurn : config.Satisfies State.IdsDrawn (InTurn id)
  settled : TokenSettled id config
  mints : ∀ thread ∈ config.threads, thread.Obeys (minting id) Job.unissued (· = none)
  vets : ∀ token, ∀ thread ∈ config.threads,
    thread.Obeys (vetting id token) (Job.vetted id token) fun _ => True

theorem fencingFacts_of_run {state : State} {final : Config (controlPlane settings)}
    (minted : state.Minted id) (run : Run (WritesTokensInTurn id) ⟨state, []⟩ final) :
    FencingFacts id final := by
  have inTurn {config : Config (controlPlane settings)}
      (reached : Run (WritesTokensInTurn id) ⟨state, []⟩ config) :
      config.Satisfies State.IdsDrawn (InTurn id) :=
    inTurn_inductive.run reached ⟨minted.idsDrawn, by simp⟩
  have mints {config : Config (controlPlane settings)}
      (reached : Run (WritesTokensInTurn id) ⟨state, []⟩ config) :
      ∀ thread ∈ config.threads, thread.Obeys (minting id) Job.unissued (· = none) :=
    reached.obeys (Job.body_mints settings id) (by simp)
  refine ⟨inTurn run, ?_, mints run, fun token =>
    run.obeys (Job.body_vets settings id token) (by simp)⟩
  induction run with
  | refl => exact .inr minted.current
  | tail reached permitted stepped ih => exact ih.step (inTurn reached) (mints reached) stepped

/-- What a worker registration reads is stored with a current token. -/
theorem tokenCurrent_of_read {config : Config (controlPlane settings)} {index : Nat}
    {outcome : LaunchOutcome} {thread : Thread (controlPlane settings)}
    {next : Option Session → Handler Unit} (facts : FencingFacts id config)
    (permitted : WritesTokensInTurn id config (.resume index outcome))
    (found : config.threads[index]? = some thread)
    (suspended : thread.program = .request (.session (.get id)) next)
    (registers : Job.workerToken id thread.job ≠ none) :
    ∀ session, config.state.stored id = some session → session.TokenCurrent := by
  have calm := permitted.2 index outcome thread _ rfl found
    (Config.awaits_eq_some found suspended) (.inr ⟨rfl, registers⟩)
  rcases facts.settled with ⟨issuer, member, issues⟩ | current
  · obtain ⟨position, held⟩ := List.mem_iff_getElem?.mp member
    by_cases same : position = index
    · -- the reader itself would have to write a token first
      subst same
      cases found.symm.trans held
      obtain ⟨generation, isIssued⟩ := Option.ne_none_iff_exists'.mp issues
      have fenced := (facts.inTurn.threads _ member).1
      have allowed := (facts.mints _ member).allows (minting_after fenced) suspended
      rw [isIssued] at allowed
      obtain ⟨_, writes⟩ := allowed
      simp [Op.writesToken] at writes
    · exact absurd (calm position issuer held same) issues
  · exact current

/-- A token of some generation that a session with a current token accepts is of the
session's generation. -/
theorem generation_eq_of_verified {now other expiresAt generation : Nat} {session : Session}
    {source : TokenSource} (current : session.TokenCurrent)
    (verified : verifySessionToken now (makeWorkerToken other expiresAt generation) session
      .worker = .ok source) : session.generation = generation := by
  rcases verifySessionToken_worker_ok rfl verified with isStored | same
  · exact (current other expiresAt generation isStored).symm
  · exact same

theorem Fenced.advance {config : Config (controlPlane settings)} {index : Nat}
    {outcome : LaunchOutcome} {thread : Thread (controlPlane settings)} {op : Op}
    {next : op.Reply → Handler Unit} (fenced : Fenced id thread)
    (facts : FencingFacts id config)
    (permitted : WritesTokensInTurn id config (.resume index outcome))
    (found : config.threads[index]? = some thread)
    (suspended : thread.program = .request op next) :
    Fenced id (thread.advance op (State.exec settings outcome op config.state).2
      (next (State.exec settings outcome op config.state).2)) := by
  refine ⟨fun registers session read => ?_, ?_⟩
  · change Op.lastRead id op _ (readBy id thread.past) = some session at read
    by_cases reads : op = .session (.get id)
    · subst reads
      simp only [Op.lastRead, if_true] at read
      exact tokenCurrent_of_read facts permitted found suspended registers session read
    · refine fenced.read registers session ?_
      unfold Op.lastRead at read
      split at read
      · next other _ _ => rwa [if_neg fun same => reads (by rw [same])] at read
      · exact read
  · rintro generation ⟨other, expiresAt, registers⟩ ⟨connection, binding, accepted⟩
    rw [Thread.advance_job] at registers
    rcases List.mem_cons.mp accepted with now | earlier
    · cases now
      have allowed := (facts.vets _ thread (List.mem_of_getElem? found)).allows
        (vetting_after registers) suspended
      obtain ⟨session, read, -, time, source, verified⟩ := allowed
      have current := fenced.read (by simp [registers]) session read
      exact ⟨session, _, time, source, List.mem_cons_of_mem _ (mem_of_readBy read), registers,
        verified, generation_eq_of_verified current verified⟩
    · obtain ⟨session, token, time, source, read, rest⟩ := fenced.accepted generation
        ⟨other, expiresAt, registers⟩ ⟨connection, binding, earlier⟩
      exact ⟨session, token, time, source, List.mem_cons_of_mem _ read, rest⟩

/-- In a run that writes tokens in turn every registration is fenced. -/
theorem fenced_of_run {state : State} {final : Config (controlPlane settings)}
    (minted : state.Minted id) (run : Run (WritesTokensInTurn id) ⟨state, []⟩ final) :
    ∀ thread ∈ final.threads, Fenced id thread := by
  have checked := run.assuming fun config reached => fencingFacts_of_run minted reached
  refine checked.each ?starts ?resumes (by simp)
  case starts =>
    intro config job _
    refine ⟨fun _ session read => by simp [readBy] at read, ?_⟩
    rintro generation - ⟨connection, binding, accepted⟩
    simp at accepted
  case resumes =>
    intro config index outcome thread op next permitted found suspended fenced
    exact fenced.advance permitted.2 permitted.1 found suspended

/-! ## The fence -/

/-- The session has reached a generation. -/
def State.Reached (id : SessionId) (generation : Nat) (state : State) : Prop :=
  id < state.nextSessionId ∧
    ∀ session, state.stored id = some session → generation ≤ session.generation

/-- Generations are only ever raised. -/
theorem State.Reached.exec {state : State} {outcome : LaunchOutcome} {generation : Nat}
    (reached : state.Reached id generation) (op : Op) :
    (State.exec settings outcome op state).1.Reached id generation := by
  refine ⟨reached.1.trans_le (State.nextSessionId_exec op), fun found stored => ?_⟩
  rcases (State.stored_exec stored).generation_cases with
    ⟨session, before, same⟩ | ⟨session, -, before, raised⟩ | fresh
  · exact same ▸ reached.2 session before
  · exact raised ▸ (reached.2 session before).trans (Nat.le_succ _)
  · exact absurd reached.1 (by rw [fresh]; exact lt_irrefl _)

/-- Handlers that had not read the session when it reached a generation read it with
that generation or a later one. -/
theorem read_of_reached {allowed : Config (controlPlane settings) → Action _ → Prop}
    {middle final : Config (controlPlane settings)} {floor : Nat}
    (reached : middle.state.Reached id floor) (later : Run allowed middle final) :
    final.state.Reached id floor ∧
      ∀ (index : Nat) (thread : Thread (controlPlane settings)),
        final.threads[index]? = some thread →
        (∀ earlier, middle.threads[index]? = some earlier → ∀ found, ¬HasRead id found earlier) →
        ∀ session, HasRead id (some session) thread → floor ≤ session.generation := by
  induction later with
  | refl =>
      exact ⟨reached, fun index thread found unread session read =>
        absurd read (unread thread found _)⟩
  | @tail before after action earlier permitted stepped ih =>
      obtain ⟨reachedBefore, floorBefore⟩ := ih
      refine ⟨?_, fun index thread found unread session read => ?_⟩
      · obtain ⟨job, rfl, -, rfl⟩ | ⟨_, outcome, _, op, _, rfl, _, _, rfl⟩ :=
          Config.step_cases stepped
        · exact reachedBefore
        · exact reachedBefore.exec op
      · rcases Config.thread_of_step stepped found with old | ⟨job, rfl⟩ |
          ⟨outcome, old, op, next, located, suspended, rfl⟩
        · exact floorBefore index thread old unread session read
        · simp [HasRead] at read
        · rcases List.mem_cons.mp read with now | before
          · obtain ⟨rfl, same⟩ := Sigma.mk.inj_iff.mp now
            exact reachedBefore.2 session (eq_of_heq same).symm
          · exact floorBefore index old located unread session before

/-- In every run in which tokens are written in turn, an accepted worker token of some
generation was verified against a stored session of exactly that generation; and once
the session has a later generation, a registration that had not read it by then is not
accepted with the old token. -/
theorem worker_generation_fencing {state : State}
    {middle final : Config (controlPlane settings)} (minted : state.Minted id)
    (reached : Run (WritesTokensInTurn id) ⟨state, []⟩ middle)
    (later : Run (WritesTokensInTurn id) middle final) (generation : Nat) :
    (∀ thread ∈ final.threads, RegistersWith id generation thread → Accepted thread →
      VerifiedAgainst id generation thread) ∧
    (∀ session, middle.state.stored id = some session → generation < session.generation →
      ∀ (index : Nat) (thread : Thread (controlPlane settings)),
        final.threads[index]? = some thread →
        (∀ earlier, middle.threads[index]? = some earlier →
          ∀ found, ¬HasRead id found earlier) →
        RegistersWith id generation thread → ¬Accepted thread) := by
  have fenced := fenced_of_run minted (reached.trans later)
  refine ⟨fun thread member => (fenced thread member).accepted generation, ?_⟩
  intro session stored newer index thread found unread registers accepted
  have drawn := (fencingFacts_of_run minted reached).inTurn.state id session stored
  have atFloor : middle.state.Reached id session.generation := by
    refine ⟨drawn.2, fun other storedOther => ?_⟩
    cases stored.symm.trans storedOther
    exact le_rfl
  obtain ⟨verifiedSession, _, _, _, read, -, -, same⟩ :=
    (fenced thread (List.mem_of_getElem? found)).accepted generation registers accepted
  have floor := (read_of_reached atFloor later).2 index thread found unread verifiedSession read
  omega

end Runs

section FencingRuns

open controlPlane

/-- The stored session has its first token. -/
def hasFirstToken (state : State) : Bool :=
  (state.stored 0).all fun session =>
    session.workerToken = makeWorkerToken 0 1000 1 ∧ session.generation = 1

/-- A state after a run is minted when the stored session has its first token. -/
theorem minted_of_run {settings : Settings}
    {allowed : Config (controlPlane settings) → Action _ → Prop}
    {final : Config (controlPlane settings)} (run : Run allowed ⟨State.initial, []⟩ final)
    (first : hasFirstToken final.state = true) : final.state.Minted 0 := by
  refine ⟨idsDrawn_of_run run, fun session stored other expiresAt generation isToken => ?_⟩
  rw [hasFirstToken, stored] at first
  obtain ⟨token, isFirst⟩ := of_decide_eq_true first
  rw [token] at isToken
  simp only [makeWorkerToken, Token.sign, Token.signed.injEq, TokenPayload.mk.injEq,
    Option.some.injEq] at isToken
  rw [isFirst, ← isToken.1.2.2.1]

/-- Only the considered handlers are started, and none resumes while another one still
has to write a token. -/
def takingTurns {settings : Settings} (config : Config (controlPlane settings)) :
    Action (controlPlane settings) → Bool
  | .start job => Job.registersOrReplaces job
  | .resume index _ => config.othersPass index fun thread => (issued 0 thread).isNone

theorem writesTokensInTurn_of_takingTurns {settings : Settings}
    (config : Config (controlPlane settings)) (action : Action (controlPlane settings))
    (passes : takingTurns config action = true) : WritesTokensInTurn 0 config action := by
  cases action with
  | start job => exact ⟨passes, by simp⟩
  | resume index outcome =>
      refine ⟨trivial, ?_⟩
      rintro _ _ thread op ⟨⟩ found awaited - other thread' found' different
      simpa using Config.others_of_pass passes other thread' found' different

/-- Only the considered handlers are started. -/
def fenceHandlers {settings : Settings} (_ : Config (controlPlane settings)) :
    Action (controlPlane settings) → Bool
  | .start job => Job.registersOrReplaces job
  | .resume _ _ => true

theorem fenceHandlersOnly_of_fenceHandlers {settings : Settings}
    (config : Config (controlPlane settings)) (action : Action (controlPlane settings))
    (passes : fenceHandlers config action = true) : FenceHandlersOnly config action := by
  cases action with
  | start job => exact passes
  | resume index outcome => trivial

/-- Some event of the handler registers its socket. -/
def registersSocket {settings : Settings} (thread : Thread (controlPlane settings)) : Bool :=
  thread.past.any fun event => match event.1 with
    | .sync (.registerSession _ _) => true
    | _ => false

theorem accepted_of_registersSocket {settings : Settings}
    {thread : Thread (controlPlane settings)} (registers : registersSocket thread = true) :
    Accepted thread := by
  obtain ⟨⟨op, reply⟩, member, isRegistration⟩ := List.any_eq_true.mp registers
  dsimp only at isRegistration
  split at isRegistration
  · next connection binding => exact ⟨connection, binding, member⟩
  · simp at isRegistration

/-- The registration of a worker of session 0 with a token of a generation. -/
def registerWorker (generation : Nat) : Job :=
  .message ⟨0, 2⟩ (.register .worker 0 (makeWorkerToken 0 1000 generation))

theorem registersWith_registerWorker {settings : Settings}
    {thread : Thread (controlPlane settings)} {generation : Nat}
    (isJob : thread.job = registerWorker generation) : RegistersWith 0 generation thread :=
  ⟨0, 1000, by rw [isJob]; rfl⟩

/-- The old worker has been turned away and the replacement has registered. -/
def replacementRegistered (config : Config (controlPlane pooledSettings)) : Bool :=
  ((config.threads[2]?).any fun thread =>
    decide (thread.job = registerWorker 1) && decide thread.program.Finished) &&
  ((config.threads[3]?).any fun thread =>
    decide (thread.job = registerWorker 2) && registersSocket thread)

/-- The session is of generation 2, and both workers can now try to register. -/
def replaced (config : Config (controlPlane pooledSettings)) : Bool :=
  ((config.state.stored 0).any fun session => session.generation = 2) &&
  decide (config.threads.length = 1) &&
  (config.schedule takingTurns (.start (.connect ⟨0, 2⟩ .worker []) :: run 1 1 ++
    .start (registerWorker 1) :: run 2 4 ++
    .start (registerWorker 2) :: run 3 12)).any replacementRegistered

/-- After a fallback, the replacement's token of generation 2 is accepted by a session
of generation 2, and the first token is not accepted. -/
theorem replacement_is_accepted_and_old_worker_is_not :
    ∃ (state : State) (middle final : Config (controlPlane pooledSettings)),
      state.Minted 0 ∧ Run (WritesTokensInTurn 0) ⟨state, []⟩ middle ∧
      Run (WritesTokensInTurn 0) middle final ∧
      (∃ thread ∈ final.threads, RegistersWith 0 2 thread ∧ Accepted thread ∧
        VerifiedAgainst 0 2 thread) ∧
      (∃ thread ∈ final.threads, RegistersWith 0 1 thread ∧ thread.program.Finished ∧
        ¬Accepted thread) := by
  obtain ⟨setup, ready, holds⟩ := Run.exists_of_actions
    (⟨State.initial, []⟩ : Config (controlPlane pooledSettings)) assignPooledWorker
    (fun setup => hasFirstToken setup.state &&
      ((⟨setup.state, []⟩ : Config (controlPlane pooledSettings)).schedule takingTurns
        (.start (.fallbackWarmPoolSession 0 0 7) :: run 0 10)).any replaced) (by decide)
  obtain ⟨first, falls⟩ := Bool.and_eq_true_iff.mp holds
  have minted := minted_of_run ready first
  obtain ⟨middle, reached, isReplaced⟩ := Run.exists_of_schedule
    writesTokensInTurn_of_takingTurns _ _ _ falls
  simp only [replaced, Bool.and_eq_true, decide_eq_true_eq, Option.any_eq_true] at isReplaced
  obtain ⟨⟨⟨session, stored, second⟩, single⟩, registers⟩ := isReplaced
  obtain ⟨final, later, registered⟩ := Run.exists_of_schedule
    writesTokensInTurn_of_takingTurns middle _ replacementRegistered
    ((Option.any_eq_true ..).mpr registers)
  simp only [replacementRegistered, Bool.and_eq_true, decide_eq_true_eq, Option.any_eq_true]
    at registered
  obtain ⟨⟨old, foundOld, oldJob, finished⟩, new, foundNew, newJob, accepts⟩ := registered
  have isAccepted := accepted_of_registersSocket accepts
  refine ⟨setup.state, middle, final, minted, reached, later,
    ⟨new, List.mem_of_getElem? foundNew, registersWith_registerWorker newJob, isAccepted, ?_⟩,
    ⟨old, List.mem_of_getElem? foundOld, registersWith_registerWorker oldJob, finished, ?_⟩⟩
  · exact (worker_generation_fencing minted reached later 2).1 new
      (List.mem_of_getElem? foundNew) (registersWith_registerWorker newJob) isAccepted
  · refine (worker_generation_fencing minted reached later 1).2 session stored (by omega) 2 old
      foundOld (fun earlier found => ?_) (registersWith_registerWorker oldJob)
    simp [single] at found

/-- A registration that reads a session while a fallback has raised its generation and
not yet replaced its token. -/
def staleTokenAccepted (config : Config (controlPlane pooledSettings)) : Bool :=
  (config.threads[2]?).any fun thread =>
    decide (thread.job = registerWorker 1) && registersSocket thread &&
      thread.past.all fun event =>
        (Op.observed event.1 event.2).all fun session => session.generation = 2

/-- A worker presents the stored token of generation 1 while the session is already of
generation 2, and is accepted. -/
theorem stale_token_accepted_during_fallback :
    ¬∀ (settings : Settings) (id : SessionId) (state : State)
      (final : Config (controlPlane settings)), state.Minted id →
      Run FenceHandlersOnly ⟨state, []⟩ final →
      ∀ generation, ∀ thread ∈ final.threads, RegistersWith id generation thread →
        Accepted thread → VerifiedAgainst id generation thread := by
  intro fencing
  obtain ⟨setup, ready, holds⟩ := Run.exists_of_actions
    (⟨State.initial, []⟩ : Config (controlPlane pooledSettings)) assignPooledWorker
    (fun setup => hasFirstToken setup.state &&
      ((⟨setup.state, []⟩ : Config (controlPlane pooledSettings)).schedule fenceHandlers
        (.start (.fallbackWarmPoolSession 0 0 7) :: run 0 3 ++
          .start (.connect ⟨0, 2⟩ .worker []) :: run 1 1 ++
          .start (registerWorker 1) :: run 2 4)).any staleTokenAccepted) (by decide)
  obtain ⟨first, interleaves⟩ := Bool.and_eq_true_iff.mp holds
  obtain ⟨final, reached, stale⟩ := Run.exists_of_schedule
    fenceHandlersOnly_of_fenceHandlers _ _ _ interleaves
  simp only [staleTokenAccepted, Bool.and_eq_true, decide_eq_true_eq, Option.any_eq_true]
    at stale
  obtain ⟨thread, found, ⟨isJob, accepts⟩, reads⟩ := stale
  obtain ⟨session, _, _, _, read, -, -, generation⟩ := fencing pooledSettings 0 setup.state final
    (minted_of_run ready first) reached 1 thread (List.mem_of_getElem? found)
    (registersWith_registerWorker isJob) (accepted_of_registersSocket accepts)
  have second := List.all_eq_true.mp (List.all_eq_true.mp reads _ read) session
    (by simp [Op.observed])
  simp [generation] at second

end FencingRuns

end RemoteBrowser
