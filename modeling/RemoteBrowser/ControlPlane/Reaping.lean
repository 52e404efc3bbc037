import RemoteBrowser.Async.Alone
import RemoteBrowser.ControlPlane.Effects
import RemoteBrowser.ControlPlane.Footprint
import RemoteBrowser.Session.Listing

/-!
# Which sessions the timers terminate

`reapIdleSessions` and the second half of `expiryTimer` go through a listing of at most 500
sessions, newest first.  An old session is not shown when 500 others, or their entries in the
Redis index, are newer, and then no run terminates it however long it has been idle.  The timers do
not catch errors, so a `stop` that fails ends the run, and the sessions behind are left out too.

One run of a timer is executed here on its own, with either of the two session stores.  A session
that is not terminated and is passed to `terminateSession` has its lock asked for, and nothing
else asks for locks.
-/

namespace RemoteBrowser

open Async Program Redis

/-! ## The control plane with either store -/

/-- The control plane with one of the two session stores.  With the in-memory one the Redis store
of `rest` is not used. -/
inductive Deployment where
  | memory (store : MemorySessionStore) (rest : State)
  | redis (state : State)

namespace Deployment

def clock : Deployment → Nat
  | .memory _ rest => rest.clock
  | .redis state => state.clock

/-- The stored session. -/
def load : Deployment → SessionId → Option Session
  | .memory store _, id => store.lookup id
  | .redis state, id => state.stored id

/-- Somebody holds the session's termination lock. -/
def locked : Deployment → SessionId → Bool
  | .memory store rest, id => (store.terminationLocks id).any (rest.clock < ·)
  | .redis state, id => (Entry.read state.clock (state.store.terminationLocks id)).isSome

/-- How many sessions (in memory) or index entries (in Redis) come before the session in
`listSessions`. -/
def newer : Deployment → Session → Nat
  | .memory store _, session => store.newer session
  | .redis state, session => state.store.newer session

/-- One operation with the in-memory store. -/
def execMemory (settings : Settings) (outcome : LaunchOutcome) :
    (op : Op) → MemorySessionStore → State → (MemorySessionStore × State) × op.Reply
  | .createSession input, store, rest =>
      let result := store.createSession settings.store rest.clock rest.nextSessionId input
      ((result.1, { rest with nextSessionId := rest.nextSessionId + 1 }), result.2)
  | .session op, store, rest =>
      let result := MemorySessionStore.exec settings.store rest.clock op store
      ((result.1, rest), result.2)
  | op, store, rest =>
      let result := State.exec settings outcome op rest
      ((store, result.1), result.2)

/-- One operation. -/
def exec (settings : Settings) (outcome : LaunchOutcome) (op : Op) :
    Deployment → Deployment × op.Reply
  | .memory store rest =>
      let result := execMemory settings outcome op store rest
      (.memory result.1.1 result.1.2, result.2)
  | .redis state =>
      let result := State.exec settings outcome op state
      (.redis result.1, result.2)

/-- The store is the result of calls, at any times. -/
def Reachable (settings : Settings) : Deployment → Prop
  | .memory store _ => ∃ calls, ((memoryBackend settings.store).after calls).store = store
  | .redis state => ∃ calls, ((redisBackend settings.store).after calls).store = state.store

theorem Reachable.keyed {settings : Settings} {store : MemorySessionStore} {rest : State}
    (reachable : (memory store rest).Reachable settings) : store.Keyed := by
  obtain ⟨calls, rfl⟩ := reachable
  exact MemorySessionStore.keyed_after settings.store calls

theorem Reachable.indexed {settings : Settings} {state : State}
    (reachable : (redis state).Reachable settings) : state.store.Indexed := by
  obtain ⟨calls, built⟩ := reachable
  exact built ▸ RedisSessionStore.indexed_after settings.store calls

end Deployment

/-- Stopping a worker fails if the runtime cannot stop it; every runtime rethrows. -/
def Op.failsToStop (broken : Option Worker → Bool) : Op → Bool
  | .stop worker => broken worker
  | _ => false

namespace Deployment

/-- The handler, when it runs alone, passes the session to `terminateSession`. -/
def Terminates (settings : Settings) (outcome : LaunchOutcome) (broken : Option Worker → Bool)
    (deployment : Deployment) (handler : Handler Unit) (id : SessionId) : Prop :=
  .session (.acquireTerminationLock id 30000) ∈
    handler.issuedUntil (Deployment.exec settings outcome) (Op.failsToStop broken) deployment

/-! ## What a visit leaves alone -/

variable {settings : Settings} {outcome : LaunchOutcome} {deployment : Deployment}

theorem Reachable.exec (reachable : deployment.Reachable settings) (op : Op) :
    (exec settings outcome op deployment).1.Reachable settings := by
  cases deployment with
  | memory store rest =>
      obtain ⟨calls, rfl⟩ := reachable
      cases op with
      | createSession input =>
          refine ⟨calls ++ [(rest.clock, .createSession rest.nextSessionId input)], ?_⟩
          rw [SessionBackend.after_append]
          rfl
      | session op =>
          refine ⟨calls ++ [(rest.clock, .call op)], ?_⟩
          rw [SessionBackend.after_append]
          rfl
      | _ => exact ⟨calls, rfl⟩
  | redis state =>
      obtain ⟨calls, built⟩ := reachable
      cases op with
      | createSession input =>
          refine ⟨calls ++ [(state.clock, .createSession state.nextSessionId input)], ?_⟩
          rw [SessionBackend.after_append, SessionBackend.Tracked.call, built]
          rfl
      | session op =>
          refine ⟨calls ++ [(state.clock, .call op)], ?_⟩
          rw [SessionBackend.after_append, SessionBackend.Tracked.call, built]
          rfl
      | sync op =>
          refine ⟨calls, ?_⟩
          exact built.trans (State.execSync_frame op state).store.symm
      | launch session => cases outcome <;> exact ⟨calls, built⟩
      | _ => exact ⟨calls, built⟩

/-- The other session is neither changed nor moved in the listing, and no time passes. -/
structure Spares (id : SessionId) (before after : Deployment) : Prop where
  clock : after.clock = before.clock
  load : after.load id = before.load id
  locked : after.locked id = before.locked id
  newer : ∀ session, after.newer session = before.newer session

theorem Spares.refl (id : SessionId) (deployment : Deployment) : Spares id deployment deployment :=
  ⟨rfl, rfl, rfl, fun _ => rfl⟩

theorem Spares.trans {id : SessionId} {first second third : Deployment}
    (before : Spares id first second) (behind : Spares id second third) : Spares id first third :=
  ⟨behind.clock.trans before.clock, behind.load.trans before.load,
    behind.locked.trans before.locked,
    fun session => (behind.newer session).trans (before.newer session)⟩

/-- A stretch of synchronous code that takes no time spares all sessions. -/
theorem spares_sync (id : SessionId) {op : SyncOp} (instant : op.elapsed = 0) :
    Spares id deployment (exec settings outcome (.sync op) deployment).1 := by
  cases deployment with
  | memory store rest =>
      have frame := State.execSync_frame op rest
      rw [instant] at frame
      refine ⟨frame.clock, rfl, ?_, fun _ => rfl⟩
      simp only [exec, execMemory, locked, State.exec, frame.clock, Nat.add_zero]
  | redis state =>
      have frame := State.execSync_frame op state
      rw [instant] at frame
      refine ⟨frame.clock, ?_, ?_, fun session => ?_⟩
      · simp only [exec, load, State.stored, State.exec, frame.store, frame.clock, Nat.add_zero]
      · simp only [exec, locked, State.exec, frame.store, frame.clock, Nat.add_zero]
      · simp only [exec, newer, State.exec, frame.store]

theorem spares_signaling (id : SessionId) {op : Op} (signaling : op.Signaling) :
    Spares id deployment (exec settings outcome op deployment).1 := by
  cases op with
  | sync call => exact spares_sync id (by cases call <;> first | rfl | exact signaling.elim)
  | session call =>
      cases call with
      | addPendingSignal other role payload =>
          cases deployment with
          | memory store rest => exact ⟨rfl, rfl, rfl, fun _ => rfl⟩
          | redis state =>
              simp only [exec, State.exec, RedisSessionStore.exec,
                RedisSessionStore.addPendingSignal]
              split <;> exact ⟨rfl, rfl, rfl, fun _ => rfl⟩
      | getSocketOwner other role => cases deployment <;> exact ⟨rfl, rfl, rfl, fun _ => rfl⟩
      | drainPendingSignals other role => cases deployment <;> exact ⟨rfl, rfl, rfl, fun _ => rfl⟩
      | _ => exact signaling.elim
  | pause => cases deployment <;> exact ⟨rfl, rfl, rfl, fun _ => rfl⟩
  | _ => exact signaling.elim

theorem spares_acquireTerminationLock {id other : SessionId} (different : id ≠ other)
    (ttlMs : Nat) : Spares id deployment
      (exec settings outcome (.session (.acquireTerminationLock other ttlMs)) deployment).1 := by
  cases deployment with
  | memory store rest =>
      simp only [exec, execMemory, MemorySessionStore.exec,
        MemorySessionStore.acquireTerminationLock]
      split
      · exact .refl ..
      · refine ⟨rfl, rfl, ?_, fun _ => rfl⟩
        simp only [locked, Function.update_of_ne different]
  | redis state =>
      simp only [exec, State.exec, RedisSessionStore.exec,
        RedisSessionStore.acquireTerminationLock]
      split
      · exact .refl ..
      · refine ⟨rfl, rfl, ?_, fun _ => rfl⟩
        simp only [locked, Function.update_of_ne different]

theorem spares_setState (reachable : deployment.Reachable settings) {id other : SessionId}
    (different : id ≠ other) (label : String) :
    Spares id deployment
      (exec settings outcome (.session (.mutate other (.setState label))) deployment).1 := by
  cases deployment with
  | memory store rest =>
      simp only [exec, execMemory, MemorySessionStore.exec, MemorySessionStore.mutate]
      split
      · exact .refl ..
      · next session found =>
          refine ⟨rfl, ?_, rfl, fun session => ?_⟩
          · simp only [load, MemorySessionStore.lookup_replace, if_neg different]
          · exact congrArg (Sorting.ahead MemorySessionStore.Newer (session.id, session.createdAt))
              (MemorySessionStore.creations_replace found rfl)
  | redis state =>
      have indexed := reachable.indexed
      simp only [exec, State.exec, RedisSessionStore.exec, RedisSessionStore.runSessionMutation]
      split
      · exact .refl ..
      · next session loaded =>
          refine ⟨rfl, ?_, rfl, fun session => ?_⟩
          · exact RedisSessionStore.loadSession_saveSession_of_ne _ different
          · exact RedisSessionStore.newer_saveSession indexed loaded rfl rfl session

end Deployment

/-- What a timer issues for a session. -/
def Op.Visits (session : Session) (op : Op) : Prop :=
  op.Terminating session ∨ ∃ now, op = .session (.shouldIdleTerminate session.id now)

/-- What a timer issues for sessions with other identifiers. -/
def Op.VisitsOther (id : SessionId) (op : Op) : Prop :=
  ∃ session : Session, session.id ≠ id ∧ op.Visits session

namespace Deployment

variable {settings : Settings} {outcome : LaunchOutcome} {deployment : Deployment}

theorem spares_visits (reachable : deployment.Reachable settings) {session : Session} {op : Op}
    (visits : op.Visits session) {id : SessionId} (different : id ≠ session.id) :
    Spares id deployment (exec settings outcome op deployment).1 := by
  rcases visits with (signaling | rfl | rfl | rfl | rfl) | ⟨now, rfl⟩
  · exact spares_signaling id signaling
  · exact spares_acquireTerminationLock different 30000
  · exact spares_setState reachable different "terminated"
  · cases deployment <;> exact ⟨rfl, rfl, rfl, fun _ => rfl⟩
  · cases deployment <;> exact ⟨rfl, rfl, rfl, fun _ => rfl⟩
  · cases deployment <;> exact ⟨rfl, rfl, rfl, fun _ => rfl⟩

theorem reachable_stateAlone (outcome : LaunchOutcome)
    (reachable : deployment.Reachable settings) (handler : Handler Unit) :
    (handler.stateAlone (exec settings outcome) deployment).Reachable settings :=
  Issues.stateAlone (issues_of_all (fun _ => trivial) handler)
    (fun op _ (_ : True) reached => reached.exec op) reachable

/-- Visits of other sessions spare a session. -/
theorem spares_of_issues (reachable : deployment.Reachable settings) {id : SessionId}
    {handler : Handler Unit} (issues : handler.Issues (Op.VisitsOther id)) :
    (handler.stateAlone (exec settings outcome) deployment).Reachable settings ∧
      Spares id deployment (handler.stateAlone (exec settings outcome) deployment) := by
  refine @Issues.stateAlone _ _ _ _ _ _ _
    (fun later => later.Reachable settings ∧ Spares id deployment later) issues ?_
    ⟨reachable, .refl id deployment⟩
  rintro op later ⟨session, different, visits⟩ ⟨reached, spared⟩
  exact ⟨reached.exec op, spared.trans (spares_visits reached visits (Ne.symm different))⟩

end Deployment

/-! ## One round -/

section Rounds

variable {settings : Settings} {outcome : LaunchOutcome} {broken : Option Worker → Bool}
  {instanceId now : Nat} {session : Session} {reason : String} {deployment : Deployment}
  {id : SessionId}

/-- A run of a timer that comes to the session ends there: the lock is free, and the stop of the
session's own worker fails. -/
structure StopFails (broken : Option Worker → Bool) (deployment : Deployment)
    (session : Session) : Prop where
  active : ¬session.Terminated
  unlocked : deployment.locked session.id = false
  own : ¬Worker.IsWarmPool session.worker
  fails : broken session.worker = true

theorem onlyIf_returns {condition : Prop} [Decidable condition] {action : Handler Unit}
    (returns : action.Returns) : (onlyIf condition action).Returns := by
  unfold onlyIf
  split
  · exact returns
  · trivial

theorem await_returns (op : Op) : (await op).Returns := fun _ _ => trivial

theorem sendSignal_returns (instanceId : Nat) (id : SessionId) (role : Role) (payload : Signal) :
    (sendSignal instanceId id role payload).Returns := by
  have queues : (queueSignal id role payload).Returns :=
    (await_returns _).bind fun _ => await_returns _
  unfold sendSignal
  refine (await_returns _).bind fun found => ?_
  cases found with
  | none => exact queues
  | some target =>
      refine Returns.bind (fun _ _ => trivial) fun owner => ?_
      split
      · exact await_returns _
      · exact queues

/-- The stop comes last, when the session has a worker of its own. -/
theorem finishTermination_eq_stop (settings : Settings) (instanceId : Nat) (session : Session)
    (reason : String) :
    ∃ told : Handler Unit, told.Returns ∧ told.Issues (fun op => ∀ worker, op ≠ Op.stop worker) ∧
      finishTermination settings instanceId session reason = told >>= fun _ =>
        onlyIf (¬Worker.IsWarmPool session.worker) (await (.stop session.worker)) := by
  have signals (role : Role) : (sendSignal instanceId session.id role
      (.sessionTerminated reason)).Issues fun op => ∀ worker, op ≠ Op.stop worker :=
    (sendSignal_issues instanceId session.id role _).mono fun op signaling worker same => by
      subst same
      exact signaling
  have notified : (onlyIf (session.usesGatewaySignaling = true)
      (notifyGatewaySessionTermination settings session)).Issues
        fun op => ∀ worker, op ≠ Op.stop worker := by
    unfold onlyIf notifyGatewaySessionTermination onlyIf
    split
    · split
      · exact ⟨nofun, fun _ => trivial⟩
      · trivial
    · trivial
  refine ⟨do
    mutate session.id (.setState "terminated")
    onlyIf (session.usesGatewaySignaling = true) (notifyGatewaySessionTermination settings session)
    sendSignal instanceId session.id .viewer (.sessionTerminated reason)
    sendSignal instanceId session.id .worker (.sessionTerminated reason)
    sync (.dismissSockets instanceId session.id), ?_, ?_, ?_⟩
  · refine Returns.bind (fun _ _ => trivial) fun _ => ?_
    refine (onlyIf_returns (onlyIf_returns (await_returns _))).bind fun _ => ?_
    refine (sendSignal_returns _ _ _ _).bind fun _ => ?_
    exact (sendSignal_returns _ _ _ _).bind fun _ => await_returns _
  · refine Issues.bind ⟨nofun, fun _ => trivial⟩ fun _ => notified.bind fun _ => ?_
    exact (signals .viewer).bind fun _ => (signals .worker).bind fun _ => ⟨nofun, fun _ => trivial⟩
  · simp only [finishTermination, bind_assoc]

theorem terminateSession_returns (settings : Settings) (instanceId : Nat) (session : Session)
    (reason : String) : (terminateSession settings instanceId session reason).Returns := by
  obtain ⟨told, returns, -, finishes⟩ :=
    finishTermination_eq_stop settings instanceId session reason
  unfold terminateSession
  split
  · trivial
  · refine (await_returns _).bind fun acquired => ?_
    split
    · rw [finishes]
      exact returns.bind fun _ => onlyIf_returns (await_returns _)
    · trivial

/-- A session that is passed to `terminateSession` has its lock asked for, unless it is
terminated, and no other lock is asked for. -/
theorem terminates_terminateSession_iff :
    deployment.Terminates settings outcome broken
      (terminateSession settings instanceId session reason) id ↔
        session.id = id ∧ ¬session.Terminated := by
  constructor
  · intro issued
    have terminating := (terminateSession_issues settings instanceId session reason).issuedAlone
      _ (mem_issuedAlone_of_issuedUntil issued)
    refine ⟨?_, fun ended => ?_⟩
    · rcases terminating with signaling | same | same | same | same
      · exact signaling.elim
      all_goals cases same
      rfl
    · rw [Deployment.Terminates, terminateSession, if_pos ended] at issued
      cases issued
  · rintro ⟨rfl, active⟩
    rw [Deployment.Terminates, terminateSession, if_neg active]
    exact List.mem_cons_self

theorem Deployment.acquireTerminationLock_reply (settings : Settings) (outcome : LaunchOutcome)
    (deployment : Deployment) (id : SessionId) :
    (Deployment.exec settings outcome (.session (.acquireTerminationLock id 30000))
      deployment).2 = !deployment.locked id := by
  cases deployment with
  | memory store rest =>
      simp only [exec, execMemory, MemorySessionStore.exec,
        MemorySessionStore.acquireTerminationLock, locked]
      split <;> simp_all
  | redis state =>
      simp only [exec, State.exec, RedisSessionStore.exec,
        RedisSessionStore.acquireTerminationLock, locked]
      split <;> simp_all

theorem issuedAlone_terminateSession (active : ¬session.Terminated) :
    (terminateSession settings instanceId session reason).issuedAlone
      (Deployment.exec settings outcome) deployment =
        Op.session (.acquireTerminationLock session.id 30000) ::
          (bif deployment.locked session.id then .pure ()
            else finishTermination settings instanceId session reason).issuedAlone
              (Deployment.exec settings outcome) (Deployment.exec settings outcome
                (.session (.acquireTerminationLock session.id 30000)) deployment).1 := by
  have reply := Deployment.acquireTerminationLock_reply settings outcome deployment session.id
  have started : (terminateSession settings instanceId session reason).issuedAlone
      (Deployment.exec settings outcome) deployment =
        Op.session (.acquireTerminationLock session.id 30000) ::
          (if (Deployment.exec settings outcome
              (.session (.acquireTerminationLock session.id 30000)) deployment).2 then
            finishTermination settings instanceId session reason
          else Program.pure () : Handler Unit).issuedAlone (Deployment.exec settings outcome)
            (Deployment.exec settings outcome
              (.session (.acquireTerminationLock session.id 30000)) deployment).1 := by
    rw [terminateSession, if_neg active]
    rfl
  rw [started, reply]
  cases deployment.locked session.id <;> rfl

/-- The termination of the session ends the timer's run. -/
theorem fails_terminateSession_iff :
    (∃ op ∈ (terminateSession settings instanceId session reason).issuedAlone
      (Deployment.exec settings outcome) deployment, op.failsToStop broken = true) ↔
        StopFails broken deployment session := by
  by_cases active : ¬session.Terminated
  case neg =>
    rw [terminateSession, if_pos (not_not.mp active)]
    constructor
    · rintro ⟨op, issued, -⟩
      cases issued
    · exact fun fails => absurd fails.active active
  case pos =>
    obtain ⟨told, returns, silent, finishes⟩ :=
      finishTermination_eq_stop settings instanceId session reason
    rw [issuedAlone_terminateSession active, finishes]
    constructor
    · rintro ⟨op, issued, failed⟩
      cases op with
      | stop worker =>
          have later := (List.mem_cons.mp issued).resolve_left nofun
          cases unlocked : deployment.locked session.id with
          | true =>
              rw [unlocked] at later
              cases later
          | false =>
              have stops : (told >>= fun _ => onlyIf (¬Worker.IsWarmPool session.worker)
                  (await (.stop session.worker))).Issues fun op => ∀ worker, op = Op.stop worker →
                    ¬Worker.IsWarmPool session.worker ∧ worker = session.worker := by
                refine (silent.mono fun op other worker same => absurd same (other worker)).bind
                  fun _ => ?_
                unfold onlyIf
                split
                case isTrue own =>
                  refine ⟨fun worker same => ?_, fun _ => trivial⟩
                  cases same
                  exact ⟨own, rfl⟩
                case isFalse => trivial
              rw [unlocked] at later
              obtain ⟨own, rfl⟩ := stops.issuedAlone _ later worker rfl
              exact ⟨active, unlocked, own, failed⟩
      | _ => cases failed
    · intro fails
      refine ⟨.stop session.worker, List.mem_cons_of_mem _ ?_, fails.fails⟩
      rw [fails.unlocked, cond_false]
      refine returns.mem_issuedAlone_bind fun _ later => ?_
      rw [onlyIf, if_pos fails.own]
      exact List.mem_cons_self

/-- Nothing that a termination issues frees the lock. -/
theorem Deployment.locked_of_terminating {op : Op} (terminating : op.Terminating session)
    (held : deployment.locked session.id = true) :
    (Deployment.exec settings outcome op deployment).1.locked session.id = true := by
  rcases terminating with signaling | rfl | rfl | rfl | rfl
  · exact (spares_signaling session.id signaling).locked.trans held
  · cases deployment with
    | memory store rest =>
        simp only [exec, execMemory, MemorySessionStore.exec,
          MemorySessionStore.acquireTerminationLock]
        rwa [if_pos (by exact held)]
    | redis state =>
        obtain ⟨_, present⟩ := Option.isSome_iff_exists.mp held
        simp only [exec, State.exec, RedisSessionStore.exec,
          RedisSessionStore.acquireTerminationLock, present]
        exact held
  · cases deployment with
    | memory store rest =>
        simp only [exec, execMemory, MemorySessionStore.exec, MemorySessionStore.mutate]
        split <;> exact held
    | redis state =>
        simp only [exec, State.exec, RedisSessionStore.exec, RedisSessionStore.runSessionMutation]
        split <;> exact held
  · cases deployment <;> exact held
  · cases deployment <;> exact held

theorem Deployment.locked_acquired :
    (Deployment.exec settings outcome (.session (.acquireTerminationLock id 30000))
      deployment).1.locked id = true := by
  cases deployment with
  | memory store rest =>
      simp only [exec, execMemory, MemorySessionStore.exec,
        MemorySessionStore.acquireTerminationLock]
      split
      case isTrue held => exact held
      case isFalse => simp [locked]
  | redis state =>
      simp only [exec, State.exec, RedisSessionStore.exec,
        RedisSessionStore.acquireTerminationLock]
      split
      case h_1 held => simp [locked, held]
      case h_2 => simp [locked, Entry.read, Entry.Live]

/-- After `terminateSession` the lock is held, by this run or by another. -/
theorem locked_terminateSession (active : ¬session.Terminated) :
    ((terminateSession settings instanceId session reason).stateAlone
      (Deployment.exec settings outcome) deployment).locked session.id = true := by
  have issues := terminateSession_issues settings instanceId session reason
  rw [terminateSession, if_neg active] at issues ⊢
  have kept := @Issues.stateAlone _ _ _ (Deployment.exec settings outcome) _
    (Deployment.exec settings outcome (.session (.acquireTerminationLock session.id 30000))
      deployment).1 _ (fun later : Deployment => later.locked session.id = true)
    (issues.2 (Deployment.exec settings outcome
      (.session (.acquireTerminationLock session.id 30000)) deployment).2)
    (fun _ _ => Deployment.locked_of_terminating) Deployment.locked_acquired
  exact kept

theorem reapIdleSession_issues (settings : Settings) (instanceId now : Nat) (session : Session) :
    (reapIdleSession settings instanceId now session).Issues (Op.Visits session) := by
  unfold reapIdleSession
  split
  · trivial
  · refine Issues.bind ⟨.inr ⟨now, rfl⟩, fun _ => trivial⟩ fun idle => ?_
    split
    · exact (terminateSession_issues settings instanceId session _).mono fun _ => .inl
    · trivial

theorem reapIdleSession_returns (settings : Settings) (instanceId now : Nat)
    (session : Session) : (reapIdleSession settings instanceId now session).Returns := by
  unfold reapIdleSession
  split
  · trivial
  · refine (await_returns _).bind fun idle => ?_
    split
    · exact terminateSession_returns settings instanceId session _
    · trivial

/-- `shouldIdleTerminate` reads the stored session. -/
theorem Deployment.shouldIdleTerminate_exec (settings : Settings) (outcome : LaunchOutcome)
    (deployment : Deployment) (id : SessionId) (now : Nat) :
    Deployment.exec settings outcome (.session (.shouldIdleTerminate id now)) deployment =
      (deployment,
        (deployment.load id).any (Session.shouldIdleTerminate now settings.store.idleTimeoutMs)) := by
  cases deployment with
  | memory store rest =>
      simp only [exec, execMemory, MemorySessionStore.exec,
        MemorySessionStore.shouldIdleTerminate, load]
      split <;> simp_all
  | redis state =>
      simp only [exec, State.exec, RedisSessionStore.exec,
        RedisSessionStore.shouldIdleTerminate, load, State.stored]
      split <;> simp_all

/-- A round of `reapIdleSessions` asks first whether the session is idle. -/
theorem issued_reapIdleSession (stored : deployment.load session.id = some session) :
    let round : Handler Unit := onlyIf (¬session.Terminated ∧
      session.shouldIdleTerminate now settings.store.idleTimeoutMs = true)
      (terminateSession settings instanceId session "viewer idle timeout")
    ∃ asked : List Op, asked ⊆ [.session (.shouldIdleTerminate session.id now)] ∧
      (reapIdleSession settings instanceId now session).issuedUntil
        (Deployment.exec settings outcome) (Op.failsToStop broken) deployment =
          asked ++ round.issuedUntil (Deployment.exec settings outcome) (Op.failsToStop broken)
            deployment ∧
      (reapIdleSession settings instanceId now session).issuedAlone
        (Deployment.exec settings outcome) deployment =
          asked ++ round.issuedAlone (Deployment.exec settings outcome) deployment := by
  by_cases ended : session.Terminated
  case pos =>
    refine ⟨[], List.nil_subset _, ?_⟩
    simp [reapIdleSession, onlyIf, ended]
  case neg =>
    have reply := Deployment.shouldIdleTerminate_exec settings outcome deployment session.id now
    rw [stored, Option.any_some] at reply
    have request : reapIdleSession settings instanceId now session =
        .request (.session (.shouldIdleTerminate session.id now)) fun idle : Bool =>
          if idle then terminateSession settings instanceId session "viewer idle timeout"
          else .pure () := by
      rw [reapIdleSession, if_neg ended]
      rfl
    refine ⟨[_], List.Subset.refl _, ?_⟩
    rw [request, Program.issuedUntil, Program.issuedAlone, reply]
    simp [onlyIf, ended, Op.failsToStop]

end Rounds

/-! ## The loops -/

/-- A round of a timer's loop: it passes the chosen sessions to `terminateSession`. -/
structure IsRound (settings : Settings) (outcome : LaunchOutcome) (broken : Option Worker → Bool)
    (round : Session → Handler Unit) (chosen : Session → Prop) : Prop where
  returns : ∀ session, (round session).Returns
  issues : ∀ session, (round session).Issues (Op.Visits session)
  terminates : ∀ {deployment : Deployment} {session : Session} {id : SessionId},
    deployment.load session.id = some session →
    (deployment.Terminates settings outcome broken (round session) id ↔
      session.id = id ∧ chosen session)
  fails : ∀ {deployment : Deployment} {session : Session},
    deployment.load session.id = some session →
    ((∃ op ∈ (round session).issuedAlone (Deployment.exec settings outcome) deployment,
      op.failsToStop broken = true) ↔ chosen session ∧ StopFails broken deployment session)

section Loops

variable {settings : Settings} {outcome : LaunchOutcome} {broken : Option Worker → Bool}
  {instanceId now : Nat} {deployment : Deployment} {id : SessionId}

theorem isRound_terminateSession (reason : String) :
    IsRound settings outcome broken
      (fun session => terminateSession settings instanceId session reason)
      (fun session => ¬session.Terminated) where
  returns session := terminateSession_returns settings instanceId session reason
  issues session := (terminateSession_issues settings instanceId session reason).mono
    fun _ => .inl
  terminates _ := terminates_terminateSession_iff
  fails _ := by
    rw [fails_terminateSession_iff]
    exact ⟨fun fails => ⟨fails.active, fails⟩, And.right⟩

/-- The same for some of the sessions. -/
theorem isRound_onlyIf (condition : Session → Prop) [DecidablePred condition] (reason : String) :
    IsRound settings outcome broken
      (fun session => onlyIf (¬session.Terminated ∧ condition session)
        (terminateSession settings instanceId session reason))
      (fun session => ¬session.Terminated ∧ condition session) := by
  have round := @isRound_terminateSession settings outcome broken instanceId reason
  refine ⟨fun session => onlyIf_returns (round.returns session), fun session => ?_,
    fun {deployment session id} stored => ?_, fun {deployment session} stored => ?_⟩
  · unfold onlyIf
    split
    · exact round.issues session
    · trivial
  · unfold onlyIf
    split
    case isTrue chosen =>
      rw [round.terminates stored]
      simp [chosen]
    case isFalse other => simp [Deployment.Terminates, Program.issuedUntil, other]
  · unfold onlyIf
    split
    case isTrue chosen =>
      rw [round.fails stored]
      simp [chosen]
    case isFalse other => simp [Program.issuedAlone, other]

theorem isRound_reapIdleSession (settings : Settings) (outcome : LaunchOutcome)
    (broken : Option Worker → Bool) (instanceId now : Nat) :
    IsRound settings outcome broken (reapIdleSession settings instanceId now) (fun session =>
      ¬session.Terminated ∧
        session.shouldIdleTerminate now settings.store.idleTimeoutMs = true) := by
  have round := @isRound_onlyIf settings outcome broken instanceId (fun session =>
    session.shouldIdleTerminate now settings.store.idleTimeoutMs = true) _ "viewer idle timeout"
  refine ⟨reapIdleSession_returns settings instanceId now,
    reapIdleSession_issues settings instanceId now, fun {deployment session id} stored => ?_,
    fun {deployment session} stored => ?_⟩
  · rw [← round.terminates stored, Deployment.Terminates, Deployment.Terminates]
    obtain ⟨asked, only, cut, -⟩ := @issued_reapIdleSession settings outcome broken instanceId now
      session deployment stored
    rw [cut, List.mem_append]
    refine or_iff_right fun early => ?_
    cases List.mem_singleton.mp (only early)
  · rw [← round.fails stored]
    obtain ⟨asked, only, -, alone⟩ := @issued_reapIdleSession settings outcome broken instanceId now
      session deployment stored
    rw [alone]
    simp only [List.mem_append, or_and_right, exists_or]
    refine or_iff_right fun ⟨op, early, failed⟩ => ?_
    cases List.mem_singleton.mp (only early)
    cases failed

section Sessions

variable {sessions : List Session} {round : Session → Handler Unit} {chosen : Session → Prop}

/-- The rounds before that of a session spare it. -/
theorem IsRound.spares (isRound : IsRound settings outcome broken round chosen)
    (reachable : deployment.Reachable settings) {session : Session}
    (absent : session.id ∉ sessions.map Session.id) :
    ((Program.forEach sessions round).stateAlone (Deployment.exec settings outcome)
      deployment).Reachable settings ∧
    Deployment.Spares session.id deployment
      ((Program.forEach sessions round).stateAlone (Deployment.exec settings outcome)
        deployment) := by
  refine Deployment.spares_of_issues reachable (Issues.forEach fun other listed => ?_)
  have different : other.id ≠ session.id := fun same =>
    absent (List.mem_map.mpr ⟨other, listed, same⟩)
  exact (isRound.issues other).mono fun _ visits => ⟨other, different, visits⟩

/-- Whether the session ends a run does not change while it is spared. -/
theorem StopFails.iff_of_spares {session : Session} {later : Deployment}
    (spared : Deployment.Spares session.id deployment later) :
    StopFails broken later session ↔ StopFails broken deployment session := by
  have locked := spared.locked
  constructor
  · exact fun fails => ⟨fails.active, locked.symm.trans fails.unlocked, fails.own, fails.fails⟩
  · exact fun fails => ⟨fails.active, locked.trans fails.unlocked, fails.own, fails.fails⟩

variable (isRound : IsRound settings outcome broken round chosen)
  (reachable : deployment.Reachable settings) (distinct : (sessions.map Session.id).Nodup)

include isRound reachable distinct

theorem spares_of_split {earlier later : List Session} {session : Session}
    (split : sessions = earlier ++ session :: later) :
    Deployment.Spares session.id deployment
      ((Program.forEach earlier round).stateAlone (Deployment.exec settings outcome)
        deployment) := by
  refine (isRound.spares reachable fun listed => ?_).2
  rw [split, List.map_append, List.map_cons] at distinct
  exact (List.nodup_append.mp distinct).2.2 _ listed _ List.mem_cons_self rfl

variable (stored : ∀ session ∈ sessions, deployment.load session.id = some session)

include stored

/-- Nothing fails in a loop exactly if no session that it chooses ends it. -/
theorem fine_forEach_iff :
    (∀ op ∈ (Program.forEach sessions round).issuedAlone (Deployment.exec settings outcome)
      deployment, op.failsToStop broken = false) ↔
        ∀ session ∈ sessions, chosen session → ¬StopFails broken deployment session := by
  have failed {earlier later : List Session} {session : Session}
      (split : sessions = earlier ++ session :: later) :
      (∃ op ∈ (round session).issuedAlone (Deployment.exec settings outcome)
        ((Program.forEach earlier round).stateAlone (Deployment.exec settings outcome) deployment),
          op.failsToStop broken = true) ↔ chosen session ∧ StopFails broken deployment session := by
    have spared := spares_of_split isRound reachable distinct split
    rw [isRound.fails (spared.load.trans (stored session (by simp [split]))),
      StopFails.iff_of_spares spared]
  constructor
  · intro fine session member picked fails
    obtain ⟨earlier, later, split⟩ := List.append_of_mem member
    obtain ⟨op, issued, failing⟩ := (failed split).mpr ⟨picked, fails⟩
    have fine := fine op ((mem_issuedAlone_forEach fun other _ => isRound.returns other).mpr
      ⟨earlier, session, later, split, issued⟩)
    rw [failing] at fine
    cases fine
  · intro none op issued
    rw [← Bool.not_eq_true]
    intro failing
    obtain ⟨earlier, session, later, split, issued⟩ :=
      (mem_issuedAlone_forEach fun other _ => isRound.returns other).mp issued
    obtain ⟨picked, fails⟩ := (failed split).mp ⟨op, issued, failing⟩
    exact none session (by simp [split]) picked fails

/-- A loop over stored sessions with distinct identifiers visits each of them as it is stored
at the start, up to the first that ends it. -/
theorem terminates_forEach_iff :
    deployment.Terminates settings outcome broken (Program.forEach sessions round) id ↔
      ∃ earlier session later, sessions = earlier ++ session :: later ∧ session.id = id ∧
        chosen session ∧
          ∀ other ∈ earlier, chosen other → ¬StopFails broken deployment other := by
  rw [Deployment.Terminates, mem_issuedUntil_forEach fun other _ => isRound.returns other]
  refine exists_congr fun earlier => exists_congr fun session => exists_congr fun later =>
    and_congr_right fun split => ?_
  have spared := spares_of_split isRound reachable distinct split
  have passed := @IsRound.terminates _ _ _ _ _ isRound _ _ id
    (spared.load.trans (stored session (by simp [split])))
  have fine := @fine_forEach_iff settings outcome broken deployment earlier round chosen isRound
    reachable (distinct.sublist (by simp [split])) fun other member =>
      stored other (by simp [split, member])
  rw [Deployment.Terminates] at passed
  rw [passed, fine, and_comm, and_assoc]

end Sessions

end Loops

/-! ## The listings -/

namespace Deployment

variable {settings : Settings} {outcome : LaunchOutcome} {deployment : Deployment}

def listSessions : Deployment → Nat → List Session
  | .memory store _, limit => store.listSessions limit
  | .redis state, limit => state.store.listSessions state.clock limit

def listExpired : Deployment → Nat → List Session
  | .memory store _, bound => store.listExpired bound
  | .redis state, bound => state.store.listExpired state.clock bound

/-- The list consists of the stored sessions with a property. -/
structure Shows (deployment : Deployment) (sessions : List Session) (shown : Session → Prop) :
    Prop where
  distinct : (sessions.map Session.id).Nodup
  stored : ∀ session ∈ sessions, deployment.load session.id = some session
  complete : ∀ id session, deployment.load id = some session →
    session.id = id ∧ (session ∈ sessions ↔ shown session)

/-- Newer sessions come first. -/
theorem pairwise_listSessions (reachable : deployment.Reachable settings) (limit : Nat) :
    (deployment.listSessions limit).Pairwise fun left right =>
      deployment.newer left < deployment.newer right := by
  cases deployment with
  | memory store rest => exact MemorySessionStore.pairwise_listSessions reachable.keyed limit
  | redis state => exact RedisSessionStore.pairwise_listSessions reachable.indexed limit

theorem shows_listSessions (reachable : deployment.Reachable settings) {limit : Nat}
    (positive : 0 < limit) :
    deployment.Shows (deployment.listSessions limit) fun session =>
      deployment.newer session < limit := by
  cases deployment with
  | memory store rest =>
      have keyed := reachable.keyed
      exact
        { distinct := keyed.nodup_of_subperm ((List.take_sublist ..).subperm.trans
            (List.perm_insertionSort ..).subperm)
          stored := fun session listed => keyed.lookup_of_mem
            ((List.perm_insertionSort ..).mem_iff.mp (List.mem_of_mem_take listed))
          complete := fun id session found =>
            ⟨keyed id session found, MemorySessionStore.mem_listSessions_iff keyed found⟩ }
  | redis state =>
      have indexed := reachable.indexed
      exact
        { distinct := indexed.distinct
            ((List.nodup_reverse.mpr state.store.sessionsCreated.unique).sublist
              (List.take_sublist ..))
          stored := fun session listed => indexed.load_of_mem listed
          complete := fun id session loaded => ⟨(indexed.of_load loaded).1,
            RedisSessionStore.mem_listSessions_iff indexed loaded positive⟩ }

theorem shows_listExpired (reachable : deployment.Reachable settings) (bound : Nat) :
    deployment.Shows (deployment.listExpired bound) fun session => session.expiresAt ≤ bound := by
  cases deployment with
  | memory store rest =>
      have keyed := reachable.keyed
      exact
        { distinct := keyed.nodup_of_subperm List.filter_sublist.subperm
          stored := fun session listed => keyed.lookup_of_mem (List.mem_filter.mp listed).1
          complete := fun id session found =>
            ⟨keyed id session found, MemorySessionStore.mem_listExpired_iff found⟩ }
  | redis state =>
      have indexed := reachable.indexed
      exact
        { distinct := indexed.distinct
            (state.store.sessionsExpires.unique.sublist (List.filter_sublist.map _))
          stored := fun session listed => indexed.load_of_mem listed
          complete := fun id session loaded => ⟨(indexed.of_load loaded).1,
            RedisSessionStore.mem_listExpired_iff indexed loaded⟩ }

/-- Only the stored session itself has its identifier. -/
theorem Shows.split_iff {sessions : List Session} {shown chosen : Session → Prop}
    {before : List Session → Prop} (shows : deployment.Shows sessions shown) {id : SessionId}
    {session : Session} (stored : deployment.load id = some session) :
    (∃ earlier other later, sessions = earlier ++ other :: later ∧ other.id = id ∧
      chosen other ∧ before earlier) ↔
        chosen session ∧
          ∃ earlier later, sessions = earlier ++ session :: later ∧ before earlier := by
  constructor
  · rintro ⟨earlier, other, later, split, same, picked, fine⟩
    have again := shows.stored other (by simp [split])
    rw [same, stored] at again
    cases again
    exact ⟨picked, earlier, later, split, fine⟩
  · rintro ⟨picked, earlier, later, split, fine⟩
    exact ⟨earlier, session, later, split, (shows.complete id session stored).1, picked, fine⟩

/-- What comes before a session in the listing is what is newer. -/
theorem split_listSessions_iff (reachable : deployment.Reachable settings) {limit : Nat}
    (positive : 0 < limit) {id : SessionId} {session : Session}
    (stored : deployment.load id = some session) {fine : Session → Prop} :
    (∃ earlier later, deployment.listSessions limit = earlier ++ session :: later ∧
      ∀ other ∈ earlier, fine other) ↔
        deployment.newer session < limit ∧ ∀ otherId other, deployment.load otherId = some other →
          deployment.newer other < deployment.newer session → fine other := by
  have shows := shows_listSessions reachable positive
  have ordered := pairwise_listSessions reachable limit
  have listed := (shows.complete id session stored).2
  constructor
  · rintro ⟨earlier, later, split, fine⟩
    have shown : deployment.newer session < limit := listed.mp (by simp [split])
    refine ⟨shown, fun otherId other present newer => ?_⟩
    have member := (shows.complete otherId other present).2.mpr (newer.trans shown)
    rw [split] at member ordered
    rcases List.mem_append.mp member with before | behind
    · exact fine other before
    · have after := (List.pairwise_cons.mp (List.pairwise_append.mp ordered).2.1).1
      rcases List.mem_cons.mp behind with rfl | behind
      · exact absurd newer (lt_irrefl _)
      · exact absurd newer (after other behind).asymm
  · rintro ⟨shown, fine⟩
    obtain ⟨earlier, later, split⟩ := List.append_of_mem (listed.mpr shown)
    refine ⟨earlier, later, split, fun other before => ?_⟩
    rw [split] at ordered
    exact fine other.id other (shows.stored other (by simp [split, before]))
      ((List.pairwise_append.mp ordered).2.2 other before session List.mem_cons_self)

end Deployment

/-! ## The timers -/

section Timers

variable {settings : Settings} {outcome : LaunchOutcome} {broken : Option Worker → Bool}
  {instanceId : Nat} {deployment : Deployment} {id : SessionId} {session : Session}

/-- The session is stored, not terminated, and its viewer has been away too long. -/
structure DueIdle (settings : Settings) (deployment : Deployment) (id : SessionId)
    (session : Session) : Prop where
  stored : deployment.load id = some session
  active : ¬session.Terminated
  idle : session.shouldIdleTerminate deployment.clock settings.store.idleTimeoutMs = true

/-- The session is stored, not terminated, and no viewer has connected in time. -/
structure DueUnviewed (settings : Settings) (deployment : Deployment) (id : SessionId)
    (session : Session) : Prop where
  stored : deployment.load id = some session
  active : ¬session.Terminated
  unviewed : session.viewerConnectedAt = none
  late : session.createdAt + settings.viewerConnectTimeoutMs ≤ deployment.clock

/-- `reapIdleSessions` comes to the session: the listing shows it, and no idle session that is
newer ends the run. -/
structure ReapReaches (settings : Settings) (broken : Option Worker → Bool)
    (deployment : Deployment) (session : Session) : Prop where
  shown : deployment.newer session < 500
  unhindered : ∀ otherId other, DueIdle settings deployment otherId other →
    deployment.newer other < deployment.newer session → ¬StopFails broken deployment other

/-- `expiryTimer` comes to the session: it is among the expired ones, and none before it there
ends the run; or it has not expired, no expired session ends the run, the listing shows it, and
no other session without a viewer that is newer ends the run. -/
inductive ExpiryReaches (settings : Settings) (broken : Option Worker → Bool)
    (deployment : Deployment) (session : Session) : Prop where
  | expired {earlier later : List Session}
      (listed : deployment.listExpired deployment.clock = earlier ++ session :: later)
      (unhindered : ∀ other ∈ earlier, ¬StopFails broken deployment other)
  | unviewed (unexpired : deployment.clock < session.expiresAt)
      (unhindered : ∀ other ∈ deployment.listExpired deployment.clock,
        ¬StopFails broken deployment other)
      (shown : deployment.newer session < 500)
      (first : ∀ otherId other, DueUnviewed settings deployment otherId other →
        deployment.clock < other.expiresAt → deployment.newer other < deployment.newer session →
          ¬StopFails broken deployment other)

theorem issuedUntil_reapIdleSessions (settings : Settings) (outcome : LaunchOutcome)
    (broken : Option Worker → Bool) (instanceId : Nat) (deployment : Deployment) :
    (reapIdleSessions settings instanceId).issuedUntil (Deployment.exec settings outcome)
      (Op.failsToStop broken) deployment = Op.sync .now :: Op.session (.listSessions 500) ::
        (Program.forEach (deployment.listSessions 500)
          (reapIdleSession settings instanceId deployment.clock)).issuedUntil
            (Deployment.exec settings outcome) (Op.failsToStop broken) deployment := by
  cases deployment <;> rfl

theorem terminates_reapIdleSessions_iff (reachable : deployment.Reachable settings)
    (due : DueIdle settings deployment id session) :
    deployment.Terminates settings outcome broken (reapIdleSessions settings instanceId) id ↔
      ReapReaches settings broken deployment session := by
  have shows := Deployment.shows_listSessions reachable (by decide : 0 < 500)
  have loop := @terminates_forEach_iff settings outcome broken deployment id _ _ _
    (isRound_reapIdleSession settings outcome broken instanceId deployment.clock) reachable
    shows.distinct shows.stored
  rw [shows.split_iff due.stored, and_iff_right ⟨due.active, due.idle⟩,
    Deployment.split_listSessions_iff reachable (by decide) due.stored,
    Deployment.Terminates] at loop
  rw [Deployment.Terminates, issuedUntil_reapIdleSessions]
  simp only [List.mem_cons, reduceCtorEq, Op.session.injEq, false_or, loop]
  constructor
  · rintro ⟨shown, unhindered⟩
    exact ⟨shown, fun otherId other due newer =>
      unhindered otherId other due.stored newer ⟨due.active, due.idle⟩⟩
  · rintro ⟨shown, unhindered⟩
    exact ⟨shown, fun otherId other stored newer chosen =>
      unhindered otherId other ⟨stored, chosen.1, chosen.2⟩ newer⟩

/-- One round of the second half of `expiryTimer`. -/
def unviewedRound (settings : Settings) (instanceId now : Nat) (session : Session) :
    Handler Unit :=
  onlyIf (¬session.Terminated ∧ session.viewerConnectedAt = none ∧
      session.createdAt + settings.viewerConnectTimeoutMs ≤ now)
    (terminateSession settings instanceId session "viewer never connected")

/-- The first half of `expiryTimer`. -/
def expiredRounds (settings : Settings) (instanceId : Nat) (deployment : Deployment) :
    Handler Unit :=
  Program.forEach (deployment.listExpired deployment.clock) fun session =>
    terminateSession settings instanceId session "session expired"

/-- The state in which the second half of `expiryTimer` begins. -/
def afterExpired (settings : Settings) (outcome : LaunchOutcome) (instanceId : Nat)
    (deployment : Deployment) : Deployment :=
  (expiredRounds settings instanceId deployment).stateAlone (Deployment.exec settings outcome)
    deployment

theorem terminates_expiryTimer_iff_halves (waits : 0 < settings.viewerConnectTimeoutMs) :
    deployment.Terminates settings outcome broken (expiryTimer settings instanceId) id ↔
      deployment.Terminates settings outcome broken
        (expiredRounds settings instanceId deployment) id ∨
      (∀ op ∈ (expiredRounds settings instanceId deployment).issuedAlone
        (Deployment.exec settings outcome) deployment, op.failsToStop broken = false) ∧
      (afterExpired settings outcome instanceId deployment).Terminates settings outcome broken
        (Program.forEach ((afterExpired settings outcome instanceId deployment).listSessions 500)
          (unviewedRound settings instanceId deployment.clock)) id := by
  have returns : (expiredRounds settings instanceId deployment).Returns :=
    Returns.forEach fun session _ => terminateSession_returns settings instanceId session _
  obtain ⟨result, returned⟩ := @Returns.resultAlone _ _ _ (Deployment.exec settings outcome) _
    deployment returns
  have halves : (expiryTimer settings instanceId).issuedUntil (Deployment.exec settings outcome)
      (Op.failsToStop broken) deployment =
        Op.sync .now :: Op.session (.listExpired deployment.clock) ::
          (expiredRounds settings instanceId deployment >>= fun _ =>
            onlyIf (0 < settings.viewerConnectTimeoutMs)
              (terminateUnviewed settings instanceId deployment.clock)).issuedUntil
                (Deployment.exec settings outcome) (Op.failsToStop broken) deployment := by
    cases deployment <;> rfl
  have second (later : Deployment) :
      (terminateUnviewed settings instanceId deployment.clock).issuedUntil
        (Deployment.exec settings outcome) (Op.failsToStop broken) later =
          Op.session (.listSessions 500) ::
            (Program.forEach (later.listSessions 500)
              (unviewedRound settings instanceId deployment.clock)).issuedUntil
                (Deployment.exec settings outcome) (Op.failsToStop broken) later := by
    cases later <;> rfl
  rw [Deployment.Terminates, halves, List.mem_cons, List.mem_cons, mem_issuedUntil_bind returned,
    onlyIf, if_pos waits, second]
  simp [Deployment.Terminates, afterExpired]

/-- A session that has expired does not end the second half: it is terminated, or its lock is
held. -/
theorem not_stopFails_afterExpired (reachable : deployment.Reachable settings)
    {expired other : Session} (listed : expired ∈ deployment.listExpired deployment.clock)
    (same : other.id = expired.id)
    (stored : (afterExpired settings outcome instanceId deployment).load other.id = some other) :
    ¬StopFails broken (afterExpired settings outcome instanceId deployment) other := by
  have shows := Deployment.shows_listExpired reachable deployment.clock
  have round := @isRound_terminateSession settings outcome broken instanceId "session expired"
  obtain ⟨earlier, later, split⟩ := List.append_of_mem listed
  have distinct := shows.distinct
  rw [split, List.map_append, List.map_cons] at distinct
  have first : expired.id ∉ earlier.map Session.id := fun member =>
    (List.nodup_append.mp distinct).2.2 _ member _ List.mem_cons_self rfl
  have last : expired.id ∉ later.map Session.id :=
    (List.nodup_cons.mp (List.nodup_append.mp distinct).2.1).1
  obtain ⟨reached, spared⟩ := round.spares reachable first
  obtain ⟨result, returned⟩ := @Returns.resultAlone _ _ _ (Deployment.exec settings outcome) _
    ((Program.forEach earlier fun session =>
      terminateSession settings instanceId session "session expired").stateAlone
        (Deployment.exec settings outcome) deployment) (round.returns expired)
  have behind := (round.spares (Deployment.reachable_stateAlone outcome reached
    (terminateSession settings instanceId expired "session expired")) last).2
  rw [afterExpired, expiredRounds, split,
    stateAlone_forEach_append fun other _ => round.returns other, Program.forEach,
    stateAlone_bind returned] at stored ⊢
  intro fails
  by_cases active : ¬expired.Terminated
  case pos =>
    have held := behind.locked.trans (locked_terminateSession active)
    rw [← same, fails.unlocked] at held
    cases held
  case neg =>
    have present := spared.load.trans (shows.stored expired listed)
    have kept := behind.load
    rw [← same, stored, terminateSession, if_pos (not_not.mp active)] at kept
    rw [same] at kept
    have present := kept.trans present
    cases present
    exact active fails.active

/-- The second half finds the sessions that have not expired as they were at the start. -/
theorem spares_afterExpired (reachable : deployment.Reachable settings)
    (unlisted : ∀ expired ∈ deployment.listExpired deployment.clock, expired.id ≠ id) :
    Deployment.Spares id deployment (afterExpired settings outcome instanceId deployment) := by
  have visits : (expiredRounds settings instanceId deployment).Issues (Op.VisitsOther id) :=
    Issues.forEach fun other listed => (terminateSession_issues settings instanceId other _).mono
      fun _ terminating => ⟨other, unlisted other listed, .inl terminating⟩
  exact (Deployment.spares_of_issues reachable visits).2

/-- The second half comes to a session that has not expired as if it began at the start. -/
theorem terminates_second_iff (reachable : deployment.Reachable settings)
    (due : DueUnviewed settings deployment id session)
    (unexpired : deployment.clock < session.expiresAt) :
    (afterExpired settings outcome instanceId deployment).Terminates settings outcome broken
      (Program.forEach ((afterExpired settings outcome instanceId deployment).listSessions 500)
        (unviewedRound settings instanceId deployment.clock)) id ↔
      deployment.newer session < 500 ∧
        ∀ otherId other, DueUnviewed settings deployment otherId other →
          deployment.clock < other.expiresAt → deployment.newer other < deployment.newer session →
            ¬StopFails broken deployment other := by
  have expired := Deployment.shows_listExpired reachable deployment.clock
  have spared {other : Session} {otherId : SessionId}
      (stored : deployment.load otherId = some other) (later : deployment.clock < other.expiresAt) :
      Deployment.Spares otherId deployment
        (afterExpired settings outcome instanceId deployment) := by
    refine spares_afterExpired reachable fun listed member same => ?_
    have again := expired.stored listed member
    rw [same, stored] at again
    cases again
    exact absurd ((expired.complete _ _ stored).2.mp member) later.not_ge
  have reached : (afterExpired settings outcome instanceId deployment).Reachable settings :=
    Deployment.reachable_stateAlone outcome reachable _
  have own := spared due.stored unexpired
  have stored := own.load.trans due.stored
  have shows := Deployment.shows_listSessions reached (by decide : 0 < 500)
  have loop := @terminates_forEach_iff settings outcome broken
    (afterExpired settings outcome instanceId deployment) id _ _ _
    (@isRound_onlyIf settings outcome broken instanceId (fun other =>
      other.viewerConnectedAt = none ∧
        other.createdAt + settings.viewerConnectTimeoutMs ≤ deployment.clock) _
          "viewer never connected") reached shows.distinct shows.stored
  rw [shows.split_iff stored, and_iff_right ⟨due.active, due.unviewed, due.late⟩,
    Deployment.split_listSessions_iff reached (by decide) stored] at loop
  simp only [own.newer] at loop
  refine loop.trans (and_congr_right fun shown => ⟨fun unhindered => ?_, fun unhindered => ?_⟩)
  · intro otherId other due later newer
    have spared := spared due.stored later
    obtain ⟨rfl, -⟩ := expired.complete _ _ due.stored
    rw [← StopFails.iff_of_spares spared]
    exact unhindered other.id other (spared.load.trans due.stored) newer
      ⟨due.active, due.unviewed, due.late⟩
  · intro otherId other present newer chosen
    obtain ⟨rfl, -⟩ := shows.complete _ _ present
    by_cases unlisted : ∀ listed ∈ deployment.listExpired deployment.clock, listed.id ≠ other.id
    case pos =>
      have spared : Deployment.Spares other.id deployment
          (afterExpired settings outcome instanceId deployment) :=
        spares_afterExpired reachable unlisted
      have before := spared.load.symm.trans present
      rw [StopFails.iff_of_spares spared]
      refine unhindered other.id other ⟨before, chosen.1, chosen.2.1, chosen.2.2⟩ ?_ newer
      rw [← not_le]
      exact fun late => unlisted other ((expired.complete _ _ before).2.mpr late) rfl
    case neg =>
      push Not at unlisted
      obtain ⟨listed, member, same⟩ := unlisted
      exact not_stopFails_afterExpired reachable member same.symm present

theorem terminates_expiryTimer_iff (reachable : deployment.Reachable settings)
    (waits : 0 < settings.viewerConnectTimeoutMs)
    (due : DueUnviewed settings deployment id session) :
    deployment.Terminates settings outcome broken (expiryTimer settings instanceId) id ↔
      ExpiryReaches settings broken deployment session := by
  have expired := Deployment.shows_listExpired reachable deployment.clock
  have listed := (expired.complete _ _ due.stored).2
  have round := @isRound_terminateSession settings outcome broken instanceId "session expired"
  have first := @terminates_forEach_iff settings outcome broken deployment id _ _ _ round
    reachable expired.distinct expired.stored
  have fine := @fine_forEach_iff settings outcome broken deployment _ _ _ round
    reachable expired.distinct expired.stored
  have fails (other : Session) : (¬other.Terminated → ¬StopFails broken deployment other) ↔
      ¬StopFails broken deployment other :=
    ⟨fun guarded fails => guarded fails.active fails, fun fine _ => fine⟩
  rw [expired.split_iff due.stored, and_iff_right due.active] at first
  rw [terminates_expiryTimer_iff_halves waits, expiredRounds, first, fine]
  simp only [fails]
  constructor
  · rintro (⟨earlier, later, split, unhindered⟩ | ⟨unhindered, second⟩)
    · exact .expired split unhindered
    · by_cases late : session.expiresAt ≤ deployment.clock
      · obtain ⟨earlier, later, split⟩ := List.append_of_mem (listed.mpr late)
        exact .expired split fun other member => unhindered other (by simp [split, member])
      · obtain ⟨shown, first⟩ := (terminates_second_iff reachable due (not_le.mp late)).mp second
        exact .unviewed (not_le.mp late) unhindered shown first
  · intro reaches
    cases reaches with
    | expired split unhindered => exact .inl ⟨_, _, split, unhindered⟩
    | unviewed unexpired unhindered shown first =>
        exact .inr ⟨unhindered, (terminates_second_iff reachable due unexpired).mpr ⟨shown, first⟩⟩

/-- A run of a timer terminates all due sessions exactly if few enough sessions (or, in Redis,
entries of sessions) are newer than each of them, and no stop fails before the run comes to them;
expired ones are terminated however many are newer. -/
theorem all_due_sessions_terminated_iff (settings : Settings) (outcome : LaunchOutcome)
    (broken : Option Worker → Bool) (instanceId : Nat) (deployment : Deployment)
    (reachable : deployment.Reachable settings) :
    ((∀ id session, DueIdle settings deployment id session →
        deployment.Terminates settings outcome broken (reapIdleSessions settings instanceId) id) ↔
      ∀ id session, DueIdle settings deployment id session →
        ReapReaches settings broken deployment session) ∧
    (0 < settings.viewerConnectTimeoutMs →
      ((∀ id session, DueUnviewed settings deployment id session →
          deployment.Terminates settings outcome broken (expiryTimer settings instanceId) id) ↔
        ∀ id session, DueUnviewed settings deployment id session →
          ExpiryReaches settings broken deployment session)) := by
  constructor
  · exact forall_congr' fun id => forall_congr' fun session => forall_congr' fun due =>
      terminates_reapIdleSessions_iff reachable due
  · exact fun waits => forall_congr' fun id => forall_congr' fun session =>
      forall_congr' fun due => terminates_expiryTimer_iff reachable waits due

end Timers

/-! ## A crowded store -/

/-- Settings in which viewers have to connect. -/
def reapingSettings : Settings :=
  { controlPlane.plainSettings with viewerConnectTimeoutMs := 100 }

/-- A session is created, its viewer is seen, and then other sessions are created. -/
def crowdedCalls : Nat → List (Nat × StoreCall)
  | 0 => [(0, .createSession 0 {}), (1, .call (.mutate 0 .markViewerSeen))]
  | count + 1 => crowdedCalls count ++ [(2, .createSession (count + 1) {})]

/-- The session whose viewer was seen. -/
def seenSession : Session := Session.markViewerSeen 1 (buildSession 0 0 1000 {})

theorem sessions_crowded (count : Nat) :
    MemorySessionStore.sessions
      ((memoryBackend reapingSettings.store).after (crowdedCalls count)).store =
        (0, seenSession) :: (List.range count).map fun index =>
          (index + 1, buildSession (index + 1) 2 1000 {}) := by
  induction count with
  | zero => rfl
  | succ count ih =>
      rw [crowdedCalls, SessionBackend.after_append, List.range_succ, List.map_append,
        ← List.cons_append, ← ih]
      have absent : count + 1 ∉ (MemorySessionStore.sessions
          ((memoryBackend reapingSettings.store).after (crowdedCalls count)).store).map
            Prod.fst := by
        rw [ih]
        simp
      exact MemorySessionStore.sessions_set_of_not_mem absent

def crowded : Deployment :=
  .memory ((memoryBackend reapingSettings.store).after (crowdedCalls 500)).store
    { State.initial with clock := 600 }

theorem dueIdle_crowded : DueIdle reapingSettings crowded 0 seenSession where
  stored := by
    simp only [crowded, Deployment.load, MemorySessionStore.lookup, sessions_crowded]
    rfl
  active := by decide
  idle := by decide

theorem newer_crowded : crowded.newer seenSession = 500 := by
  simp only [crowded, Deployment.newer, MemorySessionStore.newer, MemorySessionStore.creations,
    sessions_crowded, List.map_cons, List.map_map]
  refine Sorting.ahead_cons_self.trans ?_
  rw [List.countP_eq_length.mpr, List.length_map, List.length_range]
  intro creation listed
  obtain ⟨index, -, rfl⟩ := List.mem_map.mp listed
  simp [MemorySessionStore.Newer, seenSession, Session.markViewerSeen, buildSession]

theorem idle_session_behind_500_others_is_not_terminated :
    ¬∀ (settings : Settings) (outcome : LaunchOutcome) (instanceId : Nat)
      (deployment : Deployment), deployment.Reachable settings →
        (∀ id session, DueIdle settings deployment id session →
          deployment.Terminates settings outcome (fun _ => false)
            (reapIdleSessions settings instanceId) id) ∧
        (0 < settings.viewerConnectTimeoutMs →
          ∀ id session, DueUnviewed settings deployment id session →
            deployment.Terminates settings outcome (fun _ => false)
              (expiryTimer settings instanceId) id) := by
  intro claimed
  have reachable : crowded.Reachable reapingSettings := ⟨crowdedCalls 500, rfl⟩
  have passed := (claimed reapingSettings .succeeds 0 crowded reachable).1 0 seenSession
    dueIdle_crowded
  have shown := ((terminates_reapIdleSessions_iff reachable dueIdle_crowded).mp passed).shown
  rw [newer_crowded] at shown
  exact absurd shown (by decide)

/-- Session 0 is idle and has no worker; session 1 has a worker of the warm pool; session 2 has one
of its own, and another instance has begun to terminate it. -/
def uncrowdedCalls : List (Nat × StoreCall) :=
  crowdedCalls 2 ++
    [(3, .call (.mutate 1 (.setWorker (some (Worker.pooled 7))))),
      (3, .call (.mutate 2 (.setWorker (some ⟨.runtime .kubernetes, 8, none⟩)))),
      (599, .call (.acquireTerminationLock 2 30000))]

def uncrowded : Deployment :=
  .redis { State.initial with
    clock := 600
    store := ((redisBackend reapingSettings.store).after uncrowdedCalls).store }

theorem cases_uncrowded {id : SessionId} {session : Session}
    (stored : uncrowded.load id = some session) :
    600 < session.expiresAt ∧ ¬StopFails Option.isSome uncrowded session := by
  rcases id with _ | _ | _ | id
  · cases (show uncrowded.load 0 = some seenSession from rfl).symm.trans stored
    exact ⟨by decide, fun fails => absurd fails.fails (by decide)⟩
  · cases stored
    exact ⟨by decide, fun fails => absurd fails.own (by decide)⟩
  · cases stored
    exact ⟨by decide, fun fails => absurd fails.unlocked (by decide)⟩
  · cases (show uncrowded.load (id + 3) = none from rfl).symm.trans stored

/-- The stop of every worker would fail, and no run comes to one. -/
theorem due_sessions_of_uncrowded_store_terminated :
    (∃ session, DueIdle reapingSettings uncrowded 0 session) ∧
    (∃ session, DueUnviewed reapingSettings uncrowded 1 session) ∧
    uncrowded.Terminates reapingSettings .succeeds Option.isSome
      (reapIdleSessions reapingSettings 0) 0 ∧
    uncrowded.Terminates reapingSettings .succeeds Option.isSome
      (expiryTimer reapingSettings 0) 1 := by
  have few (session : Session) : uncrowded.newer session < 500 :=
    List.countP_le_length.trans_lt (by decide)
  have idle : DueIdle reapingSettings uncrowded 0 seenSession :=
    ⟨by rfl, by decide, by decide⟩
  have unviewed : ∃ session, DueUnviewed reapingSettings uncrowded 1 session :=
    ⟨_, by rfl, by decide, by decide, by decide⟩
  have reachable : uncrowded.Reachable reapingSettings := ⟨uncrowdedCalls, rfl⟩
  obtain ⟨reaped, expired⟩ := all_due_sessions_terminated_iff reapingSettings .succeeds
    Option.isSome 0 uncrowded reachable
  refine ⟨⟨_, idle⟩, unviewed, ?_, ?_⟩
  · refine reaped.mpr (fun _ session _ => ⟨few session, ?_⟩) 0 _ idle
    exact fun _ other due _ => (cases_uncrowded due.stored).2
  · refine (expired (by decide)).mpr (fun _ session due => ?_) 1 _ unviewed.choose_spec
    refine .unviewed (cases_uncrowded due.stored).1 ?_ (few session) ?_
    · exact fun other listed => (cases_uncrowded
        ((Deployment.shows_listExpired reachable _).stored other listed)).2
    · exact fun _ other due _ _ => (cases_uncrowded due.stored).2

end RemoteBrowser
