import RemoteBrowser.ControlPlane.State
import RemoteBrowser.Pool.Records

/-!
# Effects of one operation

Everything a single operation can do to the stored record of a session, to the
pool record of a worker and to the launch and stop logs.  Invariants of runs are
derived from these inversions; none of them looks into `State.exec` again.
-/

namespace RemoteBrowser

open Redis

/-! ## What an operation says about a session -/

namespace Op

/-- The sessions that an operation returned. -/
def observed : (op : Op) → op.Reply → List Session
  | .createSession _, created => [created]
  | .session (.get _), found => found.toList
  | .session (.mutate _ _), found => found.toList
  | .session (.listExpired _), sessions => sessions
  | .session (.listTerminated _ _), sessions => sessions
  | .session (.listSessions _), sessions => sessions
  | _, _ => []

/-- The state string that an operation stores for a session. -/
def storesState (id : SessionId) : Op → Option String
  | .session (.mutate other (.setState state)) => if other = id then some state else none
  | _ => none

end Op

/-! ## Stored sessions -/

namespace RedisSessionStore

variable {config : SessionStoreConfig} {now : Nat} {store : RedisSessionStore}

theorem eq_of_loadSession_saveSession {id : SessionId} {session found : Session}
    (loaded : (store.saveSession now id session).loadSession now id = some found) :
    found = session ∧ now < session.expiresAt := by
  simp only [loadSession, saveSession, Function.update_self, Entry.save] at loaded
  split at loaded
  · simp at loaded
  · next readable =>
      obtain ⟨entry, sameEntry, -, value⟩ := Entry.read_eq_some.mp loaded
      cases sameEntry
      exact ⟨value.symm, not_le.mp readable⟩

theorem loadSession_saveSession {id other : SessionId} {session found : Session}
    (loaded : (store.saveSession now id session).loadSession now other = some found) :
    store.loadSession now other = some found ∨
      other = id ∧ found = session ∧ now < session.expiresAt := by
  by_cases same : other = id
  · subst same
    exact .inr ⟨rfl, eq_of_loadSession_saveSession loaded⟩
  · left
    simpa [loadSession, saveSession, Function.update_of_ne same] using loaded

theorem loadSession_remove {id other : SessionId} {found : Session}
    (loaded : (store.remove id).loadSession now other = some found) :
    store.loadSession now other = some found := by
  by_cases same : other = id
  · simp [loadSession, RedisSessionStore.remove, same] at loaded
  · simpa [loadSession, RedisSessionStore.remove, Function.update_of_ne same] using loaded

/-- A readable session was readable before, or was just written. -/
theorem loadSession_exec {op : SessionOp} {id : SessionId} {found : Session}
    (loaded : (exec config now op store).1.loadSession now id = some found) :
    store.loadSession now id = some found ∨
    (∃ mutation session, op = .mutate id mutation ∧
      store.loadSession now id = some session ∧ found = mutation.apply now session) ∨
    (∃ role owner session, op = .releaseSocketOwnership id role owner ∧
      store.loadSession now id = some session ∧
      found = session.releaseSocketOwnership now role) := by
  cases op with
  | mutate other mutation =>
      cases present : store.loadSession now other with
      | none =>
          simp only [exec, runSessionMutation, present] at loaded
          exact .inl loaded
      | some session =>
          simp only [exec, runSessionMutation, present] at loaded
          rcases loadSession_saveSession loaded with kept | ⟨rfl, rfl, -⟩
          · exact .inl kept
          · exact .inr (.inl ⟨mutation, session, rfl, present, rfl⟩)
  | releaseSocketOwnership other role owner =>
      cases present : store.loadSession now other with
      | none =>
          simp only [exec, releaseSocketOwnership, present] at loaded
          exact .inl loaded
      | some session =>
          simp only [exec, releaseSocketOwnership, present] at loaded
          split at loaded
          · rcases loadSession_saveSession loaded with kept | ⟨rfl, rfl, -⟩
            · exact .inl kept
            · exact .inr (.inr ⟨role, owner, session, rfl, present, rfl⟩)
          · exact .inl loaded
  | addPendingSignal other role payload =>
      simp only [exec, addPendingSignal] at loaded
      split at loaded <;> exact .inl loaded
  | acquireTerminationLock other ttlMs =>
      simp only [exec, acquireTerminationLock] at loaded
      split at loaded <;> exact .inl loaded
  | remove other => exact .inl (loadSession_remove loaded)
  | _ => exact .inl loaded

end RedisSessionStore

/-- How much time passes during a synchronous stretch. -/
def SyncOp.elapsed : SyncOp → Nat
  | .elapse ms => ms
  | _ => 0

namespace State

variable {settings : Settings} {outcome : LaunchOutcome} {state : State}

/-- Synchronous code leaves both stores and both logs alone. -/
structure SyncFrame (elapsed : Nat) (before after : State) : Prop where
  store : after.store = before.store
  pool : after.pool = before.pool
  nextSessionId : after.nextSessionId = before.nextSessionId
  nextWorkerId : after.nextWorkerId = before.nextWorkerId
  launched : after.launched = before.launched
  stopped : after.stopped = before.stopped
  clock : after.clock = before.clock + elapsed

theorem SyncFrame.refl (state : State) : SyncFrame 0 state state :=
  ⟨rfl, rfl, rfl, rfl, rfl, rfl, rfl⟩

theorem SyncFrame.trans {first second third : State} (before : SyncFrame 0 first second)
    (behind : SyncFrame 0 second third) : SyncFrame 0 first third :=
  ⟨behind.store.trans before.store, behind.pool.trans before.pool,
    behind.nextSessionId.trans before.nextSessionId,
    behind.nextWorkerId.trans before.nextWorkerId,
    behind.launched.trans before.launched, behind.stopped.trans before.stopped,
    behind.clock.trans before.clock⟩

theorem dismissLocalSocket_frame (state : State) (instanceId : Nat) (id : SessionId)
    (role : Role) : SyncFrame 0 state (state.dismissLocalSocket instanceId id role) := by
  unfold dismissLocalSocket
  split <;> exact ⟨rfl, rfl, rfl, rfl, rfl, rfl, rfl⟩

theorem send_frame (state : State) (connection : Connection) (message : Sent) :
    SyncFrame 0 state (state.send connection message) := by
  unfold send
  split <;> exact ⟨rfl, rfl, rfl, rfl, rfl, rfl, rfl⟩

theorem execSync_frame (op : SyncOp) (state : State) :
    SyncFrame op.elapsed state (execSync op state).1 := by
  cases op with
  | accept connection path cookies =>
      simp only [execSync]
      split <;> exact ⟨rfl, rfl, rfl, rfl, rfl, rfl, rfl⟩
  | adoptPoolSocket connection workerId =>
      simp only [execSync]
      split
      · split <;> exact ⟨rfl, rfl, rfl, rfl, rfl, rfl, rfl⟩
      · exact ⟨rfl, rfl, rfl, rfl, rfl, rfl, rfl⟩
  | clearLocalSocket connection id role =>
      simp only [execSync, State.clearLocalSocket]
      split <;> exact ⟨rfl, rfl, rfl, rfl, rfl, rfl, rfl⟩
  | clearLocalPoolSocket connection workerId =>
      simp only [execSync, State.clearLocalPoolSocket]
      split <;> exact ⟨rfl, rfl, rfl, rfl, rfl, rfl, rfl⟩
  | dismissSockets instanceId id =>
      exact (dismissLocalSocket_frame state instanceId id .viewer).trans
        (dismissLocalSocket_frame _ instanceId id .worker)
  | sendSignal connection id role payload => exact send_frame ..
  | sendSignals connection id role payloads =>
      simp only [execSync]
      split <;> exact ⟨rfl, rfl, rfl, rfl, rfl, rfl, rfl⟩
  | sendAssignment connection workerId payload => exact send_frame ..
  | sendNotice connection notice => exact send_frame ..
  | fireDisconnectTimer instanceId id role =>
      simp only [execSync, State.fireDisconnectTimer]
      split
      · exact .refl state
      · split <;> exact ⟨rfl, rfl, rfl, rfl, rfl, rfl, rfl⟩
  | closeEvent connection =>
      simp only [execSync]
      split
      · exact .refl state
      · split <;> exact ⟨rfl, rfl, rfl, rfl, rfl, rfl, rfl⟩
  | elapse ms => exact ⟨rfl, rfl, rfl, rfl, rfl, rfl, rfl⟩
  | _ => exact ⟨rfl, rfl, rfl, rfl, rfl, rfl, rfl⟩

end State

/-- Time can only make a session unreadable. -/
theorem RedisSessionStore.loadSession_of_later {store : RedisSessionStore}
    {now later : Nat} {id : SessionId} {session : Session} (order : now ≤ later)
    (loaded : store.loadSession later id = some session) :
    store.loadSession now id = some session := by
  obtain ⟨entry, slot, live, value⟩ := Entry.read_eq_some.mp loaded
  exact Entry.read_eq_some.mpr
    ⟨entry, slot, fun time expires => order.trans (live time expires), value⟩

namespace State

variable {settings : Settings} {outcome : LaunchOutcome} {state : State}

/-- What one operation can do to a stored session: it is the same record as
before, a mutation of it, or the record of a session created just now. -/
inductive Rewrites (state : State) (id : SessionId) (found : Session) : Op → Prop where
  | kept {op : Op} (same : state.stored id = some found) : Rewrites state id found op
  | mutated {mutation : SessionMutation} {session : Session}
      (before : state.stored id = some session)
      (result : found = mutation.apply state.clock session) :
      Rewrites state id found (.session (.mutate id mutation))
  | released {role : Role} {owner : Connection} {session : Session}
      (before : state.stored id = some session)
      (result : found = session.releaseSocketOwnership state.clock role) :
      Rewrites state id found (.session (.releaseSocketOwnership id role owner))
  | created {input : SessionInput} (ttlMs : Nat) (fresh : id = state.nextSessionId)
      (result : found = buildSession id state.clock ttlMs input)
      (readable : state.clock < found.expiresAt) :
      Rewrites state id found (.createSession input)

theorem stored_exec {op : Op} {id : SessionId} {found : Session}
    (stored : (exec settings outcome op state).1.stored id = some found) :
    Rewrites state id found op := by
  cases op with
  | createSession input =>
      rcases RedisSessionStore.loadSession_saveSession stored with
        kept | ⟨rfl, rfl, readable⟩
      · exact .kept kept
      · exact .created settings.store.sessionTtlMs rfl rfl readable
  | session op =>
      rcases RedisSessionStore.loadSession_exec stored with
        kept | ⟨mutation, session, rfl, before, rfl⟩ |
        ⟨role, owner, session, rfl, before, rfl⟩
      · exact .kept kept
      · exact .mutated before rfl
      · exact .released before rfl
  | sync op =>
      have frame := execSync_frame op state
      refine .kept (RedisSessionStore.loadSession_of_later
        (frame.clock ▸ Nat.le_add_right ..) ?_)
      rw [← frame.store]
      exact stored
  | launch session => cases outcome <;> exact .kept stored
  | _ => exact .kept stored

/-- The state string of a stored session is the old one, the one that the operation
stores, or that of a new session. -/
theorem Rewrites.state_cases {op : Op} {id : SessionId} {found : Session}
    (rewrites : Rewrites state id found op) :
    (∃ session, state.stored id = some session ∧ found.state = session.state) ∨
    op = .session (.mutate id (.setState found.state)) ∨
    id = state.nextSessionId ∧ found.state = "allocating" := by
  cases rewrites with
  | kept same => exact .inl ⟨found, same, rfl⟩
  | @mutated mutation session before result =>
      subst result
      cases mutation with
      | setState stored => exact .inr (.inl rfl)
      | claimSocketOwnership role owner => exact .inl ⟨session, before, by cases role <;> rfl⟩
      | _ => exact .inl ⟨session, before, rfl⟩
  | @released role owner session before result =>
      subst result
      exact .inl ⟨session, before, by cases role <;> rfl⟩
  | created ttlMs fresh result => exact .inr (.inr ⟨fresh, by rw [result]; rfl⟩)

/-- The worker of a stored session is the old one or the one that the operation
stores, unless the session is new. -/
theorem Rewrites.worker_cases {op : Op} {id : SessionId} {found : Session}
    (rewrites : Rewrites state id found op) :
    (∃ session, state.stored id = some session ∧ found.worker = session.worker) ∨
    op = .session (.mutate id (.setWorker found.worker)) ∨
    id = state.nextSessionId := by
  cases rewrites with
  | kept same => exact .inl ⟨found, same, rfl⟩
  | @mutated mutation session before result =>
      subst result
      cases mutation with
      | setWorker worker => exact .inr (.inl rfl)
      | claimSocketOwnership role owner => exact .inl ⟨session, before, by cases role <;> rfl⟩
      | _ => exact .inl ⟨session, before, rfl⟩
  | @released role owner session before result =>
      subst result
      exact .inl ⟨session, before, by cases role <;> rfl⟩
  | created ttlMs fresh => exact .inr (.inr fresh)

/-- The generation of a stored session is the old one, unless the operation raises it
or the session is new. -/
theorem Rewrites.generation_cases {op : Op} {id : SessionId} {found : Session}
    (rewrites : Rewrites state id found op) :
    (∃ session, state.stored id = some session ∧ found.generation = session.generation) ∨
    (∃ session, op = .session (.mutate id .incrementGeneration) ∧
      state.stored id = some session ∧ found.generation = session.generation + 1) ∨
    id = state.nextSessionId := by
  cases rewrites with
  | kept same => exact .inl ⟨found, same, rfl⟩
  | @mutated mutation session before result =>
      subst result
      cases mutation with
      | incrementGeneration =>
          refine .inr (.inl ⟨session, rfl, before, ?_⟩)
          exact congrArg (· + 1) (Session.generationOrOne_eq session)
      | claimSocketOwnership role owner => exact .inl ⟨session, before, by cases role <;> rfl⟩
      | _ => exact .inl ⟨session, before, rfl⟩
  | @released role owner session before result =>
      subst result
      exact .inl ⟨session, before, by cases role <;> rfl⟩
  | created ttlMs fresh => exact .inr (.inr fresh)

/-- The owner of one end of a stored session is the old one or the one that the
operation claims it for, unless there is none. -/
theorem Rewrites.owner_cases {op : Op} {id : SessionId} {found : Session}
    (rewrites : Rewrites state id found op) (role : Role) :
    (∃ session, state.stored id = some session ∧
      found.socketOwner role = session.socketOwner role) ∨
    (∃ owner, op = .session (.mutate id (.claimSocketOwnership role owner)) ∧
      found.socketOwner role = some owner) ∨
    found.socketOwner role = none := by
  cases rewrites with
  | kept same => exact .inl ⟨found, same, rfl⟩
  | @mutated mutation session before result =>
      subst result
      cases mutation with
      | claimSocketOwnership target owner =>
          cases role <;> cases target <;>
            first
              | exact .inl ⟨session, before, rfl⟩
              | exact .inr (.inl ⟨owner, rfl, rfl⟩)
      | _ => exact .inl ⟨session, before, by cases role <;> rfl⟩
  | @released target owner session before result =>
      subst result
      cases role <;> cases target <;>
        first
          | exact .inr (.inr rfl)
          | exact .inl ⟨session, before, rfl⟩
  | created ttlMs fresh result => exact .inr (.inr (by rw [result]; cases role <;> rfl))

/-- The owner of one end of a session stays the owner as long as no other claims that end
and it is not released itself. -/
theorem owner_exec {op : Op} {id : SessionId} {role : Role} {owner : Connection}
    (drawn : id < state.nextSessionId)
    (owned : ∀ session, state.stored id = some session → session.socketOwner role = some owner)
    (unclaimed : ∀ other, op = .session (.mutate id (.claimSocketOwnership role other)) →
      other = owner)
    (unreleased : op ≠ .session (.releaseSocketOwnership id role owner)) :
    ∀ found, (exec settings outcome op state).1.stored id = some found →
      found.socketOwner role = some owner := by
  intro found stored
  cases stored_exec stored with
  | kept same => exact owned found same
  | @mutated mutation session before result =>
      subst result
      cases mutation with
      | claimSocketOwnership target other =>
          by_cases same : target = role
          · subst same
            rw [← unclaimed other rfl]
            cases target <;> rfl
          · have kept := owned session before
            cases role <;> cases target <;> first | exact absurd rfl same | exact kept
      | _ => exact owned session before
  | @released target other session before result =>
      have kept := owned session before
      by_cases same : target = role
      · subst same
        have different : other ≠ owner := by
          rintro rfl
          exact unreleased rfl
        have loaded : state.store.loadSession state.clock id = some session := before
        have refused : ¬session.socketOwner target = some other := by
          rw [kept]
          exact fun owns => different (Option.some.inj owns).symm
        simp only [State.stored, exec, RedisSessionStore.exec,
          RedisSessionStore.releaseSocketOwnership, loaded, if_neg refused] at stored
        cases stored
        exact kept
      · subst result
        cases role <;> cases target <;> first | exact absurd rfl same | exact kept
  | created _ fresh => exact absurd fresh (Nat.ne_of_lt drawn)

/-- A session that is readable after a mutation is the mutated one. -/
theorem stored_mutate {id : SessionId} {mutation : SessionMutation} {found : Session}
    (stored : (exec settings outcome (.session (.mutate id mutation)) state).1.stored id =
      some found) :
    ∃ session, state.stored id = some session ∧ found = mutation.apply state.clock session := by
  simp only [State.stored, exec, RedisSessionStore.exec, RedisSessionStore.runSessionMutation]
    at stored
  split at stored
  · next absent => cases absent.symm.trans stored
  · next session present =>
      exact ⟨session, present, (RedisSessionStore.eq_of_loadSession_saveSession stored).1⟩

/-- New sessions get the next identifier; identifiers are never drawn twice. -/
theorem nextSessionId_exec (op : Op) :
    state.nextSessionId ≤ (exec settings outcome op state).1.nextSessionId := by
  cases op with
  | createSession input => exact Nat.le_succ _
  | sync op => exact (execSync_frame op state).nextSessionId.ge
  | launch session => cases outcome <;> exact le_rfl
  | _ => exact le_rfl

/-- Every session is stored under its own identifier, which was drawn. -/
def IdsDrawn (state : State) : Prop :=
  ∀ id session, state.stored id = some session →
    session.id = id ∧ id < state.nextSessionId

theorem IdsDrawn.exec (drawn : state.IdsDrawn) (op : Op) :
    (exec settings outcome op state).1.IdsDrawn := by
  intro id found stored
  have later : state.nextSessionId ≤ (State.exec settings outcome op state).1.nextSessionId :=
    nextSessionId_exec op
  cases stored_exec stored with
  | kept same => exact ⟨(drawn id found same).1, (drawn id found same).2.trans_le later⟩
  | mutated before result =>
      obtain ⟨same, bound⟩ := drawn id _ before
      exact ⟨by rw [result, SessionMutation.apply_id, same], bound.trans_le later⟩
  | @released role owner session before result =>
      obtain ⟨same, bound⟩ := drawn id _ before
      exact ⟨by rw [result, ← same]; cases role <;> rfl, bound.trans_le later⟩
  | created _ fresh result =>
      exact ⟨by rw [result]; rfl, fresh ▸ Nat.lt_succ_self _⟩

theorem initial_idsDrawn : initial.IdsDrawn :=
  fun _ _ stored => by simp [State.stored, initial, RedisSessionStore.empty,
    RedisSessionStore.loadSession] at stored

/-- Listed sessions are stored. -/
theorem stored_of_listed (drawn : state.IdsDrawn) {limit : Nat} {session : Session}
    (listed : session ∈ state.store.listSessions state.clock limit) :
    state.stored session.id = some session := by
  obtain ⟨id, -, loaded⟩ := List.mem_filterMap.mp listed
  rw [(drawn id session loaded).1]
  exact loaded

end State

/-! ## Sessions that stay stored -/

def Op.Terminates (id : SessionId) (op : Op) : Prop :=
  op = .session (.mutate id (.setState "terminated"))

/-- The operation neither removes the session, nor moves its expiry, nor lets time
pass. -/
def Op.Retains (id : SessionId) : Op → Prop
  | .session (.remove other) => other ≠ id
  | .session (.mutate other (.update patch)) => other = id → patch.expiresAt = none
  | .sync (.elapse _) => False
  | _ => True

namespace RedisSessionStore

variable {config : SessionStoreConfig} {now : Nat} {store : RedisSessionStore}

theorem loadSession_saveSession_self {id : SessionId} {session : Session}
    (unexpired : now < session.expiresAt) :
    (store.saveSession now id session).loadSession now id = some session := by
  simp only [loadSession, saveSession, Function.update_self]
  exact (Entry.read_save now now session.expiresAt session).mpr ⟨unexpired, unexpired.le⟩

theorem loadSession_saveSession_of_ne {id other : SessionId} (session : Session)
    (different : other ≠ id) :
    (store.saveSession now id session).loadSession now other =
      store.loadSession now other := by
  simp [loadSession, saveSession, Function.update_of_ne different]

end RedisSessionStore

namespace State

variable {settings : Settings} {outcome : LaunchOutcome} {state : State}

/-- The stored session has not reached its expiry. -/
def Unexpired (id : SessionId) (state : State) : Prop :=
  ∀ session, state.stored id = some session → state.clock < session.expiresAt

theorem clock_exec {op : Op} {id : SessionId} (retains : op.Retains id) :
    (exec settings outcome op state).1.clock = state.clock := by
  cases op with
  | sync op =>
      have frame := execSync_frame op state
      cases op with
      | elapse ms => exact retains.elim
      | _ => exact frame.clock
  | launch session => cases outcome <;> rfl
  | _ => rfl

theorem Rewrites.unexpired {op : Op} {id : SessionId} {found : Session}
    (rewrites : Rewrites state id found op) (retains : op.Retains id)
    (unexpired : state.Unexpired id) : state.clock < found.expiresAt := by
  cases rewrites with
  | kept same => exact unexpired found same
  | @mutated mutation session before result =>
      subst result
      cases mutation with
      | update patch =>
          change state.clock < patch.expiresAt.getD session.expiresAt
          rw [retains rfl]
          exact unexpired session before
      | claimSocketOwnership role owner =>
          cases role <;> exact unexpired session before
      | _ => exact unexpired session before
  | @released role owner session before result =>
      subst result
      cases role <;> exact unexpired session before
  | created ttlMs fresh result readable => exact readable

theorem Unexpired.exec {op : Op} {id : SessionId} (unexpired : state.Unexpired id)
    (retains : op.Retains id) : (exec settings outcome op state).1.Unexpired id := by
  intro found stored
  rw [clock_exec retains]
  exact (stored_exec stored).unexpired retains unexpired

/-- An unexpired session that is not removed stays stored. -/
theorem isSome_stored_exec {op : Op} {id : SessionId} (retains : op.Retains id)
    (drawn : id < state.nextSessionId) (unexpired : state.Unexpired id)
    (present : (state.stored id).isSome) :
    ((exec settings outcome op state).1.stored id).isSome := by
  obtain ⟨session, stored⟩ := Option.isSome_iff_exists.mp present
  -- writing a record under another key leaves this one alone
  have elsewhere (other : SessionId) (written : Session) (different : id ≠ other) :
      ((state.store.saveSession state.clock other written).loadSession state.clock
        id).isSome := by
    rw [RedisSessionStore.loadSession_saveSession_of_ne written different]
    exact present
  cases op with
  | createSession input => exact elsewhere _ _ drawn.ne
  | session op =>
      cases op with
      | mutate other mutation =>
          simp only [exec, RedisSessionStore.exec, RedisSessionStore.runSessionMutation]
          split
          · exact present
          · next changed loaded =>
              by_cases same : id = other
              · subst same
                have later := (Rewrites.mutated loaded rfl).unexpired retains unexpired
                exact Option.isSome_of_eq_some
                  (RedisSessionStore.loadSession_saveSession_self later)
              · exact elsewhere _ _ same
      | releaseSocketOwnership other role owner =>
          simp only [exec, RedisSessionStore.exec, RedisSessionStore.releaseSocketOwnership]
          split
          · exact present
          · next changed loaded =>
              split
              · by_cases same : id = other
                · subst same
                  have rewritten : Rewrites state id _
                      (.session (.releaseSocketOwnership id role owner)) :=
                    .released loaded rfl
                  have later := rewritten.unexpired retains unexpired
                  exact Option.isSome_of_eq_some
                    (RedisSessionStore.loadSession_saveSession_self later)
                · exact elsewhere _ _ same
              · exact present
      | addPendingSignal other role payload =>
          simp only [exec, RedisSessionStore.exec, RedisSessionStore.addPendingSignal]
          split <;> exact present
      | acquireTerminationLock other ttlMs =>
          simp only [exec, RedisSessionStore.exec, RedisSessionStore.acquireTerminationLock]
          split <;> exact present
      | remove other =>
          simp only [exec, RedisSessionStore.exec, State.stored,
            RedisSessionStore.loadSession, RedisSessionStore.remove,
            Function.update_of_ne (Ne.symm retains)]
          exact present
      | _ => exact present
  | sync op =>
      have frame := execSync_frame op state
      have still : (exec settings outcome (.sync op) state).1.clock = state.clock :=
        clock_exec retains
      rw [State.stored, still]
      simp only [exec, frame.store]
      exact present
  | launch session => cases outcome <;> exact present
  | _ => exact present

end State

/-! ## Launched and stopped workers -/

/-- The worker that an operation launched for a session. -/
def Op.launches (id : SessionId) : (op : Op) → op.Reply → Option Worker
  | .launch requester, .ok worker => if requester.id = id then some worker else none
  | _, _ => none

theorem Op.launches_eq_some {id : SessionId} {op : Op} {reply : op.Reply} {worker : Worker}
    (launches : op.launches id reply = some worker) :
    ∃ requester, op = .launch requester ∧ requester.id = id := by
  unfold Op.launches at launches
  split at launches
  · next requester _ =>
      split at launches
      · next same => exact ⟨requester, rfl, same⟩
      · simp at launches
  · simp at launches

namespace State

variable {settings : Settings} {outcome : LaunchOutcome} {state : State}

/-- A launch returns a worker of the configured runtime, which is not pooled. -/
theorem launched_exec {op : Op} {id : SessionId} {worker : Worker}
    (launched : (id, worker) ∈ (exec settings outcome op state).1.launched) :
    (id, worker) ∈ state.launched ∨
      op.launches id (exec settings outcome op state).2 = some worker ∧
        ¬Worker.IsWarmPool (some worker) := by
  cases op with
  | launch session =>
      cases outcome with
      | fails message => exact .inl launched
      | succeeds =>
          rcases List.mem_append.mp launched with old | new
          · exact .inl old
          · cases List.mem_singleton.mp new
            exact .inr ⟨if_pos rfl, by simp [Worker.IsWarmPool]⟩
  | sync op => exact .inl ((execSync_frame op state).launched ▸ launched)
  | _ => exact .inl launched

theorem stopped_exec {op : Op} {worker : Option Worker}
    (stopped : worker ∈ state.stopped) :
    worker ∈ (exec settings outcome op state).1.stopped := by
  cases op with
  | stop other => exact List.mem_append_left _ stopped
  | sync op => exact (execSync_frame op state).stopped ▸ stopped
  | launch session => cases outcome <;> exact stopped
  | _ => exact stopped

/-! ## Pool records -/

/-- Every pool record is stored under its own identifier. -/
def PoolKeyed (state : State) : Prop := state.pool.Keyed state.clock

/-- A readable pool record was readable before, or a pool script wrote it. -/
theorem poolWorker_exec {op : Op} {workerId : PoolWorkerId} {found : PoolWorker}
    (keyed : state.PoolKeyed)
    (loaded : (exec settings outcome op state).1.poolWorker workerId = some found) :
    state.poolWorker workerId = some found ∨
      ∃ script, op = .pool script ∧
        RedisWorkerPool.Rewrites state.clock state.pool workerId found script := by
  cases op with
  | pool script => exact .inr ⟨script, rfl, RedisWorkerPool.rewrites_exec keyed loaded⟩
  | sync op =>
      left
      have frame := execSync_frame op state
      obtain ⟨entry, slot, live, value⟩ := Entry.read_eq_some.mp loaded
      refine Entry.read_eq_some.mpr ⟨entry, frame.pool ▸ slot, fun time expires => ?_, value⟩
      have later := live time expires
      change (execSync op state).1.clock ≤ time at later
      rw [frame.clock] at later
      omega
  | launch requester => cases outcome <;> exact .inl loaded
  | _ => exact .inl loaded

theorem PoolKeyed.exec (keyed : state.PoolKeyed) (op : Op) :
    (exec settings outcome op state).1.PoolKeyed := by
  intro workerId found loaded
  rcases poolWorker_exec keyed loaded with before | ⟨script, rfl, -⟩
  · exact keyed workerId found before
  · exact RedisWorkerPool.Keyed.exec keyed workerId found loaded

theorem initial_poolKeyed : initial.PoolKeyed :=
  fun _ _ loaded => by simp [initial, RedisWorkerPool.empty, RedisWorkerPool.loadWorker] at loaded

/-! ## Sockets -/

/-- The socket is the same, except that it may have left `OPEN`. -/
def MayLeave (before after : Option Socket) : Prop :=
  after = before ∨ after = before.map fun socket => { socket with isOpen := false }

theorem MayLeave.trans {first second third : Option Socket} (before : MayLeave first second)
    (behind : MayLeave second third) : MayLeave first third := by
  rcases before with rfl | rfl
  · exact behind
  · rcases behind with rfl | rfl
    · exact .inr rfl
    · right
      cases first <;> rfl

theorem mayLeave_closeSocket (connection other : Connection) :
    MayLeave (state.sockets connection) ((state.closeSocket other).sockets connection) := by
  by_cases same : connection = other
  · subst same
    exact .inr (Function.update_self ..)
  · exact .inl (Function.update_of_ne same ..)

theorem mayLeave_dismissLocalSocket (connection : Connection) (instanceId : Nat)
    (id : SessionId) (role : Role) :
    MayLeave (state.sockets connection)
      ((state.dismissLocalSocket instanceId id role).sockets connection) := by
  unfold dismissLocalSocket
  split
  · exact .inl rfl
  · exact mayLeave_closeSocket ..

/-- What one operation can do to a socket. -/
inductive SocketStep (connection : Connection) : Op → Option Socket → Option Socket → Prop where
  | left {op : Op} {before after : Option Socket} (leaves : MayLeave before after) :
      SocketStep connection op before after
  | accepted {path : SocketPath} {cookies : List (SessionId × Token)} :
      SocketStep connection (.sync (.accept connection path cookies)) none
        (some { path := path, cookies := cookies })
  | registered {binding : Binding} {socket : Socket} :
      SocketStep connection (.sync (.registerSession connection binding)) (some socket)
        (some { socket with
          registration := { socket.registration with session := some binding } })
  | poolRegistered {workerId : PoolWorkerId} {socket : Socket} :
      SocketStep connection (.sync (.registerPoolWorker connection workerId)) (some socket)
        (some { socket with
          registration := { socket.registration with poolWorkerId := some workerId } })
  | closed {socket : Socket} (left : socket.isOpen = false) :
      SocketStep connection (.sync (.closeEvent connection)) (some socket)
        (some { socket with closed := true })

theorem SocketStep.kept {connection : Connection} {op : Op} {socket : Option Socket} :
    SocketStep connection op socket socket := .left (.inl rfl)

theorem socketStep_modifySocket {op : Op} {connection other : Connection}
    {change : Socket → Socket}
    (changes : connection = other → ∀ socket, state.sockets connection = some socket →
      SocketStep connection op (some socket) (some (change socket))) :
    SocketStep connection op (state.sockets connection)
      ((state.modifySocket other change).sockets connection) := by
  by_cases same : connection = other
  · subst same
    simp only [State.modifySocket, Function.update_self]
    cases found : state.sockets connection with
    | none => exact .kept
    | some socket => exact changes rfl socket found
  · simp only [State.modifySocket, Function.update_of_ne same]
    exact .kept

/-- Inversion for sockets. -/
theorem socketStep_exec (op : Op) (connection : Connection) :
    SocketStep connection op (state.sockets connection)
      ((exec settings outcome op state).1.sockets connection) := by
  cases op with
  | launch session => cases outcome <;> exact .kept
  | sync op =>
      simp only [exec]
      cases op with
      | accept other path cookies =>
          simp only [execSync]
          split
          · exact .kept
          · next absent =>
              by_cases same : connection = other
              · subst same
                simp only [absent, Function.update_self]
                exact .accepted
              · simp only [Function.update_of_ne same]
                exact .kept
      | registerSession other binding =>
          apply socketStep_modifySocket
          rintro rfl socket -
          exact .registered
      | registerPoolWorker other workerId =>
          apply socketStep_modifySocket
          rintro rfl socket -
          exact .poolRegistered
      | adoptPoolSocket other workerId =>
          simp only [execSync]
          split
          · split
            · exact .kept
            · exact .left (mayLeave_closeSocket ..)
          · exact .kept
      | clearLocalSocket other id role =>
          simp only [execSync, State.clearLocalSocket]
          split <;> exact .kept
      | clearLocalPoolSocket other workerId =>
          simp only [execSync, State.clearLocalPoolSocket]
          split <;> exact .kept
      | closeSocket other => exact .left (mayLeave_closeSocket ..)
      | peerClosing other => exact .left (mayLeave_closeSocket ..)
      | dismissSockets instanceId id =>
          exact .left ((mayLeave_dismissLocalSocket ..).trans (mayLeave_dismissLocalSocket ..))
      | sendSignal other id role payload =>
          simp only [execSync, send]
          split <;> exact .kept
      | sendSignals other id role payloads =>
          simp only [execSync]
          split <;> exact .kept
      | sendAssignment other workerId payload =>
          simp only [execSync, send]
          split <;> exact .kept
      | sendNotice other notice =>
          simp only [execSync, send]
          split <;> exact .kept
      | fireDisconnectTimer instanceId id role =>
          simp only [execSync, State.fireDisconnectTimer]
          split
          · exact .kept
          · split <;> exact .kept
      | closeEvent other =>
          simp only [execSync]
          split
          · exact .kept
          · next socket found =>
              split
              · exact .kept
              · next delivered =>
                  apply socketStep_modifySocket
                  rintro rfl changed located
                  cases found.symm.trans located
                  apply SocketStep.closed
                  simpa using fun isOpen => delivered (.inl isOpen)
      | _ => exact .kept
  | _ => exact .kept

/-- A socket that left `OPEN` does not open again. -/
theorem isOpen_of_exec {op : Op} {connection : Connection} {socket : Socket}
    (found : state.sockets connection = some socket) (left : socket.isOpen = false) :
    ∃ after, (exec settings outcome op state).1.sockets connection = some after ∧
      after.isOpen = false := by
  have step : SocketStep connection op (state.sockets connection)
    ((exec settings outcome op state).1.sockets connection) := socketStep_exec op connection
  rw [found] at step
  generalize (exec settings outcome op state).1.sockets connection = after at step
  cases step with
  | left leaves =>
      rcases leaves with rfl | rfl
      · exact ⟨socket, rfl, left⟩
      · exact ⟨_, rfl, rfl⟩
  | registered => exact ⟨_, rfl, left⟩
  | poolRegistered => exact ⟨_, rfl, left⟩
  | closed => exact ⟨_, rfl, left⟩

/-- Sockets do not vanish. -/
theorem sockets_of_exec {op : Op} {connection : Connection}
    (absent : (exec settings outcome op state).1.sockets connection = none) :
    state.sockets connection = none := by
  have step : SocketStep connection op (state.sockets connection)
    ((exec settings outcome op state).1.sockets connection) := socketStep_exec op connection
  rw [absent] at step
  generalize state.sockets connection = before at step
  cases step with
  | left leaves =>
      rcases leaves with same | same
      · exact same.symm
      · exact Option.map_eq_none_iff.mp same.symm

/-- The pool worker that a socket registered. -/
def poolWorkerOf (state : State) (connection : Connection) : Option PoolWorkerId :=
  (state.sockets connection).bind fun socket => socket.registration.poolWorkerId

/-- A socket becomes a pool worker's only by its registration. -/
theorem poolWorkerOf_exec {op : Op} {connection : Connection}
    (registers : ∀ workerId, op ≠ .sync (.registerPoolWorker connection workerId)) :
    (exec settings outcome op state).1.poolWorkerOf connection =
      state.poolWorkerOf connection := by
  have step : SocketStep connection op (state.sockets connection)
    ((exec settings outcome op state).1.sockets connection) := socketStep_exec op connection
  unfold poolWorkerOf
  generalize (exec settings outcome op state).1.sockets connection = after at step
  generalize state.sockets connection = before at step
  cases step with
  | left leaves =>
      rcases leaves with rfl | rfl
      · rfl
      · cases before <;> rfl
  | accepted => rfl
  | registered => rfl
  | @poolRegistered workerId => exact absurd rfl (registers workerId)
  | closed => rfl

/-- The registration that a handler reads of a socket names its pool worker. -/
theorem poolWorkerId_registration (connection : Connection) :
    (exec settings outcome (.sync (.registration connection)) state).2.poolWorkerId =
      state.poolWorkerOf connection := by
  simp only [exec, execSync, poolWorkerOf]
  cases state.sockets connection <;> rfl

/-- What one operation can do to an instance's socket for one end of a session. -/
inductive LocalStep (instanceId : Nat) (id : SessionId) (role : Role) :
    Op → Option Connection → Option Connection → Prop where
  | kept {op : Op} {entry : Option Connection} : LocalStep instanceId id role op entry entry
  | adopted {connection : Connection} {entry : Option Connection}
      (own : connection.instanceId = instanceId) :
      LocalStep instanceId id role (.sync (.adoptSocket connection id role)) entry
        (some connection)
  | cleared {connection : Connection} :
      LocalStep instanceId id role (.sync (.clearLocalSocket connection id role))
        (some connection) none
  | dismissed {entry : Option Connection} :
      LocalStep instanceId id role (.sync (.dismissSockets instanceId id)) entry none

theorem localSockets_setLocalSocket (instanceId other : Nat) (id session : SessionId)
    (role target : Role) (connection : Option Connection) :
    (state.setLocalSocket other session target connection).localSockets instanceId id role =
      if instanceId = other ∧ id = session ∧ role = target then connection
      else state.localSockets instanceId id role := by
  simp only [State.setLocalSocket, Function.update_apply]
  split
  · next here =>
      subst here
      simp only [Function.update_apply]
      split
      · next here =>
          subst here
          simp [Function.update_apply]
      · next elsewhere => simp [elsewhere]
  · next elsewhere => simp [elsewhere]

theorem localStep_setLocalSocket {op : Op} {instanceId other : Nat} {id session : SessionId}
    {role target : Role} {connection : Option Connection}
    (changes : instanceId = other → id = session → role = target →
      LocalStep instanceId id role op (state.localSockets instanceId id role) connection) :
    LocalStep instanceId id role op (state.localSockets instanceId id role)
      ((state.setLocalSocket other session target connection).localSockets
        instanceId id role) := by
  rw [localSockets_setLocalSocket]
  split
  · next same => exact changes same.1 same.2.1 same.2.2
  · exact .kept

theorem localSockets_dismissLocalSocket (instanceId other : Nat) (id session : SessionId)
    (role target : Role) :
    (state.dismissLocalSocket other session target).localSockets instanceId id role =
        state.localSockets instanceId id role ∨
      (instanceId = other ∧ id = session) ∧
        (state.dismissLocalSocket other session target).localSockets instanceId id role =
          none := by
  unfold dismissLocalSocket
  split
  · exact .inl rfl
  · rw [localSockets_setLocalSocket]
    split
    · next same => exact .inr ⟨⟨same.1, same.2.1⟩, rfl⟩
    · exact .inl rfl

/-- Inversion for the sockets of an instance. -/
theorem localStep_exec (op : Op) (instanceId : Nat) (id : SessionId) (role : Role) :
    LocalStep instanceId id role op (state.localSockets instanceId id role)
      ((exec settings outcome op state).1.localSockets instanceId id role) := by
  cases op with
  | launch session => cases outcome <;> exact .kept
  | sync op =>
      simp only [exec]
      cases op with
      | accept connection path cookies =>
          simp only [execSync]
          split <;> exact .kept
      | adoptSocket connection session target =>
          change LocalStep instanceId id role _ ((state.setTimer connection.instanceId session
            target none).localSockets instanceId id role) _
          apply localStep_setLocalSocket
          rintro own rfl rfl
          exact .adopted own.symm
      | adoptPoolSocket connection workerId =>
          simp only [execSync]
          split
          · split <;> exact .kept
          · exact .kept
      | clearLocalSocket connection session target =>
          simp only [execSync, State.clearLocalSocket]
          split
          · next holds =>
              apply localStep_setLocalSocket
              rintro rfl rfl rfl
              rw [holds]
              exact .cleared
          · exact .kept
      | clearLocalPoolSocket connection workerId =>
          simp only [execSync, State.clearLocalPoolSocket]
          split <;> exact .kept
      | dismissSockets other session =>
          simp only [execSync]
          rcases localSockets_dismissLocalSocket instanceId other id session role .worker with
            same | ⟨⟨rfl, rfl⟩, dismissed⟩
          · rw [same]
            rcases localSockets_dismissLocalSocket instanceId other id session role .viewer with
              same | ⟨⟨rfl, rfl⟩, dismissed⟩
            · rw [same]
              exact .kept
            · rw [dismissed]
              exact .dismissed
          · rw [dismissed]
            exact .dismissed
      | sendSignal connection session target payload =>
          simp only [execSync, send]
          split <;> exact .kept
      | sendSignals connection session target payloads =>
          simp only [execSync]
          split <;> exact .kept
      | sendAssignment connection workerId payload =>
          simp only [execSync, send]
          split <;> exact .kept
      | sendNotice connection notice =>
          simp only [execSync, send]
          split <;> exact .kept
      | fireDisconnectTimer other session target =>
          simp only [execSync, State.fireDisconnectTimer]
          split
          · exact .kept
          · split <;> exact .kept
      | closeEvent connection =>
          simp only [execSync]
          split
          · exact .kept
          · split <;> exact .kept
      | _ => exact .kept
  | _ => exact .kept

/-- A dismissed socket is no longer open. -/
theorem isOpen_dismissLocalSocket {instanceId : Nat} {id : SessionId} {role : Role}
    {connection : Connection} {socket : Socket}
    (entered : state.localSockets instanceId id role = some connection)
    (found : state.sockets connection = some socket) :
    ∃ after, (state.dismissLocalSocket instanceId id role).sockets connection = some after ∧
      after.isOpen = false := by
  refine ⟨{ socket with isOpen := false }, ?_, rfl⟩
  simp [dismissLocalSocket, entered, State.setLocalSocket, State.closeSocket, modifySocket, found]

theorem isOpen_dismissSockets {instanceId : Nat} {id : SessionId} {role : Role}
    {connection : Connection} {socket : Socket}
    (entered : state.localSockets instanceId id role = some connection)
    (found : state.sockets connection = some socket) :
    ∃ after, (exec settings outcome (.sync (.dismissSockets instanceId id)) state).1.sockets
      connection = some after ∧ after.isOpen = false := by
  -- a socket that left stays so over the second dismissal
  have stays {state : State} {left : Socket} (gone : state.sockets connection = some left)
      (closed : left.isOpen = false) (target : Role) :
      ∃ after, (state.dismissLocalSocket instanceId id target).sockets connection = some after ∧
        after.isOpen = false := by
    have leaves : MayLeave (state.sockets connection)
        ((state.dismissLocalSocket instanceId id target).sockets connection) :=
      mayLeave_dismissLocalSocket connection instanceId id target
    rcases leaves with same | same
    · exact ⟨left, same.trans gone, closed⟩
    · exact ⟨{ left with isOpen := false }, by rw [same, gone]; rfl, rfl⟩
  simp only [exec, execSync]
  cases role with
  | viewer =>
      obtain ⟨left, gone, closed⟩ := isOpen_dismissLocalSocket entered found
      exact stays gone closed .worker
  | worker =>
      obtain ⟨kept, present⟩ : ∃ kept,
          (state.dismissLocalSocket instanceId id .viewer).sockets connection = some kept := by
        have leaves : MayLeave (state.sockets connection)
            ((state.dismissLocalSocket instanceId id .viewer).sockets connection) :=
          mayLeave_dismissLocalSocket connection instanceId id .viewer
        rcases leaves with same | same
        · exact ⟨socket, same.trans found⟩
        · exact ⟨_, by rw [same, found]; rfl⟩
      refine isOpen_dismissLocalSocket ?_ present
      unfold dismissLocalSocket
      split
      · exact entered
      · rw [localSockets_setLocalSocket, if_neg (by simp)]
        exact entered

/-- No instance has a socket for one end of the session. -/
def NoLocalSocket (id : SessionId) (role : Role) (state : State) : Prop :=
  ∀ instanceId, state.localSockets instanceId id role = none

/-- Only the claim of a socket gives a session a local socket. -/
theorem NoLocalSocket.exec {op : Op} {id : SessionId} {role : Role}
    (noSocket : state.NoLocalSocket id role)
    (adopts : ∀ connection, op ≠ .sync (.adoptSocket connection id role)) :
    (State.exec settings outcome op state).1.NoLocalSocket id role := by
  intro instanceId
  have step : LocalStep instanceId id role op (state.localSockets instanceId id role)
    ((State.exec settings outcome op state).1.localSockets instanceId id role) :=
    localStep_exec op instanceId id role
  rw [noSocket instanceId] at step
  generalize (State.exec settings outcome op state).1.localSockets instanceId id role = after
    at step
  cases step with
  | kept => rfl
  | @adopted connection => exact absurd rfl (adopts connection)
  | dismissed => rfl

end State

end RemoteBrowser
