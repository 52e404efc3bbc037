import RemoteBrowser.ControlPlane.Sockets

/-!
# Worker reconnects and the disconnect timer

When a worker's socket closes, its instance arms a timer.  The callback terminates the
session unless it finds an open worker socket in its own map.  The store, which all
instances share, is not asked: a worker that has come back to another instance, whose
claim is not yet followed by the entry in the map, or whose socket is just closing, is
the stored owner, and the session is terminated all the same.  In every run without
these three situations the callback terminates only sessions without a stored worker
socket.
-/

namespace RemoteBrowser

open Async Program

section Runs

variable {settings : Settings} {id : SessionId} {instanceId : Nat}

/-- The completed awaits of a disconnect timer's callback that has loaded the session. -/
def callbackPast (instanceId : Nat) (id : SessionId) (role : Role) (generation : Option Nat)
    (current : Session) : List (Event controlPlane.face) :=
  [⟨.session (.get id), some current⟩,
    ⟨.sync (.fireDisconnectTimer instanceId id role), some (.workerDisconnect generation)⟩]

/-- The action lets the callback of a worker's disconnect timer, which has loaded the
session and passed its checks, find no open worker socket on its instance, so that it
calls `terminateSession` with the reason "worker disconnected". -/
def TerminatesDisconnected (id : SessionId) (instanceId : Nat)
    (config : Config (controlPlane settings)) (action : Action (controlPlane settings)) : Prop :=
  ∃ index outcome thread role generation current, action = .resume index outcome ∧
    config.threads[index]? = some thread ∧
    thread.past = callbackPast instanceId id role generation current ∧
    config.awaits index = some (.sync (.openSocket instanceId id .worker)) ∧
    (State.localSockets config.state instanceId id .worker).filter
      (State.isOpen config.state) = none

/-- The worker claims the session only from sockets of the instance; a claimed socket is
entered in the map at once; and when the callback of a timer terminates the session, the
stored owner, if there is one, has not left `OPEN`. -/
structure ReconnectsInTime (id : SessionId) (instanceId : Nat)
    (config : Config (controlPlane settings)) (action : Action (controlPlane settings)) :
    Prop where
  sameInstance : ∀ index outcome connection, action = .resume index outcome →
    config.awaits index = some (.session (.mutate id (.claimSocketOwnership .worker connection))) →
    connection.instanceId = instanceId
  atOnce : AdoptsAtOnce id .worker config action
  released : TerminatesDisconnected id instanceId config action →
    ∀ owner, State.socketOwner id .worker config.state = some owner →
      State.isOpen config.state owner = true

/-- That call is what the handler does after the action. -/
theorem terminateSession_of_terminatesDisconnected
    {allowed : Config (controlPlane settings) → Action _ → Prop}
    {config after : Config (controlPlane settings)} {action : Action (controlPlane settings)}
    (run : Run allowed ⟨State.initial, []⟩ config)
    (terminates : TerminatesDisconnected id instanceId config action)
    (stepped : config.step action = some after) :
    ∃ (index : Nat) (thread : Thread (controlPlane settings)) (current : Session),
      after.threads[index]? = some thread ∧
      thread.program = terminateSession settings instanceId current "worker disconnected" := by
  obtain ⟨index, outcome, thread, role, generation, current, rfl, found, past, awaited, absent⟩ :=
    terminates
  obtain ⟨resumed, next, located, suspended, rfl⟩ := Config.step_resume stepped awaited
  cases found.symm.trans located
  have reached := run.reaches thread (List.mem_of_getElem? found)
  have issues := Job.body_issues settings thread.job
  rw [past, callbackPast, reaches_cons] at reached
  obtain ⟨loaded, reached, continues⟩ := reached
  rw [reaches_cons] at reached
  obtain ⟨fired, reached, loads⟩ := reached
  rw [reaches_nil] at reached
  -- the timer was fired by its own job
  rw [show Job.body settings thread.job = _ from reached.symm] at issues
  have own : thread.job = .disconnectTimer instanceId id role := issues.1
  rw [own] at reached
  cases reached
  cases loads
  rw [suspended] at continues
  change _ = (if current.Terminated then _ else _ : Handler Unit) at continues
  split at continues
  · cases continues
  split at continues
  · cases continues
  cases continues
  refine ⟨index, _, current, List.getElem?_set_self (List.getElem?_eq_some_iff.mp found).1, ?_⟩
  have missing : ((controlPlane settings).exec outcome
      (.sync (.openSocket instanceId id .worker)) config.state).2 = none := absent
  rw [Thread.advance_program, missing]
  rfl

/-- The owner is a socket of the instance. -/
theorem owner_instance_of_run {config : Config (controlPlane settings)}
    (run : Run (ReconnectsInTime id instanceId) ⟨State.initial, []⟩ config) :
    ∀ owner, State.socketOwner id .worker config.state = some owner →
      owner.instanceId = instanceId := by
  induction run with
  | refl =>
      intro owner owns
      simp [State.socketOwner, State.initial, RedisSessionStore.getSocketOwner,
        RedisSessionStore.loadSession, RedisSessionStore.empty] at owns
  | tail _ permitted stepped ih =>
      intro owner owns
      obtain ⟨job, rfl, -, rfl⟩ | ⟨index, outcome, thread, op, next, rfl, found, suspended, rfl⟩ :=
        Config.step_cases stepped
      · exact ih owner owns
      · obtain ⟨session, stored, owned⟩ := State.socketOwner_eq_some.mp owns
        rcases (State.stored_exec stored).owner_cases .worker with
          ⟨old, wasStored, same⟩ | ⟨claimer, rfl, claimed⟩ | none
        · apply ih owner
          exact State.socketOwner_eq_some.mpr ⟨old, wasStored, same.symm.trans owned⟩
        · cases claimed.symm.trans owned
          exact permitted.sameInstance index outcome owner rfl
            (Config.awaits_eq_some found suspended)
        · cases none.symm.trans owned

/-- In every run in which the worker reconnects in time, a session that is terminated as
"worker disconnected" has no stored worker socket at that moment. -/
theorem disconnect_termination_needs_no_owner {config : Config (controlPlane settings)}
    {action : Action (controlPlane settings)}
    (run : Run (ReconnectsInTime id instanceId) ⟨State.initial, []⟩ config)
    (permitted : ReconnectsInTime id instanceId config action)
    (terminates : TerminatesDisconnected id instanceId config action) :
    State.socketOwner id .worker config.state = none := by
  by_contra owned
  obtain ⟨owner, owns⟩ := Option.ne_none_iff_exists'.mp owned
  have isOpen := permitted.released terminates owner owns
  have unclosed : Unclosed owner config := by
    intro socket found
    simpa [State.isOpen, found] using isOpen
  have here : owner.instanceId = instanceId := owner_instance_of_run run owner owns
  obtain ⟨index, outcome, thread, role, generation, current, rfl, -, -, awaited, absent⟩ :=
    terminates
  rcases (ownerAdopted_of_run (run.mono fun _ _ allowed => allowed.atOnce)).adopted owner owns
    unclosed with entered | ⟨other, pending⟩
  · rw [here] at entered
    simp [entered, isOpen] at absent
  · -- the callback is not the handler that is about to enter the owner
    obtain ⟨_, same⟩ := permitted.atOnce other owner pending
    cases same
    cases pending.symm.trans awaited

end Runs

section TimerRuns

open controlPlane

variable {settings : Settings}

/-- Sessions of a hundred seconds. -/
def longSettings : Settings := { store := ⟨100000, 50000⟩ }

/-- The handler at the position is a timer's callback for session 0 that is about to look
for a worker socket on instance 0 and will find none. -/
def findsNoWorkerSocket (config : Config (controlPlane settings)) (index : Nat) : Bool :=
  (match config.threads[index]?.map Thread.past with
  | some [⟨.session (.get 0), some _⟩, ⟨.sync (.fireDisconnectTimer 0 0 _),
      some (.workerDisconnect _)⟩] => true
  | _ => false) &&
  decide (config.awaits index = some (.sync (.openSocket 0 0 .worker)) ∧
    (State.localSockets config.state 0 0 .worker).filter (State.isOpen config.state) = none)

theorem terminatesDisconnected_of_finds {config : Config (controlPlane settings)} {index : Nat}
    (finds : findsNoWorkerSocket config index = true) :
    TerminatesDisconnected 0 0 config (.resume index .succeeds) := by
  obtain ⟨loaded, rest⟩ := Bool.and_eq_true_iff.mp finds
  obtain ⟨awaited, absent⟩ := of_decide_eq_true rest
  split at loaded
  · next current role generation past =>
      obtain ⟨thread, found, same⟩ := Option.map_eq_some_iff.mp past
      exact ⟨index, .succeeds, thread, role, generation, current, rfl, found, same, awaited,
        absent⟩
  · simp at loaded

/-- The worker of session 0 claims it only from instance 0, is entered in the map at once,
and no callback looks for a worker socket while the stored owner is closing. -/
def workerReturnsInTime (config : Config (controlPlane settings))
    (action : Action (controlPlane settings)) : Bool :=
  (match action with
  | .start _ => true
  | .resume index _ => match config.awaits index with
      | some (.session (.mutate 0 (.claimSocketOwnership .worker connection))) =>
          connection.instanceId = 0
      | some (.sync (.openSocket _ _ _)) =>
          (State.socketOwner 0 .worker config.state).all (State.isOpen config.state)
      | _ => true) &&
  (List.range config.threads.length).all fun index => match config.awaits index with
    | some (.sync (.adoptSocket _ 0 .worker)) => match action with
        | .start _ => false
        | .resume resumed _ => resumed = index
    | _ => true

theorem reconnectsInTime_of_returns (config : Config (controlPlane settings))
    (action : Action (controlPlane settings)) (passes : workerReturnsInTime config action = true) :
    ReconnectsInTime 0 0 config action := by
  obtain ⟨resumes, adopts⟩ := Bool.and_eq_true_iff.mp passes
  constructor
  · rintro index outcome connection rfl awaited
    simpa [awaited] using resumes
  · intro index connection awaited
    obtain ⟨thread, next, found, -⟩ := Config.exists_of_awaits awaited
    have inside := (List.getElem?_eq_some_iff.mp found).1
    have checked := List.all_eq_true.mp adopts index (List.mem_range.mpr inside)
    simp only [awaited] at checked
    cases action with
    | start job => simp at checked
    | resume resumed outcome =>
        obtain rfl := of_decide_eq_true checked
        exact ⟨outcome, rfl⟩
  · rintro ⟨index, outcome, thread, role, generation, current, rfl, -, -, awaited, -⟩ owner owns
    simpa [awaited, owns] using resumes

/-- The worker of session 0 registers on a socket of instance 0. -/
def registerWorkerSocket : List (Action (controlPlane longSettings)) :=
  .start (.createSession 0 {}) :: run 0 4 ++
    .start (.connect ⟨0, 1⟩ .worker []) :: run 1 1 ++
    .start (.message ⟨0, 1⟩ (.register .worker 0 (makeWorkerToken 0 100000 1))) :: run 2 12

/-- Its socket closes, and the disconnect timer is armed. -/
def closeWorkerSocket : List (Action (controlPlane longSettings)) :=
  .start (.peerClosing ⟨0, 1⟩) :: run 3 1 ++ .start (.close ⟨0, 1⟩) :: run 4 6

/-- A worker that does not come back is given up after three seconds. -/
theorem lost_worker_ends_session :
    ∃ config : Config (controlPlane longSettings),
      Run (ReconnectsInTime 0 0) ⟨State.initial, []⟩ config ∧
      ReconnectsInTime 0 0 config (.resume 6 .succeeds) ∧
      TerminatesDisconnected 0 0 config (.resume 6 .succeeds) ∧
      State.socketOwner 0 .worker config.state = none := by
  obtain ⟨config, reached, holds⟩ := Run.exists_of_schedule reconnectsInTime_of_returns
    (⟨State.initial, []⟩ : Config (controlPlane longSettings))
    (registerWorkerSocket ++ closeWorkerSocket ++ .start (.elapse 3000) :: run 5 1 ++
      .start (.disconnectTimer 0 0 .worker) :: run 6 2)
    (fun config => findsNoWorkerSocket config 6 && workerReturnsInTime config (.resume 6 .succeeds))
    (by decide)
  obtain ⟨finds, returns⟩ := Bool.and_eq_true_iff.mp holds
  have permitted := reconnectsInTime_of_returns config _ returns
  have terminates := terminatesDisconnected_of_finds finds
  exact ⟨config, reached, permitted, terminates,
    disconnect_termination_needs_no_owner reached permitted terminates⟩

/-- A worker that comes back to another instance is the stored owner when the timer of
the first instance terminates its session. -/
theorem worker_on_other_instance_is_terminated :
    ¬∀ (settings : Settings) (id : SessionId) (instanceId : Nat)
      (config : Config (controlPlane settings)) (action : Action (controlPlane settings)),
      Run anyAction ⟨State.initial, []⟩ config →
      TerminatesDisconnected id instanceId config action →
      State.socketOwner id .worker config.state = none := by
  intro unowned
  obtain ⟨config, reached, holds⟩ := Run.exists_of_actions
    (⟨State.initial, []⟩ : Config (controlPlane longSettings))
    (registerWorkerSocket ++ closeWorkerSocket ++
      .start (.connect ⟨1, 1⟩ .worker []) :: run 5 1 ++
      .start (.message ⟨1, 1⟩ (.register .worker 0 (makeWorkerToken 0 100000 1))) :: run 6 12 ++
      .start (.elapse 3000) :: run 7 1 ++ .start (.disconnectTimer 0 0 .worker) :: run 8 2)
    (fun config => findsNoWorkerSocket config 8 && decide
      (State.socketOwner 0 .worker config.state = some ⟨1, 1⟩))
    (by decide)
  obtain ⟨finds, owned⟩ := Bool.and_eq_true_iff.mp holds
  have none := unowned longSettings 0 0 config _ reached (terminatesDisconnected_of_finds finds)
  cases none.symm.trans (of_decide_eq_true owned)

end TimerRuns

end RemoteBrowser
