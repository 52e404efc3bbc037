import RemoteBrowser.ControlPlane.Effects
import RemoteBrowser.ControlPlane.Footprint

/-!
# Handlers that owe a session its worker

For one session, a handler is bound to give it a worker in two ways.
`assignSessionWorker` stores a worker at its end.  The handlers of a closed pool
socket and of an idle report take a pooled worker away; if its record names the
session they go on to `fallbackWarmPoolSession`, which launches a replacement unless
it finds the session with another worker or in another state.

The monitor `rescue` follows a handler through these phases.  It knows which pool
worker each socket has registered, and lets go of a handler whose launch fails or
that meets an open worker socket.
-/

namespace RemoteBrowser

open Async Program

/-! ## The monitor -/

/-- How far a handler is: it owes nothing; it has released the socket of its worker; it
has read that the worker's record does not name the session; it has taken the worker
away and goes on to the replacement; it assigns a worker. -/
inductive RescuePhase where
  | free
  | released
  | unassigned
  | committed
  | assigning
  deriving DecidableEq

/-- The pool worker of the handler's socket and the phase of the handler. -/
structure Rescue where
  own : Option PoolWorkerId := none
  phase : RescuePhase
  deriving DecidableEq

/-- `session.worker` is the worker of the warm pool with this identifier. -/
def Worker.IsPooledAs (poolWorkerId : PoolWorkerId) (worker : Option Worker) : Prop :=
  Worker.IsWarmPool worker ∧ worker.bind Worker.poolWorkerId = some poolWorkerId

instance (poolWorkerId : PoolWorkerId) (worker : Option Worker) :
    Decidable (Worker.IsPooledAs poolWorkerId worker) :=
  inferInstanceAs (Decidable (_ ∧ _))

/-- `fallbackWarmPoolSession` goes on with this session. -/
def Session.FallsBack (own : Option PoolWorkerId) (session : Session) : Prop :=
  ¬session.Terminated ∧ session.state = "allocating" ∧
    ∃ workerId, own = some workerId ∧ Worker.IsPooledAs workerId session.worker

instance (own : Option PoolWorkerId) (session : Session) :
    Decidable (session.FallsBack own) :=
  match own with
  | none => isFalse fun ⟨_, _, _, absent, _⟩ => by simp at absent
  | some workerId =>
      decidable_of_iff (¬session.Terminated ∧ session.state = "allocating" ∧
        Worker.IsPooledAs workerId session.worker) (by simp [Session.FallsBack])

namespace Rescue

/-- What a handler may issue in each phase. -/
def allows (id : SessionId) (current : Rescue) : Op → Prop
  | .createSession _ => False
  | .session (.mutate other (.setState state)) => other = id → state ≠ "terminated"
  | .pool (.registerWorker _ _ _) => False
  | .pool (.markWorkerBusy _ _ _ _) => False
  | .pool (.heartbeatWorker _ _) => False
  | .pool (.allocateWorkerWithAssignment _ _ _) => current.phase = .assigning
  | .pool (.markWorkerIdle workerId _) => current.phase = .free ∧ current.own = some workerId
  | .pool (.releaseSocketOwnership workerId _) =>
      current.phase = .free ∧ current.own = some workerId
  | .pool (.getWorker workerId) => current.phase = .released ∧ current.own = some workerId
  | .pool (.unregisterWorker workerId) => current.phase = .assigning ∨
      current.own = some workerId ∧ (current.phase = .unassigned ∨ current.phase = .committed)
  | .sync (.elapse _) => False
  | .sync (.registerPoolWorker _ _) => False
  | .sync (.adoptSocket _ _ _) => False
  | _ => True

/-- The phase after a store call. -/
def afterStore (id : SessionId) (current : Rescue) :
    (op : SessionOp) → op.Reply → Option RescuePhase
  | .get other, found =>
      if current.phase = .committed ∧ other = id ∧
          ¬found.any fun session => session.FallsBack current.own then some .free
      else some current.phase
  | .mutate other (.setWorker _), _ => some (if other = id then .free else current.phase)
  | .mutate other _, none =>
      if current.phase = .committed ∧ other = id then some .free else some current.phase
  | .mutate other _, some session =>
      if current.phase = .committed ∧ other = id ∧ session.id ≠ id then none
      else some current.phase
  | _, _ => some current.phase

/-- The phase after an operation. -/
@[grind =] def phaseAfter (id : SessionId) (sockets : Connection → Option PoolWorkerId)
    (current : Rescue) : (op : Op) → op.Reply → Option RescuePhase
  | .launch _, .error _ => none
  | .sync (.registration connection), registration =>
      if registration.poolWorkerId = sockets connection then some current.phase else none
  | .sync (.openSocket _ other role), found =>
      if current.phase = .committed ∧ other = id ∧ role = .worker ∧ found.isSome then none
      else some current.phase
  | .pool (.releaseSocketOwnership _ _), released =>
      some (if released then .released else current.phase)
  | .pool (.markWorkerIdle _ _), _ => some .committed
  | .pool (.getWorker _), record =>
      some (if record.bind PoolWorker.sessionId = some id then .committed else .unassigned)
  | .pool (.unregisterWorker _), _ =>
      some (if current.phase = .unassigned then .free else current.phase)
  | .session op, reply => current.afterStore id op reply
  | _, _ => some current.phase

end Rescue

/-- Follows the handlers of one session and of the pool sockets. -/
def rescue (id : SessionId) (sockets : Connection → Option PoolWorkerId) :
    Monitor controlPlane.face Rescue where
  allows := fun current op => current.allows id op
  next := fun current op reply =>
    (current.phaseAfter id sockets op reply).map fun phase => { current with phase := phase }

section Rules

variable {id : SessionId} {sockets : Connection → Option PoolWorkerId}
  {current after : Rescue} {own : Option PoolWorkerId}

theorem rescue_next_eq_some {op : Op} {reply : op.Reply}
    (moved : (rescue id sockets).next current op reply = some after) :
    ∃ phase, current.phaseAfter id sockets op reply = some phase ∧
      after = { current with phase := phase } := by
  obtain ⟨phase, next, same⟩ := Option.map_eq_some_iff.mp moved
  exact ⟨phase, next, same.symm⟩

/-- The pool worker of the socket never changes. -/
theorem rescue_next_own {op : Op} {reply : op.Reply}
    (moved : (rescue id sockets).next current op reply = some after) :
    after.own = current.own := by
  obtain ⟨phase, -, rfl⟩ := rescue_next_eq_some moved
  rfl

/-- Inversion of the monitor: the operations at which the phase can change. -/
inductive Rescue.Moves (id : SessionId) (current : Rescue) :
    (op : Op) → op.Reply → RescuePhase → Prop where
  | same {op : Op} {reply : op.Reply} : Moves id current op reply current.phase
  | stored {worker : Option Worker} {reply : Option Session} :
      Moves id current (.session (.mutate id (.setWorker worker))) reply .free
  | declined {found : Option Session} (committed : current.phase = .committed)
      (stays : ¬found.any fun session => session.FallsBack current.own) :
      Moves id current (.session (.get id)) found .free
  | gone {mutation : SessionMutation} (committed : current.phase = .committed) :
      Moves id current (.session (.mutate id mutation)) none .free
  | idled {workerId : PoolWorkerId} {traits : WorkerTraits} {reply : Option PoolWorker} :
      Moves id current (.pool (.markWorkerIdle workerId traits)) reply .committed
  | released {workerId : PoolWorkerId} {owner : Connection} :
      Moves id current (.pool (.releaseSocketOwnership workerId owner)) true .released
  | named {workerId : PoolWorkerId} {record : Option PoolWorker}
      (names : record.bind PoolWorker.sessionId = some id) :
      Moves id current (.pool (.getWorker workerId)) record .committed
  | unnamed {workerId : PoolWorkerId} {record : Option PoolWorker}
      (names : record.bind PoolWorker.sessionId ≠ some id) :
      Moves id current (.pool (.getWorker workerId)) record .unassigned
  | unregistered {workerId : PoolWorkerId} {reply : Unit}
      (unassigned : current.phase = .unassigned) :
      Moves id current (.pool (.unregisterWorker workerId)) reply .free

theorem Rescue.moves_of_afterStore {op : SessionOp} {reply : op.Reply} {phase : RescuePhase}
    (moved : current.afterStore id op reply = some phase) :
    current.Moves id (.session op) reply phase := by
  unfold Rescue.afterStore at moved
  split at moved
  · split at moved
    · next declines =>
        obtain ⟨committed, rfl, stays⟩ := declines
        cases moved
        exact .declined committed stays
    · cases moved
      exact .same
  · cases moved
    split
    · next same =>
        subst same
        exact .stored
    · exact .same
  · split at moved
    · next gone =>
        obtain ⟨committed, rfl⟩ := gone
        cases moved
        exact .gone committed
    · cases moved
      exact .same
  · split at moved <;> cases moved
    exact .same
  · cases moved
    exact .same

theorem Rescue.moves_of_phaseAfter {op : Op} {reply : op.Reply} {phase : RescuePhase}
    (moved : current.phaseAfter id sockets op reply = some phase) :
    current.Moves id op reply phase := by
  unfold Rescue.phaseAfter at moved
  split at moved
  · cases moved
  · split at moved <;> cases moved
    exact .same
  · split at moved <;> cases moved
    exact .same
  · cases moved
    split
    · next isReleased =>
        subst isReleased
        exact .released
    · exact .same
  · cases moved
    exact .idled
  · cases moved
    split
    · next names => exact .named names
    · next names => exact .unnamed names
  · cases moved
    split
    · next unassigned => exact .unregistered unassigned
    · exact .same
  · exact Rescue.moves_of_afterStore moved
  · cases moved
    exact .same

theorem rescue_registration {connection : Connection} {registration : Registration}
    (moved : (rescue id sockets).next current (.sync (.registration connection)) registration =
      some after) : registration.poolWorkerId = sockets connection ∧ after = current := by
  obtain ⟨phase, next, rfl⟩ := rescue_next_eq_some moved
  simp only [Rescue.phaseAfter] at next
  split at next
  · next same =>
      cases next
      exact ⟨same, rfl⟩
  · simp at next

end Rules

/-! ## Handlers that owe nothing -/

/-- The operation neither changes the pool, nor launches a worker, nor claims a socket,
nor stores the state `"terminated"`. -/
def Op.Calm : Op → Prop
  | .createSession _ => False
  | .session (.mutate _ (.setState state)) => state ≠ "terminated"
  | .pool (.getSocketOwner _) => True
  | .pool _ => False
  | .launch _ => False
  | .sync (.elapse _) => False
  | .sync (.registerPoolWorker _ _) => False
  | .sync (.adoptSocket _ _ _) => False
  | _ => True

section Calm

variable {id : SessionId} {sockets : Connection → Option PoolWorkerId}
  {own : Option PoolWorkerId}

theorem Rescue.afterStore_free (op : SessionOp) (reply : op.Reply) :
    (⟨own, .free⟩ : Rescue).afterStore id op reply = some .free := by
  cases op with
  | get other => simp [Rescue.afterStore]
  | mutate other mutation =>
      cases mutation <;> cases reply <;> simp [Rescue.afterStore]
  | _ => rfl

theorem Op.Calm.ignored {op : Op} (calm : op.Calm) :
    (rescue id sockets).allows ⟨own, .free⟩ op ∧
      ∀ reply after, (rescue id sockets).next ⟨own, .free⟩ op reply = some after →
        after = ⟨own, .free⟩ := by
  have unchanged {reply : op.Reply}
      (same : (⟨own, .free⟩ : Rescue).phaseAfter id sockets op reply = some .free ∨
        (⟨own, .free⟩ : Rescue).phaseAfter id sockets op reply = none) :
      ∀ after, (rescue id sockets).next ⟨own, .free⟩ op reply = some after →
        after = ⟨own, .free⟩ := by
    intro after moved
    obtain ⟨phase, next, rfl⟩ := rescue_next_eq_some moved
    rcases same with free | released
    · cases next.symm.trans free
      rfl
    · cases next.symm.trans released
  cases op with
  | session op =>
      refine ⟨?_, fun reply => unchanged (.inl (Rescue.afterStore_free op reply))⟩
      cases op with
      | mutate other mutation =>
          cases mutation with
          | setState state => exact fun _ => calm
          | _ => trivial
      | _ => trivial
  | pool op =>
      cases op with
      | getSocketOwner workerId => exact ⟨trivial, fun _ => unchanged (.inl rfl)⟩
      | _ => exact calm.elim
  | sync op =>
      cases op with
      | registration connection =>
          refine ⟨trivial, fun _ => unchanged ?_⟩
          simp only [Rescue.phaseAfter]
          split
          · exact .inl rfl
          · exact .inr rfl
      | openSocket instanceId other role =>
          exact ⟨trivial, fun _ => unchanged (.inl (by simp [Rescue.phaseAfter]))⟩
      | elapse ms => exact calm.elim
      | registerPoolWorker connection workerId => exact calm.elim
      | adoptSocket connection other role => exact calm.elim
      | _ => exact ⟨trivial, fun _ => unchanged (.inl rfl)⟩
  | createSession input => exact calm.elim
  | launch session => exact calm.elim
  | _ => exact ⟨trivial, fun _ => unchanged (.inl rfl)⟩

/-- A calm handler owes nothing. -/
theorem follows_rescue_of_issues {α : Type} {handler : Handler α}
    (issues : handler.Issues Op.Calm) :
    handler.Follows (rescue id sockets) (fun _ after => after = ⟨own, .free⟩) ⟨own, .free⟩ :=
  issues.follows_unchanged _ fun _ calm => calm.ignored

theorem Op.Signaling.calm {op : Op} (signaling : op.Signaling) : op.Calm := by
  cases op with
  | session op => cases op <;> trivial
  | sync op => cases op <;> trivial
  | pause => trivial
  | _ => exact signaling.elim

end Calm

/-! ## Assignment and replacement -/

section Assignment

variable {id : SessionId} {sockets : Connection → Option PoolWorkerId}
  {own : Option PoolWorkerId} {phase : RescuePhase}

/-- The search for a pooled worker is part of the assignment. -/
theorem Op.Pooling.ignored {op : Op} (pooling : op.Pooling) :
    (rescue id sockets).allows ⟨own, .assigning⟩ op ∧
      ∀ reply after, (rescue id sockets).next ⟨own, .assigning⟩ op reply = some after →
        after = ⟨own, .assigning⟩ := by
  cases op with
  | pool op =>
      cases op with
      | allocateWorkerWithAssignment sessionId payload filters =>
          exact ⟨rfl, fun _ _ moved => (Option.some.inj moved).symm⟩
      | unregisterWorker workerId =>
          exact ⟨.inl rfl, fun _ _ moved => (Option.some.inj moved).symm⟩
      | getSocketOwner workerId =>
          exact ⟨trivial, fun _ _ moved => (Option.some.inj moved).symm⟩
      | addPendingAssignment workerId payload =>
          exact ⟨trivial, fun _ _ moved => (Option.some.inj moved).symm⟩
      | drainPendingAssignments workerId =>
          exact ⟨trivial, fun _ _ moved => (Option.some.inj moved).symm⟩
      | _ => exact pooling.elim
  | sync op =>
      cases op with
      | now => exact ⟨trivial, fun _ _ moved => (Option.some.inj moved).symm⟩
      | isOpen connection => exact ⟨trivial, fun _ _ moved => (Option.some.inj moved).symm⟩
      | openPoolSocket instanceId workerId =>
          exact ⟨trivial, fun _ _ moved => (Option.some.inj moved).symm⟩
      | sendAssignment connection workerId payload =>
          exact ⟨trivial, fun _ _ moved => (Option.some.inj moved).symm⟩
      | _ => exact pooling.elim
  | pause => exact ⟨trivial, fun _ _ moved => (Option.some.inj moved).symm⟩
  | _ => exact pooling.elim

theorem setWorker_rescue {other : SessionId} {worker : Option Worker}
    (settles : other = id ∨ phase = .free) :
    (mutate other (.setWorker worker)).Follows (rescue id sockets)
      (fun _ after => after = ⟨own, .free⟩) ⟨own, phase⟩ := by
  refine follows_mutate.mpr ⟨trivial, fun _ after moved => ?_⟩
  obtain ⟨next, phaseAfter, rfl⟩ := rescue_next_eq_some moved
  cases phaseAfter
  rcases settles with rfl | rfl <;> simp

/-- A launch that succeeds is stored; one that fails releases the handler. -/
theorem launchWorker_rescue {session : Session} (settles : session.id = id ∨ phase = .free) :
    (launchWorker session).Follows (rescue id sockets)
      (fun result after => after = ⟨own, .free⟩ ∧ ∃ worker, result = .ok worker)
      ⟨own, phase⟩ := by
  refine follows_bind.mpr (follows_await.mpr ⟨trivial, fun result after moved => ?_⟩)
  cases result with
  | error message => simp [rescue, Rescue.phaseAfter] at moved
  | ok worker =>
      cases moved
      refine (setWorker_rescue settles).bind fun _ after free => ?_
      exact ⟨free, worker, rfl⟩

/-- `assignSessionWorker` stores a worker. -/
theorem assignSessionWorker_rescue (settings : Settings) (instanceId : Nat) {session : Session}
    (isSession : session.id = id) :
    (assignSessionWorker settings instanceId session).Follows (rescue id sockets)
      (fun _ after => after = ⟨own, .free⟩) ⟨own, .assigning⟩ := by
  refine ((pooledWorker_issues settings instanceId session).follows_unchanged _
    fun _ pooling => pooling.ignored).bind fun record _ same => ?_
  subst same
  cases record with
  | none => exact (launchWorker_rescue (.inl isSession)).mono fun _ _ free => free.1
  | some record =>
      refine follows_bind.mpr (follows_pause.mpr ⟨trivial, fun _ after moved => ?_⟩)
      cases moved
      exact (setWorker_rescue (.inl isSession)).bind fun _ _ free => free

/-- A store write by a handler that owes a replacement: the reply is the session
itself, or the session is gone and the handler owes nothing any more. -/
theorem rescue_mutate {other : SessionId} {mutation : SessionMutation} {reply : Option Session}
    {after : Rescue} (owes : phase = .committed ∧ other = id ∨ phase = .free)
    (noWorker : ∀ worker, mutation ≠ .setWorker worker)
    (moved : (rescue id sockets).next ⟨own, phase⟩ (.session (.mutate other mutation)) reply =
      some after) :
    (∃ session, reply = some session ∧ after = ⟨own, phase⟩ ∧
      (session.id = id ∨ phase = .free)) ∨
    reply = none ∧ after = ⟨own, .free⟩ := by
  obtain ⟨next, phaseAfter, rfl⟩ := rescue_next_eq_some moved
  cases reply with
  | none =>
      refine .inr ⟨rfl, ?_⟩
      cases mutation with
      | setWorker worker => exact absurd rfl (noWorker worker)
      | _ =>
          simp only [Rescue.phaseAfter, Rescue.afterStore] at phaseAfter
          split at phaseAfter
          · cases phaseAfter
            rfl
          · next kept =>
              cases phaseAfter
              rw [owes.resolve_left kept]
  | some session =>
      refine .inl ⟨session, rfl, ?_⟩
      cases mutation with
      | setWorker worker => exact absurd rfl (noWorker worker)
      | _ =>
          simp only [Rescue.phaseAfter, Rescue.afterStore] at phaseAfter
          split at phaseAfter
          · cases phaseAfter
          · next kept =>
              cases phaseAfter
              refine ⟨rfl, owes.imp_left fun ⟨committed, isSession⟩ => ?_⟩
              by_contra foreign
              exact kept ⟨committed, isSession, foreign⟩

/-- Signals for the viewer do not concern the replacement. -/
theorem sendSignal_rescue (instanceId : Nat) (other : SessionId) (payload : Signal)
    (current : Rescue) :
    (sendSignal instanceId other .viewer payload).Follows (rescue id sockets)
      (fun _ after => after = current) current := by
  have queues : (queueSignal other .viewer payload).Follows (rescue id sockets)
      (fun _ after => after = current) current := by
    refine follows_bind.mpr (follows_store.mpr ⟨trivial, fun _ after moved => ?_⟩)
    cases moved
    exact follows_pause.mpr ⟨trivial, fun _ _ moved => (Option.some.inj moved).symm⟩
  refine follows_bind.mpr (follows_sync.mpr ⟨trivial, fun found after moved => ?_⟩)
  have same : after = current := by
    obtain ⟨next, phaseAfter, rfl⟩ := rescue_next_eq_some moved
    simp only [Rescue.phaseAfter] at phaseAfter
    split at phaseAfter
    · next impossible => simp at impossible
    · cases phaseAfter
      rfl
  subst same
  cases found with
  | none => exact queues
  | some target =>
      refine follows_bind.mpr (follows_bind.mpr
        (follows_store.mpr ⟨trivial, fun owner after moved => ?_⟩))
      cases moved
      refine follows_pure.mpr ?_
      split
      · exact follows_sync.mpr ⟨trivial, fun _ _ moved => (Option.some.inj moved).symm⟩
      · exact queues

/-- The replacement is stored, or the session is gone. -/
theorem replaceWarmWorker_rescue (settings : Settings) (instanceId : Nat) {other : SessionId}
    (owes : phase = .committed ∧ other = id ∨ phase = .free) :
    (replaceWarmWorker settings instanceId other).Follows (rescue id sockets)
      (fun _ after => after = ⟨own, .free⟩) ⟨own, phase⟩ := by
  refine follows_bind.mpr (follows_store.mpr ⟨trivial, fun nextGeneration after moved => ?_⟩)
  obtain ⟨increased, rfl, rfl, -⟩ | ⟨rfl, rfl⟩ := rescue_mutate owes (by simp) moved
  · refine follows_bind.mpr (follows_store.mpr ⟨trivial, fun replacement after moved => ?_⟩)
    obtain ⟨replacement, rfl, rfl, isSession⟩ | ⟨rfl, rfl⟩ := rescue_mutate owes (by simp) moved
    · refine follows_bind.mpr (follows_mutate.mpr ⟨fun _ => by decide, fun reply after moved => ?_⟩)
      -- from here on the session may be gone; the launch settles both cases
      have settles : ∃ later, after = ⟨own, later⟩ ∧ (replacement.id = id ∨ later = .free) := by
        obtain ⟨_, -, rfl, -⟩ | ⟨-, rfl⟩ := rescue_mutate owes (by simp) moved
        · exact ⟨phase, rfl, isSession⟩
        · exact ⟨.free, rfl, .inr rfl⟩
      obtain ⟨later, rfl, settles⟩ := settles
      refine (sendSignal_rescue instanceId other _ _).bind fun _ _ same => ?_
      subst same
      refine (launchWorker_rescue settles).bind fun result after launched => ?_
      obtain ⟨rfl, worker, rfl⟩ := launched
      rfl
    · rfl
  · rfl

/-- A handler that owes a replacement goes on only if the session still waits for the
worker that was taken away. -/
theorem rescue_get {other : SessionId} {found : Option Session} {after : Rescue}
    (owes : phase = .committed ∧ other = id ∨ phase = .free)
    (moved : (rescue id sockets).next ⟨own, phase⟩ (.session (.get other)) found = some after) :
    after = ⟨own, .free⟩ ∨ phase = .committed ∧ after = ⟨own, .committed⟩ ∧
      ∃ session, found = some session ∧ session.FallsBack own := by
  obtain ⟨next, phaseAfter, rfl⟩ := rescue_next_eq_some moved
  simp only [Rescue.phaseAfter, Rescue.afterStore] at phaseAfter
  split at phaseAfter
  · cases phaseAfter
    exact .inl rfl
  · next kept =>
      cases phaseAfter
      rcases owes with ⟨rfl, rfl⟩ | rfl
      · refine .inr ⟨rfl, rfl, ?_⟩
        simp only [true_and, not_not, Option.any_eq_true, decide_eq_true_eq] at kept
        exact kept
      · exact .inl rfl

theorem rescue_openSocket {instanceId : Nat} {other : SessionId} {found : Option Connection}
    {after : Rescue} (owes : phase = .committed ∧ other = id ∨ phase = .free)
    (moved : (rescue id sockets).next ⟨own, phase⟩
      (.sync (.openSocket instanceId other .worker)) found = some after) :
    after = ⟨own, phase⟩ ∧ (found = none ∨ phase = .free) := by
  obtain ⟨next, phaseAfter, rfl⟩ := rescue_next_eq_some moved
  simp only [Rescue.phaseAfter] at phaseAfter
  split at phaseAfter
  · cases phaseAfter
  · next noSocket =>
      cases phaseAfter
      refine ⟨rfl, owes.imp_left fun ⟨committed, isSession⟩ => ?_⟩
      simpa [committed, isSession] using noSocket

/-- `fallbackWarmPoolSession` replaces the worker that was taken away; for other
sessions it owes nothing. -/
theorem fallbackWarmPoolSession_rescue (settings : Settings) (instanceId : Nat)
    {other : SessionId} {workerId : PoolWorkerId}
    (owes : phase = .committed ∧ other = id ∧ own = some workerId ∨ phase = .free) :
    (fallbackWarmPoolSession settings instanceId other workerId).Follows (rescue id sockets)
      (fun _ after => after = ⟨own, .free⟩) ⟨own, phase⟩ := by
  have isSession : phase = .committed ∧ other = id ∨ phase = .free :=
    owes.imp_left fun ⟨committed, same, _⟩ => ⟨committed, same⟩
  refine follows_bind.mpr (follows_store.mpr ⟨trivial, fun found after moved => ?_⟩)
  obtain ⟨later, rfl, goesOn, owesLater⟩ : ∃ later, after = ⟨own, later⟩ ∧
      (later = .free ∨ ∃ session, found = some session ∧ session.FallsBack own ∧
        own = some workerId) ∧ (later = .committed ∧ other = id ∨ later = .free) := by
    rcases rescue_get isSession moved with rfl | ⟨committed, rfl, session, read, fallsBack⟩
    · exact ⟨_, rfl, .inl rfl, .inr rfl⟩
    · obtain ⟨-, same, isWorker⟩ := owes.resolve_right (by simp [committed])
      exact ⟨_, rfl, .inr ⟨session, read, fallsBack, isWorker⟩, .inl ⟨rfl, same⟩⟩
  cases found with
  | none =>
      obtain rfl := goesOn.resolve_right (by simp)
      rfl
  | some session =>
      -- a check that fails is one that the monitor has made
      have returns (stays : ¬(session.FallsBack own ∧ own = some workerId)) :
          (⟨own, later⟩ : Rescue) = ⟨own, .free⟩ := by
        rw [goesOn.resolve_right fun ⟨_, same, both⟩ => stays (Option.some.inj same ▸ both)]
      dsimp only
      split
      · next terminated => exact returns fun both => both.1.1 terminated
      split
      · next state => exact returns fun both => state both.1.2.1
      split
      · next foreign =>
          refine returns fun ⟨⟨_, _, pooled, same, isPooled⟩, isWorker⟩ => ?_
          cases same.symm.trans isWorker
          exact foreign.elim (absurd isPooled.1) (absurd isPooled.2)
      refine follows_bind.mpr (follows_sync.mpr ⟨trivial, fun socket after moved => ?_⟩)
      obtain ⟨rfl, noSocket⟩ := rescue_openSocket owesLater moved
      cases socket with
      | none => exact replaceWarmWorker_rescue settings instanceId owesLater
      | some socket =>
          obtain rfl := noSocket.resolve_left (by simp)
          rfl

end Assignment

/-! ## Pool sockets -/

section PoolSockets

variable {id : SessionId} {sockets : Connection → Option PoolWorkerId}

/-- The close of a pool socket takes the worker away; if its record names the session,
the handler replaces it. -/
theorem closePoolSocket_rescue (settings : Settings) (connection : Connection)
    (workerId : PoolWorkerId) :
    (closePoolSocket settings connection workerId).Follows (rescue id sockets)
      (fun _ after => after = ⟨some workerId, .free⟩) ⟨some workerId, .free⟩ := by
  refine follows_bind.mpr (follows_sync.mpr ⟨trivial, fun _ after moved => ?_⟩)
  cases moved
  refine follows_bind.mpr (follows_pool.mpr ⟨⟨rfl, rfl⟩, fun released after moved => ?_⟩)
  cases moved
  cases released with
  | false => rfl
  | true =>
      refine follows_bind.mpr (follows_pool.mpr ⟨⟨rfl, rfl⟩, fun record after moved => ?_⟩)
      cases moved
      refine follows_bind.mpr (follows_pool.mpr ⟨.inr ⟨rfl, ?_⟩, fun _ after moved => ?_⟩)
      · dsimp only
        split
        · exact .inr rfl
        · exact .inl rfl
      · cases moved
        cases named : record.bind PoolWorker.sessionId with
        | none => simp
        | some sessionId =>
            refine fallbackWarmPoolSession_rescue settings connection.instanceId ?_
            by_cases same : sessionId = id
            · subst same
              simp
            · simp [same]

/-- A viewer disconnect owes nothing. -/
theorem markViewerDisconnectedAndSchedule_calm (settings : Settings) (instanceId : Nat)
    (other : SessionId) (reason : String) :
    (markViewerDisconnectedAndSchedule settings instanceId other reason).Issues Op.Calm := by
  refine .bind ⟨trivial, fun _ => trivial⟩ fun found => ?_
  cases found with
  | none => trivial
  | some session =>
      dsimp only
      split
      · trivial
      · refine ⟨trivial, fun _ => ⟨?_, fun _ => ⟨trivial, fun _ => trivial⟩⟩⟩
        exact show ("idle" : String) ≠ "terminated" by decide

theorem closeSessionSocket_calm (settings : Settings) (connection : Connection)
    (binding : Binding) :
    (closeSessionSocket settings connection binding).Issues Op.Calm := by
  refine .bind ⟨trivial, fun _ => trivial⟩ fun _ => ?_
  refine .bind ⟨trivial, fun _ => trivial⟩ fun released => ?_
  split
  · refine .bind ⟨trivial, fun _ => trivial⟩ fun found => ?_
    cases found with
    | none => trivial
    | some session =>
        dsimp only
        split
        · exact markViewerDisconnectedAndSchedule_calm ..
        · exact ⟨trivial, fun _ => trivial⟩
  · trivial

theorem onClose_rescue (settings : Settings) (connection : Connection) :
    (onClose settings connection).Follows (rescue id sockets)
      (fun _ after => after = ⟨sockets connection, .free⟩) ⟨sockets connection, .free⟩ := by
  refine follows_bind.mpr (follows_sync.mpr ⟨trivial, fun delivered after moved => ?_⟩)
  cases moved
  cases delivered with
  | false => rfl
  | true =>
      refine follows_bind.mpr (follows_sync.mpr ⟨trivial, fun registration after moved => ?_⟩)
      obtain ⟨isWorker, rfl⟩ := rescue_registration moved
      obtain ⟨session, poolWorkerId⟩ := registration
      simp only at isWorker
      rw [← isWorker]
      cases poolWorkerId with
      | some workerId => exact closePoolSocket_rescue settings connection workerId
      | none =>
          cases session with
          | none => rfl
          | some binding =>
              exact follows_rescue_of_issues (closeSessionSocket_calm settings connection binding)

theorem isCurrentPoolSocketOwner_calm (workerId : PoolWorkerId) (connection : Connection) :
    (isCurrentPoolSocketOwner workerId connection).Issues Op.Calm :=
  ⟨trivial, fun _ => trivial⟩

theorem postViewerEvents_calm (settings : Settings) (instanceId : Nat) (other : SessionId)
    (token : Token) (reason : String) :
    (postViewerEvents settings instanceId other token reason).Issues Op.Calm := by
  refine .bind ⟨trivial, fun _ => ⟨trivial, fun _ => trivial⟩⟩ fun access => ?_
  cases access with
  | error failure => trivial
  | ok session =>
      refine ⟨trivial, fun _ => ⟨trivial, fun _ => ?_⟩⟩
      split
      · exact (markViewerDisconnectedAndSchedule_calm ..).bind fun _ => trivial
      · exact ⟨trivial, fun _ => trivial⟩

theorem applyInternalSessionEvent_calm (settings : Settings) (instanceId : Nat)
    (other : SessionId) {event : InternalEvent} (isDisconnect : event.action = .viewerDisconnected) :
    (applyInternalSessionEvent settings instanceId other event).Issues Op.Calm := by
  refine .bind ⟨trivial, fun _ => trivial⟩ fun found => ?_
  cases found with
  | none => trivial
  | some session =>
      dsimp only
      split
      · trivial
      · unfold dispatchInternalEvent
        rw [isDisconnect]
        refine .bind ((markViewerDisconnectedAndSchedule_calm ..).bind fun _ => trivial)
          fun result => ?_
        cases result with
        | error failure => trivial
        | ok _ => exact ⟨trivial, fun _ => trivial⟩

/-- An idle report about the session takes the worker away and replaces it. -/
theorem handlePoolState_rescue (settings : Settings) {connection : Connection}
    {workerId : PoolWorkerId} (isWorker : sockets connection = some workerId)
    (sessionId : Option SessionId) (traits : WorkerTraits) :
    (handlePoolState settings connection workerId "idle" (some id) sessionId traits).Follows
      (rescue id sockets) (fun _ after => after = ⟨some workerId, .free⟩)
      ⟨some workerId, .free⟩ := by
  unfold handlePoolState
  rw [if_pos rfl]
  refine follows_bind.mpr (follows_pool.mpr ⟨⟨rfl, rfl⟩, fun _ after moved => ?_⟩)
  cases moved
  refine follows_bind.mpr (follows_sync.mpr ⟨trivial, fun registration after moved => ?_⟩)
  obtain ⟨same, rfl⟩ := rescue_registration moved
  rw [same, isWorker, Option.getD_some]
  exact fallbackWarmPoolSession_rescue settings connection.instanceId (.inl ⟨rfl, rfl, rfl⟩)

theorem relayMessage_calm (connection : Connection) (payload : Signal) :
    (relayMessage connection payload).Issues Op.Calm := by
  have sends (other : SessionId) (role : Role) :
      (sendSignal connection.instanceId other role payload).Issues Op.Calm :=
    (sendSignal_issues ..).mono fun _ signaling => signaling.calm
  refine .bind ⟨trivial, fun _ => trivial⟩ fun registration => ?_
  split
  · trivial
  · refine .bind ⟨trivial, fun _ => trivial⟩ fun _ => ?_
    refine .bind ⟨trivial, fun _ => trivial⟩ fun registration => ?_
    split
    · exact sends _ _
    · refine .bind ⟨trivial, fun _ => trivial⟩ fun found => ?_
      cases found with
      | none => trivial
      | some session =>
          dsimp only
          split
          · trivial
          · exact sends _ _
    · trivial
  · refine .bind ⟨trivial, fun _ => trivial⟩ fun found => ?_
    refine .bind ⟨trivial, fun _ => trivial⟩ fun registration => ?_
    split
    · split
      · trivial
      · exact sends _ _
    · trivial

/-- A pool report on a socket that is no pool worker's is relayed. -/
theorem handleSessionMessage_calm (connection : Connection) (state : String)
    (lastSessionId sessionId : Option SessionId) (traits metadata : WorkerTraits) :
    (handleSessionMessage connection
      (.poolState state lastSessionId sessionId traits metadata)).Issues Op.Calm := by
  refine .bind ⟨trivial, fun _ => trivial⟩ fun registration => ?_
  split
  · exact ⟨trivial, fun _ => trivial⟩
  · refine .bind ⟨trivial, fun _ => trivial⟩ fun owns => ?_
    split
    · exact relayMessage_calm ..
    · exact ⟨trivial, fun _ => trivial⟩

theorem onMessage_rescue (settings : Settings) (connection : Connection)
    (sessionId : Option SessionId) (traits metadata : WorkerTraits) :
    (onMessage settings connection
      (.poolState "idle" (some id) sessionId traits metadata)).Follows (rescue id sockets)
      (fun _ after => after = ⟨sockets connection, .free⟩) ⟨sockets connection, .free⟩ := by
  have current : (handleCurrentMessage settings connection
      (.poolState "idle" (some id) sessionId traits metadata)).Follows (rescue id sockets)
      (fun _ after => after = ⟨sockets connection, .free⟩) ⟨sockets connection, .free⟩ := by
    refine follows_bind.mpr (follows_sync.mpr ⟨trivial, fun registration after moved => ?_⟩)
    obtain ⟨isWorker, rfl⟩ := rescue_registration moved
    obtain ⟨session, poolWorkerId⟩ := registration
    simp only at isWorker
    cases poolWorkerId with
    | none => exact follows_rescue_of_issues (handleSessionMessage_calm ..)
    | some workerId =>
        rw [← isWorker]
        exact handlePoolState_rescue settings isWorker.symm sessionId _
  refine follows_bind.mpr (follows_sync.mpr ⟨trivial, fun registration after moved => ?_⟩)
  obtain ⟨isWorker, rfl⟩ := rescue_registration moved
  split
  · exact current
  · refine (follows_rescue_of_issues
      (isCurrentPoolSocketOwner_calm _ connection)).bind fun owns _ same => ?_
    subst same
    cases owns with
    | true => exact current
    | false => exact follows_rescue_of_issues ⟨trivial, fun _ => trivial⟩

end PoolSockets

/-! ## The jobs -/

namespace Job

/-- The socket whose event a handler handles. -/
def socket : Job → Option Connection
  | .message connection _ => some connection
  | .close connection => some connection
  | _ => none

/-- The assignment of a worker to the session, closes of sockets, idle reports about the
session, and viewer disconnects. -/
def concernsFallback (id : SessionId) : Job → Bool
  | .assignSessionWorker _ session => session.id = id
  | .connect _ _ _ => true
  | .peerClosing _ => true
  | .close _ => true
  | .message _ (.poolState state lastSessionId _ _ _) =>
      state = "idle" ∧ lastSessionId = some id
  | .viewerEvents _ _ _ _ => true
  | .internalEvent _ _ event => event.action = .viewerDisconnected
  | _ => false

/-- The phase in which a handler starts. -/
def rescuePhase : Job → RescuePhase
  | .assignSessionWorker _ _ => .assigning
  | _ => .free

/-- The monitor state in which a handler starts. -/
def rescue (id : SessionId) (sockets : Connection → Option PoolWorkerId) (job : Job) :
    Option Rescue :=
  if job.concernsFallback id then some ⟨job.socket.bind sockets, job.rescuePhase⟩ else none

end Job

/-- All handlers that concern the fallback follow the monitor and end free. -/
theorem Job.body_rescue (settings : Settings) {id : SessionId}
    {sockets : Connection → Option PoolWorkerId} (job : Job) (current : Rescue)
    (known : job.rescue id sockets = some current) :
    (job.body settings).Follows (RemoteBrowser.rescue id sockets)
      (fun _ after => after.phase = .free) current := by
  have drop {α : Type} {handler : Handler α} {own : Option PoolWorkerId}
      (follows : handler.Follows (RemoteBrowser.rescue id sockets)
        (fun _ after => after = ⟨own, .free⟩) current) :
      handler.Follows (RemoteBrowser.rescue id sockets) (fun _ after => after.phase = .free)
        current :=
    follows.mono fun _ _ same => same ▸ rfl
  unfold Job.rescue at known
  split at known
  · next concerns =>
      cases known
      cases job with
      | assignSessionWorker instanceId session =>
          have isSession : session.id = id := of_decide_eq_true concerns
          exact drop ((assignSessionWorker_rescue settings instanceId isSession).bind
            fun _ _ free => free)
      | connect connection path cookies =>
          exact drop (follows_rescue_of_issues ⟨trivial, fun _ => trivial⟩)
      | peerClosing connection =>
          exact drop (follows_rescue_of_issues ⟨trivial, fun _ => trivial⟩)
      | close connection => exact drop (onClose_rescue settings connection)
      | message connection received =>
          cases received with
          | poolState state lastSessionId sessionId traits metadata =>
              obtain ⟨rfl, rfl⟩ := of_decide_eq_true concerns
              exact drop (onMessage_rescue settings connection sessionId traits metadata)
          | _ => simp [Job.concernsFallback] at concerns
      | viewerEvents instanceId other token reason =>
          exact drop (follows_rescue_of_issues
            ((postViewerEvents_calm settings instanceId other token reason).bind
              fun _ => trivial))
      | internalEvent instanceId other event =>
          exact drop (follows_rescue_of_issues
            ((applyInternalSessionEvent_calm settings instanceId other
              (of_decide_eq_true concerns)).bind fun _ => trivial))
      | _ => simp [Job.concernsFallback] at concerns
  · simp at known

end RemoteBrowser
