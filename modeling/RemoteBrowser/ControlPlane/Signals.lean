import RemoteBrowser.ControlPlane.Effects
import RemoteBrowser.ControlPlane.Footprint
import Mathlib.Algebra.Order.Group.Multiset

/-!
# Signals between the two ends of a session

A signal is on its way in one of three places: sent on a socket, stored in the
pending list, or held by a handler that took it from its caller or from the list.
Handlers keep the sum of the three constant, except at a send on a socket that has
left `OPEN` in the meantime: `sendSignal` then drops its payload, and `flushSignals`
puts back only the first of the payloads that it drained.
-/

namespace RemoteBrowser

open Async Program

/-! ## Where signals are -/

/-- What is addressed to one end of a session, of signals addressed to `target` of
`other`. -/
def addressedTo (id : SessionId) (role : Role) (other : SessionId) (target : Role)
    (payloads : List Signal) : List Signal :=
  if other = id ∧ target = role then payloads else []

/-- The payload of a signal for one end of a session. -/
def Sent.payloadFor (id : SessionId) (role : Role) : Sent → List Signal
  | .signal _ other target payload => addressedTo id role other target [payload]
  | _ => []

namespace State

/-- The signals sent to one end of a session, on any socket. -/
def sentTo (id : SessionId) (role : Role) (state : State) : Multiset Signal :=
  (state.sent.flatMap (Sent.payloadFor id role) : List Signal)

/-- The stored pending list of one end of a session. -/
def pendingFor (id : SessionId) (role : Role) (state : State) : Multiset Signal :=
  (state.store.pending id role : List Signal)

/-- The signals that are sent or stored. -/
def signals (id : SessionId) (role : Role) (state : State) : Multiset Signal :=
  state.sentTo id role + state.pendingFor id role

end State

/-- The signals for one end of a session that were passed to a `sendSignal` handler. -/
def Job.passes (id : SessionId) (role : Role) : Job → List Signal
  | .sendSignal _ other target payload => addressedTo id role other target [payload]
  | _ => []

/-! ## Effects on signals -/

/-- The operation does not move signals. -/
def Op.Quiet : Op → Prop
  | .session (.addPendingSignal _ _ _) => False
  | .session (.drainPendingSignals _ _) => False
  | .session (.remove _) => False
  | .sync (.sendSignal _ _ _ _) => False
  | .sync (.sendSignals _ _ _ _) => False
  | _ => True

namespace State

variable {settings : Settings} {outcome : LaunchOutcome} {state : State}
  {id : SessionId} {role : Role}

theorem signals_congr {before after : State} (pending : after.store.pending = before.store.pending)
    (sent : after.sentTo id role = before.sentTo id role) :
    after.signals id role = before.signals id role := by
  simp only [signals, pendingFor, pending, sent]

/-- Sending on an open socket. -/
theorem sentTo_send {connection : Connection} (isOpen : state.isOpen connection = true)
    (message : Sent) :
    (state.send connection message).sentTo id role =
      state.sentTo id role + (message.payloadFor id role : List Signal) := by
  simp [send, isOpen, sentTo]

/-- Messages other than signals do not count. -/
theorem sentTo_send_of_nil {connection : Connection} {message : Sent}
    (other : message.payloadFor id role = []) :
    (state.send connection message).sentTo id role = state.sentTo id role := by
  unfold send
  split
  · simp [sentTo, other]
  · rfl

theorem dismissLocalSocket_sent (instanceId : Nat) (other : SessionId) (target : Role) :
    (state.dismissLocalSocket instanceId other target).sent = state.sent := by
  unfold dismissLocalSocket
  split <;> rfl

theorem sentTo_execSync {op : SyncOp} (quiet : Op.Quiet (.sync op)) :
    (execSync op state).1.sentTo id role = state.sentTo id role := by
  have same {after : State} (sent : after.sent = state.sent) :
      after.sentTo id role = state.sentTo id role := by
    simp only [sentTo, sent]
  cases op with
  | accept connection path cookies =>
      simp only [execSync]
      split <;> exact same rfl
  | adoptPoolSocket connection workerId =>
      simp only [execSync]
      split
      · split <;> exact same rfl
      · exact same rfl
  | clearLocalSocket connection other target =>
      simp only [execSync, State.clearLocalSocket]
      split <;> exact same rfl
  | clearLocalPoolSocket connection workerId =>
      simp only [execSync, State.clearLocalPoolSocket]
      split <;> exact same rfl
  | dismissSockets instanceId other =>
      refine same ?_
      simp only [execSync, dismissLocalSocket_sent]
  | sendSignal connection other target payload => exact quiet.elim
  | sendSignals connection other target payloads => exact quiet.elim
  | sendAssignment connection workerId payload => exact sentTo_send_of_nil rfl
  | sendNotice connection notice => exact sentTo_send_of_nil rfl
  | fireDisconnectTimer instanceId other target =>
      simp only [execSync, State.fireDisconnectTimer]
      split
      · rfl
      · split <;> exact same rfl
  | closeEvent connection =>
      simp only [execSync]
      split
      · rfl
      · split <;> exact same rfl
  | _ => exact same rfl

theorem signals_exec_of_quiet {op : Op} (quiet : op.Quiet) :
    (exec settings outcome op state).1.signals id role = state.signals id role := by
  cases op with
  | session op =>
      refine signals_congr ?_ rfl
      cases op with
      | mutate other mutation =>
          simp only [exec, RedisSessionStore.exec, RedisSessionStore.runSessionMutation]
          split <;> rfl
      | releaseSocketOwnership other target owner =>
          simp only [exec, RedisSessionStore.exec, RedisSessionStore.releaseSocketOwnership]
          split
          · rfl
          · split <;> rfl
      | acquireTerminationLock other ttlMs =>
          simp only [exec, RedisSessionStore.exec, RedisSessionStore.acquireTerminationLock]
          split <;> rfl
      | addPendingSignal other target payload => exact quiet.elim
      | drainPendingSignals other target => exact quiet.elim
      | remove other => exact quiet.elim
      | _ => rfl
  | sync op =>
      have frame := execSync_frame op state
      exact signals_congr (congrArg RedisSessionStore.pending frame.store)
        (sentTo_execSync quiet)
  | launch session => cases outcome <;> exact signals_congr rfl rfl
  | _ => exact signals_congr rfl rfl

/-- Queueing for a stored session. -/
theorem signals_addPendingSignal {other : SessionId} {target : Role} {payload : Signal}
    (present : other = id → (state.stored other).isSome) :
    (exec settings outcome (.session (.addPendingSignal other target payload))
        state).1.signals id role =
      state.signals id role + (addressedTo id role other target [payload] : List Signal) := by
  simp only [exec, RedisSessionStore.exec, RedisSessionStore.addPendingSignal]
  cases loaded : state.store.loadSession state.clock other with
  | none =>
      have elsewhere : ¬(other = id ∧ target = role) := by
        intro both
        simpa [State.stored, loaded] using present both.1
      simp [addressedTo, elsewhere]
  | some session =>
      by_cases same : other = id ∧ target = role
      · obtain ⟨rfl, rfl⟩ := same
        simp [signals, sentTo, pendingFor, addressedTo, ← Multiset.coe_add, add_assoc]
      · rw [addressedTo, if_neg same]
        by_cases own : id = other
        · subst own
          have different : role ≠ target := fun equal => same ⟨rfl, equal.symm⟩
          simp [signals, sentTo, pendingFor, Function.update_of_ne different]
        · simp [signals, sentTo, pendingFor, Function.update_of_ne own]

/-- Draining takes what it returns from the pending list. -/
theorem signals_drainPendingSignals {other : SessionId} {target : Role} :
    (exec settings outcome (.session (.drainPendingSignals other target))
        state).1.signals id role +
      (addressedTo id role other target (state.store.pending other target) : List Signal) =
      state.signals id role := by
  simp only [exec, RedisSessionStore.exec, RedisSessionStore.drainPendingSignals]
  by_cases same : other = id ∧ target = role
  · obtain ⟨rfl, rfl⟩ := same
    simp [signals, sentTo, pendingFor, addressedTo]
  · rw [addressedTo, if_neg same]
    by_cases own : id = other
    · subst own
      have different : role ≠ target := fun equal => same ⟨rfl, equal.symm⟩
      simp [signals, sentTo, pendingFor, Function.update_of_ne different]
    · simp [signals, sentTo, pendingFor, Function.update_of_ne own]

/-- `sendSignal` on an open socket. -/
theorem signals_sendSignal {connection : Connection} {other : SessionId} {target : Role}
    {payload : Signal}
    (isOpen : addressedTo id role other target [payload] ≠ [] →
      state.isOpen connection = true) :
    (exec settings outcome (.sync (.sendSignal connection other target payload))
        state).1.signals id role =
      state.signals id role + (addressedTo id role other target [payload] : List Signal) := by
  have frame := send_frame state connection (.signal connection other target payload)
  by_cases nothing : addressedTo id role other target [payload] = []
  · rw [nothing, Multiset.coe_nil, add_zero]
    exact signals_congr (congrArg RedisSessionStore.pending frame.store)
      (sentTo_send_of_nil nothing)
  · have sent : (state.send connection (.signal connection other target payload)).sentTo id role =
        state.sentTo id role + (addressedTo id role other target [payload] : List Signal) :=
      sentTo_send (isOpen nothing) _
    simp only [exec, execSync, signals, pendingFor, frame.store, sent]
    ac_rfl

/-- The loop of `flushSignals` returns what it does not send. -/
theorem signals_sendSignals {connection : Connection} {other : SessionId} {target : Role}
    {payloads : List Signal} :
    (exec settings outcome (.sync (.sendSignals connection other target payloads))
        state).1.signals id role +
      (addressedTo id role other target
        (if state.isOpen connection then [] else payloads) : List Signal) =
      state.signals id role + (addressedTo id role other target payloads : List Signal) := by
  simp only [exec, execSync]
  split
  · have all : payloads.flatMap
        (fun payload => (Sent.signal connection other target payload).payloadFor id role) =
        addressedTo id role other target payloads := by
      simp only [Sent.payloadFor, addressedTo]
      split <;> simp
    simp only [signals, sentTo, pendingFor, List.flatMap_append, List.flatMap_map, all,
      ← Multiset.coe_add]
    have nothing : addressedTo id role other target [] = [] := by simp [addressedTo]
    rw [nothing]
    simp only [Multiset.coe_nil, add_zero]
    ac_rfl
  · rfl

end State

/-! ## Signals that handlers hold -/

/-- The socket whose events a handler handles, and the signals for one end of a
session that it holds: they are neither sent nor stored. -/
structure Holding where
  own : Option Connection
  signals : List Signal

/-- A handler stores or sends exactly what it holds, and asks only for the
registration of its own socket.  The monitor lets go of a handler that fails to put
back signals, and of one whose socket is a pool worker's. -/
def holding (id : SessionId) (role : Role) : Monitor controlPlane.face Holding where
  allows := fun current op => match op with
    | .session (.addPendingSignal other target payload) =>
        current.signals = addressedTo id role other target [payload]
    | .session (.drainPendingSignals _ _) => current.signals = []
    | .session (.remove _) => False
    | .sync (.sendSignal _ other target payload) =>
        current.signals = addressedTo id role other target [payload]
    | .sync (.sendSignals _ other target payloads) =>
        current.signals = addressedTo id role other target payloads
    | .sync (.registration connection) => current.own = some connection
    | .sync (.registerPoolWorker _ _) => False
    | _ => True
  next := fun current op reply => match op, reply with
    | .session (.addPendingSignal _ _ _), _ => some { current with signals := [] }
    | .session (.drainPendingSignals other target), payloads =>
        some { current with signals := addressedTo id role other target payloads }
    | .sync (.sendSignal _ _ _ _), _ => some { current with signals := [] }
    | .sync (.sendSignals _ other target _), unsent =>
        if (addressedTo id role other target unsent).length ≤ 1 then
          some { current with signals := addressedTo id role other target unsent }
        else none
    | .sync (.registration _), registration =>
        if registration.poolWorkerId = none then some current else none
    | _, _ => some current

/-- The operation means nothing to the monitor. -/
def Op.Uninvolved : Op → Prop
  | .sync (.registration _) => False
  | .sync (.registerPoolWorker _ _) => False
  | op => op.Quiet

section Rules

variable {id : SessionId} {role : Role} {current : Holding}

theorem Op.Uninvolved.ignored {op : Op} (uninvolved : op.Uninvolved) :
    (holding id role).allows current op ∧
      ∀ reply after, (holding id role).next current op reply = some after →
        after = current := by
  cases op with
  | session op =>
      cases op with
      | addPendingSignal other target payload => exact uninvolved.elim
      | drainPendingSignals other target => exact uninvolved.elim
      | remove other => exact uninvolved.elim
      | _ => exact ⟨trivial, fun _ _ moved => (Option.some.inj moved).symm⟩
  | sync op =>
      cases op with
      | sendSignal connection other target payload => exact uninvolved.elim
      | sendSignals connection other target payloads => exact uninvolved.elim
      | registration connection => exact uninvolved.elim
      | registerPoolWorker connection workerId => exact uninvolved.elim
      | _ => exact ⟨trivial, fun _ _ moved => (Option.some.inj moved).symm⟩
  | _ => exact ⟨trivial, fun _ _ moved => (Option.some.inj moved).symm⟩

/-- Handlers that have nothing to do with signals leave the holding as it is. -/
theorem follows_holding_of_issues {α : Type} {handler : Handler α}
    (issues : handler.Issues Op.Uninvolved) :
    handler.Follows (holding id role) (fun _ after => after = current) current :=
  issues.follows_unchanged current fun _ uninvolved => uninvolved.ignored

end Rules

/-! ## The handlers -/

section Handlers

variable {id : SessionId} {role : Role} {own : Option Connection}

theorem isCurrentSessionSocketOwner_holding {current : Holding} (other : SessionId)
    (target : Role) (connection : Connection) :
    (isCurrentSessionSocketOwner other target connection).Follows (holding id role)
      (fun _ after => after = current) current :=
  follows_holding_of_issues ⟨trivial, fun _ => trivial⟩

theorem queueSignal_holding (other : SessionId) (target : Role) (payload : Signal) :
    (queueSignal other target payload).Follows (holding id role)
      (fun _ after => after = ⟨own, []⟩) ⟨own, addressedTo id role other target [payload]⟩ := by
  refine follows_bind.mpr (follows_store.mpr ⟨rfl, fun _ after moved => ?_⟩)
  cases moved
  exact follows_pause.mpr ⟨trivial, fun _ _ moved => (Option.some.inj moved).symm⟩

/-- `sendSignal` gets rid of its payload. -/
theorem sendSignal_holding (instanceId : Nat) (other : SessionId) (target : Role)
    (payload : Signal) :
    (sendSignal instanceId other target payload).Follows (holding id role)
      (fun _ after => after = ⟨own, []⟩) ⟨own, addressedTo id role other target [payload]⟩ := by
  refine follows_bind.mpr (follows_sync.mpr ⟨trivial, fun found after moved => ?_⟩)
  cases moved
  cases found with
  | none => exact queueSignal_holding other target payload
  | some socket =>
      refine (isCurrentSessionSocketOwner_holding other target socket).bind fun owns _ kept => ?_
      subst kept
      cases owns with
      | true => exact follows_sync.mpr ⟨rfl, fun _ _ moved => (Option.some.inj moved).symm⟩
      | false => exact queueSignal_holding other target payload

/-- `flushSignals` sends what it drained or, of one signal, puts it back. -/
theorem flushSignals_holding (instanceId : Nat) (other : SessionId) (target : Role) :
    (flushSignals instanceId other target).Follows (holding id role)
      (fun _ after => after = ⟨own, []⟩) ⟨own, []⟩ := by
  refine follows_bind.mpr (follows_sync.mpr ⟨trivial, fun found after moved => ?_⟩)
  cases moved
  cases found with
  | none => rfl
  | some socket =>
      refine (isCurrentSessionSocketOwner_holding other target socket).bind fun owns _ kept => ?_
      subst kept
      cases owns with
      | false => rfl
      | true =>
          refine follows_bind.mpr (follows_store.mpr ⟨rfl, fun payloads after moved => ?_⟩)
          cases moved
          refine follows_bind.mpr (follows_sync.mpr ⟨rfl, fun unsent after moved => ?_⟩)
          simp only [holding] at moved
          split at moved
          · next short =>
              cases moved
              cases unsent with
              | nil => simp [addressedTo]
              | cons payload rest =>
                  have first : addressedTo id role other target (payload :: rest) =
                      addressedTo id role other target [payload] := by
                    unfold addressedTo at short ⊢
                    split
                    · simp_all
                    · rfl
                  rw [first]
                  exact queueSignal_holding other target payload
          · simp at moved

/-- A socket claim ends with a flush. -/
theorem handleRegister_holding (connection : Connection) (target : Role) (other : SessionId)
    (token : Token) :
    (handleRegister connection target other token).Follows (holding id role)
      (fun _ after => after = ⟨own, []⟩) ⟨own, []⟩ := by
  have fails (message : String) : (failWith connection message).Follows (holding id role)
      (fun _ after => after = ⟨own, []⟩) ⟨own, []⟩ :=
    follows_holding_of_issues ⟨trivial, fun _ => trivial⟩
  have records : (recordRegistration target other).Issues Op.Uninvolved := by
    cases target <;> exact ⟨trivial, fun _ => trivial⟩
  refine follows_bind.mpr (follows_sync.mpr ⟨trivial, fun request after moved => ?_⟩)
  cases moved
  cases request with
  | none => rfl
  | some request =>
      dsimp only
      split
      · exact fails _
      · refine follows_bind.mpr (follows_store.mpr ⟨trivial, fun stored after moved => ?_⟩)
        cases moved
        refine follows_bind.mpr (follows_sync.mpr ⟨trivial, fun now after moved => ?_⟩)
        cases moved
        split
        · exact fails _
        · refine follows_bind.mpr (follows_sync.mpr ⟨trivial, fun _ after moved => ?_⟩)
          cases moved
          refine follows_bind.mpr (follows_mutate.mpr ⟨trivial, fun _ after moved => ?_⟩)
          cases moved
          refine follows_bind.mpr (follows_sync.mpr ⟨trivial, fun _ after moved => ?_⟩)
          cases moved
          refine (follows_holding_of_issues records).bind fun _ _ kept => ?_
          subst kept
          refine follows_bind.mpr (follows_sync.mpr ⟨trivial, fun _ after moved => ?_⟩)
          cases moved
          exact flushSignals_holding ..

/-- The close of a session socket moves no signals. -/
theorem onClose_holding (settings : Settings) (connection : Connection) :
    (onClose settings connection).Follows (holding id role)
      (fun _ after => after = ⟨some connection, []⟩) ⟨some connection, []⟩ := by
  have disconnects (other : SessionId) (reason : String) : (markViewerDisconnectedAndSchedule
      settings connection.instanceId other reason).Issues Op.Uninvolved := by
    refine .bind ⟨trivial, fun _ => trivial⟩ fun found => ?_
    cases found with
    | none => trivial
    | some session =>
        dsimp only
        split
        · trivial
        · exact ⟨trivial, fun _ => ⟨trivial, fun _ => ⟨trivial, fun _ => trivial⟩⟩⟩
  have closes (binding : Binding) :
      (closeSessionSocket settings connection binding).Issues Op.Uninvolved := by
    refine .bind ⟨trivial, fun _ => trivial⟩ fun _ => ?_
    refine .bind ⟨trivial, fun _ => trivial⟩ fun released => ?_
    split
    · refine .bind ⟨trivial, fun _ => trivial⟩ fun found => ?_
      cases found with
      | none => trivial
      | some session =>
          dsimp only
          split
          · exact disconnects _ _
          · exact ⟨trivial, fun _ => trivial⟩
    · trivial
  refine follows_bind.mpr (follows_sync.mpr ⟨trivial, fun delivered after moved => ?_⟩)
  cases moved
  cases delivered with
  | false => rfl
  | true =>
      refine follows_bind.mpr (follows_sync.mpr ⟨rfl, fun registration after moved => ?_⟩)
      simp only [holding] at moved
      split at moved
      · next noWorker =>
          cases moved
          obtain ⟨session, poolWorkerId⟩ := registration
          simp only at noWorker
          subst noWorker
          cases session with
          | none => rfl
          | some binding => exact follows_holding_of_issues (closes binding)
      · simp at moved

end Handlers

/-- `sendSignal`, `flushSignals`, the claims and closes of session sockets, and time. -/
def Job.concernsSignals : Job → Bool
  | .connect _ _ _ => true
  | .peerClosing _ => true
  | .close _ => true
  | .elapse _ => true
  | .sendSignal _ _ _ _ => true
  | .flushSignals _ _ _ => true
  | .message _ (.register _ _ _) => true
  | _ => false

/-- A handler starts with the signal that it is given. -/
def initialHolding (id : SessionId) (role : Role) (job : Job) : Option Holding :=
  if job.concernsSignals then
    match job with
    | .close connection => some ⟨some connection, []⟩
    | _ => some ⟨none, job.passes id role⟩
  else none

/-- All handlers that move signals follow the monitor and end with empty hands. -/
theorem Job.body_holding (settings : Settings) {id : SessionId} {role : Role} (job : Job)
    (current : Holding) (known : initialHolding id role job = some current) :
    (job.body settings).Follows (holding id role) (fun _ after => after.signals = []) current := by
  have drop {α : Type} {handler : Handler α} {own : Option Connection}
      (follows : handler.Follows (holding id role) (fun _ after => after = ⟨own, []⟩) current) :
      handler.Follows (holding id role) (fun _ after => after.signals = []) current :=
    follows.mono fun _ _ same => same ▸ rfl
  cases job with
  | connect connection path cookies =>
      cases known
      exact drop (follows_holding_of_issues ⟨trivial, fun _ => trivial⟩)
  | peerClosing connection =>
      cases known
      exact drop (follows_holding_of_issues ⟨trivial, fun _ => trivial⟩)
  | elapse ms =>
      cases known
      exact drop (follows_holding_of_issues ⟨trivial, fun _ => trivial⟩)
  | close connection =>
      cases known
      exact drop (onClose_holding settings connection)
  | sendSignal instanceId other target payload =>
      cases known
      exact drop (sendSignal_holding instanceId other target payload)
  | flushSignals instanceId other target =>
      cases known
      exact drop (flushSignals_holding instanceId other target)
  | message connection received =>
      cases received with
      | register target other token =>
          cases known
          exact drop (handleRegister_holding connection target other token)
      | _ => simp [initialHolding, Job.concernsSignals] at known
  | _ => simp [initialHolding, Job.concernsSignals] at known

/-! ## Runs -/

/-- A send to one end of a session finds its socket open; a flush may also find it
closed if it drained at most one signal. -/
def State.SendsWhileOpen (id : SessionId) (role : Role) (state : State) : Op → Prop
  | .sync (.sendSignal connection other target _) =>
      other = id → target = role → state.isOpen connection = true
  | .sync (.sendSignals connection other target payloads) =>
      other = id → target = role → state.isOpen connection = true ∨ payloads.length ≤ 1
  | _ => True

section Steps

variable {settings : Settings} {outcome : LaunchOutcome} {id : SessionId} {role : Role}
  {state : State} {current : Holding} {op : Op}

theorem holding_of_quiet {after : Holding} {reply : op.Reply} (quiet : op.Quiet)
    (moved : (holding id role).next current op reply = some after) : after = current := by
  cases op with
  | session op =>
      cases op with
      | addPendingSignal other target payload => exact quiet.elim
      | drainPendingSignals other target => exact quiet.elim
      | remove other => exact quiet.elim
      | _ => exact (Option.some.inj moved).symm
  | sync op =>
      cases op with
      | sendSignal connection other target payload => exact quiet.elim
      | sendSignals connection other target payloads => exact quiet.elim
      | registration connection =>
          simp only [holding] at moved
          split at moved
          · exact (Option.some.inj moved).symm
          · simp at moved
      | _ => exact (Option.some.inj moved).symm
  | _ => exact (Option.some.inj moved).symm

/-- One operation moves signals between the three places. -/
theorem signals_of_holding {after : Holding} (present : (state.stored id).isSome)
    (allows : (holding id role).allows current op) (safe : state.SendsWhileOpen id role op)
    (moved : (holding id role).next current op (State.exec settings outcome op state).2 =
      some after) :
    (State.exec settings outcome op state).1.signals id role + (after.signals : Multiset Signal) =
      state.signals id role + (current.signals : Multiset Signal) := by
  have settled (quiet : op.Quiet) :
      (State.exec settings outcome op state).1.signals id role +
          (after.signals : Multiset Signal) =
        state.signals id role + (current.signals : Multiset Signal) := by
    rw [holding_of_quiet quiet moved, State.signals_exec_of_quiet quiet]
  cases op with
  | session op =>
      cases op with
      | addPendingSignal other target payload =>
          cases moved
          rw [State.signals_addPendingSignal fun same => same ▸ present, allows]
          simp
      | drainPendingSignals other target =>
          cases moved
          rw [allows, Multiset.coe_nil, add_zero]
          exact State.signals_drainPendingSignals
      | remove other => exact allows.elim
      | _ => exact settled trivial
  | sync op =>
      cases op with
      | sendSignal connection other target payload =>
          cases moved
          rw [State.signals_sendSignal, allows]
          · simp
          · intro addressed
            by_cases same : other = id ∧ target = role
            · exact safe same.1 same.2
            · exact absurd (if_neg same) addressed
      | sendSignals connection other target payloads =>
          simp only [holding] at moved
          split at moved
          · cases moved
            have result : (State.exec settings outcome
                (.sync (.sendSignals connection other target payloads)) state).2 =
                if state.isOpen connection then [] else payloads := by
              simp only [State.exec, State.execSync]
              split <;> rfl
            rw [allows, result]
            exact State.signals_sendSignals
          · simp at moved
      | _ => exact settled trivial
  | _ => exact settled trivial

/-- The monitor lets go of no handler that sends while its sockets are open. -/
theorem exists_holding (settings : Settings) (outcome : LaunchOutcome)
    (safe : state.SendsWhileOpen id role op) (allows : (holding id role).allows current op)
    (noWorker : ∀ connection, current.own = some connection →
      state.poolWorkerOf connection = none) :
    ∃ after, (holding id role).next current op (State.exec settings outcome op state).2 =
      some after ∧ after.own = current.own := by
  cases op with
  | session op => cases op <;> exact ⟨_, rfl, rfl⟩
  | sync op =>
      cases op with
      | sendSignals connection other target payloads =>
          have short : (addressedTo id role other target (State.exec settings outcome
              (.sync (.sendSignals connection other target payloads)) state).2).length ≤ 1 := by
            unfold addressedTo
            split
            · next same =>
                rcases safe same.1 same.2 with isOpen | few
                · simp [State.exec, State.execSync, isOpen]
                · simp only [State.exec, State.execSync]
                  split
                  · simp
                  · exact few
            · simp
          exact ⟨_, if_pos short, rfl⟩
      | registration connection =>
          refine ⟨current, if_pos ?_, rfl⟩
          rw [State.poolWorkerId_registration]
          exact noWorker connection allows
      | _ => exact ⟨_, rfl, rfl⟩
  | _ => exact ⟨_, rfl, rfl⟩

end Steps

section Runs

variable {settings : Settings} {id : SessionId} {role : Role}

/-- Only handlers that move signals run, no pool worker's socket is closed, and the
session stays stored. -/
def SignalHandlersOnly (id : SessionId) (config : Config (controlPlane settings))
    (action : Action (controlPlane settings)) : Prop :=
  (∀ job : Job, action = .start job → job.concernsSignals = true ∧
    ∀ connection, job = .close connection →
      State.poolWorkerOf config.state connection = none) ∧
  ∀ after, config.step action = some after → (State.stored after.state id).isSome

/-- In addition, signals for one end of the session are sent on open sockets. -/
def SignalsSentWhileOpen (id : SessionId) (role : Role) (config : Config (controlPlane settings))
    (action : Action (controlPlane settings)) : Prop :=
  SignalHandlersOnly id config action ∧
    ∀ index outcome op, action = .resume index outcome → config.awaits index = some op →
      State.SendsWhileOpen id role config.state op

/-- The signals that were passed to a handler. -/
def passedTo (id : SessionId) (role : Role) (thread : Thread (controlPlane settings)) :
    Multiset Signal :=
  (Job.passes id role thread.job : List Signal)

/-- The signals that were passed to the handlers started so far. -/
def passedSignals (id : SessionId) (role : Role) (config : Config (controlPlane settings)) :
    Multiset Signal :=
  config.total (passedTo id role)

/-- The holding of a handler after its completed awaits. -/
def held (id : SessionId) (role : Role) (thread : Thread (controlPlane settings)) :
    Option Holding :=
  (holding id role).after (initialHolding id role thread.job) thread.past

/-- The signals that a handler holds. -/
def heldBy (id : SessionId) (role : Role) (thread : Thread (controlPlane settings)) :
    Multiset Signal :=
  ((held id role thread).elim [] Holding.signals : List Signal)

theorem heldBy_eq {thread : Thread (controlPlane settings)} {current : Holding}
    (known : held id role thread = some current) :
    heldBy id role thread = (current.signals : Multiset Signal) := by
  simp [heldBy, known]

/-- Every signal that was there before, or was passed to a handler, is sent, stored or
held. -/
structure SignalsAccounted (id : SessionId) (role : Role) (before : Multiset Signal)
    (config : Config (controlPlane settings)) : Prop where
  present : (State.stored config.state id).isSome
  watched : ∀ thread ∈ config.threads, ∃ current, held id role thread = some current ∧
    ∀ connection, current.own = some connection →
      State.poolWorkerOf config.state connection = none
  balanced : State.signals id role config.state + config.total (heldBy id role) =
    before + passedSignals id role config

theorem exists_initialHolding (id : SessionId) (role : Role) {job : Job}
    (concerns : job.concernsSignals = true) :
    ∃ current, initialHolding id role job = some current ∧
      current.signals = job.passes id role ∧
      ∀ connection, current.own = some connection → job = .close connection := by
  unfold initialHolding
  rw [if_pos concerns]
  split
  · next connection => exact ⟨_, rfl, rfl, fun _ own => congrArg _ (Option.some.inj own)⟩
  · exact ⟨_, rfl, rfl, fun _ own => by simp at own⟩

/-- Handlers start with what they are given, and every await moves signals only between
the three places. -/
theorem SignalsAccounted.step {before : Multiset Signal}
    {config after : Config (controlPlane settings)} {action : Action (controlPlane settings)}
    (obeys : ∀ thread ∈ config.threads,
      thread.Obeys (holding id role) (initialHolding id role) fun final => final.signals = [])
    (accounted : SignalsAccounted id role before config)
    (permitted : SignalsSentWhileOpen id role config action)
    (stepped : config.step action = some after) : SignalsAccounted id role before after := by
  have present := permitted.1.2 after stepped
  obtain ⟨job, rfl, -, rfl⟩ | ⟨index, outcome, thread, op, next, rfl, found, suspended, rfl⟩ :=
    Config.step_cases stepped
  · obtain ⟨concerns, closing⟩ := permitted.1.1 job rfl
    obtain ⟨current, known, passed, own⟩ := exists_initialHolding id role concerns
    refine ⟨present, fun thread member => ?_, ?_⟩
    · rcases List.mem_append.mp member with old | new
      · exact accounted.watched thread old
      · rw [List.mem_singleton.mp new]
        exact ⟨current, known, fun connection same => closing connection (own connection same)⟩
    · have held : heldBy id role (Thread.new (controlPlane settings) job) =
          passedTo id role (Thread.new (controlPlane settings) job) := by
        have starts : held id role (Thread.new (controlPlane settings) job) = some current :=
          known
        rw [heldBy_eq starts, passed]
        rfl
      simp only [passedSignals, Config.total_append]
      rw [held, ← add_assoc, ← add_assoc]
      exact congrArg (· + _) accounted.balanced
  · have member := List.mem_of_getElem? found
    obtain ⟨current, known, noWorker⟩ := accounted.watched thread member
    have allows := (obeys thread member).allows known suspended
    have safe := permitted.2 index outcome op rfl (Config.awaits_eq_some found suspended)
    obtain ⟨behind, moved, own⟩ := exists_holding settings outcome safe allows noWorker
    have advanced : held id role (thread.advance op (State.exec settings outcome op config.state).2
        (next (State.exec settings outcome op config.state).2)) = some behind :=
      Option.bind_eq_some_iff.mpr ⟨current, known, moved⟩
    have sockets (connection : Connection) :
        (State.exec settings outcome op config.state).1.poolWorkerOf connection =
          State.poolWorkerOf config.state connection := by
      refine State.poolWorkerOf_exec ?_
      rintro workerId rfl
      exact allows
    refine ⟨present, fun other member => ?_, ?_⟩
    · rcases List.mem_or_eq_of_mem_set member with old | rfl
      · obtain ⟨holds, isKnown, unregistered⟩ := accounted.watched other old
        exact ⟨holds, isKnown, fun connection same =>
          (sockets connection).trans (unregistered connection same)⟩
      · exact ⟨behind, advanced, fun connection same =>
          (sockets connection).trans (noWorker connection (own ▸ same))⟩
    · have kept := signals_of_holding accounted.present allows safe moved
      rw [← heldBy_eq known, ← heldBy_eq advanced] at kept
      have sameJobs := Config.total_set (passedTo id role) found config.state
        (State.exec settings outcome op config.state).1
        (thread.advance op (State.exec settings outcome op config.state).2
          (next (State.exec settings outcome op config.state).2))
      rw [passedSignals, add_right_cancel sameJobs]
      exact (Config.add_total_set found kept config.state _).trans accounted.balanced

/-- In every run in which signals for one end of a stored session are sent on open
sockets, once no handler is in progress each signal that was there at the start or was
passed to `sendSignal` is sent once or pending once. -/
theorem signals_neither_lost_nor_duplicated {state : State}
    {final : Config (controlPlane settings)} (present : (state.stored id).isSome)
    (run : Run (SignalsSentWhileOpen id role) ⟨state, []⟩ final) (idle : final.Quiescent) :
    State.sentTo id role final.state + State.pendingFor id role final.state =
      state.sentTo id role + state.pendingFor id role + passedSignals id role final := by
  have obeys {config : Config (controlPlane settings)}
      (run : Run (SignalsSentWhileOpen id role) ⟨state, []⟩ config) :
      ∀ thread ∈ config.threads, thread.Obeys (holding id role) (initialHolding id role)
        fun final => final.signals = [] :=
    run.obeys (Job.body_holding settings) (by simp)
  have accounted {config : Config (controlPlane settings)}
      (run : Run (SignalsSentWhileOpen id role) ⟨state, []⟩ config) :
      SignalsAccounted id role (state.signals id role) config := by
    induction run with
    | refl => exact ⟨present, by simp, by simp [Config.total, passedSignals]⟩
    | tail earlier permitted stepped ih => exact ih.step (obeys earlier) permitted stepped
  have nothingHeld : final.total (heldBy id role) = 0 := by
    refine List.sum_eq_zero fun amount member => ?_
    obtain ⟨thread, started, rfl⟩ := List.mem_map.mp member
    obtain ⟨current, known, -⟩ := (accounted run).watched thread started
    rw [heldBy_eq known, (obeys run thread started).post_of_finished known (idle thread started)]
    rfl
  have balanced := (accounted run).balanced
  rw [nothingHeld, add_zero] at balanced
  exact balanced

end Runs

section SignalRuns

open controlPlane

/-- Session 0 was created and has its tokens. -/
def oneSession : State :=
  let created := State.exec plainSettings .succeeds (.createSession {}) State.initial
  (State.exec plainSettings .succeeds
    (.session (.mutate created.2.id (.update created.2.tokenPatch))) created.1).1

/-- Two signals for the viewer of session 0 are stored; then the viewer connects and its
registration has drained them. -/
def drainTwoSignals : List (Action (controlPlane plainSettings)) :=
  .start (.sendSignal 0 0 .viewer (.relayed "offer")) :: run 0 3 ++
    .start (.sendSignal 0 0 .viewer (.relayed "candidate")) :: run 1 3 ++
    .start (.connect ⟨0, 1⟩ .viewer []) :: run 2 1 ++
    .start (.message ⟨0, 1⟩ (.register .viewer 0 (makeViewerToken 0 1000))) :: run 3 11

/-- The handlers move signals, no socket's close is handled, and session 0 stays
stored. -/
def signalHandlers (config : Config (controlPlane plainSettings))
    (action : Action (controlPlane plainSettings)) : Bool :=
  (match action with
    | .start (.close _) => false
    | .start job => Job.concernsSignals job
    | .resume _ _ => true) &&
    (config.step action).all fun after => (State.stored after.state 0).isSome

theorem signalHandlersOnly_of_signalHandlers (config : Config (controlPlane plainSettings))
    (action : Action (controlPlane plainSettings)) (passes : signalHandlers config action = true) :
    SignalHandlersOnly 0 config action := by
  obtain ⟨concerns, stays⟩ := Bool.and_eq_true_iff.mp passes
  refine ⟨?_, fun after stepped => ?_⟩
  · rintro job rfl
    cases job with
    | close connection => simp at concerns
    | _ => exact ⟨concerns, fun _ same => by simp at same⟩
  · simpa [stepped] using stays

/-- In addition, signals are sent on open sockets. -/
def sendsOnOpenSockets (config : Config (controlPlane plainSettings))
    (action : Action (controlPlane plainSettings)) : Bool :=
  signalHandlers config action &&
    match action with
    | .start _ => true
    | .resume index _ => match config.awaits index with
        | some (.sync (.sendSignal connection _ _ _)) => State.isOpen config.state connection
        | some (.sync (.sendSignals connection _ _ _)) => State.isOpen config.state connection
        | _ => true

theorem signalsSentWhileOpen_of_sends {role : Role} (config : Config (controlPlane plainSettings))
    (action : Action (controlPlane plainSettings))
    (passes : sendsOnOpenSockets config action = true) :
    SignalsSentWhileOpen 0 role config action := by
  obtain ⟨handlers, isOpen⟩ := Bool.and_eq_true_iff.mp passes
  refine ⟨signalHandlersOnly_of_signalHandlers config action handlers, ?_⟩
  rintro index outcome op rfl awaited
  simp only [awaited] at isOpen
  unfold State.SendsWhileOpen
  split
  · exact fun _ _ => isOpen
  · exact fun _ _ => .inl isOpen
  · trivial

/-- No handler is in progress, and the viewer of session 0 was sent some signals and has
others pending. -/
def viewerSignals (sent pending : List Signal) (config : Config (controlPlane plainSettings)) :
    Bool :=
  config.Quiescent && decide (State.sentTo 0 .viewer config.state = sent) &&
    decide (State.pendingFor 0 .viewer config.state = pending) &&
    decide (passedSignals 0 .viewer config =
      ([.relayed "offer", .relayed "candidate"] : List Signal))

/-- Two stored signals reach the viewer that registers. -/
theorem drained_signals_are_sent :
    ∃ final : Config (controlPlane plainSettings),
      Run (SignalsSentWhileOpen 0 .viewer) ⟨oneSession, []⟩ final ∧ final.Quiescent ∧
      State.sentTo 0 .viewer final.state =
        ([.relayed "offer", .relayed "candidate"] : List Signal) ∧
      State.sentTo 0 .viewer final.state + State.pendingFor 0 .viewer final.state =
        oneSession.sentTo 0 .viewer + oneSession.pendingFor 0 .viewer +
          passedSignals 0 .viewer final := by
  obtain ⟨final, reached, holds⟩ := Run.exists_of_schedule signalsSentWhileOpen_of_sends
    (⟨oneSession, []⟩ : Config (controlPlane plainSettings)) (drainTwoSignals ++ run 3 1)
    (viewerSignals [.relayed "offer", .relayed "candidate"] []) (by decide)
  simp only [viewerSignals, Bool.and_eq_true, decide_eq_true_eq] at holds
  obtain ⟨⟨⟨idle, sent⟩, -⟩, -⟩ := holds
  exact ⟨final, reached, idle, sent,
    signals_neither_lost_nor_duplicated (by decide) reached idle⟩

/-- The viewer's socket closes between the drain and the sends: only the first of the two
signals is put back. -/
theorem flush_to_closing_socket_loses_signal :
    ¬∀ (settings : Settings) (id : SessionId) (role : Role) (state : State)
      (final : Config (controlPlane settings)), (state.stored id).isSome →
      Run (SignalHandlersOnly id) ⟨state, []⟩ final → final.Quiescent →
      State.sentTo id role final.state + State.pendingFor id role final.state =
        state.sentTo id role + state.pendingFor id role + passedSignals id role final := by
  intro conserved
  obtain ⟨final, reached, holds⟩ := Run.exists_of_schedule signalHandlersOnly_of_signalHandlers
    (⟨oneSession, []⟩ : Config (controlPlane plainSettings))
    (drainTwoSignals ++ .start (.peerClosing ⟨0, 1⟩) :: run 4 1 ++ run 3 3)
    (viewerSignals [] [.relayed "offer"]) (by decide)
  simp only [viewerSignals, Bool.and_eq_true, decide_eq_true_eq] at holds
  obtain ⟨⟨⟨idle, sent⟩, pending⟩, passed⟩ := holds
  have balance := conserved plainSettings 0 .viewer oneSession final (by decide) reached idle
  rw [sent, pending, passed] at balance
  exact absurd balance (by decide)

end SignalRuns

end RemoteBrowser
