import RemoteBrowser.Async.Monitor
import RemoteBrowser.ControlPlane.Handlers

/-!
# What the shared helpers issue

One lemma for each helper of the handlers: the kinds of operations it can issue.
Properties that do not depend on signals or on the pool then pass over these
helpers by their kind, without looking into them.  The second half states what the
checks of tokens leave and the monitor rules for the basic awaits.
-/

namespace RemoteBrowser

open Async Program

/-! ## Kinds of operations -/

namespace Op

/-- Signals are queued, sent and flushed. -/
def Signaling : Op → Prop
  | .session (.getSocketOwner _ _) => True
  | .session (.addPendingSignal _ _ _) => True
  | .session (.drainPendingSignals _ _) => True
  | .sync (.openSocket _ _ _) => True
  | .sync (.sendSignal _ _ _ _) => True
  | .sync (.sendSignals _ _ _ _) => True
  | .sync (.dismissSockets _ _) => True
  | .pause => True
  | _ => False

/-- Pool workers are searched and their assignments are delivered. -/
def Pooling : Op → Prop
  | .pool (.allocateWorkerWithAssignment _ _ _) => True
  | .pool (.getSocketOwner _) => True
  | .pool (.unregisterWorker _) => True
  | .pool (.addPendingAssignment _ _) => True
  | .pool (.drainPendingAssignments _) => True
  | .sync .now => True
  | .sync (.isOpen _) => True
  | .sync (.openPoolSocket _ _) => True
  | .sync (.sendAssignment _ _ _) => True
  | .pause => True
  | _ => False

/-- Of these, what the delivery of assignments issues. -/
def Delivering : Op → Prop
  | .pool (.getSocketOwner _) => True
  | .pool (.addPendingAssignment _ _) => True
  | .pool (.drainPendingAssignments _) => True
  | .sync (.isOpen _) => True
  | .sync (.openPoolSocket _ _) => True
  | .sync (.sendAssignment _ _ _) => True
  | .pause => True
  | _ => False

theorem Delivering.pooling {op : Op} (delivering : op.Delivering) : op.Pooling := by
  cases op with
  | pool script => cases script <;> trivial
  | sync call => cases call <;> trivial
  | _ => trivial

/-- What `terminateSession` issues for a session object. -/
def Terminating (session : Session) (op : Op) : Prop :=
  op.Signaling ∨
    op = .session (.acquireTerminationLock session.id 30000) ∨
    op = .session (.mutate session.id (.setState "terminated")) ∨
    op = .notifyGateway session.id ∨
    op = .stop session.worker

end Op

/-! ## Signals -/

theorem isCurrentSessionSocketOwner_issues (id : SessionId) (role : Role)
    (connection : Connection) :
    (isCurrentSessionSocketOwner id role connection).Issues Op.Signaling :=
  ⟨trivial, fun _ => trivial⟩

theorem queueSignal_issues (id : SessionId) (role : Role) (payload : Signal) :
    (queueSignal id role payload).Issues Op.Signaling :=
  ⟨trivial, fun _ => ⟨trivial, fun _ => trivial⟩⟩

theorem sendSignal_issues (instanceId : Nat) (id : SessionId) (role : Role)
    (payload : Signal) : (sendSignal instanceId id role payload).Issues Op.Signaling := by
  unfold sendSignal
  refine .bind ⟨trivial, fun _ => trivial⟩ fun target => ?_
  cases target with
  | none => exact queueSignal_issues id role payload
  | some target =>
      refine (isCurrentSessionSocketOwner_issues id role target).bind fun owns => ?_
      cases owns with
      | true => exact ⟨trivial, fun _ => trivial⟩
      | false => exact queueSignal_issues id role payload

theorem flushSignals_issues (instanceId : Nat) (id : SessionId) (role : Role) :
    (flushSignals instanceId id role).Issues Op.Signaling := by
  unfold flushSignals
  refine .bind ⟨trivial, fun _ => trivial⟩ fun target => ?_
  cases target with
  | none => trivial
  | some target =>
      refine (isCurrentSessionSocketOwner_issues id role target).bind fun owns => ?_
      cases owns with
      | false => trivial
      | true =>
          refine .bind ⟨trivial, fun _ => trivial⟩ fun payloads => ?_
          refine .bind ⟨trivial, fun _ => trivial⟩ fun unsent => ?_
          cases unsent with
          | nil => trivial
          | cons payload _ => exact queueSignal_issues id role payload

/-! ## Pool -/

theorem isCurrentPoolSocketOwner_issues (workerId : PoolWorkerId)
    (connection : Connection) :
    (isCurrentPoolSocketOwner workerId connection).Issues Op.Delivering :=
  ⟨trivial, fun _ => trivial⟩

theorem hasLocalOwnerSocket_issues (instanceId : Nat) (workerId : PoolWorkerId) :
    (hasLocalOwnerSocket instanceId workerId).Issues Op.Delivering := by
  unfold hasLocalOwnerSocket
  refine .bind ⟨trivial, fun _ => trivial⟩ fun poolSocket => ?_
  cases poolSocket with
  | none => trivial
  | some poolSocket => exact isCurrentPoolSocketOwner_issues workerId poolSocket

theorem requeueAssignments_issues (workerId : PoolWorkerId) (payloads : List Assignment) :
    (requeueAssignments workerId payloads).Issues Op.Delivering := by
  refine .bind (Issues.forEach fun payload _ => ?_) fun _ => ?_
  · exact ⟨trivial, fun _ => trivial⟩
  · exact ⟨trivial, fun _ => trivial⟩

theorem deliverAssignments_issues (workerId : PoolWorkerId) (target : Connection)
    (payloads : List Assignment) :
    (deliverAssignments workerId target payloads).Issues Op.Delivering := by
  induction payloads with
  | nil => trivial
  | cons payload rest ih =>
      unfold deliverAssignments
      refine .bind ⟨trivial, fun _ => trivial⟩ fun isOpen => ?_
      cases isOpen with
      | false => exact requeueAssignments_issues workerId (payload :: rest)
      | true =>
          refine (isCurrentPoolSocketOwner_issues workerId target).bind fun owns => ?_
          cases owns with
          | false => exact requeueAssignments_issues workerId (payload :: rest)
          | true => exact Issues.bind ⟨trivial, fun _ => trivial⟩ fun _ => ih

theorem flushPoolAssignments_issues (instanceId : Nat) (workerId : PoolWorkerId) :
    (flushPoolAssignments instanceId workerId).Issues Op.Delivering := by
  unfold flushPoolAssignments
  refine .bind ⟨trivial, fun _ => trivial⟩ fun target => ?_
  cases target with
  | none => trivial
  | some target =>
      refine (isCurrentPoolSocketOwner_issues workerId target).bind fun owns => ?_
      cases owns with
      | false => trivial
      | true =>
          exact Issues.bind ⟨trivial, fun _ => trivial⟩ fun payloads =>
            deliverAssignments_issues workerId target payloads

theorem allocateWarmWorkerLoop_issues (settings : Settings) (instanceId : Nat)
    (session : Session) (deadline rounds : Nat) :
    (allocateWarmWorkerLoop settings instanceId session deadline rounds).Issues
      Op.Pooling := by
  induction rounds with
  | zero => trivial
  | succ rounds ih =>
      unfold allocateWarmWorkerLoop
      refine .bind ⟨trivial, fun _ => trivial⟩ fun worker => ?_
      cases worker with
      | none =>
          refine .bind ⟨trivial, fun _ => trivial⟩ fun now => ?_
          split
          · trivial
          · exact Issues.bind ⟨trivial, fun _ => trivial⟩ fun _ => ih
      | some worker =>
          have locates := (hasLocalOwnerSocket_issues instanceId worker.workerId).mono
            fun _ delivering => delivering.pooling
          refine locates.bind fun has => ?_
          cases has with
          | true => trivial
          | false =>
              refine .bind ⟨trivial, fun _ => trivial⟩ fun owner => ?_
              cases owner with
              | some _ => trivial
              | none => exact Issues.bind ⟨trivial, fun _ => trivial⟩ fun _ => ih

theorem pooledWorker_issues (settings : Settings) (instanceId : Nat) (session : Session) :
    (pooledWorker settings instanceId session).Issues Op.Pooling := by
  unfold pooledWorker
  split
  · exact Issues.bind ⟨trivial, fun _ => trivial⟩ fun now =>
      allocateWarmWorkerLoop_issues settings instanceId session _ _
  · trivial

/-! ## Termination -/

theorem finishTermination_issues (settings : Settings) (instanceId : Nat)
    (session : Session) (reason : String) :
    (finishTermination settings instanceId session reason).Issues
      (Op.Terminating session) := by
  have signals (role : Role) : (sendSignal instanceId session.id role
      (.sessionTerminated reason)).Issues (Op.Terminating session) :=
    (sendSignal_issues instanceId session.id role _).mono fun _ signaling => .inl signaling
  unfold finishTermination
  refine .bind ⟨.inr (.inr (.inl rfl)), fun _ => trivial⟩ fun _ => ?_
  refine .bind ?_ fun _ => ?_
  · unfold onlyIf notifyGatewaySessionTermination onlyIf
    split
    · split
      · exact ⟨.inr (.inr (.inr (.inl rfl))), fun _ => trivial⟩
      · trivial
    · trivial
  refine (signals .viewer).bind fun _ => (signals .worker).bind fun _ => ?_
  refine .bind ⟨.inl trivial, fun _ => trivial⟩ fun _ => ?_
  unfold onlyIf
  split
  · exact ⟨.inr (.inr (.inr (.inr rfl))), fun _ => trivial⟩
  · trivial

theorem terminateSession_issues (settings : Settings) (instanceId : Nat)
    (session : Session) (reason : String) :
    (terminateSession settings instanceId session reason).Issues
      (Op.Terminating session) := by
  unfold terminateSession
  split
  · trivial
  · refine .bind ⟨.inr (.inl rfl), fun _ => trivial⟩ fun acquired => ?_
    cases acquired with
    | true => exact finishTermination_issues settings instanceId session reason
    | false => trivial

/-! ## Checks of tokens -/

/-- A viewer is let in on the live session just read, for which its token is good. -/
theorem validateViewerAccess_eq_ok {now : Nat} {token : Token} {found : Option Session}
    {session : Session} (accepted : validateViewerAccess now token found = .ok session) :
    found = some session ∧ ¬session.Terminated ∧ now ≤ session.expiresAt ∧
      ∃ source, verifySessionToken now token session .viewer = .ok source := by
  unfold validateViewerAccess at accepted
  split at accepted
  · simp at accepted
  · split at accepted
    · simp at accepted
    · next live =>
        split at accepted
        · simp at accepted
        · next fresh =>
            split at accepted
            · simp at accepted
            · next source verified =>
                cases accepted
                exact ⟨rfl, live, not_lt.mp fresh, source, verified⟩

/-- An accepted registration is for the live session just read, for which its token is
good. -/
theorem validateRegistration_eq_ok {now : Nat} {path : SocketPath}
    {cookies : List (SessionId × Token)} {role : Role} {sessionId : SessionId}
    {token : Token} {found : Option Session} {session : Session}
    (accepted : validateRegistration now path cookies role sessionId token found =
      .ok session) :
    found = some session ∧ ¬session.Terminated ∧ now ≤ session.expiresAt ∧
      ∃ source, verifySessionToken now (registrationToken cookies role sessionId token)
        session role = .ok source := by
  unfold validateRegistration at accepted
  split at accepted
  · simp at accepted
  · split at accepted
    · simp at accepted
    · next live =>
        split at accepted
        · simp at accepted
        · next fresh =>
            iterate 2
              split at accepted
              · simp at accepted
            split at accepted
            · simp at accepted
            · next source verified =>
                cases accepted
                exact ⟨rfl, live, not_lt.mp fresh, source, verified⟩

/-! ## Monitor rules for the basic awaits -/

section Rules

variable {σ : Type} {monitor : Monitor controlPlane.face σ} {current : σ}

@[simp] theorem follows_store {op : SessionOp} {post : op.Reply → σ → Prop} :
    (store op).Follows monitor post current ↔
      monitor.allows current (.session op) ∧
        ∀ reply after, monitor.next current (.session op) reply = some after →
          post reply after := Iff.rfl

@[simp] theorem follows_pool {op : PoolOp} {post : op.Reply → σ → Prop} :
    (pool op).Follows monitor post current ↔
      monitor.allows current (.pool op) ∧
        ∀ reply after, monitor.next current (.pool op) reply = some after →
          post reply after := Iff.rfl

@[simp] theorem follows_sync {op : SyncOp} {post : op.Reply → σ → Prop} :
    (sync op).Follows monitor post current ↔
      monitor.allows current (.sync op) ∧
        ∀ reply after, monitor.next current (.sync op) reply = some after →
          post reply after := Iff.rfl

@[simp] theorem follows_await {op : Op} {post : op.Reply → σ → Prop} :
    (await op).Follows monitor post current ↔
      monitor.allows current op ∧
        ∀ reply after, monitor.next current op reply = some after →
          post reply after := Iff.rfl

@[simp] theorem follows_pause {post : Unit → σ → Prop} :
    pause.Follows monitor post current ↔
      monitor.allows current .pause ∧
        ∀ reply after, monitor.next current .pause reply = some after →
          post reply after := Iff.rfl

@[simp] theorem follows_mutate {id : SessionId} {mutation : SessionMutation}
    {post : Unit → σ → Prop} :
    (mutate id mutation).Follows monitor post current ↔
      monitor.allows current (.session (.mutate id mutation)) ∧
        ∀ reply after, monitor.next current (.session (.mutate id mutation)) reply =
          some after → post () after := Iff.rfl

theorem follows_onlyIf {condition : Prop} [Decidable condition] {action : Handler Unit}
    {post : Unit → σ → Prop}
    (taken : condition → action.Follows monitor post current)
    (skipped : ¬condition → post () current) :
    (onlyIf condition action).Follows monitor post current := by
  unfold onlyIf
  split
  · next holds => exact taken holds
  · next fails => exact skipped fails

end Rules

end RemoteBrowser
