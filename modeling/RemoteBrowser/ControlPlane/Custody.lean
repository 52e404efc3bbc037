import RemoteBrowser.ControlPlane.Effects
import RemoteBrowser.ControlPlane.Footprint

/-!
# Who holds a launched worker

Between `workerRuntime.launch` and the `setWorker` that follows it, a launched worker
is known only to the handler that carries it; between the store of `"terminated"` and
`workerRuntime.stop` it is known only to the handler that owes the stop.  A monitor
for one session follows both, and every handler that assigns, replaces or stops
workers is checked against it.
-/

namespace RemoteBrowser

open Async Program

/-! ## The monitor -/

/-- What a handler knows about the workers of one session: the worker in the copy it
last read, the worker it launched and has not stored, and the worker it must stop. -/
structure Custody where
  held : Option (Option Worker) := none
  carrying : Option Worker := none
  owes : Option Worker := none

namespace Custody

/-- Nothing is carried and nothing is owed. -/
def Clear (current : Custody) : Prop := current.carrying = none ∧ current.owes = none

/-- The handler read a list of sessions.  Copies of one session that disagree about
its worker cannot come from one atomic read. -/
def read (id : SessionId) (current : Custody) (sessions : List Session) : Option Custody :=
  match (sessions.filter fun session => session.id = id).map Session.worker with
  | [] => some { current with held := none }
  | worker :: rest =>
      if ∀ other ∈ rest, other = worker then some { current with held := some worker }
      else none

/-- The monitor state after an answered operation.  A handler whose launch failed, or
that got an impossible reply, is not followed any further. -/
@[grind =] def after (id : SessionId) (current : Custody) : (op : Op) → op.Reply → Option Custody
  | .session (.get other), found =>
      if other = id then some { current with held := found.map Session.worker }
      else if found.any fun session => session.id = id then none
      else some current
  | .session (.listSessions _), sessions => current.read id sessions
  | .session (.mutate other (.setWorker _)), _ =>
      if other = id then some { current with held := none, carrying := none }
      else some current
  | .session (.mutate other (.setState state)), _ =>
      if other = id ∧ state = "terminated" then
        some { current with
          owes := current.held.bind fun worker =>
            if Worker.IsWarmPool worker then none else worker }
      else some current
  | .launch requester, .ok worker =>
      if requester.id = id then some { current with held := none, carrying := some worker }
      else some { current with held := none }
  | .launch requester, .error _ =>
      if requester.id = id then none else some { current with held := none }
  | .stop _, _ => some { current with owes := none }
  | _, _ => some current

/-- What a handler may do: it stores the worker it carries, launches no second one
before that, terminates only what it has read, and stops what it owes. -/
def Allows (id : SessionId) (current : Custody) : Op → Prop
  | .session (.mutate other (.setWorker worker)) =>
      other = id → ∀ carried, current.carrying = some carried → worker = some carried
  | .session (.mutate other (.setState state)) =>
      other = id → state = "terminated" → current.held ≠ none ∧ current.owes = none
  | .launch requester => requester.id = id → current.carrying = none
  | .stop worker => ∀ owed, current.owes = some owed → worker = some owed
  | op => op.Retains id

end Custody

/-- The custody of the workers of session `id`. -/
def custody (id : SessionId) : Monitor controlPlane.face Custody where
  allows current op := current.Allows id op
  next current op reply := current.after id op reply

/-- The operation concerns no worker of the session. -/
def Op.Neutral (id : SessionId) : Op → Prop
  | .session (.get _) => False
  | .session (.listSessions _) => False
  | .session (.mutate other (.setWorker _)) => other ≠ id
  | .session (.mutate other (.setState state)) => other = id → state ≠ "terminated"
  | .launch _ => False
  | .stop _ => False
  | op => op.Retains id

section Rules

variable {id : SessionId} {current : Custody} {α : Type}

theorem Op.Neutral.ignored {op : Op} (neutral : op.Neutral id) :
    (custody id).allows current op ∧
      ∀ reply after, (custody id).next current op reply = some after → after = current := by
  cases op with
  | launch requester => exact neutral.elim
  | stop worker => exact neutral.elim
  | session op =>
      cases op with
      | get other => exact neutral.elim
      | listSessions limit => exact neutral.elim
      | mutate other mutation =>
          cases mutation with
          | setWorker worker =>
              refine ⟨fun same => absurd same neutral, fun reply after moved => ?_⟩
              simp only [custody, Custody.after, if_neg (show ¬other = id from neutral)] at moved
              exact (Option.some.inj moved).symm
          | setState state =>
              refine ⟨fun same terminates => absurd terminates (neutral same),
                fun reply after moved => ?_⟩
              have unrelated : ¬(other = id ∧ state = "terminated") :=
                fun both => neutral both.1 both.2
              simp only [custody, Custody.after, if_neg unrelated] at moved
              exact (Option.some.inj moved).symm
          | _ => exact ⟨neutral, fun _ _ moved => (Option.some.inj moved).symm⟩
      | _ => exact ⟨neutral, fun _ _ moved => (Option.some.inj moved).symm⟩
  | _ => exact ⟨neutral, fun _ _ moved => (Option.some.inj moved).symm⟩

/-- Handlers that concern no worker of the session leave the custody as it is. -/
theorem follows_custody_of_issues {handler : Handler α}
    (issues : handler.Issues (Op.Neutral id)) :
    handler.Follows (custody id) (fun _ after => after = current) current :=
  issues.follows_unchanged current fun _ neutral => neutral.ignored

theorem Op.Signaling.neutral {op : Op} (signaling : op.Signaling) : op.Neutral id := by
  cases op with
  | session op => cases op <;> trivial
  | sync op => cases op <;> trivial
  | pause => trivial
  | _ => exact signaling.elim

theorem Op.Pooling.neutral {op : Op} (pooling : op.Pooling) : op.Neutral id := by
  cases op with
  | sync op => cases op <;> trivial
  | pool op => trivial
  | pause => trivial
  | _ => exact pooling.elim

theorem sendSignal_custody (instanceId : Nat) (other : SessionId) (role : Role)
    (payload : Signal) :
    (sendSignal instanceId other role payload).Follows (custody id)
      (fun _ after => after = current) current :=
  follows_custody_of_issues ((sendSignal_issues instanceId other role payload).mono
    fun _ signaling => signaling.neutral)

end Rules

/-! ## The handlers -/

section Handlers

variable {id : SessionId} {current : Custody} (settings : Settings) (instanceId : Nat)

/-- Ending the session whose copy is held: the worker is owed, then stopped. -/
theorem finishTermination_custody (session : Session) (reason : String)
    (same : session.id = id) (held : current.held = some session.worker)
    (free : current.owes = none) :
    (finishTermination settings instanceId session reason).Follows (custody id)
      (fun _ after => after = current) current := by
  obtain ⟨copy, carrying, owes⟩ := current
  simp only at held free
  subst held free
  unfold finishTermination
  refine follows_bind.mpr (follows_mutate.mpr
    ⟨fun _ _ => ⟨by simp, rfl⟩, fun _ owing moved => ?_⟩)
  simp only [custody, Custody.after, same, and_self, if_true, Option.bind_some,
    Option.some.injEq] at moved
  subst moved
  refine Follows.bind (follows_custody_of_issues ?_) fun _ _ unchanged => ?_
  · unfold onlyIf notifyGatewaySessionTermination onlyIf
    split
    · split
      · exact ⟨trivial, fun _ => trivial⟩
      · trivial
    · trivial
  subst unchanged
  refine (sendSignal_custody ..).bind fun _ _ unchanged => ?_
  subst unchanged
  refine (sendSignal_custody ..).bind fun _ _ unchanged => ?_
  subst unchanged
  refine Follows.bind (follows_custody_of_issues ⟨trivial, fun _ => trivial⟩)
    fun _ _ unchanged => ?_
  subst unchanged
  refine follows_onlyIf (fun direct => ?_) fun pooled => ?_
  · simp only [if_neg direct]
    refine ⟨fun owed isOwed => isOwed, fun _ after moved => ?_⟩
    cases moved
    rfl
  · simp only [if_pos (not_not.mp pooled)]

theorem Op.Terminating.neutral {session : Session} {op : Op}
    (terminating : op.Terminating session) (different : session.id ≠ id)
    (running : op ≠ .stop session.worker) : op.Neutral id := by
  rcases terminating with signaling | rfl | rfl | rfl | rfl
  · exact signaling.neutral
  · trivial
  · exact fun same => absurd same different
  · trivial
  · exact absurd rfl running

/-- `terminateSession` of a copy that is held leaves the custody as it was. -/
theorem terminateSession_custody (session : Session) (reason : String)
    (held : session.id = id → current.held = some session.worker)
    (free : current.owes = none) :
    (terminateSession settings instanceId session reason).Follows (custody id)
      (fun _ after => after = current) current := by
  by_cases same : session.id = id
  · unfold terminateSession
    split
    · rfl
    · refine follows_bind.mpr ⟨trivial, fun acquired after moved => ?_⟩
      cases moved
      cases acquired with
      | false => rfl
      | true =>
          exact finishTermination_custody settings instanceId session reason same (held same) free
  · refine (terminateSession_issues settings instanceId session reason).follows_unchanged
      current fun op terminating => ?_
    by_cases isStop : op = .stop session.worker
    · subst isStop
      refine ⟨fun owed isOwed => ?_, fun _ after moved => ?_⟩
      · simp [free] at isOwed
      · cases moved
        rw [← free]
    · exact (terminating.neutral same isStop).ignored

/-- A loaded copy of the session is held. -/
theorem held_of_get {other : SessionId} {session : Session} {before after : Custody}
    (moved : (custody id).next before (.session (.get other)) (some session) = some after) :
    (session.id = id → after.held = some session.worker) ∧
      after.carrying = before.carrying ∧ after.owes = before.owes := by
  simp only [custody, Custody.after, Option.any_some, decide_eq_true_eq] at moved
  split at moved
  · cases moved
    exact ⟨fun _ => rfl, rfl, rfl⟩
  · split at moved
    · simp at moved
    · next different =>
        cases moved
        exact ⟨fun same => absurd same different, rfl, rfl⟩

theorem custody_get_clear {other : SessionId} {found : Option Session}
    {before after : Custody} (clear : before.Clear)
    (moved : (custody id).next before (.session (.get other)) found = some after) :
    after.Clear := by
  cases found with
  | none =>
      simp only [custody, Custody.after, Option.any_none, Bool.false_eq_true, if_false]
        at moved
      split at moved <;> cases moved <;> exact clear
  | some session =>
      obtain ⟨-, carrying, owes⟩ := held_of_get moved
      exact ⟨carrying.trans clear.1, owes.trans clear.2⟩

/-- The copies of the session in a list are held. -/
theorem held_of_list {limit : Nat} {sessions : List Session} {before after : Custody}
    (moved : (custody id).next before (.session (.listSessions limit)) sessions =
      some after) :
    (∀ session ∈ sessions, session.id = id → after.held = some session.worker) ∧
      after.carrying = before.carrying ∧ after.owes = before.owes := by
  have copied (session : Session) (member : session ∈ sessions) (same : session.id = id) :
      session.worker ∈ (sessions.filter fun session => session.id = id).map Session.worker :=
    List.mem_map_of_mem (List.mem_filter.mpr ⟨member, by simpa using same⟩)
  simp only [custody, Custody.after, Custody.read] at moved
  split at moved
  · next copies =>
      cases moved
      rw [copies] at copied
      exact ⟨fun session member same => absurd (copied session member same) (by simp), rfl, rfl⟩
  · next worker rest copies =>
      split at moved
      · next agree =>
          cases moved
          refine ⟨fun session member same => congrArg some ?_, rfl, rfl⟩
          have isCopy := copied session member same
          rw [copies] at isCopy
          rcases List.mem_cons.mp isCopy with first | later
          · exact first.symm
          · exact (agree _ later).symm
      · simp at moved

theorem terminateSessionById_custody (other : SessionId) (reason : String)
    (clear : current.Clear) :
    (terminateSessionById settings instanceId other reason).Follows (custody id)
      (fun _ after => after.Clear) current := by
  refine follows_bind.mpr (follows_store.mpr ⟨trivial, fun found after moved => ?_⟩)
  have stillClear := custody_get_clear clear moved
  cases found with
  | none => exact stillClear
  | some session =>
      refine (terminateSession_custody settings instanceId session reason
        (held_of_get moved).1 stillClear.2).mono fun _ last unchanged => ?_
      exact unchanged ▸ stillClear

theorem terminateOtherSessions_custody (clear : current.Clear) :
    (terminateOtherSessions settings instanceId).Follows (custody id)
      (fun _ after => after.Clear) current := by
  refine follows_bind.mpr ⟨trivial, fun sessions listed moved => ?_⟩
  obtain ⟨held, carrying, owes⟩ := held_of_list moved
  have stillClear : listed.Clear := ⟨carrying.trans clear.1, owes.trans clear.2⟩
  have unchanged : (Program.forEach sessions fun existing =>
      terminateSession settings instanceId existing
        "replaced by new session in single-session mode").Follows (custody id)
      (fun _ after => after = listed) listed := by
    refine .forEach rfl ?_
    rintro session member _ rfl
    exact terminateSession_custody settings instanceId session _ (held session member)
      stillClear.2
  exact unchanged.mono fun _ after same => same ▸ stillClear

/-- A launched worker is carried into the session that asked for it.  An error is
one of another session. -/
theorem launchWorker_custody (session : Session) (clear : current.Clear) :
    (launchWorker session).Follows (custody id)
      (fun result after => after.Clear ∧ ∀ message, result = .error message →
        session.id ≠ id) current := by
  refine follows_bind.mpr ⟨fun _ => clear.1, fun result launched moved => ?_⟩
  cases result with
  | error message =>
      simp only [custody, Custody.after] at moved
      split at moved
      · simp at moved
      · next different =>
          cases moved
          exact ⟨clear, fun _ _ => different⟩
  | ok worker =>
      simp only [custody, Custody.after] at moved
      refine follows_bind.mpr (follows_mutate.mpr ⟨?_, fun _ after stored => ?_⟩)
      · intro same carried isCarried
        rw [if_pos same] at moved
        cases moved
        exact isCarried
      · refine ⟨?_, fun _ failed => by simp at failed⟩
        simp only [custody, Custody.after] at stored
        split at stored
        · next same =>
            rw [if_pos same] at moved
            cases moved
            cases stored
            exact ⟨rfl, clear.2⟩
        · next different =>
            rw [if_neg different] at moved
            cases moved
            cases stored
            exact clear

theorem assignSessionWorker_custody (session : Session) (clear : current.Clear) :
    (assignSessionWorker settings instanceId session).Follows (custody id)
      (fun result after => after.Clear ∧ ∀ message, result = .error message →
        session.id ≠ id) current := by
  refine Follows.bind (follows_custody_of_issues ((pooledWorker_issues settings instanceId
    session).mono fun _ pooling => pooling.neutral)) fun record _ unchanged => ?_
  subst unchanged
  cases record with
  | none => exact launchWorker_custody session clear
  | some record =>
      refine Follows.bind (follows_custody_of_issues ⟨trivial, fun _ => trivial⟩)
        fun _ _ unchanged => ?_
      subst unchanged
      refine follows_bind.mpr (follows_mutate.mpr ⟨?_, fun _ after stored => ?_⟩)
      · intro _ carried isCarried
        simp [clear.1] at isCarried
      · refine ⟨?_, fun _ failed => by simp at failed⟩
        simp only [custody, Custody.after] at stored
        split at stored <;> cases stored
        · exact ⟨rfl, clear.2⟩
        · exact clear

theorem replaceWarmWorker_custody (other : SessionId) (clear : current.Clear) :
    (replaceWarmWorker settings instanceId other).Follows (custody id)
      (fun _ after => after.Clear) current := by
  refine Follows.bind (follows_custody_of_issues ⟨trivial, fun _ => trivial⟩)
    fun nextGeneration _ unchanged => ?_
  subst unchanged
  cases nextGeneration with
  | none => exact clear
  | some nextGeneration =>
      refine Follows.bind (follows_custody_of_issues ⟨fun _ => rfl, fun _ => trivial⟩)
        fun replacement _ unchanged => ?_
      subst unchanged
      cases replacement with
      | none => exact clear
      | some replacement =>
          have stays : (mutate other (.setState "allocating")).Issues (Op.Neutral id) :=
            ⟨fun _ => by decide, fun _ => trivial⟩
          refine (follows_custody_of_issues stays).bind fun _ _ unchanged => ?_
          subst unchanged
          refine (sendSignal_custody ..).bind fun _ _ unchanged => ?_
          subst unchanged
          refine (launchWorker_custody replacement clear).bind fun result after cleared => ?_
          cases result with
          | ok _ => exact cleared.1
          | error _ => exact terminateSessionById_custody settings instanceId other _ cleared.1

theorem fallbackWarmPoolSession_custody (other : SessionId) (workerId : PoolWorkerId)
    (clear : current.Clear) :
    (fallbackWarmPoolSession settings instanceId other workerId).Follows (custody id)
      (fun _ after => after.Clear) current := by
  refine follows_bind.mpr (follows_store.mpr ⟨trivial, fun found after moved => ?_⟩)
  have stillClear := custody_get_clear clear moved
  cases found with
  | none => exact stillClear
  | some session =>
      dsimp only
      split
      · exact stillClear
      split
      · exact stillClear
      split
      · exact stillClear
      refine Follows.bind (follows_custody_of_issues ⟨trivial, fun _ => trivial⟩)
        fun socket _ unchanged => ?_
      subst unchanged
      cases socket with
      | some _ => exact stillClear
      | none => exact replaceWarmWorker_custody settings instanceId other stillClear

theorem createRemoteSession_custody (body : SessionBody) (clear : current.Clear) :
    (createRemoteSession settings instanceId body).Follows (custody id)
      (fun _ after => after.Clear) current := by
  have others : (onlyIf (settings.singleActiveSessionMode = true)
      (terminateOtherSessions settings instanceId)).Follows (custody id)
      (fun _ after => after.Clear) current :=
    follows_onlyIf (fun _ => terminateOtherSessions_custody settings instanceId clear)
      fun _ => clear
  refine others.bind fun _ before clear => ?_
  refine Follows.bind (follows_custody_of_issues ⟨trivial, fun _ => trivial⟩)
    fun created _ unchanged => ?_
  subst unchanged
  have patches : (mutate created.id (.update created.tokenPatch)).Issues (Op.Neutral id) :=
    ⟨fun _ => rfl, fun _ => trivial⟩
  refine (follows_custody_of_issues patches).bind fun _ _ unchanged => ?_
  subst unchanged
  split
  · exact clear
  · refine (assignSessionWorker_custody settings instanceId created.withTokens clear).bind
      fun result after cleared => ?_
    cases result with
    | ok _ => exact cleared.1
    | error message =>
        refine follows_bind.mpr ⟨cleared.2 message rfl, fun _ last moved => ?_⟩
        cases moved
        exact cleared.1

theorem applyInternalSessionUpdate_custody (other : SessionId) (update : InternalUpdate)
    (clear : current.Clear) :
    (applyInternalSessionUpdate settings instanceId other update).Follows (custody id)
      (fun _ after => after.Clear) current := by
  refine follows_bind.mpr (follows_store.mpr ⟨trivial, fun found after moved => ?_⟩)
  have stillClear := custody_get_clear clear moved
  cases found with
  | none => exact stillClear
  | some session =>
      dsimp only
      split
      · exact stillClear
      refine Follows.bind (follows_custody_of_issues ⟨fun _ => rfl, fun _ => trivial⟩)
        fun updated _ unchanged => ?_
      subst unchanged
      cases updated with
      | none => exact stillClear
      | some updated =>
          dsimp only
          split
          · refine (assignSessionWorker_custody settings instanceId updated stillClear).bind
              fun result after cleared => ?_
            cases result with
            | ok _ =>
                refine follows_bind.mpr ⟨trivial, fun _ last moved => ?_⟩
                exact custody_get_clear cleared.1 moved
            | error message =>
                refine (terminateSession_custody settings instanceId updated _
                  (fun same => absurd same (cleared.2 message rfl)) cleared.1.2).bind
                  fun _ last unchanged => ?_
                exact unchanged ▸ cleared.1
          · exact stillClear

end Handlers

/-- The handlers that assign, replace and stop the workers of a session. -/
def Job.managesWorkers : Job → Bool
  | .createSession _ _ => true
  | .internalUpdate _ _ _ => true
  | .fallbackWarmPoolSession _ _ _ => true
  | .terminateSession _ _ _ => true
  | _ => false

/-- Handlers that manage workers are followed from the start. -/
def Job.custody (job : Job) : Option Custody := if job.managesWorkers then some {} else none

theorem Job.body_custody (settings : Settings) (id : SessionId) (job : Job)
    (current : Custody) (known : job.custody = some current) :
    (job.body settings).Follows (RemoteBrowser.custody id) (fun _ after => after.Clear)
      current := by
  have clear : current.Clear := by
    unfold Job.custody at known
    split at known
    · cases known
      exact ⟨rfl, rfl⟩
    · simp at known
  cases job with
  | createSession instanceId body =>
      exact (createRemoteSession_custody settings instanceId body clear).bind
        fun _ _ cleared => cleared
  | internalUpdate instanceId other update =>
      exact (applyInternalSessionUpdate_custody settings instanceId other update clear).bind
        fun _ _ cleared => cleared
  | fallbackWarmPoolSession instanceId other workerId =>
      exact fallbackWarmPoolSession_custody settings instanceId other workerId clear
  | terminateSession instanceId other reason =>
      exact terminateSessionById_custody settings instanceId other reason clear
  | _ => simp [Job.custody, Job.managesWorkers] at known

end RemoteBrowser
