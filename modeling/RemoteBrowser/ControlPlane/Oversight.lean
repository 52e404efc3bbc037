import RemoteBrowser.ControlPlane.Effects
import RemoteBrowser.ControlPlane.Footprint

/-!
# Who writes the state of a session

A monitor for one session that every handler is checked against: a handler stores
`"terminated"` only while it holds the termination lock, stores any other state
only after it has read the session as not terminated, and a handler that took the
lock passes the worker of the copy that it held then to `workerRuntime.stop` before
it returns, unless that worker is pooled.

Two kinds of messages escape this discipline, and the monitor state says so from
the start: a `worker-state` message stores its state without looking at the old one
(`relaxed`), and a message or event whose state string is `"terminated"` stores that
without the lock (`mayTerminate`).
-/

namespace RemoteBrowser

open Async Program

/-! ## What an operation says about a session -/

namespace Op

/-- The operation acquired the termination lock of a session. -/
def locks (id : SessionId) : (op : Op) → op.Reply → Bool
  | .session (.acquireTerminationLock other _), acquired => decide (other = id) && acquired
  | _, _ => false

/-- Whether the handler's last look at the session showed it not terminated. -/
def liveAfter (id : SessionId) : (op : Op) → op.Reply → Bool → Bool
  | .session (.get other), found, live =>
      if other = id then found.any fun session => !decide session.Terminated else live
  | .session (.mutate other (.setState state)), _, live =>
      live && !(decide (other = id) && decide (state = "terminated"))
  | _, _, live => live

/-- The copies of sessions that a handler goes on to work with. -/
def copies : (op : Op) → op.Reply → List Session
  | .createSession _, created => [created]
  | .session (.get _), found => found.toList
  | .session (.mutate _ (.update _)), found => found.toList
  | .session (.listExpired _), sessions => sessions
  | .session (.listTerminated _ _), sessions => sessions
  | .session (.listSessions _), sessions => sessions
  | _, _ => []

/-- The workers in the copies of the session that a handler read last. -/
def heldAfter (id : SessionId) (op : Op) (reply : op.Reply)
    (held : List (Option Worker)) : List (Option Worker) :=
  match ((op.copies reply).filter fun session => session.id = id).map Session.worker with
  | [] => held
  | worker :: workers => worker :: workers

/-- The operation returns no copy. -/
def Blind (op : Op) : Prop := ∀ reply, op.copies reply = []

theorem heldAfter_of_blind {id : SessionId} {op : Op} (blind : op.Blind) (reply : op.Reply)
    (held : List (Option Worker)) : op.heldAfter id reply held = held := by
  simp [heldAfter, blind reply]

theorem mem_heldAfter {id : SessionId} {op : Op} {reply : op.Reply} {session : Session}
    (copied : session ∈ op.copies reply) (isSession : session.id = id)
    (held : List (Option Worker)) : session.worker ∈ op.heldAfter id reply held := by
  have member : session.worker ∈
      ((op.copies reply).filter fun session => session.id = id).map Session.worker :=
    List.mem_map.mpr ⟨session, List.mem_filter.mpr ⟨copied, decide_eq_true isSession⟩, rfl⟩
  unfold heldAfter
  split
  · next none => simp [none] at member
  · next some => exact some ▸ member

/-- The worker that the operation passes to `workerRuntime.stop`. -/
def stops : Op → List (Option Worker)
  | .stop worker => [worker]
  | _ => []

/-- The operation neither writes the session's state nor takes its lock. -/
def Plain (id : SessionId) : Op → Prop
  | .session (.mutate other (.setState _)) => other ≠ id
  | .session (.acquireTerminationLock other _) => other ≠ id
  | _ => True

end Op

/-! ## The monitor -/

structure Oversight where
  live : Bool := false
  held : List (Option Worker) := []
  /-- what was held when the lock was acquired -/
  taken : Option (List (Option Worker)) := none
  stopped : List (Option Worker) := []
  relaxed : Bool := false
  mayTerminate : Bool := false

namespace Oversight

/-- The monitor state after an answered operation. -/
def after (id : SessionId) (current : Oversight) (op : Op) (reply : op.Reply) : Oversight :=
  { current with
    live := op.liveAfter id reply current.live
    held := op.heldAfter id reply current.held
    taken := if op.locks id reply then some current.held else current.taken
    stopped := op.stops ++ current.stopped }

/-- A handler that took the lock has stopped a worker it held, or held a pooled one. -/
def Settled (current : Oversight) : Prop :=
  ∀ workers, current.taken = some workers →
    ∃ worker ∈ workers, Worker.IsWarmPool worker ∨ worker ∈ current.stopped

/-- Whether a state string may be stored. -/
def MayStore (current : Oversight) (state : String) : Prop :=
  if state = "terminated" then current.taken ≠ none ∨ current.mayTerminate = true
  else current.live = true ∨ current.relaxed = true

/-- The lock that a handler has taken and what it has stopped is not forgotten. -/
structure Extends (before after : Oversight) : Prop where
  taken : before.taken ≠ none → after.taken ≠ none
  stopped : ∀ worker ∈ before.stopped, worker ∈ after.stopped
  relaxed : after.relaxed = before.relaxed
  mayTerminate : after.mayTerminate = before.mayTerminate

theorem Extends.refl (current : Oversight) : current.Extends current :=
  ⟨id, fun _ member => member, rfl, rfl⟩

theorem Extends.trans {first second third : Oversight} (before : first.Extends second)
    (behind : second.Extends third) : first.Extends third :=
  ⟨fun taken => behind.taken (before.taken taken),
    fun worker member => behind.stopped worker (before.stopped worker member),
    behind.relaxed.trans before.relaxed, behind.mayTerminate.trans before.mayTerminate⟩

theorem extends_after (id : SessionId) (current : Oversight) (op : Op) (reply : op.Reply) :
    current.Extends (current.after id op reply) := by
  refine ⟨fun taken => ?_, fun worker member => ?_, rfl, rfl⟩
  · simp only [after]
    split
    · exact Option.some_ne_none _
    · exact taken
  · exact List.mem_append_right _ member

theorem taken_after {id : SessionId} {op : Op} {reply : op.Reply}
    (unlocked : op.locks id reply = false) (current : Oversight) :
    (current.after id op reply).taken = current.taken := by
  simp [after, unlocked]

/-- Who does not take the lock keeps the obligations met. -/
theorem Extends.settled {before after : Oversight} (extended : before.Extends after)
    (same : after.taken = before.taken) (settled : before.Settled) : after.Settled := by
  intro workers taken
  obtain ⟨worker, member, pooled | stopped⟩ := settled workers (same ▸ taken)
  · exact ⟨worker, member, .inl pooled⟩
  · exact ⟨worker, member, .inr (extended.stopped worker stopped)⟩

end Oversight

/-- The discipline for session `id`. -/
def oversight (id : SessionId) : Monitor controlPlane.face Oversight where
  allows current op :=
    (∀ state, op.storesState id = some state → current.MayStore state) ∧
      ∀ ttlMs, op = .session (.acquireTerminationLock id ttlMs) → current.held ≠ []
  next current op reply := some (current.after id op reply)

/-- The handler keeps to the discipline and meets the obligations it takes on. -/
def Minds {α : Type} (id : SessionId) (handler : Handler α) (current : Oversight) : Prop :=
  handler.Follows (oversight id)
    (fun _ after => current.Extends after ∧ (current.Settled → after.Settled)) current

/-! ## Rules -/

section Rules

variable {id : SessionId} {α β : Type} {current : Oversight}

theorem Minds.pure (value : α) : Minds id (Pure.pure value : Handler α) current :=
  ⟨.refl current, fun settled => settled⟩

theorem Minds.bind {handler : Handler α} {rest : α → Handler β}
    (first : Minds id handler current)
    (second : ∀ value after, current.Extends after → Minds id (rest value) after) :
    Minds id (handler >>= rest) current := by
  refine Follows.bind first fun value after advanced => ?_
  refine (second value after advanced.1).mono fun _ last behind => ?_
  exact ⟨advanced.1.trans behind.1, fun settled => behind.2 (advanced.2 settled)⟩

/-- One await that the monitor allows. -/
theorem Minds.request {op : Op} {rest : op.Reply → Handler α}
    (allowed : (oversight id).allows current op)
    (unlocked : ∀ reply, op.locks id reply = false)
    (next : ∀ reply, Minds id (rest reply) (current.after id op reply)) :
    Minds id (.request op rest) current := by
  refine ⟨allowed, fun reply after moved => ?_⟩
  cases moved
  refine (next reply).mono fun _ last behind => ?_
  exact ⟨(Oversight.extends_after id current op reply).trans behind.1,
    fun settled => behind.2 ((Oversight.extends_after id current op reply).settled
      (Oversight.taken_after (unlocked reply) current) settled)⟩

theorem allows_of_plain {op : Op} (plain : op.Plain id) :
    (oversight id).allows current op := by
  refine ⟨fun state stores => ?_, fun ttlMs isLock => ?_⟩
  · unfold Op.storesState at stores
    split at stores
    · next other _ => exact absurd (if_neg plain ▸ stores) (by simp)
    · simp at stores
  · cases isLock
    exact absurd rfl plain

theorem allows_lock {other : SessionId} {ttlMs : Nat} (held : current.held ≠ []) :
    (oversight id).allows current (.session (.acquireTerminationLock other ttlMs)) :=
  ⟨fun _ stores => by simp [Op.storesState] at stores, fun _ _ => held⟩

theorem allows_store {other : SessionId} {state : String}
    (allowed : other = id → current.MayStore state) :
    (oversight id).allows current (.session (.mutate other (.setState state))) := by
  refine ⟨fun stored stores => ?_, fun _ isLock => by simp at isLock⟩
  simp only [Op.storesState] at stores
  split at stores
  · next same => cases stores; exact allowed same
  · simp at stores

theorem unlocked_of_plain {op : Op} (plain : op.Plain id) (reply : op.Reply) :
    op.locks id reply = false := by
  unfold Op.locks
  split
  · next other _ _ => simp [show ¬other = id from plain]
  · rfl

/-- Handlers that neither write the state nor take the lock. -/
theorem follows_plain {handler : Handler α} (issues : handler.Issues (Op.Plain id)) :
    handler.Follows (oversight id)
      (fun _ after => current.Extends after ∧ after.taken = current.taken) current := by
  induction handler generalizing current with
  | pure value => exact ⟨.refl current, rfl⟩
  | stalled => trivial
  | request op next ih =>
      refine ⟨allows_of_plain issues.1, fun reply after moved => ?_⟩
      cases moved
      refine (ih reply (issues.2 reply)).mono fun _ last behind => ?_
      exact ⟨(Oversight.extends_after id current op reply).trans behind.1,
        behind.2.trans (Oversight.taken_after (unlocked_of_plain issues.1 reply) current)⟩

theorem Minds.of_issues {handler : Handler α} (issues : handler.Issues (Op.Plain id)) :
    Minds id handler current :=
  (follows_plain issues).mono fun _ _ behind => ⟨behind.1, behind.1.settled behind.2⟩

theorem Minds.get {other : SessionId} {rest : Option Session → Handler α}
    (next : ∀ found, Minds id (rest found)
      (current.after id (.session (.get other)) found)) :
    Minds id (store (.get other) >>= rest) current :=
  .request (allows_of_plain trivial) (unlocked_of_plain trivial) next

/-- An await that the monitor ignores, followed by `rest`. -/
theorem Minds.sync {op : SyncOp} {rest : op.Reply → Handler α}
    (next : ∀ reply, Minds id (rest reply) (current.after id (.sync op) reply)) :
    Minds id (RemoteBrowser.sync op >>= rest) current :=
  .request (allows_of_plain trivial) (unlocked_of_plain trivial) next

/-- A mutation that leaves the state string alone, followed by `rest`. -/
theorem Minds.mutation {other : SessionId} {mutation : SessionMutation}
    {rest : Option Session → Handler α}
    (plain : (Op.session (.mutate other mutation)).Plain id)
    (next : ∀ found, Minds id (rest found)
      (current.after id (.session (.mutate other mutation)) found)) :
    Minds id (store (.mutate other mutation) >>= rest) current :=
  .request (allows_of_plain plain) (unlocked_of_plain plain) next

/-- Storing a state that the monitor allows. -/
theorem Minds.setState {other : SessionId} {state : String}
    (allowed : other = id → current.MayStore state) :
    Minds id (mutate other (.setState state)) current :=
  .request (allows_store allowed) (fun _ => rfl) fun _ => .pure ()

/-- A handler that reads no copies goes on holding those it has. -/
theorem follows_blind {handler : Handler α} {post : α → Oversight → Prop}
    (follows : handler.Follows (oversight id) post current) (blind : handler.Issues Op.Blind) :
    handler.Follows (oversight id)
      (fun value after => post value after ∧ after.held = current.held) current := by
  induction handler generalizing current with
  | pure value => exact ⟨follows, rfl⟩
  | stalled => trivial
  | request op next ih =>
      refine ⟨follows.1, fun reply after moved => ?_⟩
      cases moved
      refine (ih reply (follows.2 reply _ rfl) (blind.2 reply)).mono fun _ last same => ?_
      exact ⟨same.1, same.2.trans (Op.heldAfter_of_blind blind.1 reply current.held)⟩

/-- A first part that reads no copies. -/
theorem Minds.bind_blind {handler : Handler α} {rest : α → Handler β}
    (first : Minds id handler current) (blind : handler.Issues Op.Blind)
    (second : ∀ value after, current.Extends after → after.held = current.held →
      Minds id (rest value) after) :
    Minds id (handler >>= rest) current := by
  refine Follows.bind (follows_blind first blind) fun value after advanced => ?_
  obtain ⟨⟨extended, settles⟩, same⟩ := advanced
  refine (second value after extended same).mono fun _ last behind => ?_
  exact ⟨extended.trans behind.1, fun settled => behind.2 (settles settled)⟩

/-- A loop whose rounds read no copies. -/
theorem Minds.forEach {values : List α} {action : α → Handler Unit}
    (blind : ∀ value ∈ values, (action value).Issues Op.Blind)
    (round : ∀ value ∈ values, ∀ after, after.held = current.held →
      Minds id (action value) after) :
    Minds id (Program.forEach values action) current := by
  induction values generalizing current with
  | nil => exact .pure ()
  | cons value rest ih =>
      refine (round value (by simp) current rfl).bind_blind (blind value (by simp))
        fun _ after _ same => ?_
      refine ih (fun other member => blind other (by simp [member])) ?_
      exact fun other member last kept => round other (by simp [member]) last (kept.trans same)

end Rules

/-! ## The handlers -/

section Handlers

variable {id : SessionId} {current : Oversight}

theorem Op.Signaling.plain {op : Op} (signaling : op.Signaling) : op.Plain id := by
  unfold Op.Signaling at signaling
  split at signaling <;> trivial

theorem Op.Pooling.plain {op : Op} (pooling : op.Pooling) : op.Plain id := by
  unfold Op.Pooling at pooling
  split at pooling <;> trivial

theorem Op.Terminating.plain {session : Session} {op : Op}
    (terminating : op.Terminating session) (different : session.id ≠ id) : op.Plain id := by
  rcases terminating with signaling | rfl | rfl | rfl | rfl
  · exact signaling.plain
  · exact different
  · exact different
  · trivial
  · trivial

theorem Op.Signaling.blind {op : Op} (signaling : op.Signaling) : op.Blind := by
  unfold Op.Signaling at signaling
  split at signaling
  all_goals first | exact fun _ => rfl | exact signaling.elim

theorem Op.Pooling.blind {op : Op} (pooling : op.Pooling) : op.Blind := by
  unfold Op.Pooling at pooling
  split at pooling
  all_goals first | exact fun _ => rfl | exact pooling.elim

theorem Op.Terminating.blind {session : Session} {op : Op} (terminating : op.Terminating session) :
    op.Blind := by
  rcases terminating with signaling | rfl | rfl | rfl | rfl
  · exact signaling.blind
  all_goals exact fun _ => rfl

theorem sendSignal_minds (instanceId : Nat) (other : SessionId) (role : Role)
    (payload : Signal) : Minds id (sendSignal instanceId other role payload) current :=
  .of_issues ((sendSignal_issues instanceId other role payload).mono
    fun _ signaling => signaling.plain)

theorem flushSignals_minds (instanceId : Nat) (other : SessionId) (role : Role) :
    Minds id (flushSignals instanceId other role) current :=
  .of_issues ((flushSignals_issues instanceId other role).mono
    fun _ signaling => signaling.plain)

theorem flushPoolAssignments_minds (instanceId : Nat) (workerId : PoolWorkerId) :
    Minds id (flushPoolAssignments instanceId workerId) current :=
  .of_issues ((flushPoolAssignments_issues instanceId workerId).mono
    fun _ delivering => delivering.pooling.plain)

/-- After taking the lock, a termination either stops the worker it holds or holds
a pooled one. -/
theorem finishTermination_follows (settings : Settings) (instanceId : Nat)
    (session : Session) (reason : String) {workers : List (Option Worker)}
    (taken : current.taken = some workers) (held : session.worker ∈ workers) :
    (finishTermination settings instanceId session reason).Follows (oversight id)
      (fun _ after => current.Extends after ∧ after.Settled) current := by
  let Behind (after : Oversight) := current.Extends after ∧ after.taken = current.taken
  have plainly {handler : Handler Unit} {before : Oversight}
      (issues : handler.Issues (Op.Plain id)) (behind : Behind before) :
      handler.Follows (oversight id) (fun _ after => Behind after) before :=
    (follows_plain issues).mono fun _ after further =>
      ⟨behind.1.trans further.1, further.2.trans behind.2⟩
  unfold finishTermination
  have stored : (mutate session.id (.setState "terminated")).Follows (oversight id)
      (fun _ after => Behind after) current := by
    refine ⟨allows_store fun _ => ?_, fun reply after moved => ?_⟩
    · simp [Oversight.MayStore, taken]
    · cases moved
      exact ⟨Oversight.extends_after id current
        (.session (.mutate session.id (.setState "terminated"))) reply,
        Oversight.taken_after rfl current⟩
  refine stored.bind fun _ before behind => ?_
  refine Follows.bind (plainly ?_ behind) fun _ before behind => ?_
  · unfold onlyIf notifyGatewaySessionTermination onlyIf
    split
    · split
      · exact ⟨trivial, fun _ => trivial⟩
      · trivial
    · trivial
  refine Follows.bind (plainly ((sendSignal_issues ..).mono fun _ signaling =>
    signaling.plain) behind) fun _ before behind => ?_
  refine Follows.bind (plainly ((sendSignal_issues ..).mono fun _ signaling =>
    signaling.plain) behind) fun _ before behind => ?_
  refine Follows.bind (plainly ⟨trivial, fun _ => trivial⟩ behind) fun _ before behind => ?_
  obtain ⟨extended, same⟩ := behind
  have known (after : Oversight) (kept : after.taken = before.taken)
      (done : Worker.IsWarmPool session.worker ∨ session.worker ∈ after.stopped) :
      after.Settled := by
    intro others takes
    rw [kept, same, taken] at takes
    cases takes
    exact ⟨session.worker, held, done⟩
  refine follows_onlyIf (fun _ => ?_) fun pooled => ?_
  · refine ⟨allows_of_plain trivial, fun reply after moved => ?_⟩
    cases moved
    refine ⟨extended.trans (Oversight.extends_after id before (.stop session.worker) reply),
      known _ (Oversight.taken_after rfl before) (.inr ?_)⟩
    exact List.mem_cons_self ..
  · exact ⟨extended, known before rfl (.inl (not_not.mp pooled))⟩

/-- `terminateSession` of a copy that the handler holds. -/
theorem terminateSession_minds (settings : Settings) (instanceId : Nat)
    (session : Session) (reason : String)
    (held : session.id = id → session.worker ∈ current.held) :
    Minds id (terminateSession settings instanceId session reason) current := by
  by_cases same : session.id = id
  · unfold terminateSession
    split
    · exact .pure ()
    · refine ⟨allows_lock (List.ne_nil_of_mem (held same)), fun acquired after moved => ?_⟩
      cases moved
      have extended := Oversight.extends_after id current
        (.session (.acquireTerminationLock session.id 30000)) acquired
      cases acquired with
      | false => exact ⟨extended, extended.settled (Oversight.taken_after (by simp [Op.locks]) _)⟩
      | true =>
          have taken : (current.after id (.session (.acquireTerminationLock session.id 30000))
              true).taken = some current.held := by simp [Oversight.after, Op.locks, same]
          exact (finishTermination_follows settings instanceId session reason taken
            (held same)).mono fun _ last finished =>
              ⟨extended.trans finished.1, fun _ => finished.2⟩
  · exact .of_issues ((terminateSession_issues settings instanceId session reason).mono
      fun _ terminating => terminating.plain same)

theorem terminateSession_blind (settings : Settings) (instanceId : Nat) (session : Session)
    (reason : String) :
    (terminateSession settings instanceId session reason).Issues Op.Blind :=
  (terminateSession_issues settings instanceId session reason).mono
    fun _ terminating => terminating.blind

theorem terminateSessionById_minds (settings : Settings) (instanceId : Nat)
    (other : SessionId) (reason : String) :
    Minds id (terminateSessionById settings instanceId other reason) current := by
  refine .get fun found => ?_
  cases found with
  | none => exact .pure ()
  | some session =>
      exact terminateSession_minds settings instanceId session reason
        fun same => Op.mem_heldAfter (by simp [Op.copies]) same current.held

theorem markViewerDisconnectedAndSchedule_minds (settings : Settings) (instanceId : Nat)
    (other : SessionId) (reason : String) :
    Minds id (markViewerDisconnectedAndSchedule settings instanceId other reason)
      current := by
  refine .get fun found => ?_
  cases found with
  | none => exact .pure ()
  | some session =>
      dsimp only
      split
      · exact .pure ()
      · next live =>
          refine .mutation trivial fun _ => ?_
          refine (Minds.setState fun same => ?_).bind fun _ _ _ =>
            .of_issues ⟨trivial, fun _ => trivial⟩
          simp [Oversight.MayStore, Oversight.after, Op.liveAfter, same, live]

theorem runDisconnectTimer_minds (settings : Settings) (instanceId : Nat)
    (other : SessionId) (task : TimerTask) :
    Minds id (runDisconnectTimer settings instanceId other task) current := by
  cases task with
  | viewerIdle =>
      refine .get fun found => ?_
      cases found with
      | none => exact .pure ()
      | some session =>
          refine .sync fun now => .request (allows_of_plain trivial) (unlocked_of_plain trivial)
            fun idle => ?_
          cases idle with
          | false => exact .pure ()
          | true =>
              exact terminateSession_minds settings instanceId session _ fun same =>
                Op.mem_heldAfter (by simp [Op.copies]) same current.held
  | workerDisconnect generation =>
      refine .get fun found => ?_
      cases found with
      | none => exact .pure ()
      | some session =>
          dsimp only
          split
          · exact .pure ()
          · split
            · exact .pure ()
            · refine .sync fun socket => ?_
              cases socket with
              | some _ => exact .pure ()
              | none =>
                  exact terminateSession_minds settings instanceId session _ fun same =>
                    Op.mem_heldAfter (by simp [Op.copies]) same current.held

theorem launchWorker_minds (session : Session) :
    Minds id (launchWorker session) current := by
  refine .of_issues (Issues.bind ⟨trivial, fun _ => trivial⟩ fun launched => ?_)
  cases launched with
  | error message => trivial
  | ok worker => exact ⟨trivial, fun _ => trivial⟩

theorem assignSessionWorker_blind (settings : Settings) (instanceId : Nat)
    (session : Session) :
    (assignSessionWorker settings instanceId session).Issues Op.Blind := by
  refine Issues.bind ((pooledWorker_issues settings instanceId session).mono
    fun _ pooling => pooling.blind) fun record => ?_
  cases record with
  | none =>
      refine Issues.bind ⟨fun _ => rfl, fun _ => trivial⟩ fun launched => ?_
      cases launched with
      | error message => trivial
      | ok worker => exact ⟨fun _ => rfl, fun _ => trivial⟩
  | some record => exact ⟨fun _ => rfl, fun _ => ⟨fun _ => rfl, fun _ => trivial⟩⟩

theorem assignSessionWorker_minds (settings : Settings) (instanceId : Nat)
    (session : Session) : Minds id (assignSessionWorker settings instanceId session) current := by
  refine Minds.bind (.of_issues ((pooledWorker_issues settings instanceId session).mono
    fun _ pooling => pooling.plain)) fun record before _ => ?_
  cases record with
  | none => exact launchWorker_minds session
  | some record =>
      exact .of_issues ⟨trivial, fun _ => ⟨trivial, fun _ => trivial⟩⟩

theorem replaceWarmWorker_minds (settings : Settings) (instanceId : Nat)
    (other : SessionId) (live : other = id → current.live = true) :
    Minds id (replaceWarmWorker settings instanceId other) current := by
  refine .mutation trivial fun nextGeneration => ?_
  cases nextGeneration with
  | none => exact .pure ()
  | some nextGeneration =>
      refine .mutation trivial fun replacement => ?_
      cases replacement with
      | none => exact .pure ()
      | some replacement =>
          refine (Minds.setState fun same => ?_).bind fun _ before _ => ?_
          · simp [Oversight.MayStore, Oversight.after, Op.liveAfter, live same]
          refine (sendSignal_minds ..).bind fun _ before _ => ?_
          refine (launchWorker_minds replacement).bind fun launched before _ => ?_
          cases launched with
          | ok worker => exact .pure ()
          | error message => exact terminateSessionById_minds ..

theorem fallbackWarmPoolSession_minds (settings : Settings) (instanceId : Nat)
    (other : SessionId) (workerId : PoolWorkerId) :
    Minds id (fallbackWarmPoolSession settings instanceId other workerId) current := by
  refine .get fun found => ?_
  cases found with
  | none => exact .pure ()
  | some session =>
      dsimp only
      split
      · exact .pure ()
      · next live =>
          split
          · exact .pure ()
          · split
            · exact .pure ()
            · refine .sync fun socket => ?_
              cases socket with
              | some _ => exact .pure ()
              | none =>
                  refine replaceWarmWorker_minds settings instanceId other fun same => ?_
                  simp [Oversight.after, Op.liveAfter, same, live]

/-- A loop that terminates some of the sessions that a listing returned. -/
theorem listing_minds (op : SessionOp) {sessions : op.Reply → List Session}
    {action : Session → Handler Unit} (plain : (Op.session op).Plain id)
    (lists : ∀ reply, (Op.session op).copies reply = sessions reply)
    (blind : ∀ session, (action session).Issues Op.Blind)
    (each : ∀ session after, (session.id = id → session.worker ∈ after.held) →
      Minds id (action session) after) :
    Minds id (store op >>= fun reply => Program.forEach (sessions reply) action) current := by
  refine .request (allows_of_plain plain) (unlocked_of_plain plain) fun reply => ?_
  refine .forEach (fun session _ => blind session) fun session listed after kept => ?_
  refine each session after fun same => ?_
  rw [kept]
  exact Op.mem_heldAfter (lists reply ▸ listed) same current.held

theorem terminateOtherSessions_minds (settings : Settings) (instanceId : Nat) :
    Minds id (terminateOtherSessions settings instanceId) current :=
  listing_minds (.listSessions 500) trivial (fun _ => rfl)
    (fun session => terminateSession_blind settings instanceId session _)
    fun session _ held => terminateSession_minds settings instanceId session _ held

theorem createRemoteSession_minds (settings : Settings) (instanceId : Nat)
    (body : SessionBody) :
    Minds id (createRemoteSession settings instanceId body) current := by
  refine Minds.bind ?_ fun _ before _ => ?_
  · unfold onlyIf
    split
    · exact terminateOtherSessions_minds settings instanceId
    · exact .pure ()
  refine Minds.bind (.of_issues ⟨trivial, fun _ => trivial⟩) fun created before _ => ?_
  refine Minds.bind (.of_issues ⟨trivial, fun _ => trivial⟩) fun _ before _ => ?_
  split
  · exact .pure _
  · refine (assignSessionWorker_minds ..).bind fun assigned before _ => ?_
    cases assigned with
    | ok worker => exact .pure _
    | error message => exact .of_issues ⟨trivial, fun _ => trivial⟩

theorem dispatchInternalEvent_minds (settings : Settings) (instanceId : Nat)
    (session : Session) (other : SessionId) (event : InternalEvent)
    (held : session.id = id → session.worker ∈ current.held)
    (live : other = id → current.live = true)
    (carried : event.action = .workerState → event.state = "terminated" →
      current.mayTerminate = true) :
    Minds id (dispatchInternalEvent settings instanceId session other event) current := by
  have isLive (state : String) (different : state ≠ "terminated") :
      other = id → current.MayStore state := fun same => by
    simp [Oversight.MayStore, different, live same]
  unfold dispatchInternalEvent
  split
  · exact .of_issues ⟨trivial, fun _ => ⟨trivial, fun _ => trivial⟩⟩
  · exact .of_issues ⟨trivial, fun _ => trivial⟩
  · exact (markViewerDisconnectedAndSchedule_minds ..).bind fun _ _ _ => .pure _
  · refine .sync fun _ => (Minds.setState ?_).bind fun _ _ _ => .pure _
    exact isLive "ready" (by decide)
  · next action =>
      split
      · exact .pure _
      · refine (Minds.setState fun same => ?_).bind fun _ _ _ => .pure _
        by_cases terminates : event.state = "terminated"
        · simp [Oversight.MayStore, terminates, carried action terminates]
        · exact isLive event.state terminates same
  · exact .of_issues ⟨trivial, fun _ => trivial⟩
  · exact (terminateSession_minds settings instanceId session _ held).bind
      fun _ _ _ => .pure _
  · exact .pure _

theorem applyInternalSessionEvent_minds (settings : Settings) (instanceId : Nat)
    (other : SessionId) (event : InternalEvent)
    (carried : event.action = .workerState → event.state = "terminated" →
      current.mayTerminate = true) :
    Minds id (applyInternalSessionEvent settings instanceId other event) current := by
  refine .get fun found => ?_
  cases found with
  | none => exact .pure _
  | some session =>
      dsimp only
      split
      · exact .pure _
      · next live =>
          refine Minds.bind (dispatchInternalEvent_minds settings instanceId session other
            event ?_ ?_ carried) fun outcome before _ => ?_
          · exact fun same => Op.mem_heldAfter (by simp [Op.copies]) same current.held
          · intro same
            simp [Oversight.after, Op.liveAfter, same, live]
          · cases outcome with
            | error failure => exact .pure _
            | ok _ => exact .of_issues ⟨trivial, fun _ => trivial⟩

theorem applyInternalSessionUpdate_minds (settings : Settings) (instanceId : Nat)
    (other : SessionId) (update : InternalUpdate) :
    Minds id (applyInternalSessionUpdate settings instanceId other update) current := by
  refine .get fun found => ?_
  cases found with
  | none => exact .pure _
  | some session =>
      dsimp only
      split
      · exact .pure _
      · refine .mutation trivial fun updated => ?_
        cases updated with
        | none => exact .pure _
        | some updated =>
            dsimp only
            split
            · refine (assignSessionWorker_minds ..).bind_blind (assignSessionWorker_blind ..)
                fun assigned before _ kept => ?_
              cases assigned with
              | ok worker => exact .of_issues ⟨trivial, fun _ => trivial⟩
              | error message =>
                  refine (terminateSession_minds settings instanceId updated _ fun same => ?_).bind
                    fun _ _ _ => .pure _
                  rw [kept]
                  exact Op.mem_heldAfter (by simp [Op.copies]) same _
            · exact .pure _

theorem deleteSession_minds (settings : Settings) (instanceId : Nat) (other : SessionId)
    (token : Token) : Minds id (deleteSession settings instanceId other token) current := by
  unfold deleteSession authorizeViewer
  rw [bind_assoc]
  refine .get fun found => ?_
  rw [bind_assoc]
  refine .sync fun now => ?_
  cases access : validateViewerAccess now token found with
  | error failure =>
      simp only [pure_eq, pure_bind]
      exact .pure _
  | ok session =>
      simp only [pure_eq, pure_bind]
      refine (terminateSession_minds settings instanceId session _ fun same => ?_).bind
        fun _ _ _ => .pure _
      exact Op.mem_heldAfter (by simp [Op.copies, (validateViewerAccess_eq_ok access).1]) same
        current.held

theorem authorizeViewer_minds (other : SessionId) (token : Token) :
    Minds id (authorizeViewer other token) current :=
  .of_issues ⟨trivial, fun _ => ⟨trivial, fun _ => trivial⟩⟩

theorem postViewerEvents_minds (settings : Settings) (instanceId : Nat)
    (other : SessionId) (token : Token) (disconnectReason : String) :
    Minds id (postViewerEvents settings instanceId other token disconnectReason)
      current := by
  refine (authorizeViewer_minds other token).bind fun access before _ => ?_
  cases access with
  | error failure => exact .pure _
  | ok session =>
      refine Minds.bind (.of_issues ⟨trivial, fun _ => trivial⟩) fun _ before _ => ?_
      refine Minds.bind (.of_issues ⟨trivial, fun _ => trivial⟩) fun _ before _ => ?_
      split
      · exact (markViewerDisconnectedAndSchedule_minds ..).bind fun _ _ _ => .pure _
      · exact .of_issues ⟨trivial, fun _ => trivial⟩

theorem getSession_minds (other : SessionId) (token : Token) :
    Minds id (getSession other token) current := by
  refine (authorizeViewer_minds other token).bind fun access before _ => ?_
  cases access with
  | error failure => exact .pure _
  | ok session => exact .of_issues ⟨trivial, fun _ => trivial⟩

theorem acceptRegistration_minds (connection : Connection) (role : Role)
    (sessionId : SessionId) (session : Session)
    (live : sessionId = id → current.live = true) :
    Minds id (acceptRegistration connection role sessionId session) current := by
  refine .sync fun _ => .mutation trivial fun _ => .sync fun _ => ?_
  refine Minds.bind ?_ fun _ before _ => ?_
  · cases role with
    | viewer => exact .of_issues ⟨trivial, fun _ => trivial⟩
    | worker =>
        refine .setState fun same => ?_
        simp [Oversight.MayStore, Oversight.after, Op.liveAfter, live same]
  refine Minds.bind (.of_issues ⟨trivial, fun _ => trivial⟩) fun _ before _ => ?_
  exact flushSignals_minds ..

theorem handleRegister_minds (connection : Connection) (role : Role)
    (sessionId : SessionId) (token : Token) :
    Minds id (handleRegister connection role sessionId token) current := by
  refine .sync fun request => ?_
  cases request with
  | none => exact .pure ()
  | some request =>
      obtain ⟨path, cookies⟩ := request
      dsimp only
      split
      · exact .of_issues ⟨trivial, fun _ => trivial⟩
      · refine .get fun found => .sync fun now => ?_
        cases checked : validateRegistration now path cookies role sessionId token found with
        | error message => exact .of_issues ⟨trivial, fun _ => trivial⟩
        | ok session =>
            refine acceptRegistration_minds connection role sessionId session fun same => ?_
            obtain ⟨rfl, live, -⟩ := validateRegistration_eq_ok checked
            simp [Oversight.after, Op.liveAfter, same, live]

theorem handlePoolRegister_minds (settings : Settings) (connection : Connection)
    (secret : String) (workerId : Option PoolWorkerId) (traits metadata : WorkerTraits)
    (display : Viewport) :
    Minds id (handlePoolRegister settings connection secret workerId traits metadata
      display) current := by
  refine .sync fun request => ?_
  cases request with
  | none => exact .pure ()
  | some request =>
      obtain ⟨path, cookies⟩ := request
      dsimp only
      split
      · exact .of_issues ⟨trivial, fun _ => trivial⟩
      · refine .sync fun _ => ?_
        refine Minds.bind (.of_issues ⟨trivial, fun _ => trivial⟩) fun _ before _ => ?_
        refine .sync fun _ => .sync fun _ => ?_
        exact flushPoolAssignments_minds ..

theorem handleHeartbeat_minds (connection : Connection) (metadata : WorkerTraits) :
    Minds id (handleHeartbeat connection metadata) current := by
  refine Minds.bind ?_ fun _ before _ => Minds.bind ?_ fun _ before _ =>
    .of_issues ⟨trivial, fun _ => trivial⟩
  · refine .sync fun registration => ?_
    split
    · exact .of_issues ⟨trivial, fun _ => trivial⟩
    · exact .pure ()
  · refine .sync fun registration => ?_
    split
    · exact .pure ()
    · exact .of_issues ⟨trivial, fun _ => trivial⟩

/-- The `worker-state` message stores its state on the strength of the message
alone. -/
theorem handleWorkerState_minds (connection : Connection) (state reason : String)
    (escapes : ∀ after, current.Extends after → after.MayStore state) :
    Minds id (handleWorkerState connection state reason) current := by
  refine .sync fun registration => ?_
  split
  · exact .pure ()
  · refine .get fun found => .sync fun registration => ?_
    split
    · split
      · exact .pure ()
      · refine (Minds.setState fun _ => escapes _ ?_).bind fun _ before _ => ?_
        · refine (Oversight.extends_after id current (.sync (.registration connection)) _).trans
            (.trans (Oversight.extends_after id _ (.session (.get _)) _)
              (Oversight.extends_after id _ (.sync (.registration connection)) _))
        refine .sync fun registration => ?_
        split
        · exact .pure ()
        · exact sendSignal_minds ..
    · exact .pure ()

theorem relayMessage_minds (connection : Connection) (payload : Signal) :
    Minds id (relayMessage connection payload) current := by
  refine .sync fun registration => ?_
  split
  · exact .pure ()
  · refine .mutation trivial fun _ => .sync fun registration => ?_
    split
    · exact sendSignal_minds ..
    · refine .get fun found => ?_
      cases found with
      | none => exact .pure ()
      | some session =>
          dsimp only
          split
          · exact .pure ()
          · exact sendSignal_minds ..
    · exact .pure ()
  · refine .get fun found => .sync fun registration => ?_
    split
    · split
      · exact .pure ()
      · exact sendSignal_minds ..
    · exact .pure ()

theorem handleSessionMessage_minds (connection : Connection) (message : Message)
    (escapes : ∀ state reason, message = .workerState state reason →
      ∀ after, current.Extends after → after.MayStore state) :
    Minds id (handleSessionMessage connection message) current := by
  unfold handleSessionMessage
  refine Minds.bind (.of_issues ⟨trivial, fun _ => trivial⟩) fun registration before extended => ?_
  split
  · exact .of_issues ⟨trivial, fun _ => trivial⟩
  · refine Minds.bind (.of_issues ⟨trivial, fun _ => trivial⟩) fun owns last behind => ?_
    cases owns with
    | false => exact .of_issues ⟨trivial, fun _ => trivial⟩
    | true =>
        simp only [if_true]
        split
        · exact handleWorkerState_minds _ _ _ fun after extendedLast =>
            escapes _ _ rfl after (extended.trans (behind.trans extendedLast))
        · exact relayMessage_minds ..

theorem handlePoolState_minds (settings : Settings) (connection : Connection)
    (workerId : PoolWorkerId) (state : String)
    (lastSessionId sessionId : Option SessionId) (traits : WorkerTraits) :
    Minds id (handlePoolState settings connection workerId state lastSessionId sessionId
      traits) current := by
  unfold handlePoolState
  split
  · refine Minds.bind (.of_issues ⟨trivial, fun _ => trivial⟩) fun _ before _ => ?_
    cases lastSessionId with
    | none => exact .pure ()
    | some lastSessionId =>
        exact .sync fun registration => fallbackWarmPoolSession_minds ..
  · exact .of_issues ⟨trivial, fun _ => trivial⟩

theorem handleCurrentMessage_minds (settings : Settings) (connection : Connection)
    (message : Message)
    (escapes : ∀ state reason, message = .workerState state reason →
      ∀ after, current.Extends after → after.MayStore state) :
    Minds id (handleCurrentMessage settings connection message) current := by
  unfold handleCurrentMessage
  split
  · exact handleHeartbeat_minds ..
  · refine Minds.bind (.of_issues ⟨trivial, fun _ => trivial⟩) fun registration before _ => ?_
    split
    · exact handlePoolState_minds ..
    · exact handleSessionMessage_minds _ _ fun state reason isState => by simp at isState
  · exact handleSessionMessage_minds _ _ escapes

theorem onMessage_minds (settings : Settings) (connection : Connection)
    (message : Message)
    (escapes : ∀ state reason, message = .workerState state reason →
      ∀ after, current.Extends after → after.MayStore state) :
    Minds id (onMessage settings connection message) current := by
  unfold onMessage
  split
  · exact handlePoolRegister_minds ..
  · exact handleRegister_minds ..
  · refine Minds.bind (.of_issues ⟨trivial, fun _ => trivial⟩)
      fun registration before extended => ?_
    split
    · exact handleCurrentMessage_minds _ _ _ fun state reason isState after behind =>
        escapes state reason isState after (extended.trans behind)
    · refine Minds.bind (.of_issues ⟨trivial, fun _ => trivial⟩) fun owns last behind => ?_
      cases owns with
      | false => exact .of_issues ⟨trivial, fun _ => trivial⟩
      | true =>
          exact handleCurrentMessage_minds _ _ _ fun state reason isState after extendedLast =>
            escapes state reason isState after (extended.trans (behind.trans extendedLast))

theorem closePoolSocket_minds (settings : Settings) (connection : Connection)
    (workerId : PoolWorkerId) :
    Minds id (closePoolSocket settings connection workerId) current := by
  refine .sync fun _ => ?_
  refine Minds.bind (.of_issues ⟨trivial, fun _ => trivial⟩) fun released before _ => ?_
  cases released with
  | false => exact .pure ()
  | true =>
      refine Minds.bind (.of_issues ⟨trivial, fun _ => trivial⟩) fun worker before _ => ?_
      refine Minds.bind (.of_issues ⟨trivial, fun _ => trivial⟩) fun _ before _ => ?_
      split
      · exact .pure ()
      · exact fallbackWarmPoolSession_minds ..

theorem closeSessionSocket_minds (settings : Settings) (connection : Connection)
    (binding : Binding) :
    Minds id (closeSessionSocket settings connection binding) current := by
  refine .sync fun _ => ?_
  refine Minds.bind (.of_issues ⟨trivial, fun _ => trivial⟩) fun released before _ => ?_
  cases released with
  | false => exact .pure ()
  | true =>
      refine .get fun found => ?_
      cases found with
      | none => exact .pure ()
      | some session =>
          dsimp only
          split
          · exact markViewerDisconnectedAndSchedule_minds ..
          · exact .of_issues ⟨trivial, fun _ => trivial⟩

theorem onClose_minds (settings : Settings) (connection : Connection) :
    Minds id (onClose settings connection) current := by
  refine .sync fun delivered => ?_
  cases delivered with
  | false => exact .pure ()
  | true =>
      refine .sync fun registration => ?_
      split
      · exact closePoolSocket_minds ..
      · exact closeSessionSocket_minds ..
      · exact .pure ()

theorem onDisconnectTimer_minds (settings : Settings) (instanceId : Nat)
    (other : SessionId) (role : Role) :
    Minds id (onDisconnectTimer settings instanceId other role) current := by
  refine .sync fun task => ?_
  cases task with
  | none => exact .pure ()
  | some task => exact runDisconnectTimer_minds ..

theorem tombstoneGcTimer_minds : Minds id tombstoneGcTimer current := by
  refine .of_issues ⟨trivial, fun now => ⟨trivial, fun sessions => ?_⟩⟩
  exact Issues.forEach fun session _ => ⟨trivial, fun _ => trivial⟩

theorem terminateUnviewed_minds (settings : Settings) (instanceId now : Nat) :
    Minds id (terminateUnviewed settings instanceId now) current := by
  refine listing_minds (.listSessions 500) trivial (fun _ => rfl) (fun session => ?_)
    fun session after held => ?_
  · unfold onlyIf
    split
    · exact terminateSession_blind settings instanceId session _
    · trivial
  · unfold onlyIf
    split
    · exact terminateSession_minds settings instanceId session _ held
    · exact .pure ()

theorem expiryTimer_minds (settings : Settings) (instanceId : Nat) :
    Minds id (expiryTimer settings instanceId) current := by
  refine .sync fun now => Minds.bind ?_ fun _ before _ => ?_
  · exact listing_minds (.listExpired now) trivial (fun _ => rfl)
      (fun session => terminateSession_blind settings instanceId session _)
      fun session _ held => terminateSession_minds settings instanceId session _ held
  · unfold onlyIf
    split
    · exact terminateUnviewed_minds settings instanceId now
    · exact .pure ()

theorem reapIdleSessions_minds (settings : Settings) (instanceId : Nat) :
    Minds id (reapIdleSessions settings instanceId) current := by
  refine .sync fun now => ?_
  refine listing_minds (.listSessions 500) trivial (fun _ => rfl) (fun session => ?_)
    fun session after held => ?_
  · unfold reapIdleSession
    split
    · trivial
    · refine Issues.bind ⟨fun _ => rfl, fun _ => trivial⟩ fun idle => ?_
      cases idle with
      | false => trivial
      | true => exact terminateSession_blind settings instanceId session _
  · unfold reapIdleSession
    split
    · exact .pure ()
    · refine .request (allows_of_plain trivial) (unlocked_of_plain trivial) fun idle => ?_
      cases idle with
      | false => exact .pure ()
      | true => exact terminateSession_minds settings instanceId session _ held

end Handlers

/-! ## The system -/

namespace Job

/-- A `worker-state` message of a socket. -/
def isWorkerStateMessage : Job → Bool
  | .message _ (.workerState _ _) => true
  | _ => false

/-- A message or event that asks to store the state `"terminated"`. -/
def carriesTerminated : Job → Bool
  | .message _ (.workerState state _) => state = "terminated"
  | .internalEvent _ _ event => event.action = .workerState ∧ event.state = "terminated"
  | _ => false

/-- The monitor state in which a handler starts. -/
def oversight (job : Job) : Oversight where
  relaxed := job.isWorkerStateMessage
  mayTerminate := job.carriesTerminated

/-- Every handler of the control plane keeps to the discipline. -/
theorem body_minds (settings : Settings) (id : SessionId) (job : Job) :
    Minds id (job.body settings) job.oversight := by
  have discard {α : Type} {handler : Handler α} {current : Oversight}
      (minds : Minds id handler current) :
      Minds id (handler >>= fun _ => Pure.pure ()) current :=
    minds.bind fun _ _ _ => .pure ()
  cases job with
  | connect connection path cookies => exact .of_issues ⟨trivial, fun _ => trivial⟩
  | message connection received =>
      refine onMessage_minds settings connection received ?_
      rintro state reason rfl after extended
      by_cases terminates : state = "terminated"
      · have carried := extended.mayTerminate
        simp only [Job.oversight, carriesTerminated, terminates] at carried
        simp [Oversight.MayStore, terminates, carried]
      · have relaxed := extended.relaxed
        simp only [Job.oversight, isWorkerStateMessage] at relaxed
        simp [Oversight.MayStore, terminates, relaxed]
  | peerClosing connection => exact .of_issues ⟨trivial, fun _ => trivial⟩
  | close connection => exact onClose_minds ..
  | elapse ms => exact .of_issues ⟨trivial, fun _ => trivial⟩
  | disconnectTimer instanceId other role => exact onDisconnectTimer_minds ..
  | createSession instanceId body => exact discard (createRemoteSession_minds ..)
  | internalEvent instanceId other event =>
      refine discard (applyInternalSessionEvent_minds settings instanceId other event ?_)
      intro action terminates
      simp [Job.oversight, carriesTerminated, action, terminates]
  | internalUpdate instanceId other update =>
      exact discard (applyInternalSessionUpdate_minds ..)
  | deleteSession instanceId other token => exact discard (deleteSession_minds ..)
  | viewerEvents instanceId other token reason => exact discard (postViewerEvents_minds ..)
  | getSession instanceId other token => exact discard (getSession_minds ..)
  | sendSignal instanceId other role payload => exact sendSignal_minds ..
  | flushSignals instanceId other role => exact flushSignals_minds ..
  | flushPoolAssignments instanceId workerId => exact flushPoolAssignments_minds ..
  | assignSessionWorker instanceId session => exact discard (assignSessionWorker_minds ..)
  | fallbackWarmPoolSession instanceId other workerId =>
      exact fallbackWarmPoolSession_minds ..
  | terminateSession instanceId other reason => exact terminateSessionById_minds ..
  | tombstoneGc instanceId => exact tombstoneGcTimer_minds
  | expiry instanceId => exact expiryTimer_minds ..
  | reapIdle instanceId => exact reapIdleSessions_minds ..

end Job

/-! ## Running handlers -/

section Threads

variable {settings : Settings}

/-- The monitor state of a running handler. -/
def overseen (id : SessionId) (thread : Thread (controlPlane settings)) : Oversight :=
  thread.past.foldr (fun event current => current.after id event.1 event.2)
    thread.job.oversight

@[simp] theorem overseen_advance (id : SessionId) (thread : Thread (controlPlane settings))
    (op : Op) (reply : op.Reply) (program : Handler Unit) :
    overseen id (thread.advance op reply program) =
      (overseen id thread).after id op reply := rfl

/-- The two escapes of a handler are those of its job. -/
theorem overseen_relaxed (id : SessionId) (thread : Thread (controlPlane settings)) :
    (overseen id thread).relaxed = thread.job.isWorkerStateMessage := by
  obtain ⟨job, past, program⟩ := thread
  induction past with
  | nil => rfl
  | cons event past ih => exact ih

theorem overseen_mayTerminate (id : SessionId) (thread : Thread (controlPlane settings)) :
    (overseen id thread).mayTerminate = thread.job.carriesTerminated := by
  obtain ⟨job, past, program⟩ := thread
  induction past with
  | nil => rfl
  | cons event past ih => exact ih

theorem oversight_after (id : SessionId) (thread : Thread (controlPlane settings)) :
    (oversight id).after (some thread.job.oversight) thread.past =
      some (overseen id thread) := by
  obtain ⟨job, past, program⟩ := thread
  induction past with
  | nil => rfl
  | cons event past ih =>
      obtain ⟨op, reply⟩ := event
      rw [Monitor.after_cons]
      exact congrArg (Option.bind · _) ih

/-- In every run every handler obeys the discipline. -/
theorem run_obeys (id : SessionId)
    {allowed : Config (controlPlane settings) → Action (controlPlane settings) → Prop}
    {state : State} {final : Config (controlPlane settings)}
    (run : Run allowed ⟨state, []⟩ final) :
    ∀ thread ∈ final.threads,
      thread.Obeys (oversight id) (fun job : Job => some job.oversight)
        Oversight.Settled := by
  refine run.obeys (fun job current known => ?_) (by simp)
  cases known
  refine (Job.body_minds settings id job).mono fun _ after finished => finished.2 ?_
  intro workers taken
  simp [Job.oversight] at taken

/-- A handler about to store a state string may do so. -/
theorem mayStore_of_obeys {id : SessionId} {thread : Thread (controlPlane settings)}
    (obeys : thread.Obeys (oversight id) (fun job : Job => some job.oversight)
      Oversight.Settled) {op : Op} {next : op.Reply → Handler Unit}
    (suspended : thread.program = .request op next)
    {state : String} (stores : op.storesState id = some state) :
    (overseen id thread).MayStore state :=
  (obeys.allows (oversight_after id thread) suspended).1 state stores

end Threads

/-- Throughout a run the sessions are stored under identifiers that were drawn. -/
theorem idsDrawn_of_run {settings : Settings}
    {allowed : Config (controlPlane settings) → Action _ → Prop}
    {final : Config (controlPlane settings)}
    (run : Run allowed ⟨State.initial, []⟩ final) : final.state.IdsDrawn := by
  have preserved : Inductive allowed State.IdsDrawn fun _ _ => True :=
    ⟨fun _ _ _ _ _ => trivial, fun _ _ _ _ op _ holds _ _ _ =>
      ⟨holds.state.exec op, trivial, fun _ _ _ _ => trivial⟩⟩
  exact (preserved.run run ⟨State.initial_idsDrawn, fun _ _ => trivial⟩).state

end RemoteBrowser
