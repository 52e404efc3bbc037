import RemoteBrowser.ControlPlane.Fallback
import RemoteBrowser.ControlPlane.Registration

/-!
# Who acts on a session

Clients act on a session through the messages and closes of their sockets, and through the requests
that name it.  In every run, the handler of such a message, close or request touches a session only
under an authority: its own request shows a token that is good for the stored session, or its
socket has shown one in an earlier `register`, or its socket belongs to a registered pool worker for
which the session is waiting.  Requests to create or refresh a session are not among these: where
one active session is allowed, they end the others.
-/

namespace RemoteBrowser

open Async Program

/-! ## What a handler is entitled to -/

/-- The session that the operation changes, registers a socket for or sends signals of. -/
def Op.touches : Op → Option SessionId
  | .session (.mutate id _) => some id
  | .session (.releaseSocketOwnership id _ _) => some id
  | .session (.addPendingSignal id _ _) => some id
  | .session (.drainPendingSignals id _) => some id
  | .session (.acquireTerminationLock id _) => some id
  | .session (.remove id) => some id
  | .sync (.registerSession _ binding) => some binding.sessionId
  | .sync (.adoptSocket _ id _) => some id
  | .sync (.clearLocalSocket _ id _) => some id
  | .sync (.dismissSockets _ id) => some id
  | .sync (.sendSignal _ id _ _) => some id
  | .sync (.sendSignals _ id _ _) => some id
  | .sync (.setDisconnectTimer _ id _ _ _) => some id
  | .sync (.clearDisconnectTimer _ id _) => some id
  | .launch subject => some subject.id
  | .notifyGateway id => some id
  | _ => none

/-- The handler has read a live session, and the token is good for it. -/
def Shown (id : SessionId) (role : Role) (token : Token)
    (past : List (Event controlPlane.face)) : Prop :=
  ∃ (session : Session) (now : Nat),
    (⟨.session (.get id), some session⟩ : Event controlPlane.face) ∈ past ∧
    (⟨.sync .now, now⟩ : Event controlPlane.face) ∈ past ∧
    ¬session.Terminated ∧ now ≤ session.expiresAt ∧
    ∃ source, verifySessionToken now token session role = .ok source

/-- The handler of a `register` has found the socket on a right path, and the token that is
presented, or else that of the cookie, is good. -/
def Proven (connection : Connection) (id : SessionId) (role : Role) (token : Token)
    (past : List (Event controlPlane.face)) : Prop :=
  ∃ (path : SocketPath) (cookies : List (SessionId × Token)),
    (⟨.sync (.upgradeRequest connection), some (path, cookies)⟩ : Event controlPlane.face) ∈ past ∧
    validateRegistrationPath path role id = .ok () ∧
    Shown id role (registrationToken cookies role id token) past

/-- The handler of a `pool-register` has found the socket on a right path, and the secret good. -/
def Enrolled (settings : Settings) (connection : Connection) (workerId : PoolWorkerId)
    (secret : String) (past : List (Event controlPlane.face)) : Prop :=
  ∃ (path : SocketPath) (cookies : List (SessionId × Token)),
    (⟨.sync (.upgradeRequest connection), some (path, cookies)⟩ : Event controlPlane.face) ∈ past ∧
    validatePoolRegistration settings path secret (some workerId) = .ok workerId

/-- The handler has read that the socket is registered for the session. -/
def ReadsBinding (connection : Connection) (id : SessionId)
    (past : List (Event controlPlane.face)) : Prop :=
  ∃ (reply : Registration) (binding : Binding),
    (⟨.sync (.registration connection), reply⟩ : Event controlPlane.face) ∈ past ∧
    reply.session = some binding ∧ binding.sessionId = id

/-- The session is waiting for its pooled worker. -/
def Session.WaitsFor (session : Session) (workerId : PoolWorkerId) : Prop :=
  ¬session.Terminated ∧ session.state = "allocating" ∧ Worker.IsWarmPool session.worker ∧
    session.worker.bind Worker.poolWorkerId = some workerId

/-- The handler has read that the socket is that of a pool worker, and that the session is
waiting for this worker. -/
def ReadsWaiting (connection : Connection) (id : SessionId)
    (past : List (Event controlPlane.face)) : Prop :=
  ∃ (reply : Registration) (workerId : PoolWorkerId) (session : Session),
    (⟨.sync (.registration connection), reply⟩ : Event controlPlane.face) ∈ past ∧
    reply.poolWorkerId = some workerId ∧
    (⟨.session (.get id), some session⟩ : Event controlPlane.face) ∈ past ∧
    session.WaitsFor workerId

/-- What the completed awaits of a client's handler entitle it to. -/
def Job.Entitled (past : List (Event controlPlane.face)) (id : SessionId) : Job → Prop
  | .message connection (.register role target token) =>
      target = id ∧ Proven connection id role token past
  | .message connection _ => ReadsBinding connection id past ∨ ReadsWaiting connection id past
  | .close connection => ReadsBinding connection id past ∨ ReadsWaiting connection id past
  | .deleteSession _ target token => target = id ∧ Shown id .viewer token past
  | .viewerEvents _ target token _ => target = id ∧ Shown id .viewer token past
  | .getSession _ target token => target = id ∧ Shown id .viewer token past
  | _ => True

/-- The store has returned a session of that identifier for `id`. -/
def Returns (past : List (Event controlPlane.face)) (id target : SessionId) : Prop :=
  ∃ session : Session, session.id = target ∧
    ((⟨.session (.get id), some session⟩ : Event controlPlane.face) ∈ past ∨
      ∃ mutation, (⟨.session (.mutate id mutation), some session⟩ : Event controlPlane.face) ∈ past)

/-- The handler may touch the session, as the identifier of its own or of one that it has read. -/
def Job.MayTouch (job : Job) (past : List (Event controlPlane.face)) (target : SessionId) : Prop :=
  ∃ id, job.Entitled past id ∧ (target = id ∨ Returns past id target)

/-- The rule that handlers keep to. -/
def Job.authority (job : Job) (past : List (Event controlPlane.face)) (op : Op) : Prop :=
  op.touches.elim True (job.MayTouch past)

section Growth

variable {past after : List (Event controlPlane.face)} {id : SessionId}

theorem Shown.mono {role : Role} {token : Token} (shown : Shown id role token past)
    (longer : past <:+ after) : Shown id role token after := by
  obtain ⟨session, now, read, clock, good⟩ := shown
  exact ⟨session, now, longer.subset read, longer.subset clock, good⟩

theorem Proven.mono {connection : Connection} {role : Role} {token : Token}
    (proven : Proven connection id role token past) (longer : past <:+ after) :
    Proven connection id role token after := by
  obtain ⟨path, cookies, request, valid, shown⟩ := proven
  exact ⟨path, cookies, longer.subset request, valid, shown.mono longer⟩

theorem ReadsBinding.mono {connection : Connection} (reads : ReadsBinding connection id past)
    (longer : past <:+ after) : ReadsBinding connection id after := by
  obtain ⟨reply, binding, read, named⟩ := reads
  exact ⟨reply, binding, longer.subset read, named⟩

theorem ReadsWaiting.mono {connection : Connection} (reads : ReadsWaiting connection id past)
    (longer : past <:+ after) : ReadsWaiting connection id after := by
  obtain ⟨reply, workerId, session, read, named, stored, waits⟩ := reads
  exact ⟨reply, workerId, session, longer.subset read, named, longer.subset stored, waits⟩

theorem Job.Entitled.mono {job : Job} (entitled : job.Entitled past id)
    (longer : past <:+ after) : job.Entitled after id := by
  cases job with
  | message connection message =>
      cases message with
      | register role target token => exact ⟨entitled.1, entitled.2.mono longer⟩
      | _ => exact entitled.imp (·.mono longer) (·.mono longer)
  | close connection => exact entitled.imp (·.mono longer) (·.mono longer)
  | deleteSession instanceId target token => exact ⟨entitled.1, entitled.2.mono longer⟩
  | viewerEvents instanceId target token reason => exact ⟨entitled.1, entitled.2.mono longer⟩
  | getSession instanceId target token => exact ⟨entitled.1, entitled.2.mono longer⟩
  | _ => trivial

theorem Returns.mono {target : SessionId} (returns : Returns past id target)
    (longer : past <:+ after) : Returns after id target := by
  obtain ⟨session, same, replied⟩ := returns
  refine ⟨session, same, replied.imp (longer.subset ·) fun mutated => ?_⟩
  exact mutated.imp fun _ replied => longer.subset replied

theorem Job.MayTouch.mono {job : Job} {target : SessionId} (may : job.MayTouch past target)
    (longer : past <:+ after) : job.MayTouch after target := by
  obtain ⟨id, entitled, named⟩ := may
  exact ⟨id, entitled.mono longer, named.imp_right (·.mono longer)⟩

theorem Job.Entitled.mayTouch {job : Job} (entitled : job.Entitled past id) :
    job.MayTouch past id :=
  ⟨id, entitled, .inl rfl⟩

end Growth

/-! ## Handlers that touch one session -/

/-- The operation touches no other session. -/
def Op.Within (id : SessionId) (op : Op) : Prop := op.touches.elim True (· = id)

/-- The operation touches no session. -/
def Op.Aloof (op : Op) : Prop := op.touches = none

section Within

variable {id : SessionId} (settings : Settings) (instanceId : Nat)

theorem queueSignal_within (role : Role) (payload : Signal) :
    (queueSignal id role payload).Issues (Op.Within id) :=
  ⟨rfl, fun _ => ⟨trivial, fun _ => trivial⟩⟩

theorem sendSignal_within (role : Role) (payload : Signal) :
    (sendSignal instanceId id role payload).Issues (Op.Within id) := by
  refine .bind ⟨trivial, fun _ => trivial⟩ fun found => ?_
  cases found with
  | none => exact queueSignal_within role payload
  | some target =>
      refine .bind ⟨trivial, fun _ => trivial⟩ fun current => ?_
      split
      · exact ⟨rfl, fun _ => trivial⟩
      · exact queueSignal_within role payload

theorem flushSignals_within (role : Role) :
    (flushSignals instanceId id role).Issues (Op.Within id) := by
  refine .bind ⟨trivial, fun _ => trivial⟩ fun found => ?_
  cases found with
  | none => trivial
  | some target =>
      refine .bind ⟨trivial, fun _ => trivial⟩ fun current => ?_
      split
      · refine .bind ⟨rfl, fun _ => trivial⟩ fun payloads => ?_
        refine .bind ⟨rfl, fun _ => trivial⟩ fun left => ?_
        cases left with
        | nil => trivial
        | cons payload rest => exact queueSignal_within role payload
      · trivial

theorem onlyIf_within {condition : Prop} [Decidable condition] {action : Handler Unit}
    (within : action.Issues (Op.Within id)) : (onlyIf condition action).Issues (Op.Within id) := by
  unfold onlyIf
  split
  · exact within
  · trivial

theorem terminateSession_within (session : Session) (reason : String) :
    (terminateSession settings instanceId session reason).Issues (Op.Within session.id) := by
  unfold terminateSession
  split
  · trivial
  refine .bind ⟨rfl, fun _ => trivial⟩ fun locked => ?_
  split
  case isFalse => trivial
  refine .bind ⟨rfl, fun _ => trivial⟩ fun _ => ?_
  refine .bind (onlyIf_within (onlyIf_within ⟨rfl, fun _ => trivial⟩)) fun _ => ?_
  refine .bind (sendSignal_within instanceId .viewer _) fun _ => ?_
  refine .bind (sendSignal_within instanceId .worker _) fun _ => ?_
  refine .bind ⟨rfl, fun _ => trivial⟩ fun _ => ?_
  exact onlyIf_within ⟨trivial, fun _ => trivial⟩

theorem markViewerDisconnectedAndSchedule_within (reason : String) :
    (markViewerDisconnectedAndSchedule settings instanceId id reason).Issues (Op.Within id) := by
  refine .bind ⟨trivial, fun _ => trivial⟩ fun found => ?_
  cases found with
  | none => trivial
  | some session =>
      dsimp only
      split
      · trivial
      refine .bind ⟨rfl, fun _ => trivial⟩ fun _ => ?_
      refine .bind ⟨rfl, fun _ => trivial⟩ fun _ => ?_
      exact ⟨rfl, fun _ => trivial⟩

theorem acceptRegistration_within (connection : Connection) (role : Role) (session : Session) :
    (acceptRegistration connection role id session).Issues (Op.Within id) := by
  refine .bind ⟨rfl, fun _ => trivial⟩ fun _ => ?_
  refine .bind ⟨rfl, fun _ => trivial⟩ fun _ => ?_
  refine .bind ⟨rfl, fun _ => trivial⟩ fun _ => ?_
  have records : (recordRegistration role id).Issues (Op.Within id) := by
    cases role <;> exact ⟨rfl, fun _ => trivial⟩
  refine records.bind fun _ => ?_
  refine .bind ⟨trivial, fun _ => trivial⟩ fun _ => ?_
  exact flushSignals_within _ role

end Within

section Rule

variable {α : Type} {job : Job} {past : List (Event controlPlane.face)} {id : SessionId}

/-- A handler that touches one session keeps the rule once it is entitled to it. -/
theorem follows_within {handler : Handler α} (may : job.MayTouch past id)
    (within : handler.Issues (Op.Within id)) :
    handler.Follows (.history job.authority) (fun _ after => past <:+ after) past := by
  apply within.follows_history_from
  intro op within after longer
  unfold Job.authority
  unfold Op.Within at within
  cases touched : op.touches with
  | none => trivial
  | some target =>
      rw [touched] at within
      cases (within : target = id)
      exact may.mono longer

/-- A handler that touches no session keeps the rule. -/
theorem follows_aloof {handler : Handler α} (aloof : handler.Issues Op.Aloof) :
    handler.Follows (.history job.authority) (fun _ after => past <:+ after) past := by
  apply aloof.follows_history_from
  intro op untouched after _
  rw [Job.authority, show op.touches = none from untouched]
  trivial

theorem follows_any {handler : Handler Unit} {middle : Unit → List (Event controlPlane.face) → Prop}
    (follows : handler.Follows (.history job.authority) middle past) :
    handler.Follows (.history job.authority) (fun _ _ => True) past :=
  follows.mono fun _ _ _ => trivial

end Rule

/-! ## Tokens -/

section Tokens

variable {past : List (Event controlPlane.face)} {id : SessionId}

/-- The checks that let a viewer in, or a registration, show the token. -/
theorem shown_of_accepted {role : Role} {token : Token} {now : Nat} {session : Session}
    (accepted : ¬session.Terminated ∧ now ≤ session.expiresAt ∧
      ∃ source, verifySessionToken now token session role = .ok source) :
    Shown id role token (⟨.sync .now, now⟩ :: ⟨.session (.get id), some session⟩ :: past) :=
  ⟨session, now, .tail _ (.head _), .head _, accepted⟩

end Tokens

/-! ## Handlers of sockets -/

/-- The handler of the job acts for the socket: what it reads of the socket entitles it. -/
def Job.ActsFor (connection : Connection) (job : Job) : Prop :=
  ∀ past id, ReadsBinding connection id past ∨ ReadsWaiting connection id past →
    job.Entitled past id

/-- The handler has read that the socket is that of the pool worker. -/
def ReadsPool (connection : Connection) (workerId : PoolWorkerId)
    (past : List (Event controlPlane.face)) : Prop :=
  ∃ reply : Registration,
    (⟨.sync (.registration connection), reply⟩ : Event controlPlane.face) ∈ past ∧
    reply.poolWorkerId = some workerId

section Acting

variable {job : Job} {connection : Connection} {past : List (Event controlPlane.face)}
  {id : SessionId}

theorem Job.ActsFor.mayTouch (acts : job.ActsFor connection)
    (reads : ReadsBinding connection id past) : job.MayTouch past id :=
  (acts past id (.inl reads)).mayTouch

theorem readsBinding_cons {reply : Registration} {binding : Binding}
    (named : reply.session = some binding) :
    ReadsBinding connection binding.sessionId (⟨.sync (.registration connection), reply⟩ :: past) :=
  ⟨reply, binding, .head _, named, rfl⟩

theorem ReadsBinding.cons (reads : ReadsBinding connection id past)
    (event : Event controlPlane.face) : ReadsBinding connection id (event :: past) :=
  reads.mono (List.suffix_cons event past)

theorem failWith_authority (message : String) :
    (failWith connection message).Follows (.history job.authority) (fun _ _ => True) past :=
  follows_any (follows_aloof ⟨rfl, fun _ => trivial⟩)

theorem sendSignal_authority (may : job.MayTouch past id) (instanceId : Nat) (role : Role)
    (payload : Signal) :
    (sendSignal instanceId id role payload).Follows (.history job.authority) (fun _ _ => True)
      past :=
  follows_any (follows_within may (sendSignal_within instanceId role payload))

theorem handleHeartbeat_authority (acts : job.ActsFor connection) (metadata : WorkerTraits) :
    (handleHeartbeat connection metadata).Follows (.history job.authority) (fun _ _ => True)
      past := by
  have viewer : (heartbeatViewer connection).Follows (.history job.authority) (fun _ _ => True)
      past := by
    refine follows_history trivial fun registration => ?_
    dsimp only [Program.bind]
    split
    case h_1 sessionId generation named =>
      exact follows_any (follows_within (acts.mayTouch (readsBinding_cons named))
        ⟨rfl, fun _ => trivial⟩)
    case h_2 => trivial
  refine viewer.bind fun _ after _ => follows_any (follows_aloof ?_)
  refine .bind ?_ fun _ => ⟨rfl, fun _ => trivial⟩
  refine .bind ⟨rfl, fun _ => trivial⟩ fun registration => ?_
  split
  · trivial
  · exact ⟨rfl, fun _ => trivial⟩

theorem handleWorkerState_authority (acts : job.ActsFor connection) (state reason : String) :
    (handleWorkerState connection state reason).Follows (.history job.authority)
      (fun _ _ => True) past := by
  refine follows_history trivial fun first => ?_
  dsimp only [Program.bind]
  split
  case h_1 => trivial
  case h_2 sessionId role generation known =>
    refine follows_history trivial fun session => ?_
    refine follows_history trivial fun second => ?_
    dsimp only [Program.bind]
    split
    case h_2 => trivial
    case h_1 sessionId role generation session named =>
      split
      case isTrue => trivial
      case isFalse =>
        refine follows_history (acts.mayTouch (readsBinding_cons named)) fun _ => ?_
        refine follows_history trivial fun third => ?_
        dsimp only [Program.bind]
        split
        case h_1 => trivial
        case h_2 sessionId role generation named =>
          exact sendSignal_authority (acts.mayTouch (readsBinding_cons named)) ..

theorem relayFromViewer_authority (acts : job.ActsFor connection)
    (reads : ReadsBinding connection id past) (payload : Signal) :
    (relayFromViewer connection id payload).Follows (.history job.authority) (fun _ _ => True)
      past := by
  refine follows_history (acts.mayTouch reads) fun _ => ?_
  refine follows_history trivial fun registration => ?_
  dsimp only [Program.bind]
  split
  case h_1 sessionId generation named =>
    exact sendSignal_authority (acts.mayTouch (readsBinding_cons named)) ..
  case h_2 sessionId generation named =>
    refine follows_history trivial fun session => ?_
    dsimp only [Program.bind]
    split
    case h_1 => trivial
    case h_2 session =>
      split
      case isTrue => trivial
      case isFalse =>
        exact sendSignal_authority (acts.mayTouch ((readsBinding_cons named).cons _)) ..
  case h_3 => trivial

theorem relayMessage_authority (acts : job.ActsFor connection) (payload : Signal) :
    (relayMessage connection payload).Follows (.history job.authority) (fun _ _ => True) past := by
  refine follows_history trivial fun registration => ?_
  dsimp only [Program.bind]
  split
  case h_1 => trivial
  case h_2 sessionId generation named =>
    exact relayFromViewer_authority acts (readsBinding_cons named) payload
  case h_3 sessionId generation known =>
    refine follows_history trivial fun session => ?_
    refine follows_history trivial fun again => ?_
    dsimp only [Program.bind]
    split
    case h_1 sessionId role generation session named =>
      split
      case isTrue => trivial
      case isFalse => exact sendSignal_authority (acts.mayTouch (readsBinding_cons named)) ..
    case h_2 => trivial

theorem handleSessionMessage_authority (acts : job.ActsFor connection) (message : Message) :
    (handleSessionMessage connection message).Follows (.history job.authority)
      (fun _ _ => True) past := by
  refine follows_history trivial fun registration => ?_
  dsimp only [Program.bind]
  split
  case h_1 => exact failWith_authority _
  case h_2 sessionId role generation named =>
    refine follows_history trivial fun owner => ?_
    change Follows _ _ (if decide (owner = some connection) = true then _
      else sync (.closeSocket connection) : Handler Unit) _
    split
    case isTrue =>
      split
      · exact handleWorkerState_authority acts ..
      · exact relayMessage_authority acts _
    case isFalse => exact follows_any (follows_aloof ⟨rfl, fun _ => trivial⟩)

/-! ### Pool workers -/

theorem launchWorker_within (session : Session) :
    (launchWorker session).Issues (Op.Within session.id) := by
  refine .bind ⟨rfl, fun _ => trivial⟩ fun result => ?_
  cases result with
  | error message => trivial
  | ok worker => exact ⟨rfl, fun _ => trivial⟩

theorem terminateSessionById_authority (entitled : job.Entitled past id) (settings : Settings)
    (instanceId : Nat) (reason : String) :
    (terminateSessionById settings instanceId id reason).Follows (.history job.authority)
      (fun _ _ => True) past := by
  refine follows_history trivial fun found => ?_
  dsimp only [Program.bind]
  cases found with
  | none => trivial
  | some session =>
      have may : job.MayTouch (⟨.session (.get id), some session⟩ :: past) session.id :=
        ⟨id, entitled.mono (List.suffix_cons _ past), .inr ⟨session, rfl, .inl (.head _)⟩⟩
      exact follows_any (follows_within may (terminateSession_within ..))

theorem replaceWarmWorker_authority (entitled : job.Entitled past id) (settings : Settings)
    (instanceId : Nat) :
    (replaceWarmWorker settings instanceId id).Follows (.history job.authority)
      (fun _ _ => True) past := by
  refine follows_history entitled.mayTouch fun next => ?_
  dsimp only [Program.bind]
  cases next with
  | none => trivial
  | some nextGeneration =>
      have second := entitled.mono (List.suffix_cons
        (⟨.session (.mutate id .incrementGeneration), some nextGeneration⟩ :
          Event controlPlane.face) past)
      refine follows_history second.mayTouch fun updated => ?_
      dsimp only [Program.bind]
      cases updated with
      | none => trivial
      | some replacement =>
          have third := second.mono (List.suffix_cons (⟨.session (.mutate id (.update {
            workerToken := some (makeWorkerToken id nextGeneration.expiresAt
              nextGeneration.generationOrOne) })), some replacement⟩ : Event controlPlane.face) _)
          refine follows_history third.mayTouch fun _ => ?_
          refine (follows_within (third.mono (List.suffix_cons _ _)).mayTouch
            (sendSignal_within instanceId .viewer _)).bind fun _ after longer => ?_
          have known : (⟨.session (.mutate id (.update {
              workerToken := some (makeWorkerToken id nextGeneration.expiresAt
                nextGeneration.generationOrOne) })), some replacement⟩ :
              Event controlPlane.face) ∈ after :=
            longer.subset (.tail _ (.head _))
          have later := third.mono ((List.suffix_cons _ _).trans longer)
          have may : job.MayTouch after replacement.id :=
            ⟨id, later, .inr ⟨replacement, rfl, .inr ⟨_, known⟩⟩⟩
          refine (follows_within may (launchWorker_within replacement)).bind
            fun result final further => ?_
          cases result with
          | ok worker => trivial
          | error message => exact terminateSessionById_authority (later.mono further) ..

theorem fallbackWarmPoolSession_authority (acts : job.ActsFor connection) {workerId : PoolWorkerId}
    (reads : ReadsPool connection workerId past) (settings : Settings) (instanceId : Nat) :
    (fallbackWarmPoolSession settings instanceId id workerId).Follows (.history job.authority)
      (fun _ _ => True) past := by
  refine follows_history trivial fun found => ?_
  dsimp only [Program.bind]
  cases found with
  | none => trivial
  | some session =>
      dsimp only
      split
      case isTrue => trivial
      case isFalse live =>
        split
        case isTrue => trivial
        case isFalse allocating =>
          split
          case isTrue => trivial
          case isFalse pooled =>
            rw [not_or, not_not, not_not] at pooled
            refine follows_history trivial fun socket => ?_
            dsimp only [Program.bind]
            cases socket with
            | some _ => trivial
            | none =>
                obtain ⟨reply, read, named⟩ := reads
                have waits : session.WaitsFor workerId := ⟨live, not_not.mp allocating, pooled⟩
                apply replaceWarmWorker_authority
                exact acts _ _ (.inr ⟨reply, workerId, session, .tail _ (.tail _ read), named,
                  .tail _ (.head _), waits⟩)

theorem handlePoolState_authority (acts : job.ActsFor connection) {workerId : PoolWorkerId}
    (reads : ReadsPool connection workerId past) (settings : Settings) (state : String)
    (lastSessionId sessionId : Option SessionId) (traits : WorkerTraits) :
    (handlePoolState settings connection workerId state lastSessionId sessionId traits).Follows
      (.history job.authority) (fun _ _ => True) past := by
  unfold handlePoolState
  split
  case isFalse => exact follows_any (follows_aloof ⟨rfl, fun _ => trivial⟩)
  case isTrue =>
    refine follows_history trivial fun marked => ?_
    dsimp only [Program.bind]
    cases lastSessionId with
    | none => trivial
    | some lastSessionId =>
        refine follows_history trivial fun registration => ?_
        apply fallbackWarmPoolSession_authority acts
        obtain ⟨reply, read, named⟩ := reads
        cases own : registration.poolWorkerId with
        | none => exact ⟨reply, .tail _ (.tail _ read), named⟩
        | some other => exact ⟨registration, .head _, own⟩

theorem handleCurrentMessage_authority (acts : job.ActsFor connection) (settings : Settings)
    (message : Message) :
    (handleCurrentMessage settings connection message).Follows (.history job.authority)
      (fun _ _ => True) past := by
  cases message with
  | heartbeat metadata => exact handleHeartbeat_authority acts metadata
  | poolState state lastSessionId sessionId traits metadata =>
      refine follows_history trivial fun registration => ?_
      dsimp only [Program.bind]
      split
      case h_1 workerId named =>
        exact handlePoolState_authority acts ⟨registration, .head _, named⟩ ..
      case h_2 => exact handleSessionMessage_authority acts _
  | poolRegister secret workerId traits metadata display =>
      exact handleSessionMessage_authority acts
        (.poolRegister secret workerId traits metadata display)
  | register role id token => exact handleSessionMessage_authority acts (.register role id token)
  | workerState state reason =>
      exact handleSessionMessage_authority acts (.workerState state reason)
  | other text => exact handleSessionMessage_authority acts (.other text)

theorem closePoolSocket_authority (acts : job.ActsFor connection) {workerId : PoolWorkerId}
    (reads : ReadsPool connection workerId past) (settings : Settings) :
    (closePoolSocket settings connection workerId).Follows (.history job.authority)
      (fun _ _ => True) past := by
  refine follows_history trivial fun _ => ?_
  refine follows_history trivial fun released => ?_
  dsimp only [Program.bind]
  split
  case isFalse => trivial
  case isTrue =>
    refine follows_history trivial fun record => ?_
    refine follows_history trivial fun _ => ?_
    dsimp only [Program.bind]
    split
    case h_1 => trivial
    case h_2 sessionId _ =>
      apply fallbackWarmPoolSession_authority acts
      obtain ⟨reply, read, named⟩ := reads
      exact ⟨reply, .tail _ (.tail _ (.tail _ (.tail _ read))), named⟩

theorem closeSessionSocket_authority (acts : job.ActsFor connection) {binding : Binding}
    (reads : ReadsBinding connection binding.sessionId past) (settings : Settings) :
    (closeSessionSocket settings connection binding).Follows (.history job.authority)
      (fun _ _ => True) past := by
  apply follows_any
  apply follows_within (acts.mayTouch reads)
  refine .bind ⟨rfl, fun _ => trivial⟩ fun _ => ?_
  refine .bind ⟨rfl, fun _ => trivial⟩ fun released => ?_
  split
  case isFalse => trivial
  case isTrue =>
    refine .bind ⟨trivial, fun _ => trivial⟩ fun found => ?_
    cases found with
    | none => trivial
    | some session =>
        dsimp only
        split
        case h_1 => exact markViewerDisconnectedAndSchedule_within ..
        case h_2 => exact ⟨rfl, fun _ => trivial⟩

end Acting

/-! ## All handlers -/

section Bodies

variable {past : List (Event controlPlane.face)} (settings : Settings)

theorem handleRegister_authority (connection : Connection) (role : Role) (id : SessionId)
    (token : Token) :
    (handleRegister connection role id token).Follows
      (.history (Job.authority (.message connection (.register role id token)))) (fun _ _ => True)
      past := by
  refine follows_history trivial fun upgrade => ?_
  dsimp only [Program.bind]
  cases upgrade with
  | none => trivial
  | some upgrade =>
      obtain ⟨path, cookies⟩ := upgrade
      dsimp only
      split
      case h_1 => exact failWith_authority _
      case h_2 valid =>
        refine follows_history trivial fun stored => ?_
        refine follows_history trivial fun now => ?_
        dsimp only [Program.bind]
        split
        case h_1 => exact failWith_authority _
        case h_2 session accepted =>
          apply follows_any
          apply follows_within _ (acceptRegistration_within connection role session)
          refine Job.Entitled.mayTouch ⟨rfl, path, cookies, ?_, valid, ?_⟩
          · exact .tail _ (.tail _ (.head _))
          · obtain ⟨rfl, verified⟩ := validateRegistration_eq_ok accepted
            exact shown_of_accepted verified

theorem flushPoolAssignments_aloof (instanceId : Nat) (workerId : PoolWorkerId) :
    (flushPoolAssignments instanceId workerId).Issues Op.Aloof := by
  refine (flushPoolAssignments_issues instanceId workerId).mono fun op delivering => ?_
  cases op with
  | pool script => rfl
  | sync call => cases call <;> first | rfl | exact delivering.elim
  | pause => rfl
  | _ => exact delivering.elim

theorem handlePoolRegister_aloof (connection : Connection) (secret : String)
    (workerId : Option PoolWorkerId) (traits metadata : WorkerTraits) (display : Viewport) :
    (handlePoolRegister settings connection secret workerId traits metadata display).Issues
      Op.Aloof := by
  refine .bind ⟨rfl, fun _ => trivial⟩ fun upgrade => ?_
  cases upgrade with
  | none => trivial
  | some upgrade =>
      dsimp only
      split
      case h_1 => exact ⟨rfl, fun _ => trivial⟩
      case h_2 =>
        refine ⟨rfl, fun _ => ⟨rfl, fun _ => ⟨rfl, fun _ => ⟨rfl, fun _ => ?_⟩⟩⟩⟩
        exact flushPoolAssignments_aloof ..

theorem onMessage_authority (connection : Connection) (message : Message) :
    (onMessage settings connection message).Follows
      (.history (Job.authority (.message connection message))) (fun _ _ => True) past := by
  unfold onMessage
  split
  case h_1 => exact follows_any (follows_aloof (handlePoolRegister_aloof ..))
  case h_2 => exact handleRegister_authority ..
  case h_3 _ others =>
    have acts : Job.ActsFor connection (.message connection message) := by
      cases message with
      | register role id token => exact (others role id token rfl).elim
      | _ => exact fun _ _ reads => reads
    refine follows_history trivial fun registration => ?_
    dsimp only [Program.bind]
    split
    case h_1 => exact handleCurrentMessage_authority acts ..
    case h_2 =>
      refine follows_history trivial fun owner => ?_
      change Follows _ _ (if decide (owner = some connection) = true then _
        else sync (.closeSocket connection) : Handler Unit) _
      split
      case isTrue => exact handleCurrentMessage_authority acts ..
      case isFalse => exact follows_any (follows_aloof ⟨rfl, fun _ => trivial⟩)

theorem onClose_authority (connection : Connection) :
    (onClose settings connection).Follows (.history (Job.authority (.close connection)))
      (fun _ _ => True) past := by
  have acts : Job.ActsFor connection (.close connection) := fun _ _ reads => reads
  refine follows_history trivial fun closed => ?_
  dsimp only [Program.bind]
  split
  case isFalse => trivial
  case isTrue =>
    refine follows_history trivial fun registration => ?_
    dsimp only [Program.bind]
    split
    case h_1 workerId named =>
      exact closePoolSocket_authority acts ⟨registration, .head _, named⟩ settings
    case h_2 binding _ named =>
      exact closeSessionSocket_authority acts (readsBinding_cons named) settings
    case h_3 => trivial

/-- What the check of a viewer's request leaves. -/
theorem authorizeViewer_authority {job : Job} (id : SessionId) (token : Token) :
    (authorizeViewer id token).Follows (.history job.authority)
      (fun result after => ∀ session, result = .ok session →
        Shown id .viewer token after ∧ Returns after id session.id) past := by
  refine follows_history trivial fun found => ?_
  refine follows_history trivial fun now => ?_
  intro session accepted
  obtain ⟨rfl, verified⟩ := validateViewerAccess_eq_ok accepted
  exact ⟨shown_of_accepted verified, session, rfl, .inl (.tail _ (.head _))⟩

theorem deleteSession_authority (instanceId : Nat) (id : SessionId) (token : Token) :
    (deleteSession settings instanceId id token).Follows
      (.history (Job.authority (.deleteSession instanceId id token))) (fun _ _ => True) past := by
  refine (authorizeViewer_authority id token).bind fun result after checked => ?_
  cases result with
  | error failure => trivial
  | ok session =>
      obtain ⟨shown, returned⟩ := checked session rfl
      have may : Job.MayTouch (.deleteSession instanceId id token) after session.id :=
        ⟨id, ⟨rfl, shown⟩, .inr returned⟩
      exact (follows_within may (terminateSession_within ..)).bind fun _ _ _ => trivial

theorem postViewerEvents_authority (instanceId : Nat) (id : SessionId) (token : Token)
    (reason : String) :
    (postViewerEvents settings instanceId id token reason).Follows
      (.history (Job.authority (.viewerEvents instanceId id token reason))) (fun _ _ => True)
      past := by
  refine (authorizeViewer_authority id token).bind fun result after checked => ?_
  cases result with
  | error failure => trivial
  | ok session =>
      have entitled : Job.Entitled after id (.viewerEvents instanceId id token reason) :=
        ⟨rfl, (checked session rfl).1⟩
      refine (follows_within entitled.mayTouch ?_).mono fun _ _ _ => trivial
      refine .bind ⟨trivial, fun _ => trivial⟩ fun _ => ?_
      refine .bind ⟨trivial, fun _ => trivial⟩ fun _ => ?_
      split
      case isTrue => exact (markViewerDisconnectedAndSchedule_within ..).bind fun _ => trivial
      case isFalse => exact ⟨rfl, fun _ => trivial⟩

theorem getSession_authority (instanceId : Nat) (id : SessionId) (token : Token) :
    (getSession id token).Follows
      (.history (Job.authority (.getSession instanceId id token))) (fun _ _ => True) past := by
  refine (authorizeViewer_authority id token).bind fun result after checked => ?_
  cases result with
  | error failure => trivial
  | ok session =>
      have entitled : Job.Entitled after id (.getSession instanceId id token) :=
        ⟨rfl, (checked session rfl).1⟩
      exact follows_history entitled.mayTouch fun _ => trivial

/-- A handler that anything entitles keeps the rule. -/
theorem follows_unrestricted {job : Job} (entitled : ∀ past id, job.Entitled past id)
    (handler : Handler Unit) :
    handler.Follows (.history job.authority) (fun _ _ => True) past := by
  refine (issues_of_all (fun _ => trivial) handler).follows (fun op _ past => ?_) past
  change op.touches.elim True (job.MayTouch past)
  cases op.touches with
  | none => trivial
  | some target => exact (entitled past target).mayTouch

theorem Job.body_authority (job : Job) :
    (job.body settings).Follows (.history job.authority) (fun _ _ => True) [] := by
  cases job with
  | message connection message => exact onMessage_authority ..
  | close connection => exact onClose_authority ..
  | deleteSession instanceId id token =>
      exact (deleteSession_authority ..).bind fun _ _ _ => trivial
  | viewerEvents instanceId id token reason =>
      exact (postViewerEvents_authority ..).bind fun _ _ _ => trivial
  | getSession instanceId id token =>
      exact (getSession_authority _ id token).bind fun _ _ _ => trivial
  | _ =>
      apply follows_unrestricted
      exact fun _ _ => trivial

end Bodies

/-! ## Pool registrations -/

/-- A pool worker's socket is registered by the handler of an accepted `pool-register`. -/
def Job.enrolment (settings : Settings) (job : Job) (past : List (Event controlPlane.face))
    (op : Op) : Prop :=
  ∀ connection workerId, op = .sync (.registerPoolWorker connection workerId) →
    ∃ secret traits metadata display,
      job = .message connection (.poolRegister secret (some workerId) traits metadata display) ∧
      Enrolled settings connection workerId secret past

theorem Job.body_enrolment (settings : Settings) (job : Job) :
    (job.body settings).Follows (.history (job.enrolment settings)) (fun _ _ => True) [] := by
  by_cases registers : ∃ connection secret workerId traits metadata display,
      job = .message connection (.poolRegister secret workerId traits metadata display)
  · obtain ⟨connection, secret, workerId, traits, metadata, display, rfl⟩ := registers
    refine follows_history nofun fun upgrade => ?_
    dsimp only [Program.bind]
    cases upgrade with
    | none => trivial
    | some upgrade =>
        obtain ⟨path, cookies⟩ := upgrade
        dsimp only
        split
        case h_1 => exact follows_history nofun fun _ => trivial
        case h_2 registered valid =>
          obtain rfl := workerId_of_validatePoolRegistration valid
          refine follows_history ?_ fun _ => ?_
          · intro other target same
            cases same
            exact ⟨secret, traits, metadata, display, rfl, path, cookies, .head _, valid⟩
          refine follows_history nofun fun _ => ?_
          refine follows_history nofun fun _ => ?_
          refine follows_history nofun fun _ => ?_
          refine (flushPoolAssignments_issues connection.instanceId registered).follows
            (fun op delivering past => ?_) _
          rintro other target rfl
          exact delivering.elim
  · refine (Job.body_issues settings job).follows (fun op issued past => ?_) _
    rintro connection workerId rfl
    cases job with
    | message other message =>
        obtain ⟨rfl, kind⟩ := issued
        cases message with
        | poolRegister secret registered traits metadata display =>
            exact absurd ⟨_, _, _, _, _, _, rfl⟩ registers
        | _ => exact kind.elim
    | _ => exact issued.elim

/-! ## Runs -/

section AuthorityRuns

variable {settings : Settings} {config : Config (controlPlane settings)}

/-- An earlier `register` on the socket has shown a token that is good for the session. -/
def HasProven (connection : Connection) (id : SessionId)
    (config : Config (controlPlane settings)) : Prop :=
  ∃ thread ∈ config.threads, ∃ role token,
    thread.job = .message connection (.register role id token) ∧
    Proven connection id role token thread.past

/-- An earlier `pool-register` on the socket has been accepted for the worker. -/
def HasEnrolled (connection : Connection) (workerId : PoolWorkerId)
    (config : Config (controlPlane settings)) : Prop :=
  ∃ thread ∈ config.threads, ∃ secret traits metadata display,
    thread.job = .message connection
      (.poolRegister secret (some workerId) traits metadata display) ∧
    Enrolled settings connection workerId secret thread.past

/-- The handler has read that the session waits for a worker that is registered on the socket. -/
def WaitsForSocket (connection : Connection) (id : SessionId)
    (thread : Thread (controlPlane settings)) (config : Config (controlPlane settings)) : Prop :=
  ∃ workerId session, HasEnrolled connection workerId config ∧
    (⟨.session (.get id), some session⟩ : Event controlPlane.face) ∈ thread.past ∧
    session.WaitsFor workerId

/-- A message or the close of a socket, or a request for one session. -/
def Job.IsClients : Job → Prop
  | .message _ _ => True
  | .close _ => True
  | .deleteSession _ _ _ => True
  | .viewerEvents _ _ _ _ => True
  | .getSession _ _ _ => True
  | _ => False

/-- The authority under which the handler of a client touches a session. -/
def Authorised (config : Config (controlPlane settings)) (thread : Thread (controlPlane settings))
    (id : SessionId) : Prop :=
  match thread.job with
  | .message connection (.register role target token) =>
      target = id ∧ Proven connection id role token thread.past
  | .message connection _ =>
      HasProven connection id config ∨ WaitsForSocket connection id thread config
  | .close connection =>
      HasProven connection id config ∨ WaitsForSocket connection id thread config
  | .deleteSession _ target token => target = id ∧ Shown id .viewer token thread.past
  | .viewerEvents _ target token _ => target = id ∧ Shown id .viewer token thread.past
  | .getSession _ target token => target = id ∧ Shown id .viewer token thread.past
  | _ => False

/-- Some handler has completed the await. -/
def Happened (op : Op) (config : Config (controlPlane settings)) : Prop :=
  ∃ thread ∈ config.threads, ∃ reply, (⟨op, reply⟩ : Event controlPlane.face) ∈ thread.past

/-- What a handler has read of the variables of sockets was registered before. -/
def ReadsRegistered (config : Config (controlPlane settings))
    (thread : Thread (controlPlane settings)) : Prop :=
  ∀ connection (reply : Registration),
    (⟨.sync (.registration connection), reply⟩ : Event controlPlane.face) ∈ thread.past →
    (∀ binding, reply.session = some binding →
      Happened (.sync (.registerSession connection binding)) config) ∧
    ∀ workerId, reply.poolWorkerId = some workerId →
      Happened (.sync (.registerPoolWorker connection workerId)) config

theorem Happened.step {op : Op} {before after : Config (controlPlane settings)}
    {action : Action (controlPlane settings)} (happened : Happened op before)
    (stepped : before.step action = some after) : Happened op after :=
  Config.exists_thread_step stepped
    (fun _ _ _ _ _ ⟨reply, member⟩ => ⟨reply, .tail _ member⟩) happened

theorem ReadsRegistered.step {before after : Config (controlPlane settings)}
    {thread : Thread (controlPlane settings)} {action : Action (controlPlane settings)}
    (reads : ReadsRegistered before thread) (stepped : before.step action = some after) :
    ReadsRegistered after thread := by
  intro connection reply member
  obtain ⟨session, pool⟩ := reads connection reply member
  exact ⟨fun binding named => (session binding named).step stepped,
    fun workerId named => (pool workerId named).step stepped⟩

end AuthorityRuns

section AuthorityRuns

variable {settings : Settings} {config : Config (controlPlane settings)}
  {allowed : Config (controlPlane settings) → Action (controlPlane settings) → Prop}

theorem registers_of_mem_bindingsOf {connection : Connection} {binding : Binding}
    {past : List (Event controlPlane.face)} (bound : binding ∈ bindingsOf connection past) :
    ∃ reply, (⟨.sync (.registerSession connection binding), reply⟩ : Event controlPlane.face) ∈
      past := by
  obtain ⟨⟨op, reply⟩, member, named⟩ := List.mem_filterMap.mp bound
  dsimp only at named
  split at named
  case h_2 => cases named
  case h_1 =>
    split at named
    case isFalse => cases named
    case isTrue same =>
      cases named
      cases same
      exact ⟨_, member⟩

theorem happened_of_bindingOf (run : Run allowed ⟨State.initial, []⟩ config)
    {connection : Connection} {binding : Binding}
    (named : State.bindingOf config.state connection = some binding) :
    Happened (.sync (.registerSession connection binding)) config := by
  obtain ⟨thread, member, bound⟩ := (registered_of_run run).named binding named
  exact ⟨thread, member, registers_of_mem_bindingsOf bound⟩

theorem State.poolWorkerOf_registerPoolWorker {outcome : LaunchOutcome} {state : State}
    {connection : Connection} {workerId named : PoolWorkerId}
    (registered : (State.exec settings outcome (.sync (.registerPoolWorker connection workerId))
      state).1.poolWorkerOf connection = some named) : named = workerId := by
  simp only [exec, execSync, poolWorkerOf, modifySocket, Function.update_self] at registered
  cases found : state.sockets connection with
  | none => simp [found] at registered
  | some socket => simpa [found, eq_comm] using registered

theorem happened_of_poolWorkerOf (run : Run allowed ⟨State.initial, []⟩ config)
    {connection : Connection} {workerId : PoolWorkerId}
    (named : State.poolWorkerOf config.state connection = some workerId) :
    Happened (.sync (.registerPoolWorker connection workerId)) config := by
  induction run with
  | refl => simp [State.poolWorkerOf, State.initial] at named
  | @tail before after action earlier _ stepped ih =>
      obtain ⟨job, rfl, -, rfl⟩ | ⟨index, outcome, thread, op, next, rfl, found, suspended, rfl⟩ :=
        Config.step_cases stepped
      · exact (ih named).step stepped
      · by_cases registers : ∃ other, op = .sync (.registerPoolWorker connection other)
        · obtain ⟨other, rfl⟩ := registers
          obtain rfl := @State.poolWorkerOf_registerPoolWorker settings outcome _ connection other
            workerId named
          have inside := (List.getElem?_eq_some_iff.mp found).1
          exact ⟨_, List.mem_set inside _, _, .head _⟩
        · rw [State.poolWorkerOf_exec fun other same => registers ⟨other, same⟩] at named
          exact (ih named).step stepped

theorem reads_of_run (run : Run allowed ⟨State.initial, []⟩ config) :
    ∀ thread ∈ config.threads, ReadsRegistered config thread := by
  induction run with
  | refl => simp
  | @tail before after action earlier _ stepped ih =>
      intro thread member
      have step := @ReadsRegistered.step settings before after
      obtain ⟨job, rfl, -, rfl⟩ | ⟨index, outcome, actor, op, next, rfl, found, suspended, rfl⟩ :=
        Config.step_cases stepped
      · rcases List.mem_append.mp member with old | new
        · exact step (ih thread old) stepped
        · cases List.mem_singleton.mp new
          intro connection reply read
          cases read
      · rcases List.mem_or_eq_of_mem_set member with old | rfl
        · exact step (ih thread old) stepped
        · intro connection reply read
          rcases List.mem_cons.mp read with same | old
          · cases same
            constructor
            case left =>
              intro binding named
              rw [State.session_registration] at named
              exact (happened_of_bindingOf earlier named).step stepped
            case right =>
              intro workerId named
              rw [State.poolWorkerId_registration] at named
              exact (happened_of_poolWorkerOf earlier named).step stepped
          · exact step (ih actor (List.mem_of_getElem? found)) stepped connection reply old

/-- The store returns sessions under their own identifiers. -/
theorem id_of_returns (run : Run allowed ⟨State.initial, []⟩ config) :
    ∀ thread ∈ config.threads, ∀ id target, Returns thread.past id target → target = id := by
  have preserved : Inductive allowed State.IdsDrawn
      fun _ thread => ∀ id target, Returns thread.past id target → target = id := by
    constructor
    case start =>
      rintro config job _ _ _ id target ⟨session, -, read | ⟨mutation, read⟩⟩ <;> cases read
    case resume =>
      intro config index outcome thread op next holds _ found suspended
      refine ⟨holds.state.exec op, ?_, fun _ other found _ =>
        holds.threads other (List.mem_of_getElem? found)⟩
      have own := holds.threads thread (List.mem_of_getElem? found)
      rintro id target ⟨session, rfl, read | ⟨mutation, read⟩⟩
      · rcases List.mem_cons.mp read with same | old
        · obtain ⟨rfl, replied⟩ := Sigma.mk.inj_iff.mp same
          exact (holds.state id session (eq_of_heq replied).symm).1
        · exact own id _ ⟨session, rfl, .inl old⟩
      · rcases List.mem_cons.mp read with same | old
        · obtain ⟨rfl, replied⟩ := Sigma.mk.inj_iff.mp same
          exact @State.IdsDrawn.id_of_mutate settings outcome _ id mutation session holds.state
            (eq_of_heq replied).symm
        · exact own id _ ⟨session, rfl, .inr ⟨mutation, old⟩⟩
  exact (preserved.run run ⟨State.initial_idsDrawn, by simp⟩).threads

theorem hasProven_of_happened (run : Run allowed ⟨State.initial, []⟩ config)
    {connection : Connection} {binding : Binding}
    (happened : Happened (.sync (.registerSession connection binding)) config) :
    HasProven connection binding.sessionId config := by
  obtain ⟨thread, member, reply, read⟩ := happened
  have issues : ∀ job : Job, (job.body settings).Follows
      (.history fun _ (op : Op) => op.IssuedBy job) (fun _ _ => True) [] :=
    fun job => (Job.body_issues settings job).follows (fun _ issued _ => issued) _
  obtain ⟨-, -, issued⟩ := (run.keeps issues thread member).of_mem read
  obtain ⟨token, same⟩ := Job.Handles.register issued
  obtain ⟨past, earlier, authority⟩ :=
    (run.keeps (Job.body_authority settings) thread member).of_mem read
  obtain ⟨id, entitled, -⟩ : thread.job.MayTouch past binding.sessionId := authority
  rw [same] at entitled
  obtain ⟨rfl, proven⟩ := entitled
  exact ⟨thread, member, binding.role, token, same, proven.mono earlier⟩

theorem hasEnrolled_of_happened (run : Run allowed ⟨State.initial, []⟩ config)
    {connection : Connection} {workerId : PoolWorkerId}
    (happened : Happened (.sync (.registerPoolWorker connection workerId)) config) :
    HasEnrolled connection workerId config := by
  obtain ⟨thread, member, reply, read⟩ := happened
  obtain ⟨past, earlier, enrolment⟩ :=
    (run.keeps (Job.body_enrolment settings) thread member).of_mem read
  obtain ⟨secret, traits, metadata, display, same, path, cookies, request, valid⟩ :=
    enrolment connection workerId rfl
  exact ⟨thread, member, secret, traits, metadata, display, same, path, cookies,
    earlier.subset request, valid⟩

/-- In every run, the handler of a client touches a session only under an authority. -/
theorem clients_are_authorised (run : Run allowed ⟨State.initial, []⟩ config) {index : ℕ}
    {thread : Thread (controlPlane settings)} {op : Op} {id : SessionId}
    (client : thread.job.IsClients) (found : config.threads[index]? = some thread)
    (awaited : config.awaits index = some op) (touches : op.touches = some id) :
    Authorised config thread id := by
  have member := List.mem_of_getElem? found
  obtain ⟨_, next, located, suspended⟩ := Config.exists_of_awaits awaited
  cases found.symm.trans located
  have authority : thread.job.authority thread.past op :=
    (run.keeps (Job.body_authority settings) thread member).allows suspended
  rw [Job.authority, touches] at authority
  obtain ⟨other, entitled, denotes⟩ : thread.job.MayTouch thread.past id := authority
  obtain rfl : id = other :=
    denotes.elim (fun same => same) (id_of_returns run thread member other id)
  have socket {connection : Connection}
      (reads : ReadsBinding connection id thread.past ∨ ReadsWaiting connection id thread.past) :
      HasProven connection id config ∨ WaitsForSocket connection id thread config := by
    have registered := reads_of_run run thread member
    rcases reads with ⟨reply, binding, read, named, rfl⟩ |
      ⟨reply, workerId, session, read, named, stored, waits⟩
    · exact .inl (hasProven_of_happened run ((registered connection reply read).1 binding named))
    · have enrolled :=
        hasEnrolled_of_happened run ((registered connection reply read).2 workerId named)
      exact .inr ⟨workerId, session, enrolled, stored, waits⟩
  unfold Authorised
  cases handled : thread.job with
  | message connection message =>
      rw [handled] at entitled
      cases message with
      | register role target token => exact entitled
      | _ => exact socket entitled
  | close connection =>
      rw [handled] at entitled
      exact socket entitled
  | deleteSession instanceId target token =>
      rw [handled] at entitled
      exact entitled
  | viewerEvents instanceId target token reason =>
      rw [handled] at entitled
      exact entitled
  | getSession instanceId target token =>
      rw [handled] at entitled
      exact entitled
  | _ =>
      rw [handled] at client
      exact client.elim

open controlPlane

/-- A worker that reports its state has shown its token before. -/
theorem reporting_worker_is_authorised :
    ∃ (config : Config (controlPlane longSettings)) (thread : Thread (controlPlane longSettings)),
      Run anyAction ⟨State.initial, []⟩ config ∧
      thread.job = .message ⟨0, 1⟩ (.workerState "active" "") ∧ Authorised config thread 0 := by
  obtain ⟨config, reached, holds⟩ := Run.exists_of_actions
    (⟨State.initial, []⟩ : Config (controlPlane longSettings))
    (registerWorkerSocket ++ .start (.message ⟨0, 1⟩ (.workerState "active" "")) :: run 3 6)
    (fun config => (config.threads[3]?.any fun thread : Thread (controlPlane longSettings) =>
        decide (thread.job = Job.message ⟨0, 1⟩ (.workerState "active" ""))) &&
      decide (config.awaits 3 = some (.session (.mutate 0 (.setState "active")))))
    (by decide)
  obtain ⟨received, awaited⟩ := Bool.and_eq_true_iff.mp holds
  obtain ⟨thread, found, job⟩ := (Option.any_eq_true _ _).mp received
  have reports := of_decide_eq_true job
  have client : thread.job.IsClients := by
    rw [reports]
    trivial
  exact ⟨config, thread, reached, reports,
    clients_are_authorised reached client found (of_decide_eq_true awaited) rfl⟩

end AuthorityRuns

end RemoteBrowser
