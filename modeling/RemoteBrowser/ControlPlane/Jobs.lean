import RemoteBrowser.ControlPlane.Footprint

/-!
# Which job issues which operation

Many operations are tied to the job whose handler issues them: a socket is claimed
by the handler of its own `register` message and released by its own close, a timer
is fired by its own job, time passes only by itself.  `Op.IssuedBy` is the table of
these ties, and `Job.body_issues` says that every handler keeps to it.
-/

namespace RemoteBrowser

open Async Program

/-- The message is a `pool-register` for the worker. -/
def Message.RegistersPoolWorker (workerId : PoolWorkerId) : Message → Prop
  | .poolRegister _ (some registered) _ _ _ => registered = workerId
  | _ => False

/-- The message is a `register` for one end of the session. -/
def Message.RegistersSession (id : SessionId) (role : Role) : Message → Prop
  | .register target session _ => session = id ∧ target = role
  | _ => False

/-- The job is the handler of such a message on the socket. -/
def Job.Handles (connection : Connection) (kind : Message → Prop) : Job → Prop
  | .message other received => other = connection ∧ kind received
  | _ => False

theorem Job.Handles.register {job : Job} {connection : Connection} {id : SessionId} {role : Role}
    (handles : job.Handles connection (Message.RegistersSession id role)) :
    ∃ token, job = .message connection (.register role id token) := by
  cases job with
  | message other received =>
      obtain ⟨rfl, kind⟩ := handles
      cases received with
      | register target session token =>
          obtain ⟨rfl, rfl⟩ := kind
          exact ⟨token, rfl⟩
      | _ => exact kind.elim
  | _ => exact handles.elim

/-- The handler of the job may unregister pool workers: it closes a socket or allocates a
worker. -/
def Job.MayUnregister : Job → Prop
  | .close _ => True
  | .createSession _ _ => True
  | .internalUpdate _ _ _ => True
  | .assignSessionWorker _ _ => True
  | _ => False

/-- The operation can be issued by the handler of the job. -/
def Op.IssuedBy (job : Job) : Op → Prop
  | .session (.mutate id (.claimSocketOwnership role connection)) =>
      job.Handles connection (Message.RegistersSession id role)
  | .session (.releaseSocketOwnership _ _ connection) => job = .close connection
  | .pool (.registerWorker workerId _ connection) =>
      job.Handles connection (Message.RegistersPoolWorker workerId)
  | .pool (.releaseSocketOwnership _ connection) => job = .close connection
  | .pool (.unregisterWorker _) => job.MayUnregister
  | .pool (.markWorkerBusy _ state _ _) => state ≠ "idle"
  | .sync (.accept connection path cookies) => job = .connect connection path cookies
  | .sync (.registerSession connection binding) =>
      job.Handles connection (Message.RegistersSession binding.sessionId binding.role)
  | .sync (.registerPoolWorker connection workerId) =>
      job.Handles connection (Message.RegistersPoolWorker workerId)
  | .sync (.adoptSocket connection id role) =>
      job.Handles connection (Message.RegistersSession id role)
  | .sync (.adoptPoolSocket connection workerId) =>
      job.Handles connection (Message.RegistersPoolWorker workerId)
  | .sync (.clearLocalSocket connection _ _) => job = .close connection
  | .sync (.clearLocalPoolSocket connection _) => job = .close connection
  | .sync (.closeSocket connection) => job.Handles connection fun _ => True
  | .sync (.sendNotice connection _) => job.Handles connection fun _ => True
  | .sync (.fireDisconnectTimer instanceId id role) => job = .disconnectTimer instanceId id role
  | .sync (.setDisconnectTimer _ _ .viewer _ task) => task = .viewerIdle
  | .sync (.setDisconnectTimer _ _ .worker _ task) => task ≠ .viewerIdle
  | .sync (.closeEvent connection) => job = .close connection
  | .sync (.peerClosing connection) => job = .peerClosing connection
  | .sync (.elapse ms) => job = .elapse ms
  | _ => True

section Helpers

variable {job : Job}

theorem Op.Signaling.issuedBy {op : Op} (signaling : op.Signaling) : op.IssuedBy job := by
  cases op with
  | session call => cases call <;> trivial
  | sync call => cases call <;> trivial
  | pool call => exact signaling.elim
  | _ => trivial

theorem Op.Delivering.issuedBy {op : Op} (delivering : op.Delivering) : op.IssuedBy job := by
  cases op with
  | session call => exact delivering.elim
  | sync call => cases call <;> trivial
  | pool call => cases call <;> trivial
  | _ => trivial

theorem Op.Pooling.issuedBy {op : Op} (pooling : op.Pooling) (may : job.MayUnregister) :
    op.IssuedBy job := by
  cases op with
  | session call => exact pooling.elim
  | sync call => cases call <;> trivial
  | pool call =>
      cases call with
      | unregisterWorker workerId => exact may
      | _ => trivial
  | _ => trivial

theorem Op.Terminating.issuedBy {session : Session} {op : Op}
    (terminating : op.Terminating session) : op.IssuedBy job := by
  rcases terminating with signaling | rfl | rfl | rfl | rfl
  · exact signaling.issuedBy
  all_goals trivial

variable (settings : Settings) (instanceId : Nat)

theorem sendSignal_issuedBy (id : SessionId) (role : Role) (payload : Signal) :
    (sendSignal instanceId id role payload).Issues (Op.IssuedBy job) :=
  (sendSignal_issues instanceId id role payload).mono fun _ signaling => signaling.issuedBy

theorem flushSignals_issuedBy (id : SessionId) (role : Role) :
    (flushSignals instanceId id role).Issues (Op.IssuedBy job) :=
  (flushSignals_issues instanceId id role).mono fun _ signaling => signaling.issuedBy

theorem flushPoolAssignments_issuedBy (workerId : PoolWorkerId) :
    (flushPoolAssignments instanceId workerId).Issues (Op.IssuedBy job) :=
  (flushPoolAssignments_issues instanceId workerId).mono fun _ delivering => delivering.issuedBy

theorem terminateSession_issuedBy (session : Session) (reason : String) :
    (terminateSession settings instanceId session reason).Issues (Op.IssuedBy job) :=
  (terminateSession_issues settings instanceId session reason).mono
    fun _ terminating => terminating.issuedBy

theorem terminateSessionById_issuedBy (id : SessionId) (reason : String) :
    (terminateSessionById settings instanceId id reason).Issues (Op.IssuedBy job) := by
  refine .bind ⟨trivial, fun _ => trivial⟩ fun found => ?_
  cases found with
  | none => trivial
  | some session => exact terminateSession_issuedBy settings instanceId session reason

theorem markViewerDisconnectedAndSchedule_issuedBy (id : SessionId) (reason : String) :
    (markViewerDisconnectedAndSchedule settings instanceId id reason).Issues
      (Op.IssuedBy job) := by
  refine .bind ⟨trivial, fun _ => trivial⟩ fun found => ?_
  cases found with
  | none => trivial
  | some session =>
      dsimp only
      split
      · trivial
      · exact ⟨trivial, fun _ => ⟨trivial, fun _ => ⟨rfl, fun _ => trivial⟩⟩⟩

theorem scheduleWorkerDisconnectTermination_issuedBy (id : SessionId)
    (generation : Option Nat) :
    (scheduleWorkerDisconnectTermination instanceId id generation).Issues
      (Op.IssuedBy job) :=
  ⟨TimerTask.noConfusion, fun _ => trivial⟩

theorem launchWorker_issuedBy (session : Session) :
    (launchWorker session).Issues (Op.IssuedBy job) := by
  refine .bind ⟨trivial, fun _ => trivial⟩ fun result => ?_
  cases result with
  | error message => trivial
  | ok worker => exact ⟨trivial, fun _ => trivial⟩

theorem assignSessionWorker_issuedBy (may : job.MayUnregister) (session : Session) :
    (assignSessionWorker settings instanceId session).Issues (Op.IssuedBy job) := by
  refine .bind ((pooledWorker_issues settings instanceId session).mono
    fun _ pooling => pooling.issuedBy may) fun record => ?_
  cases record with
  | none => exact launchWorker_issuedBy session
  | some record => exact ⟨trivial, fun _ => ⟨trivial, fun _ => trivial⟩⟩

theorem replaceWarmWorker_issuedBy (id : SessionId) :
    (replaceWarmWorker settings instanceId id).Issues (Op.IssuedBy job) := by
  refine .bind ⟨trivial, fun _ => trivial⟩ fun nextGeneration => ?_
  cases nextGeneration with
  | none => trivial
  | some nextGeneration =>
      refine .bind ⟨trivial, fun _ => trivial⟩ fun replacement => ?_
      cases replacement with
      | none => trivial
      | some replacement =>
          refine .bind ⟨trivial, fun _ => trivial⟩ fun _ => ?_
          refine (sendSignal_issuedBy ..).bind fun _ => ?_
          refine (launchWorker_issuedBy replacement).bind fun result => ?_
          cases result with
          | ok _ => trivial
          | error _ => exact terminateSessionById_issuedBy ..

theorem fallbackWarmPoolSession_issuedBy (id : SessionId) (workerId : PoolWorkerId) :
    (fallbackWarmPoolSession settings instanceId id workerId).Issues (Op.IssuedBy job) := by
  refine .bind ⟨trivial, fun _ => trivial⟩ fun found => ?_
  cases found with
  | none => trivial
  | some session =>
      dsimp only
      split
      · trivial
      split
      · trivial
      split
      · trivial
      refine .bind ⟨trivial, fun _ => trivial⟩ fun socket => ?_
      cases socket with
      | some _ => trivial
      | none => exact replaceWarmWorker_issuedBy settings instanceId id

end Helpers

/-! ## Routes -/

section Routes

variable {job : Job} (settings : Settings) (instanceId : Nat)

theorem createRemoteSession_issuedBy (may : job.MayUnregister) (body : SessionBody) :
    (createRemoteSession settings instanceId body).Issues (Op.IssuedBy job) := by
  have others : (onlyIf (settings.singleActiveSessionMode = true)
      (terminateOtherSessions settings instanceId)).Issues (Op.IssuedBy job) := by
    unfold onlyIf
    split
    · exact Issues.bind ⟨trivial, fun _ => trivial⟩ fun sessions => Issues.forEach
        fun session _ => terminateSession_issuedBy settings instanceId session _
    · trivial
  refine others.bind fun _ => Issues.bind ⟨trivial, fun _ => trivial⟩ fun created => ?_
  refine .bind ⟨trivial, fun _ => trivial⟩ fun _ => ?_
  split
  · trivial
  · refine (assignSessionWorker_issuedBy settings instanceId may _).bind fun result => ?_
    cases result with
    | ok _ => trivial
    | error message => exact ⟨trivial, fun _ => trivial⟩

theorem dispatchInternalEvent_issuedBy (session : Session) (id : SessionId)
    (event : InternalEvent) :
    (dispatchInternalEvent settings instanceId session id event).Issues
      (Op.IssuedBy job) := by
  unfold dispatchInternalEvent
  split
  · exact ⟨trivial, fun _ => ⟨trivial, fun _ => trivial⟩⟩
  · exact ⟨trivial, fun _ => trivial⟩
  · exact (markViewerDisconnectedAndSchedule_issuedBy ..).bind fun _ => trivial
  · exact ⟨trivial, fun _ => ⟨trivial, fun _ => trivial⟩⟩
  · split
    · trivial
    · exact ⟨trivial, fun _ => trivial⟩
  · exact (scheduleWorkerDisconnectTermination_issuedBy ..).bind fun _ => trivial
  · exact (terminateSession_issuedBy ..).bind fun _ => trivial
  · trivial

theorem applyInternalSessionEvent_issuedBy (id : SessionId) (event : InternalEvent) :
    (applyInternalSessionEvent settings instanceId id event).Issues (Op.IssuedBy job) := by
  refine .bind ⟨trivial, fun _ => trivial⟩ fun found => ?_
  cases found with
  | none => trivial
  | some session =>
      dsimp only
      split
      · trivial
      refine (dispatchInternalEvent_issuedBy ..).bind fun result => ?_
      cases result with
      | error failure => trivial
      | ok _ => exact ⟨trivial, fun _ => trivial⟩

theorem applyInternalSessionUpdate_issuedBy (may : job.MayUnregister) (id : SessionId)
    (update : InternalUpdate) :
    (applyInternalSessionUpdate settings instanceId id update).Issues
      (Op.IssuedBy job) := by
  refine .bind ⟨trivial, fun _ => trivial⟩ fun found => ?_
  cases found with
  | none => trivial
  | some session =>
      dsimp only
      split
      · trivial
      refine .bind ⟨trivial, fun _ => trivial⟩ fun updated => ?_
      cases updated with
      | none => trivial
      | some updated =>
          dsimp only
          split
          · refine (assignSessionWorker_issuedBy settings instanceId may _).bind fun result => ?_
            cases result with
            | ok _ => exact ⟨trivial, fun _ => trivial⟩
            | error message => exact (terminateSession_issuedBy ..).bind fun _ => trivial
          · trivial

theorem authorizeViewer_issuedBy (id : SessionId) (token : Token) :
    (authorizeViewer id token).Issues (Op.IssuedBy job) :=
  ⟨trivial, fun _ => ⟨trivial, fun _ => trivial⟩⟩

theorem deleteSession_issuedBy (id : SessionId) (token : Token) :
    (deleteSession settings instanceId id token).Issues (Op.IssuedBy job) := by
  refine (authorizeViewer_issuedBy id token).bind fun result => ?_
  cases result with
  | error failure => trivial
  | ok session => exact (terminateSession_issuedBy ..).bind fun _ => trivial

theorem postViewerEvents_issuedBy (id : SessionId) (token : Token) (reason : String) :
    (postViewerEvents settings instanceId id token reason).Issues (Op.IssuedBy job) := by
  refine (authorizeViewer_issuedBy id token).bind fun result => ?_
  cases result with
  | error failure => trivial
  | ok session =>
      refine .bind ⟨trivial, fun _ => trivial⟩ fun _ => ?_
      refine .bind ⟨trivial, fun _ => trivial⟩ fun _ => ?_
      split
      · exact (markViewerDisconnectedAndSchedule_issuedBy ..).bind fun _ => trivial
      · exact ⟨trivial, fun _ => trivial⟩

theorem getSession_issuedBy (id : SessionId) (token : Token) :
    (getSession id token).Issues (Op.IssuedBy job) := by
  refine (authorizeViewer_issuedBy id token).bind fun result => ?_
  cases result with
  | error failure => trivial
  | ok session => exact ⟨trivial, fun _ => trivial⟩

end Routes

/-! ## Relayed messages and reports -/

section Relays

variable {job : Job} (settings : Settings) (connection : Connection)

theorem handleWorkerState_issuedBy (state reason : String) :
    (handleWorkerState connection state reason).Issues
      (Op.IssuedBy job) := by
  refine .bind ⟨trivial, fun _ => trivial⟩ fun registration => ?_
  split
  · trivial
  refine .bind ⟨trivial, fun _ => trivial⟩ fun _ => ?_
  refine .bind ⟨trivial, fun _ => trivial⟩ fun _ => ?_
  split
  · split
    · trivial
    refine .bind ⟨trivial, fun _ => trivial⟩ fun _ => ?_
    refine .bind ⟨trivial, fun _ => trivial⟩ fun _ => ?_
    split
    · trivial
    · exact sendSignal_issuedBy ..
  · trivial

theorem relayMessage_issuedBy (payload : Signal) :
    (relayMessage connection payload).Issues
      (Op.IssuedBy job) := by
  refine .bind ⟨trivial, fun _ => trivial⟩ fun registration => ?_
  split
  · trivial
  · refine .bind ⟨trivial, fun _ => trivial⟩ fun _ => ?_
    refine .bind ⟨trivial, fun _ => trivial⟩ fun registration => ?_
    split
    · exact sendSignal_issuedBy ..
    · refine .bind ⟨trivial, fun _ => trivial⟩ fun found => ?_
      cases found with
      | none => trivial
      | some session =>
          dsimp only
          split
          · trivial
          · exact sendSignal_issuedBy ..
    · trivial
  · refine .bind ⟨trivial, fun _ => trivial⟩ fun found => ?_
    refine .bind ⟨trivial, fun _ => trivial⟩ fun registration => ?_
    split
    · split
      · trivial
      · exact sendSignal_issuedBy ..
    · trivial

/-- A report with the state `"idle"` is stored by `markWorkerIdle`. -/
theorem handlePoolState_issuedBy (workerId : PoolWorkerId) (state : String)
    (lastSessionId sessionId : Option SessionId) (traits : WorkerTraits) :
    (handlePoolState settings connection workerId state lastSessionId sessionId
      traits).Issues (Op.IssuedBy job) := by
  unfold handlePoolState
  split
  · refine .bind ⟨trivial, fun _ => trivial⟩ fun _ => ?_
    cases lastSessionId with
    | none => trivial
    | some lastSessionId =>
        exact Issues.bind ⟨trivial, fun _ => trivial⟩ fun registration =>
          fallbackWarmPoolSession_issuedBy ..
  · next busy => exact ⟨busy, fun _ => trivial⟩

end Relays

/-! ## Messages and closes -/

section Sockets

variable (settings : Settings) (connection : Connection)

theorem workerId_of_validatePoolRegistration {settings : Settings} {path : SocketPath}
    {secret : String} {workerId : Option PoolWorkerId} {registered : PoolWorkerId}
    (valid : validatePoolRegistration settings path secret workerId = .ok registered) :
    workerId = some registered := by
  unfold validatePoolRegistration at valid
  repeat' split at valid
  all_goals first | cases valid; rfl | cases valid

theorem handlePoolRegister_issuedBy (secret : String) (workerId : Option PoolWorkerId)
    (traits metadata : WorkerTraits) (display : Viewport) :
    (handlePoolRegister settings connection secret workerId traits metadata
      display).Issues
      (Op.IssuedBy (.message connection
        (.poolRegister secret workerId traits metadata display))) := by
  refine .bind ⟨trivial, fun _ => trivial⟩ fun upgrade => ?_
  cases upgrade with
  | none => trivial
  | some upgrade =>
      dsimp only
      split
      · exact ⟨⟨rfl, trivial⟩, fun _ => trivial⟩
      · next valid =>
          obtain rfl := workerId_of_validatePoolRegistration valid
          refine ⟨⟨rfl, rfl⟩, fun _ => ⟨⟨rfl, rfl⟩, fun _ => ⟨⟨rfl, rfl⟩, fun _ => ?_⟩⟩⟩
          exact ⟨⟨rfl, trivial⟩, fun _ => flushPoolAssignments_issuedBy ..⟩

theorem handleRegister_issuedBy (role : Role) (id : SessionId) (token : Token) :
    (handleRegister connection role id token).Issues
      (Op.IssuedBy (.message connection (.register role id token))) := by
  have records : (recordRegistration role id).Issues
      (Op.IssuedBy (.message connection (.register role id token))) := by
    cases role <;> exact ⟨trivial, fun _ => trivial⟩
  refine .bind ⟨trivial, fun _ => trivial⟩ fun upgrade => ?_
  cases upgrade with
  | none => trivial
  | some upgrade =>
      dsimp only
      split
      · exact ⟨⟨rfl, trivial⟩, fun _ => trivial⟩
      refine .bind ⟨trivial, fun _ => trivial⟩ fun stored => ?_
      refine .bind ⟨trivial, fun _ => trivial⟩ fun now => ?_
      split
      · exact ⟨⟨rfl, trivial⟩, fun _ => trivial⟩
      · refine ⟨⟨rfl, rfl, rfl⟩, fun _ => ⟨⟨rfl, rfl, rfl⟩, fun _ => ⟨⟨rfl, rfl, rfl⟩,
          fun _ => ?_⟩⟩⟩
        exact records.bind fun _ => ⟨⟨rfl, trivial⟩, fun _ => flushSignals_issuedBy ..⟩

variable (received : Message)

theorem handleHeartbeat_issuedBy (metadata : WorkerTraits) :
    (handleHeartbeat connection metadata).Issues
      (Op.IssuedBy (.message connection received)) := by
  have viewer : (heartbeatViewer connection).Issues
      (Op.IssuedBy (.message connection received)) := by
    refine .bind ⟨trivial, fun _ => trivial⟩ fun registration => ?_
    split
    · exact ⟨trivial, fun _ => trivial⟩
    · trivial
  have worker : (heartbeatPoolWorker connection metadata).Issues
      (Op.IssuedBy (.message connection received)) := by
    refine .bind ⟨trivial, fun _ => trivial⟩ fun registration => ?_
    split
    · trivial
    · exact ⟨trivial, fun _ => trivial⟩
  exact viewer.bind fun _ => worker.bind fun _ => ⟨⟨rfl, trivial⟩, fun _ => trivial⟩

theorem handleSessionMessage_issuedBy (message : Message) :
    (handleSessionMessage connection message).Issues
      (Op.IssuedBy (.message connection received)) := by
  refine .bind ⟨trivial, fun _ => trivial⟩ fun registration => ?_
  split
  · exact ⟨⟨rfl, trivial⟩, fun _ => trivial⟩
  refine .bind ⟨trivial, fun _ => trivial⟩ fun owns => ?_
  split
  · split
    · exact handleWorkerState_issuedBy ..
    · exact relayMessage_issuedBy ..
  · exact ⟨⟨rfl, trivial⟩, fun _ => trivial⟩

theorem handleCurrentMessage_issuedBy (message : Message) :
    (handleCurrentMessage settings connection message).Issues
      (Op.IssuedBy (.message connection received)) := by
  unfold handleCurrentMessage
  split
  · exact handleHeartbeat_issuedBy ..
  · refine .bind ⟨trivial, fun _ => trivial⟩ fun registration => ?_
    split
    · exact handlePoolState_issuedBy ..
    · exact handleSessionMessage_issuedBy ..
  · exact handleSessionMessage_issuedBy ..

theorem onMessage_issuedBy :
    (onMessage settings connection received).Issues
      (Op.IssuedBy (.message connection received)) := by
  unfold onMessage
  split
  · exact handlePoolRegister_issuedBy ..
  · exact handleRegister_issuedBy ..
  · refine .bind ⟨trivial, fun _ => trivial⟩ fun registration => ?_
    split
    · exact handleCurrentMessage_issuedBy ..
    refine .bind ⟨trivial, fun _ => trivial⟩ fun owns => ?_
    split
    · exact handleCurrentMessage_issuedBy ..
    · exact ⟨⟨rfl, trivial⟩, fun _ => trivial⟩

theorem closePoolSocket_issuedBy (workerId : PoolWorkerId) :
    (closePoolSocket settings connection workerId).Issues
      (Op.IssuedBy (.close connection)) := by
  refine .bind ⟨rfl, fun _ => trivial⟩ fun _ => ?_
  refine .bind ⟨rfl, fun _ => trivial⟩ fun released => ?_
  split
  · refine .bind ⟨trivial, fun _ => trivial⟩ fun record => ?_
    refine .bind ⟨trivial, fun _ => trivial⟩ fun _ => ?_
    split
    · trivial
    · exact fallbackWarmPoolSession_issuedBy ..
  · trivial

theorem closeSessionSocket_issuedBy (binding : Binding) :
    (closeSessionSocket settings connection binding).Issues
      (Op.IssuedBy (.close connection)) := by
  refine .bind ⟨rfl, fun _ => trivial⟩ fun _ => ?_
  refine .bind ⟨rfl, fun _ => trivial⟩ fun released => ?_
  split
  · refine .bind ⟨trivial, fun _ => trivial⟩ fun found => ?_
    cases found with
    | none => trivial
    | some session =>
        dsimp only
        split
        · exact markViewerDisconnectedAndSchedule_issuedBy ..
        · exact scheduleWorkerDisconnectTermination_issuedBy ..
  · trivial

theorem onClose_issuedBy :
    (onClose settings connection).Issues (Op.IssuedBy (.close connection)) := by
  refine .bind ⟨rfl, fun _ => trivial⟩ fun delivered => ?_
  split
  · refine .bind ⟨trivial, fun _ => trivial⟩ fun registration => ?_
    split
    · exact closePoolSocket_issuedBy ..
    · exact closeSessionSocket_issuedBy ..
    · trivial
  · trivial

end Sockets

/-! ## Timers -/

section Timers

variable (settings : Settings) (instanceId : Nat)

theorem onDisconnectTimer_issuedBy (id : SessionId) (role : Role) :
    (onDisconnectTimer settings instanceId id role).Issues
      (Op.IssuedBy (.disconnectTimer instanceId id role)) := by
  refine .bind ⟨rfl, fun _ => trivial⟩ fun fired => ?_
  cases fired with
  | none => trivial
  | some task =>
      cases task with
      | viewerIdle =>
          refine .bind ⟨trivial, fun _ => trivial⟩ fun found => ?_
          cases found with
          | none => trivial
          | some current =>
              refine .bind ⟨trivial, fun _ => trivial⟩ fun now => ?_
              refine .bind ⟨trivial, fun _ => trivial⟩ fun idle => ?_
              split
              · exact terminateSession_issuedBy ..
              · trivial
      | workerDisconnect generation =>
          refine .bind ⟨trivial, fun _ => trivial⟩ fun found => ?_
          cases found with
          | none => trivial
          | some current =>
              dsimp only
              split
              · trivial
              split
              · trivial
              refine .bind ⟨trivial, fun _ => trivial⟩ fun socket => ?_
              cases socket with
              | some _ => trivial
              | none => exact terminateSession_issuedBy ..

variable {job : Job}

theorem tombstoneGcTimer_issuedBy : tombstoneGcTimer.Issues (Op.IssuedBy job) :=
  ⟨trivial, fun _ => ⟨trivial, fun _ => Issues.forEach fun _ _ => ⟨trivial, fun _ => trivial⟩⟩⟩

theorem expiryTimer_issuedBy : (expiryTimer settings instanceId).Issues (Op.IssuedBy job) := by
  refine .bind ⟨trivial, fun _ => trivial⟩ fun now => Issues.bind ?_ fun _ => ?_
  · exact Issues.bind ⟨trivial, fun _ => trivial⟩ fun expired => Issues.forEach fun session _ =>
      terminateSession_issuedBy settings instanceId session _
  unfold onlyIf
  split
  · refine .bind ⟨trivial, fun _ => trivial⟩ fun sessions => Issues.forEach fun session _ => ?_
    unfold onlyIf
    split
    · exact terminateSession_issuedBy ..
    · trivial
  · trivial

theorem reapIdleSession_issuedBy (now : Nat) (session : Session) :
    (reapIdleSession settings instanceId now session).Issues (Op.IssuedBy job) := by
  unfold reapIdleSession
  split
  · trivial
  refine .bind ⟨trivial, fun _ => trivial⟩ fun idle => ?_
  split
  · exact terminateSession_issuedBy ..
  · trivial

theorem reapIdleSessions_issuedBy :
    (reapIdleSessions settings instanceId).Issues (Op.IssuedBy job) :=
  ⟨trivial, fun now => ⟨trivial, fun _ => Issues.forEach fun session _ =>
    reapIdleSession_issuedBy settings instanceId now session⟩⟩

end Timers

/-- Every handler keeps to the table. -/
theorem Job.body_issues (settings : Settings) (job : Job) :
    (job.body settings).Issues (Op.IssuedBy job) := by
  cases job with
  | connect connection path cookies => exact ⟨rfl, fun _ => trivial⟩
  | message connection received => exact onMessage_issuedBy settings connection received
  | peerClosing connection => exact ⟨rfl, fun _ => trivial⟩
  | close connection => exact onClose_issuedBy settings connection
  | elapse ms => exact ⟨rfl, fun _ => trivial⟩
  | disconnectTimer instanceId id role => exact onDisconnectTimer_issuedBy ..
  | createSession instanceId body =>
      refine .bind (createRemoteSession_issuedBy settings instanceId ?_ body) fun _ => trivial
      trivial
  | internalEvent instanceId id event =>
      exact (applyInternalSessionEvent_issuedBy ..).bind fun _ => trivial
  | internalUpdate instanceId id update =>
      refine .bind (applyInternalSessionUpdate_issuedBy settings instanceId ?_ id update)
        fun _ => trivial
      trivial
  | deleteSession instanceId id token =>
      exact (deleteSession_issuedBy ..).bind fun _ => trivial
  | viewerEvents instanceId id token reason =>
      exact (postViewerEvents_issuedBy ..).bind fun _ => trivial
  | getSession instanceId id token => exact (getSession_issuedBy ..).bind fun _ => trivial
  | sendSignal instanceId id role payload => exact sendSignal_issuedBy ..
  | flushSignals instanceId id role => exact flushSignals_issuedBy ..
  | flushPoolAssignments instanceId workerId => exact flushPoolAssignments_issuedBy ..
  | assignSessionWorker instanceId session =>
      refine .bind (assignSessionWorker_issuedBy settings instanceId ?_ session)
        fun _ => trivial
      trivial
  | fallbackWarmPoolSession instanceId id workerId =>
      exact fallbackWarmPoolSession_issuedBy ..
  | terminateSession instanceId id reason => exact terminateSessionById_issuedBy ..
  | tombstoneGc instanceId => exact tombstoneGcTimer_issuedBy
  | expiry instanceId => exact expiryTimer_issuedBy settings instanceId
  | reapIdle instanceId => exact reapIdleSessions_issuedBy settings instanceId

/-- In every run, every handler keeps to the table. -/
theorem issuedBy_of_run {settings : Settings}
    {allowed : Config (controlPlane settings) → Action (controlPlane settings) → Prop}
    {start final : Config (controlPlane settings)} (run : Run allowed start final)
    (started : ∀ thread ∈ start.threads, thread.program.Issues (Op.IssuedBy thread.job)) :
    ∀ thread ∈ final.threads, thread.program.Issues (Op.IssuedBy thread.job) :=
  run.issues (fun _ job _ => Job.body_issues settings job) started

end RemoteBrowser
