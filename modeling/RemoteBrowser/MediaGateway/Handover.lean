import RemoteBrowser.MediaGateway.Stay

/-!
# What a registration is handed

A registration takes over the payloads that have waited for its role.  Nothing gives them back:
the connection writes them or they are lost, and a connection that could not tell the runtime
leaves its registration behind.
-/

namespace RemoteBrowser.MediaGateway

open Async Program

/-! ## The condition -/

section Runs

variable {codec : Codec} {sessionID : String}

/-- While the session lives, the runtime is told of every connection that is registered or was
handed something, and what was handed over is written. -/
def isFaultless (config : Async.Config (gatewayHub codec sessionID)) :
    Action (gatewayHub codec sessionID) → Bool
  | .start _ => true
  | .resume index choice =>
      config.state.isTerminated ||
      match config.awaits index, signalCourseAt config index with
      | some (.notify _), some ⟨role, .joined stay, _⟩ =>
          choice.succeeds ||
            (((config.state.side role).connection ≠ some stay.conn : Bool) &&
              stay.handed.isEmpty)
      | some (.writePending ws _), _ => choice.succeeds && !(config.state.sockets ws).closed
      | _, _ => true

/-! ## The invariant -/

/-- The connection has given up its registration or never got to serve. -/
def SignalStage.isGone : SignalStage → Bool
  | .left _ => true
  | .abandoned _ => true
  | _ => false

/-- What the connection was handed is written or still to be written, and nothing remains of it
once it is gone. -/
structure Settled (hub : Hub) (course : SignalCourse) (stay : Stay) : Prop where
  accounted : stay.handed = stay.written ++ stay.rest
  flushed : course.stage.isGone = true → stay.rest = []
  released : course.stage.isGone = true → (hub.side course.role).connection ≠ some stay.conn

/-- As long as the session lives, everything handed over is accounted for. -/
structure HandedOver (hub : Hub) (courses : Nat → Option SignalCourse) : Prop where
  distinct : Distinct hub courses
  settled : hub.isTerminated = false → ∀ index course stay, courses index = some course →
    course.stage.stay = some stay → Settled hub course stay

/-- What the condition says of an operation of a connection. -/
structure Careful (hub : Hub) (course : SignalCourse) (choice : HubChoice) (op : HubOp) : Prop where
  told : ∀ event stay, op = .notify event → course.stage = .joined stay →
    choice.succeeds = true ∨
      (hub.side course.role).connection ≠ some stay.conn ∧ stay.handed = []
  wrote : ∀ ws payload, op = .writePending ws payload →
    choice.succeeds = true ∧ (hub.sockets ws).closed = false

/-- A write to an open socket that does not fail says so. -/
theorem writePending_answer {hub : Hub} {choice : HubChoice} {ws : Nat} {payload : Payload}
    (succeeds : choice.succeeds = true) (opened : (hub.sockets ws).closed = false) :
    (hubExec choice (.writePending ws payload) hub).2 = true := by
  simp [hubExec, Hub.write, succeeds, opened]

theorem careful_of_isFaultless {config : Async.Config (gatewayHub codec sessionID)}
    {index : Nat} {choice : HubChoice} {op : HubOp} {course : SignalCourse}
    (faultless : isFaultless config (.resume index choice) = true)
    (live : config.state.isTerminated = false) (awaited : config.awaits index = some op)
    (located : signalCourseAt config index = some course) :
    Careful config.state course choice op := by
  simp only [isFaultless, live, awaited, located, Bool.false_or] at faultless
  refine ⟨?_, ?_⟩
  · rintro event stay rfl joined
    obtain ⟨role, stage, sent⟩ := course
    cases joined
    simpa using faultless
  · rintro ws payload rfl
    simpa using faultless

theorem Settled.keep {hub : Hub} {course : SignalCourse} {stay : Stay}
    (settled : Settled hub course stay) {choice : HubChoice} {op : HubOp}
    (foreign : op ≠ .registerSignalConnection course.role stay.conn) :
    Settled (hubExec choice op hub).1 course stay :=
  ⟨settled.accounted, settled.flushed, fun gone current =>
    (connection_of_exec current).elim (settled.released gone) fun now => foreign now.1⟩

/-- What a connection does with what it was handed. -/
theorem Settled.move {hub : Hub} {role : Role} {stage after : SignalStage} {choice : HubChoice}
    {op : HubOp} {sent added : List Payload}
    (move : Move role stage op (hubExec choice op hub).2 after added)
    (live : (hubExec choice op hub).1.isTerminated = false)
    (careful : Careful hub ⟨role, stage, sent⟩ choice op)
    (before : ∀ stay, stage.stay = some stay → Settled hub ⟨role, stage, sent⟩ stay)
    {stay : Stay} (staying : after.stay = some stay) :
    Settled (hubExec choice op hub).1 ⟨role, after, sent ++ added⟩ stay := by
  generalize replied : (hubExec choice op hub).2 = reply at move
  cases move with
  | idle _ quiet =>
      have foreign : op ≠ .registerSignalConnection role stay.conn := by
        rintro rfl
        cases quiet
      have kept := @Settled.keep _ _ _ (before stay staying) choice op foreign
      exact ⟨kept.accounted, kept.flushed, kept.released⟩
  | upgrade ws => cases staying
  | turnAway conn => cases staying
  | register conn registration =>
      cases staying
      exact ⟨rfl, nofun, nofun⟩
  | tell stay event =>
      cases staying
      exact ⟨(before stay rfl).accounted, nofun, nofun⟩
  | abandon joined event =>
      cases staying
      have failed : choice.succeeds = false := replied
      obtain ⟨released, empty⟩ := (careful.told event joined rfl rfl).resolve_left
        (by rw [failed]; decide)
      have accounted := (before joined rfl).accounted
      rw [empty] at accounted
      have written := (List.append_eq_nil_iff.mp accounted.symm).1
      refine ⟨by simp [empty, written], fun _ => rfl, fun _ current => ?_⟩
      exact (connection_of_exec current).elim released nofun
  | flush serving payload rest next =>
      cases staying
      exact ⟨by simp [(before serving rfl).accounted, next], nofun, nofun⟩
  | stop serving payload rest next =>
      obtain ⟨succeeds, opened⟩ := careful.wrote _ payload rfl
      rw [writePending_answer succeeds opened] at replied
      cases replied
  | look serving payload target flushed =>
      cases staying
      exact ⟨(before stay rfl).accounted, nofun, nofun⟩
  | deliver serving payload target =>
      cases staying
      exact ⟨(before stay rfl).accounted, nofun, nofun⟩
  | miss serving payload target =>
      cases staying
      exact ⟨(before stay rfl).accounted, nofun, nofun⟩
  | queue serving payload =>
      cases staying
      exact ⟨(before stay rfl).accounted, nofun, nofun⟩
  | leave serving reply flushed =>
      cases staying
      obtain ⟨connection, side, -, other⟩ :=
        @unregister_of_live _ role (isTerminated_of_exec live) choice stay.conn.id
      refine ⟨(before stay rfl).accounted, fun _ => flushed, fun _ current => ?_⟩
      rw [side] at current
      exact other stay.conn current rfl

theorem Move.ws_of_register {role own : Role} {stage after : SignalStage} {conn : Connection}
    {reply : Option Registration} {added : List Payload}
    (move : Move role stage (.registerSignalConnection own conn) reply after added) :
    stage.ws = some conn.ws := by
  cases move with
  | idle _ quiet => cases quiet
  | turnAway conn => rfl
  | register conn registration => rfl

theorem handed_watch :
    Watch (S := gatewayHub codec sessionID) signalMonitor HubJob.opening
      (fun config action => isFaultless config action = true) HubOp.Foreign HandedOver := by
  have sockets : Watch (S := gatewayHub codec sessionID) signalMonitor HubJob.opening
      (fun config action => isFaultless config action = true) HubOp.Foreign Distinct :=
    distinct_watch
  refine ⟨?_, ?_, ?_⟩
  · intro config index job handed vacant permitted enabled
    refine ⟨sockets.start config index job handed.distinct vacant permitted enabled, ?_⟩
    intro live other course stay located staying
    rw [Function.update_apply] at located
    split at located
    · cases job with
      | signal role budget =>
          cases located
          cases staying
      | media role budget | webrtc request | terminate body => cases located
    · exact handed.settled live other course stay located staying
  · intro config index choice op current handed located allowed awaited permitted
    refine ⟨sockets.resume config index choice op current handed.distinct located allowed
      awaited permitted, ?_⟩
    intro live other course stay locatedOther staying
    have before : config.state.isTerminated = false := isTerminated_of_exec live
    obtain ⟨stage, added, moved, move⟩ := current.move allowed (hubExec choice op config.state).2
    rw [Function.update_apply] at locatedOther
    split at locatedOther
    · cases locatedOther.symm.trans (congrArg some moved)
      exact Settled.move move live (careful_of_isFaultless permitted before awaited located)
        (fun earlier => handed.settled before index current earlier located) staying
    · next elsewhere =>
        refine (handed.settled before other course stay locatedOther staying).keep ?_
        rintro rfl
        exact elsewhere (handed.distinct.apart other index course current stay.conn.ws
          locatedOther located (SignalStage.ws_of_stay staying) move.ws_of_register)
  · intro hub courses choice op handed foreign
    refine ⟨sockets.other hub courses choice op handed.distinct foreign, ?_⟩
    intro live index course stay located staying
    refine (handed.settled (isTerminated_of_exec live) index course stay located staying).keep ?_
    rintro rfl
    exact foreign rfl

/-! ## The completed awaits of a connection -/

/-- What a handler has written to a socket of what it was handed, in order. -/
def writtenTo (ws : Nat) : List (Event hubFace) → List Payload
  | [] => []
  | ⟨.writePending target payload, true⟩ :: past =>
      if target = ws then writtenTo ws past ++ [payload] else writtenTo ws past
  | _ :: past => writtenTo ws past

theorem writtenTo_of_quiet {op : HubOp} (quiet : op.isQuiet = true) (reply : op.Reply) (ws : Nat)
    (past : List (Event hubFace)) : writtenTo ws (⟨op, reply⟩ :: past) = writtenTo ws past := by
  cases op <;> cases quiet <;> rfl

theorem ne_of_quiet {op : HubOp} (quiet : op.isQuiet = true) (reply : op.Reply) (role : Role)
    (conn : Connection) (registration : Registration) :
    (⟨.registerSignalConnection role conn, some registration⟩ : Event hubFace) ≠ ⟨op, reply⟩ := by
  rintro ⟨⟩
  cases quiet

/-- The registration of a stage: its connection, what it was handed and what was written. -/
def SignalStage.entry (stage : SignalStage) : Option (Connection × List Payload × List Payload) :=
  stage.stay.map fun stay => (stay.conn, stay.handed, stay.written)

/-- The course of a connection tells of its completed awaits. -/
structure Recorded (course : SignalCourse) (past : List (Event hubFace)) : Prop where
  nothing : course.stage.entry = none → ∀ ws, writtenTo ws past = []
  written : ∀ conn handed written, course.stage.entry = some (conn, handed, written) →
    writtenTo conn.ws past = written
  registered : ∀ role conn registration,
    ⟨.registerSignalConnection role conn, some registration⟩ ∈ past →
    role = course.role ∧ ∃ written,
      course.stage.entry = some (conn, registration.pending, written)

theorem Recorded.move {role : Role} {stage after : SignalStage} {op : HubOp} {reply : op.Reply}
    {sent added : List Payload} {past : List (Event hubFace)}
    (move : Move role stage op reply after added) (recorded : Recorded ⟨role, stage, sent⟩ past) :
    Recorded ⟨role, after, sent ++ added⟩ (⟨op, reply⟩ :: past) := by
  obtain ⟨nothing, written, registered⟩ := recorded
  have keeps (silent : ∀ ws, writtenTo ws (⟨op, reply⟩ :: past) = writtenTo ws past)
      (other : ∀ own conn registration,
        (⟨.registerSignalConnection own conn, some registration⟩ : Event hubFace) ≠ ⟨op, reply⟩)
      (same : after.entry = stage.entry) :
      Recorded ⟨role, after, sent ++ added⟩ (⟨op, reply⟩ :: past) := by
    refine ⟨?_, ?_, ?_⟩
    · intro vacant ws
      exact (silent ws).trans (nothing (same.symm.trans vacant) ws)
    · intro conn handed payloads entered
      exact (silent conn.ws).trans (written conn handed payloads (same.symm.trans entered))
    · intro own conn registration passed
      obtain ⟨rfl, payloads, entered⟩ := registered own conn registration
        ((List.mem_cons.mp passed).resolve_left (other own conn registration))
      exact ⟨rfl, payloads, same.trans entered⟩
  cases move with
  | idle _ quiet =>
      exact keeps (fun ws => writtenTo_of_quiet quiet reply ws past) (ne_of_quiet quiet reply) rfl
  | register conn registration =>
      refine ⟨nofun, ?_, ?_⟩
      · intro own handed payloads entered
        cases entered
        exact nothing rfl _
      · intro own other given passed
        rcases List.mem_cons.mp passed with now | earlier
        · cases now
          exact ⟨rfl, [], rfl⟩
        · obtain ⟨-, _, impossible⟩ := registered own other given earlier
          cases impossible
  | flush stay payload rest next =>
      refine ⟨nofun, ?_, ?_⟩
      · intro conn handed payloads entered
        cases entered
        simp only [writtenTo, if_true, written stay.conn stay.handed stay.written rfl]
      · intro own conn registration passed
        obtain ⟨rfl, payloads, entered⟩ := registered own conn registration
          ((List.mem_cons.mp passed).resolve_left nofun)
        obtain ⟨same, handed, -⟩ : stay.conn = conn ∧ stay.handed = registration.pending ∧
            stay.written = payloads := by simpa [SignalStage.entry, SignalStage.stay] using entered
        refine ⟨rfl, stay.written ++ [payload], ?_⟩
        rw [← same, ← handed]
        rfl
  | _ => exact keeps (fun ws => rfl) nofun rfl

theorem recorded_of_run {allowed : Async.Config (gatewayHub codec sessionID) →
      Action (gatewayHub codec sessionID) → Prop} {start : Hub}
    {final : Async.Config (gatewayHub codec sessionID)} (run : Run allowed ⟨start, []⟩ final) :
    ∀ thread ∈ final.threads, ∀ course,
      thread.watched signalMonitor HubJob.opening = some course → Recorded course thread.past := by
  refine run.recorded (runSignalConnection_follows codec sessionID) ?_ ?_
  · intro job course opened
    cases job with
    | signal role budget =>
        cases opened
        exact ⟨fun _ _ => rfl, nofun, fun _ _ _ passed => absurd passed List.not_mem_nil⟩
    | media role budget | webrtc request | terminate body => cases opened
  · intro course op reply after past recorded allowed moved
    obtain ⟨stage, added, same, move⟩ := SignalCourse.move allowed reply
    cases (Option.some.inj moved).symm.trans same
    exact recorded.move move

/-! ## Returning -/

/-- Of each registration of a connection nothing remains: it is not the current one, and each
payload was written or is pending. -/
def GivesBack (hub : Hub) (past : List (Event hubFace)) : Prop :=
  ∀ role conn registration, ⟨.registerSignalConnection role conn, some registration⟩ ∈ past →
    (hub.side role).connection ≠ some conn ∧ ∀ payload, registration.pending.count payload ≤
      (writtenTo conn.ws past).count payload + (hub.side role).pending.count payload

/-- With the action a signaling connection has returned. -/
def Returns (before : Async.Config (gatewayHub codec sessionID))
    (action : Action (gatewayHub codec sessionID))
    (after : Async.Config (gatewayHub codec sessionID))
    (thread : Thread (gatewayHub codec sessionID)) : Prop :=
  before.step action = some after ∧ ∃ index choice, action = .resume index choice ∧
    after.threads[index]? = some thread ∧ thread.program.Finished ∧
    ∃ role budget, thread.job = .signal role budget

theorem isGone_of_isOver {stage : SignalStage} {stay : Stay} (returned : stage.isOver = true)
    (staying : stage.stay = some stay) : stage.isGone = true := by
  cases stage with
  | left stay | abandoned stay => rfl
  | outside | connecting ws => cases staying
  | joined stay | serving stay | forwarding stay payload target => cases returned

/-- A connection that has returned while everything handed over was accounted for. -/
theorem gives_back_of_finished {final : Async.Config (gatewayHub codec sessionID)}
    (handed : HandedOver final.state (signalCourseAt final))
    (live : final.state.isTerminated = false) {index : Nat}
    {thread : Thread (gatewayHub codec sessionID)} (found : final.threads[index]? = some thread)
    {course : SignalCourse} (known : thread.watched signalMonitor HubJob.opening = some course)
    (ended : course.IsOver) (recorded : Recorded course thread.past) :
    GivesBack final.state thread.past := by
  intro role conn registration passed
  obtain ⟨rfl, written, entered⟩ := recorded.registered role conn registration passed
  obtain ⟨stay, staying, same⟩ := Option.map_eq_some_iff.mp entered
  obtain ⟨rfl, handedOver, rfl⟩ : stay.conn = conn ∧ stay.handed = registration.pending ∧
      stay.written = written := by simpa using same
  have located : signalCourseAt final index = some course :=
    (Config.watched_of_getElem? found).trans known
  have settled := handed.settled live index course stay located staying
  have gone := isGone_of_isOver ended staying
  refine ⟨settled.released gone, fun payload => ?_⟩
  have written : writtenTo stay.conn.ws thread.past = registration.pending := by
    rw [recorded.written _ _ _ entered, ← handedOver, settled.accounted, settled.flushed gone,
      List.append_nil]
  rw [written]
  exact Nat.le_add_right _ _

end Runs

/-- In every run in which the runtime is told of each connection and each payload that was handed
over is written, a connection that returns has lost nothing. -/
theorem returning_connection_gives_back (codec : Codec) (sessionID : String)
    (session stored : Option SessionRecord)
    (before after : Async.Config (gatewayHub codec sessionID))
    (run : Run (fun config action => isFaultless config action = true)
      ⟨Hub.opening session stored, []⟩ before)
    (action : Action (gatewayHub codec sessionID)) (faultless : isFaultless before action = true)
    (thread : Thread (gatewayHub codec sessionID)) (returns : Returns before action after thread)
    (live : after.state.isTerminated = false) : GivesBack after.state thread.past := by
  obtain ⟨stepped, index, choice, -, found, finished, role, budget, served⟩ := returns
  have reached := run.tail faultless stepped
  have empty : HandedOver (Hub.opening session stored) fun _ => none :=
    ⟨⟨nofun, nofun⟩, nofun⟩
  have handed := signal_watch_run handed_watch reached empty
  have member := List.mem_of_getElem? found
  obtain ⟨course, known⟩ : ∃ course, thread.watched signalMonitor HubJob.opening = some course :=
    Option.isSome_iff_exists.mp
      (Monitor.isSome_after (fun _ _ _ => rfl) (by rw [served]; rfl) thread.past)
  exact gives_back_of_finished handed live found known
    ((signal_obeys reached thread member).post_of_finished known finished)
    (recorded_of_run reached thread member course known)

/-! ## Sample runs -/

/-- The handler has registered a connection of which the test holds. -/
def hasRegistered (test : Role → Connection → Registration → Bool)
    (past : List (Event hubFace)) : Bool :=
  past.any fun
    | ⟨.registerSignalConnection role conn, some registration⟩ => test role conn registration
    | _ => false

theorem exists_of_hasRegistered {test : Role → Connection → Registration → Bool}
    {past : List (Event hubFace)} (registered : hasRegistered test past = true) :
    ∃ role conn registration,
      ⟨.registerSignalConnection role conn, some registration⟩ ∈ past ∧
        test role conn registration = true := by
  obtain ⟨event, listed, passes⟩ := List.any_eq_true.mp registered
  split at passes
  · next role conn registration => exact ⟨role, conn, registration, listed, passes⟩
  · cases passes

def HubJob.isSignal : HubJob → Bool
  | .signal _ _ => true
  | _ => false

/-- The next action of a handler is the last one of a signaling connection. -/
def isReturning (index : Nat) (test : Hub → List (Event hubFace) → Bool)
    (before : Async.Config sampleHub) : Bool :=
  (before.step (.resume index ({} : HubChoice))).any fun after =>
    after.threads[index]?.any fun thread =>
      decide thread.program.Finished && HubJob.isSignal thread.job &&
        !after.state.isTerminated && test after.state thread.past

theorem returns_of_isReturning {index : Nat} {test : Hub → List (Event hubFace) → Bool}
    {before : Async.Config sampleHub} (returning : isReturning index test before = true) :
    ∃ (after : Async.Config sampleHub) (thread : Thread sampleHub),
      Returns before (.resume index ({} : HubChoice)) after thread ∧
      after.state.isTerminated = false ∧ test after.state thread.past = true := by
  obtain ⟨after, stepped, rest⟩ := (Option.any_eq_true ..).mp returning
  obtain ⟨thread, found, rest⟩ := (Option.any_eq_true ..).mp rest
  simp only [Bool.and_eq_true, decide_eq_true_eq, Bool.not_eq_true'] at rest
  obtain ⟨⟨⟨finished, served⟩, live⟩, passes⟩ := rest
  obtain ⟨job, past, program⟩ := thread
  refine ⟨after, ⟨job, past, program⟩, ⟨stepped, index, _, rfl, found, finished, ?_⟩, live, passes⟩
  cases job with
  | signal role budget => exact ⟨role, budget, rfl⟩
  | media role budget | webrtc request | terminate body => cases served

/-- A worker finds no viewer; then the viewer comes, gets what has waited for it and leaves. -/
def flushedHandover : List (Action sampleHub) :=
  comes (.signal .worker 2) :: advances 0 1 ++ reads 0 [2] :: advances 0 5 ++
    reads 0 [7] :: advances 0 2 ++
    comes (.signal .viewer 1) :: advances 1 1 ++ reads 1 [1] :: advances 1 9

theorem flushed_viewer_gives_back :
    ∃ (before after : Async.Config sampleHub) (action : Action sampleHub)
      (thread : Thread sampleHub),
      Run (fun config action => isFaultless config action = true) ⟨sampleOpening, []⟩ before ∧
      isFaultless before action = true ∧ Returns before action after thread ∧
      (∃ role conn registration,
        ⟨.registerSignalConnection role conn, some registration⟩ ∈ thread.past ∧
          registration.pending = [[7]]) ∧
      GivesBack after.state thread.past := by
  obtain ⟨before, run, seen⟩ := Run.exists_of_schedule
    (fun config action (faultless : isFaultless config action = true) => faultless)
    (⟨sampleOpening, []⟩ : Async.Config sampleHub) flushedHandover
    (fun before => isFaultless before (.resume 1 ({} : HubChoice)) &&
      isReturning 1 (fun _ => hasRegistered fun _ _ registration => registration.pending = [[7]])
        before) (by decide +kernel)
  obtain ⟨faultless, returning⟩ := Bool.and_eq_true_iff.mp seen
  obtain ⟨after, thread, returns, live, registered⟩ := returns_of_isReturning returning
  obtain ⟨role, conn, registration, passed, handed⟩ := exists_of_hasRegistered registered
  exact ⟨before, after, _, thread, run, faultless, returns,
    ⟨role, conn, registration, passed, of_decide_eq_true handed⟩,
    returning_connection_gives_back sampleCodec "rbi-1" (some sampleRecord) none before after run _
      faultless thread returns live⟩

/-- The runtime cannot be told of a viewer. -/
def untoldViewer : List (Action sampleHub) :=
  comes (.signal .viewer 1) :: advances 0 1 ++ reads 0 [1] :: advances 0 3 ++ fails 0 ::
    advances 0 2

theorem untold_viewer_stays_registered :
    ¬∀ (before after : Async.Config sampleHub) (action : Action sampleHub)
      (thread : Thread sampleHub), Run anyAction ⟨sampleOpening, []⟩ before →
      Returns before action after thread → after.state.isTerminated = false →
      GivesBack after.state thread.past := by
  intro always
  obtain ⟨before, run, returning⟩ := Run.exists_of_actions
    (⟨sampleOpening, []⟩ : Async.Config sampleHub) untoldViewer
    (isReturning 0 fun hub => hasRegistered fun role conn _ =>
      (hub.side role).connection = some conn) (by decide +kernel)
  obtain ⟨after, thread, returns, live, registered⟩ := returns_of_isReturning returning
  obtain ⟨role, conn, registration, passed, current⟩ := exists_of_hasRegistered registered
  exact (always before after _ thread run returns live role conn registration passed).1
    (of_decide_eq_true current)

end RemoteBrowser.MediaGateway
