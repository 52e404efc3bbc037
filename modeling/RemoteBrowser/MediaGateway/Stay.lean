import RemoteBrowser.MediaGateway.Sections
import RemoteBrowser.Async.Monitor

/-!
# The stay of a signaling connection

A signaling connection registers, is handed what has waited for its role, tells the runtime,
writes what it was handed, relays what it reads and unregisters.  The monitor below follows it
through these stages.
-/

namespace RemoteBrowser.MediaGateway

open Async Program

/-! ## Stages -/

/-- A registration: what it was handed, and of that what was written and what is still to be
written. -/
structure Stay where
  conn : Connection
  handed : List Payload
  written : List Payload
  rest : List Payload
  deriving DecidableEq

inductive SignalStage where
  | outside
  | connecting (ws : Nat)
  /-- registered, before the runtime is told -/
  | joined (stay : Stay)
  | serving (stay : Stay)
  /-- a payload is on its way to the connection that was found, if any -/
  | forwarding (stay : Stay) (payload : Payload) (target : Option Connection)
  /-- after the registration was given up -/
  | left (stay : Stay)
  /-- the runtime could not be told -/
  | abandoned (stay : Stay)
  deriving DecidableEq

namespace SignalStage

def stay : SignalStage → Option Stay
  | .joined stay => some stay
  | .serving stay => some stay
  | .forwarding stay _ _ => some stay
  | .left stay => some stay
  | .abandoned stay => some stay
  | _ => none

/-- The socket of the connection. -/
def ws : SignalStage → Option Nat
  | .outside => none
  | .connecting ws => some ws
  | .joined stay => some stay.conn.ws
  | .serving stay => some stay.conn.ws
  | .forwarding stay _ _ => some stay.conn.ws
  | .left stay => some stay.conn.ws
  | .abandoned stay => some stay.conn.ws

/-- The connection may return. -/
def isOver : SignalStage → Bool
  | .connecting _ => true
  | .left _ => true
  | .abandoned _ => true
  | _ => false

/-- What the connection does by the way leaves it in its stage. -/
def isSteady : SignalStage → Bool
  | .outside => false
  | .joined _ => false
  | _ => true

theorem ws_of_stay {stage : SignalStage} {stay : Stay} (staying : stage.stay = some stay) :
    stage.ws = some stay.conn.ws := by
  cases stage <;> cases staying <;> rfl

end SignalStage

/-- A connection of a role, how far it has come and what it has forwarded. -/
structure SignalCourse where
  role : Role
  stage : SignalStage
  sent : List Payload

/-- What connections do by the way. -/
def HubOp.isQuiet : HubOp → Bool
  | .readText _ => true
  | .writeNotice _ _ => true
  | .close _ _ _ => true
  | .getSession => true
  | .getStoredSession => true
  | .newConnectionID => true
  | .notify _ => true
  | .noteSignal => true
  | _ => false

def HubOp.Quiet (op : HubOp) : Prop := op.isQuiet = true

namespace SignalCourse

def Allows (course : SignalCourse) (op : HubOp) : Prop :=
  match course.stage, op with
  | .outside, op => op = .upgrade
  | .connecting ws, .registerSignalConnection role conn => role = course.role ∧ conn.ws = ws
  | .joined _, .notify _ => True
  | .joined _, .close _ _ _ => True
  | .joined _, _ => False
  | .serving stay, .writePending ws payload =>
      ws = stay.conn.ws ∧ stay.rest.head? = some payload
  | .serving stay, .signalTarget role _ => role = oppositeRole course.role ∧ stay.rest = []
  | .serving stay, .unregisterSignalConnection role id =>
      role = course.role ∧ id = stay.conn.id ∧ stay.rest = []
  | .forwarding _ payload (some target), .writeDirect ws written =>
      ws = target.ws ∧ written = payload
  | .forwarding _ payload none, .enqueueSignal role queued =>
      role = oppositeRole course.role ∧ queued = payload
  | _, op => op.isQuiet = true

def next (course : SignalCourse) : (op : HubOp) → op.Reply → SignalCourse
  | .upgrade, ws =>
      match course.stage with
      | .outside => { course with stage := .connecting ws }
      | _ => course
  | .registerSignalConnection _ conn, reply =>
      match course.stage, reply with
      | .connecting _, some registration =>
          { course with
            stage := .joined ⟨conn, registration.pending, [], registration.pending⟩ }
      | _, _ => course
  | .notify _, told =>
      match course.stage, told with
      | .joined stay, true => { course with stage := .serving stay }
      | .joined stay, false => { course with stage := .abandoned { stay with rest := [] } }
      | _, _ => course
  | .writePending _ payload, succeeded =>
      match course.stage, succeeded with
      | .serving stay, true =>
          { course with
            stage := .serving
              { stay with written := stay.written ++ [payload], rest := stay.rest.tail } }
      | .serving stay, false => { course with stage := .serving { stay with rest := [] } }
      | _, _ => course
  | .signalTarget _ payload, target =>
      match course.stage with
      | .serving stay =>
          { course with stage := .forwarding stay payload target, sent := course.sent ++ [payload] }
      | _ => course
  | .writeDirect _ _, succeeded =>
      match course.stage, succeeded with
      | .forwarding stay _ _, true => { course with stage := .serving stay }
      | .forwarding stay payload _, false => { course with stage := .forwarding stay payload none }
      | _, _ => course
  | .enqueueSignal _ _, _ =>
      match course.stage with
      | .forwarding stay _ _ => { course with stage := .serving stay }
      | _ => course
  | .unregisterSignalConnection _ _, _ =>
      match course.stage with
      | .serving stay => { course with stage := .left stay }
      | _ => course
  | _, _ => course

end SignalCourse

def signalMonitor : Monitor hubFace SignalCourse where
  allows := SignalCourse.Allows
  next := fun course op reply => some (course.next op reply)

def HubJob.opening : HubJob → Option SignalCourse
  | .signal role _ => some ⟨role, .outside, []⟩
  | _ => none

/-! ## What connections do by the way -/

/-- In a steady stage what is done by the way is allowed and changes nothing. -/
theorem quiet_of_steady {course : SignalCourse} (steady : course.stage.isSteady = true)
    {op : HubOp} (quiet : op.isQuiet = true) :
    course.Allows op ∧ ∀ reply, course.next op reply = course := by
  obtain ⟨role, stage, sent⟩ := course
  cases stage with
  | outside => cases steady
  | joined stay => cases steady
  | forwarding stay payload target =>
      cases target <;> cases op <;> cases quiet <;> exact ⟨rfl, fun _ => rfl⟩
  | _ => cases op <;> cases quiet <;> exact ⟨rfl, fun _ => rfl⟩

theorem quiet_follows {α : Type} {program : HubHandler α}
    (issues : program.Issues HubOp.Quiet) {course : SignalCourse}
    (steady : course.stage.isSteady = true) :
    program.Follows signalMonitor (fun _ after => after = course) course := by
  refine issues.follows_unchanged course fun op quiet => ?_
  obtain ⟨allowed, unchanged⟩ := quiet_of_steady steady quiet
  refine ⟨allowed, fun reply after moved => ?_⟩
  cases moved
  exact unchanged reply

theorem refuse_quiet (ws : Nat) (message : String) (code : Nat) (reason : String) :
    (refuse ws message code reason).Issues HubOp.Quiet :=
  ⟨rfl, fun _ => ⟨rfl, fun _ => trivial⟩⟩

theorem closeNow_quiet (ws : Nat) : (closeNow ws).Issues HubOp.Quiet :=
  ⟨rfl, fun _ => trivial⟩

theorem notifyRuntimeEvent_quiet (role : Role) (generation : Int) (action state : String) :
    (notifyRuntimeEvent role generation action state).Issues HubOp.Quiet :=
  ⟨rfl, fun _ => trivial⟩

theorem findSession_quiet : findSession.Issues HubOp.Quiet := by
  refine ⟨rfl, ?_⟩
  rintro (- | record)
  · exact ⟨rfl, fun _ => trivial⟩
  · trivial

/-! ## Inversion -/

/-- Everything that a connection of a role can do, with the payloads that it begins to
forward. -/
inductive Move (role : Role) :
    SignalStage → (op : HubOp) → op.Reply → SignalStage → List Payload → Prop where
  | idle {stage : SignalStage} {op : HubOp} (reply : op.Reply) (quiet : op.isQuiet = true) :
      Move role stage op reply stage []
  | upgrade (ws : Nat) : Move role .outside .upgrade ws (.connecting ws) []
  | turnAway (conn : Connection) :
      Move role (.connecting conn.ws) (.registerSignalConnection role conn) none
        (.connecting conn.ws) []
  | register (conn : Connection) (registration : Registration) :
      Move role (.connecting conn.ws) (.registerSignalConnection role conn) (some registration)
        (.joined ⟨conn, registration.pending, [], registration.pending⟩) []
  | tell (stay : Stay) (event : RuntimeEvent) :
      Move role (.joined stay) (.notify event) true (.serving stay) []
  | abandon (stay : Stay) (event : RuntimeEvent) :
      Move role (.joined stay) (.notify event) false (.abandoned { stay with rest := [] }) []
  | flush (stay : Stay) (payload : Payload) (rest : List Payload)
      (next : stay.rest = payload :: rest) :
      Move role (.serving stay) (.writePending stay.conn.ws payload) true
        (.serving { stay with written := stay.written ++ [payload], rest := rest }) []
  | stop (stay : Stay) (payload : Payload) (rest : List Payload)
      (next : stay.rest = payload :: rest) :
      Move role (.serving stay) (.writePending stay.conn.ws payload) false
        (.serving { stay with rest := [] }) []
  | look (stay : Stay) (payload : Payload) (target : Option Connection)
      (flushed : stay.rest = []) :
      Move role (.serving stay) (.signalTarget (oppositeRole role) payload) target
        (.forwarding stay payload target) [payload]
  | deliver (stay : Stay) (payload : Payload) (target : Connection) :
      Move role (.forwarding stay payload (some target)) (.writeDirect target.ws payload) true
        (.serving stay) []
  | miss (stay : Stay) (payload : Payload) (target : Connection) :
      Move role (.forwarding stay payload (some target)) (.writeDirect target.ws payload) false
        (.forwarding stay payload none) []
  | queue (stay : Stay) (payload : Payload) :
      Move role (.forwarding stay payload none) (.enqueueSignal (oppositeRole role) payload) ()
        (.serving stay) []
  | leave (stay : Stay) (reply : Bool × Bool) (flushed : stay.rest = []) :
      Move role (.serving stay) (.unregisterSignalConnection role stay.conn.id) reply
        (.left stay) []

theorem SignalCourse.move {course : SignalCourse} {op : HubOp} (allowed : course.Allows op)
    (reply : op.Reply) :
    ∃ stage added, course.next op reply = ⟨course.role, stage, course.sent ++ added⟩ ∧
      Move course.role course.stage op reply stage added := by
  obtain ⟨role, stage, sent⟩ := course
  have idle (steady : stage.isSteady = true) (quiet : op.isQuiet = true) :
      ∃ after added, SignalCourse.next ⟨role, stage, sent⟩ op reply = ⟨role, after, sent ++ added⟩ ∧
        Move role stage op reply after added := by
    refine ⟨stage, [], ?_, .idle reply quiet⟩
    rw [(@quiet_of_steady ⟨role, stage, sent⟩ steady op quiet).2 reply, List.append_nil]
  cases stage with
  | outside =>
      cases (show op = .upgrade from allowed)
      exact ⟨_, [], by simp [SignalCourse.next], .upgrade reply⟩
  | connecting ws =>
      cases op with
      | registerSignalConnection own conn =>
          obtain ⟨rfl, rfl⟩ := allowed
          cases reply with
          | none => exact ⟨_, [], by simp [SignalCourse.next], .turnAway conn⟩
          | some registration =>
              exact ⟨_, [], by simp [SignalCourse.next], .register conn registration⟩
      | _ => exact idle rfl allowed
  | joined stay =>
      cases op with
      | notify event =>
          cases reply with
          | true => exact ⟨_, [], by simp [SignalCourse.next], .tell stay event⟩
          | false => exact ⟨_, [], by simp [SignalCourse.next], .abandon stay event⟩
      | close ws code reason => exact ⟨_, [], by simp [SignalCourse.next], .idle reply rfl⟩
      | _ => exact allowed.elim
  | serving stay =>
      cases op with
      | writePending ws payload =>
          obtain ⟨rfl, next⟩ := allowed
          obtain ⟨rest, next⟩ := List.head?_eq_some_iff.mp next
          cases reply with
          | true => exact ⟨_, [], by simp [SignalCourse.next, next], .flush stay payload rest next⟩
          | false => exact ⟨_, [], by simp [SignalCourse.next], .stop stay payload rest next⟩
      | signalTarget other payload =>
          obtain ⟨rfl, flushed⟩ := allowed
          exact ⟨_, [payload], rfl, .look stay payload reply flushed⟩
      | unregisterSignalConnection own id =>
          obtain ⟨rfl, rfl, flushed⟩ := allowed
          exact ⟨_, [], by simp [SignalCourse.next], .leave stay reply flushed⟩
      | _ => exact idle rfl allowed
  | forwarding stay payload target =>
      cases target with
      | none =>
          cases op with
          | enqueueSignal other queued =>
              obtain ⟨rfl, rfl⟩ := allowed
              exact ⟨_, [], by simp [SignalCourse.next], .queue stay queued⟩
          | _ => exact idle rfl allowed
      | some target =>
          cases op with
          | writeDirect ws written =>
              obtain ⟨rfl, rfl⟩ := allowed
              cases reply with
              | true => exact ⟨_, [], by simp [SignalCourse.next], .deliver stay written target⟩
              | false => exact ⟨_, [], by simp [SignalCourse.next], .miss stay written target⟩
          | _ => exact idle rfl allowed
  | left stay => cases op <;> exact idle rfl allowed
  | abandoned stay => cases op <;> exact idle rfl allowed

/-! ## The stages of the handler -/

section Handlers

variable {role : Role} {stay : Stay} {sent : List Payload}

/-- The connection serves on, with more forwarded. -/
def Serves (role : Role) (stay : Stay) (course : SignalCourse) : Prop :=
  ∃ sent, course = ⟨role, .serving stay, sent⟩

theorem forwardSignal_follows (payload : Payload) (flushed : stay.rest = []) :
    (forwardSignal (oppositeRole role) payload).Follows signalMonitor
      (fun _ => Serves role stay) ⟨role, .serving stay, sent⟩ := by
  refine ⟨⟨rfl, flushed⟩, ?_⟩
  have enqueues : (HubOp.await (.enqueueSignal (oppositeRole role) payload)).Follows signalMonitor
      (fun _ => Serves role stay) ⟨role, .forwarding stay payload none, sent ++ [payload]⟩ := by
    refine ⟨⟨rfl, rfl⟩, fun reply after moved => ?_⟩
    cases moved
    exact ⟨_, rfl⟩
  rintro (- | target) course moved <;> cases moved
  · exact enqueues
  · refine ⟨⟨rfl, rfl⟩, ?_⟩
    rintro (- | -) course moved <;> cases moved
    · refine ⟨rfl, fun reply course moved => ?_⟩
      cases moved
      exact enqueues
    · refine ⟨rfl, fun reply course moved => ?_⟩
      cases moved
      exact ⟨_, rfl⟩

theorem relaySignal_follows (sessionID : String) (generation : Int) (ws : Nat)
    (envelope : Envelope) (payload : Payload) (flushed : stay.rest = []) :
    (relaySignal sessionID role generation ws envelope payload).Follows signalMonitor
      (fun _ => Serves role stay) ⟨role, .serving stay, sent⟩ := by
  have serves : Serves role stay ⟨role, .serving stay, sent⟩ := ⟨sent, rfl⟩
  have quietly {α : Type} {program : HubHandler α} (quiet : program.Issues HubOp.Quiet) :
      program.Follows signalMonitor (fun _ after => after = ⟨role, .serving stay, sent⟩)
        ⟨role, .serving stay, sent⟩ := quiet_follows quiet rfl
  have notes : (HubOp.await .noteSignal).Issues HubOp.Quiet := ⟨rfl, fun _ => trivial⟩
  have writes (notice : Notice) : (HubOp.await (.writeNotice ws notice)).Issues HubOp.Quiet :=
    ⟨rfl, fun _ => trivial⟩
  have acknowledges (notice : Notice) :
      (HubOp.await (.writeNotice ws notice)).Follows signalMonitor (fun _ => Serves role stay)
        ⟨role, .serving stay, sent⟩ :=
    (quietly (writes notice)).mono fun _ _ same => same ▸ serves
  have seen (action state : String) {rest : HubHandler Unit}
      (continues : rest.Follows signalMonitor (fun _ => Serves role stay)
        ⟨role, .serving stay, sent⟩) :
      (do
        HubOp.await .noteSignal
        let _ ← notifyRuntimeEvent role generation action state
        rest).Follows signalMonitor (fun _ => Serves role stay)
          ⟨role, .serving stay, sent⟩ := by
    refine (quietly notes).bind fun _ course same => ?_
    subst same
    refine (quietly (notifyRuntimeEvent_quiet _ _ _ _)).bind fun _ course same => ?_
    subst same
    exact continues
  unfold relaySignal
  split
  · split
    · exact seen "seen" "" (acknowledges _)
    · exact acknowledges _
  · exact seen "state" _ (forwardSignal_follows payload flushed)
  · exact forwardSignal_follows payload flushed
  · exact seen "seen" "" (forwardSignal_follows payload flushed)

theorem relaySignals_follows (codec : Codec) (sessionID : String) (generation : Int)
    (mode : String) (ws budget : Nat) (flushed : stay.rest = []) :
    (relaySignals codec sessionID role generation mode ws budget).Follows signalMonitor
      (fun _ => Serves role stay) ⟨role, .serving stay, sent⟩ := by
  induction budget generalizing sent with
  | zero => trivial
  | succ budget ih =>
      refine ⟨rfl, ?_⟩
      rintro (- | payload) course moved <;> cases moved
      · exact ⟨sent, rfl⟩
      · change Follows _ _ (if _ then _ else _) _
        split
        · exact (quiet_follows (refuse_quiet _ _ _ _) rfl).mono fun _ _ same =>
            same ▸ ⟨sent, rfl⟩
        · cases codec.envelope payload with
          | none =>
              refine ⟨rfl, fun reply course moved => ?_⟩
              cases moved
              exact ih
          | some envelope =>
              change Follows _ _ (if _ then _ else _) _
              split
              · refine ⟨rfl, fun reply course moved => ?_⟩
                cases moved
                exact ih
              · refine (relaySignal_follows sessionID generation ws envelope payload
                  flushed).bind ?_
                rintro - course ⟨further, rfl⟩
                exact ih

theorem flushToSocket_follows (payloads : List Payload) (stay : Stay)
    (left : stay.rest = payloads) :
    (flushToSocket stay.conn.ws payloads).Follows signalMonitor
      (fun _ after => ∃ flushed : Stay, flushed.conn = stay.conn ∧ flushed.rest = [] ∧
        after = ⟨role, .serving flushed, sent⟩) ⟨role, .serving stay, sent⟩ := by
  induction payloads generalizing stay with
  | nil => exact ⟨stay, rfl, left, rfl⟩
  | cons payload rest ih =>
      refine ⟨⟨rfl, by rw [left]; rfl⟩, ?_⟩
      rintro (- | -) course moved <;> cases moved
      · exact ⟨{ stay with rest := [] }, rfl, rfl, rfl⟩
      · exact ih { stay with written := stay.written ++ [payload], rest := stay.rest.tail }
          (by simp [left])

/-- The connection may return. -/
def SignalCourse.IsOver (course : SignalCourse) : Prop := course.stage.isOver = true

theorem serveSignals_follows (codec : Codec) (sessionID : String) (record : SessionRecord)
    (budget : Nat) (registration : Registration) (stay : Stay)
    (left : stay.rest = registration.pending) :
    (serveSignals codec sessionID role record budget stay.conn registration).Follows
      signalMonitor (fun _ => SignalCourse.IsOver) ⟨role, .joined stay, sent⟩ := by
  have supersedes : (supersede "superseded by newer connection" registration.previous).Follows
      signalMonitor (fun _ after => after = ⟨role, .joined stay, sent⟩)
        ⟨role, .joined stay, sent⟩ := by
    cases registration.previous with
    | none => rfl
    | some previous =>
        refine ⟨trivial, fun reply course moved => ?_⟩
        cases moved
        rfl
  refine supersedes.bind fun _ course same => ?_
  subst same
  refine ⟨trivial, ?_⟩
  rintro (- | -) course moved <;> cases moved
  · exact (quiet_follows (refuse_quiet _ _ _ _) rfl).mono fun _ _ same => by
      subst same
      rfl
  · refine ⟨rfl, fun reply course moved => ?_⟩
    cases moved
    refine (flushToSocket_follows registration.pending stay left).bind ?_
    rintro - course ⟨flushed, same, empty, rfl⟩
    refine (relaySignals_follows codec sessionID _ _ _ budget empty).bind ?_
    rintro - course ⟨further, rfl⟩
    refine ⟨⟨rfl, by rw [same], empty⟩, ?_⟩
    rintro ⟨released, terminated⟩ course moved
    cases moved
    change Follows _ _ (if _ then _ else _) _
    split
    · refine ⟨rfl, fun reply course moved => ?_⟩
      cases moved
      rfl
    · rfl

end Handlers

theorem connectSignals_follows (codec : Codec) (sessionID : String) (role : Role)
    (budget ws : Nat) (first : Option Payload) (sent : List Payload) :
    (connectSignals codec sessionID role budget ws first).Follows signalMonitor
      (fun _ => SignalCourse.IsOver)
      ⟨role, .connecting ws, sent⟩ := by
  have refuses (message : String) (code : Nat) (reason : String) :
      (refuse ws message code reason).Follows signalMonitor
      (fun _ => SignalCourse.IsOver)
        ⟨role, .connecting ws, sent⟩ :=
    (quiet_follows (refuse_quiet ws message code reason) rfl).mono fun _ _ same => by
      subst same
      rfl
  unfold connectSignals
  cases readSignalRegisterMessage codec first with
  | error failure => exact refuses _ _ _
  | ok register =>
      change Follows _ _ (if _ then _ else _) _
      split
      · exact refuses _ _ _
      · refine (quiet_follows findSession_quiet rfl).bind ?_
        rintro (- | record) course rfl
        · exact refuses _ _ _
        · change Follows _ _ (if _ then _ else _) _
          split
          · exact refuses _ _ _
          · refine ⟨rfl, fun id course moved => ?_⟩
            cases moved
            refine ⟨⟨rfl, rfl⟩, ?_⟩
            rintro (- | registration) course moved <;> cases moved
            · exact refuses _ _ _
            · exact serveSignals_follows codec sessionID record budget registration
                ⟨⟨id, ws⟩, registration.pending, [], registration.pending⟩ rfl

theorem runSignalConnection_follows (codec : Codec) (sessionID : String) (job : HubJob)
    (course : SignalCourse) (opened : job.opening = some course) :
    ((gatewayHub codec sessionID).body job).Follows signalMonitor
      (fun _ => SignalCourse.IsOver) course := by
  cases job with
  | signal role budget =>
      cases opened
      refine ⟨rfl, fun ws course moved => ?_⟩
      cases moved
      refine ⟨rfl, fun first course moved => ?_⟩
      cases moved
      refine (connectSignals_follows codec sessionID role budget ws first []).bind ?_
      intro _ course ended
      have steady : course.stage.isSteady = true := by
        obtain ⟨role, stage, sent⟩ := course
        cases stage <;> first | rfl | cases ended
      exact (quiet_follows (closeNow_quiet ws) steady).mono fun _ _ same => same ▸ ended
  | _ => cases opened

/-! ## All connections -/

section Runs

variable {codec : Codec} {sessionID : String}

/-- How far the signaling connection at a position has come. -/
def signalCourseAt (config : Async.Config (gatewayHub codec sessionID)) (index : Nat) :
    Option SignalCourse :=
  config.watched signalMonitor HubJob.opening index

/-- Signaling connections alone issue the others. -/
def HubOp.Foreign (op : HubOp) : Prop := op.family ≠ .signal

theorem signalMonitor_others (job : HubJob) :
    ((gatewayHub codec sessionID).body job).Issues fun (op : HubOp) =>
      job.opening = none → op.Foreign := by
  have without {families : List Family} {closings : List (Nat × String)}
      (absent : Family.signal ∉ families) (op : HubOp)
      (among : HubOp.Among families closings op) : job.opening = none → op.Foreign :=
    fun _ same => absent (same ▸ among.family)
  cases job with
  | signal role budget => exact issues_of_all (fun op unopened => by cases unopened) _
  | media role budget =>
      exact (runMediaRelayConnection_issues codec sessionID role budget).mono
        (without (by decide))
  | webrtc request => exact (handleWebRTCRelay_issues request).mono (without (by decide))
  | terminate body =>
      exact (handleTerminateSession_issues sessionID body).mono (without (by decide))

/-- A relation between the gateway and the signaling connections that every watch keeps holds in
all runs. -/
theorem signal_watch_run {allowed : Async.Config (gatewayHub codec sessionID) →
      Action (gatewayHub codec sessionID) → Prop}
    {relation : Hub → (Nat → Option SignalCourse) → Prop}
    (watch : Watch (S := gatewayHub codec sessionID) signalMonitor HubJob.opening allowed
      HubOp.Foreign relation)
    {start : Hub} {final : Async.Config (gatewayHub codec sessionID)}
    (run : Run allowed ⟨start, []⟩ final) (initially : relation start fun _ => none) :
    relation final.state (signalCourseAt final) :=
  watch.run (runSignalConnection_follows codec sessionID) signalMonitor_others
    (fun _ _ _ => rfl) run initially

theorem signal_obeys {allowed : Async.Config (gatewayHub codec sessionID) →
      Action (gatewayHub codec sessionID) → Prop} {start : Hub}
    {final : Async.Config (gatewayHub codec sessionID)} (run : Run allowed ⟨start, []⟩ final) :
    ∀ thread ∈ final.threads,
      thread.Obeys signalMonitor HubJob.opening SignalCourse.IsOver :=
  run.obeys (runSignalConnection_follows codec sessionID) (by simp)

end Runs

/-! ## Sockets -/

/-- Every connection has a socket of its own. -/
structure Distinct (hub : Hub) (courses : Nat → Option SignalCourse) : Prop where
  bounded : ∀ index course ws, courses index = some course → course.stage.ws = some ws →
    ws < hub.nextSocket
  apart : ∀ first second one other ws, courses first = some one → courses second = some other →
    one.stage.ws = some ws → other.stage.ws = some ws → first = second

theorem hubExec_nextSocket (choice : HubChoice) (op : HubOp) (hub : Hub) :
    hub.nextSocket ≤ (hubExec choice op hub).1.nextSocket := by
  cases op with
  | upgrade => exact Nat.le_succ _
  | writePending ws payload | writeDirect ws payload | writeFrame ws payload =>
      simp only [hubExec, Hub.write]
      split <;> exact Nat.le_refl _
  | getOrCreatePionRelaySession =>
      simp only [hubExec]
      split <;> exact Nat.le_refl _
  | deleteStoredSession =>
      simp only [hubExec]
      split <;> exact Nat.le_refl _
  | _ => exact Nat.le_refl _

/-- The socket of a connection is the one that it was upgraded to. -/
theorem Move.ws_eq {role : Role} {stage after : SignalStage} {op : HubOp} {reply : op.Reply}
    {added : List Payload} (move : Move role stage op reply after added) (opened : op ≠ .upgrade) :
    after.ws = stage.ws := by
  cases move with
  | upgrade ws => exact absurd rfl opened
  | _ => rfl

theorem Move.of_upgrade {role : Role} {stage after : SignalStage} {ws : Nat}
    {added : List Payload} (move : Move role stage .upgrade ws after added) :
    after = .connecting ws := by
  cases move with
  | idle _ quiet => cases quiet
  | upgrade ws => rfl

theorem Distinct.grow {hub after : Hub} {courses : Nat → Option SignalCourse}
    (distinct : Distinct hub courses) (more : hub.nextSocket ≤ after.nextSocket) :
    Distinct after courses :=
  ⟨fun index course ws located socket =>
    Nat.lt_of_lt_of_le (distinct.bounded index course ws located socket) more, distinct.apart⟩

/-- One connection comes to another stage, with its own socket. -/
theorem Distinct.change {hub after : Hub} {courses : Nat → Option SignalCourse}
    (distinct : Distinct hub courses) (more : hub.nextSocket ≤ after.nextSocket) {index : Nat}
    {course : SignalCourse}
    (bounded : ∀ ws, course.stage.ws = some ws → ws < after.nextSocket)
    (apart : ∀ other one ws, other ≠ index → courses other = some one →
      one.stage.ws = some ws → course.stage.ws ≠ some ws) :
    Distinct after (Function.update courses index (some course)) := by
  refine ⟨?_, ?_⟩
  · intro other one ws located socket
    rw [Function.update_apply] at located
    split at located
    · cases located
      exact bounded ws socket
    · exact Nat.lt_of_lt_of_le (distinct.bounded other one ws located socket) more
  · intro first second one other ws locatedFirst locatedSecond socketFirst socketSecond
    rw [Function.update_apply] at locatedFirst locatedSecond
    split at locatedFirst <;> split at locatedSecond
    · next atFirst atSecond => exact atFirst.trans atSecond.symm
    · next atFirst elsewhere =>
        cases locatedFirst
        exact absurd socketFirst (apart second other ws elsewhere locatedSecond socketSecond)
    · next elsewhere atSecond =>
        cases locatedSecond
        exact absurd socketSecond (apart first one ws elsewhere locatedFirst socketFirst)
    · exact distinct.apart first second one other ws locatedFirst locatedSecond socketFirst
        socketSecond

theorem distinct_watch {codec : Codec} {sessionID : String}
    {allowed : Async.Config (gatewayHub codec sessionID) →
      Action (gatewayHub codec sessionID) → Prop} :
    Watch (S := gatewayHub codec sessionID) signalMonitor HubJob.opening allowed
      HubOp.Foreign Distinct := by
  refine ⟨?_, ?_, ?_⟩
  · intro config index job distinct vacant _ _
    cases job with
    | signal role budget =>
        refine distinct.change (Nat.le_refl _) ?_ ?_
        · intro ws impossible
          cases impossible
        · intro other one ws _ _ _ impossible
          cases impossible
    | media role budget | webrtc request | terminate body =>
        rw [show HubJob.opening _ = none from rfl, ← vacant, Function.update_eq_self]
        exact distinct
  · intro config index choice op current distinct located allowed _ _
    have more := hubExec_nextSocket choice op config.state
    obtain ⟨stage, added, moved, move⟩ := current.move allowed (hubExec choice op config.state).2
    change Distinct (hubExec choice op config.state).1 (Function.update _ index
      (some (current.next op (hubExec choice op config.state).2)))
    rw [moved]
    by_cases opened : op = .upgrade
    · subst opened
      cases move.of_upgrade
      refine distinct.change more ?_ ?_
      · intro ws socket
        cases socket
        exact Nat.lt_succ_self _
      · intro other one ws _ locatedOther socket fresh
        cases fresh
        exact Nat.lt_irrefl _ (distinct.bounded other one _ locatedOther socket)
    · have kept := move.ws_eq opened
      refine distinct.change more ?_ ?_
      · intro ws socket
        exact Nat.lt_of_lt_of_le (distinct.bounded index current ws located (kept ▸ socket)) more
      · intro other one ws elsewhere locatedOther socketOther socket
        exact elsewhere (distinct.apart other index one current ws locatedOther located
          socketOther (kept ▸ socket))
  · intro hub courses choice op distinct _
    exact distinct.grow (hubExec_nextSocket choice op hub)

end RemoteBrowser.MediaGateway
