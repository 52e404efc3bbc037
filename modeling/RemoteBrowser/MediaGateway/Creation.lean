import RemoteBrowser.MediaGateway.Quota
import RemoteBrowser.Async.Monitor

/-!
# Creating a session on several gateways

`CreateSession` looks the session up in the shared store, then runs one critical section in which
it finds or creates the session in the gateway's own map, and then saves a record it has created.
The calls for one session id interleave at the store and at the lock.
-/

namespace RemoteBrowser.MediaGateway

open Async

/-! ## The system -/

/-- What a client of `CreateSession` gets. -/
abbrev CreateAnswer := Except ApiError (Nat × SessionResponse)

/-- The gateways by number, and the record that was saved last for the session. -/
structure Deployment where
  services : Nat → Service
  stored : Option SessionRecord

inductive CreateOp where
  | getStoredSession
  | admission (gateway : Nat) (req : SessionRequest)
  | storeSession (record : SessionRecord)
  | forgetSession (gateway : Nat)
  | answer (result : CreateAnswer)

/-- What the operations leave open: the time, the bytes that are drawn, and whether the store
can be reached. -/
structure CreateChoice where
  now : Int := 0
  entryBytes : Nat := 0
  bridgeBytes : Nat := 0
  succeeds : Bool := true

@[reducible] def CreateOp.Reply : CreateOp → Type
  | .getStoredSession => Option SessionRecord
  | .admission _ _ => Service.Admission
  | .storeSession _ => Bool
  | .forgetSession _ => Unit
  | .answer _ => Unit

abbrev createFace : Interface := ⟨CreateOp, CreateOp.Reply⟩

abbrev CreateHandler := Program createFace

def CreateOp.await (op : CreateOp) : CreateHandler op.Reply := @Program.call createFace op

def hexDigit (value : Nat) : Char := "0123456789abcdef".toList.getD (value % 16) '0'

/-- `newOpaqueID`: eight random bytes in hexadecimal digits. -/
def newOpaqueID (kind : String) (bytes : Nat) : String :=
  kind ++ String.ofList ((List.range 16).map fun place => hexDigit (bytes / 16 ^ (15 - place)))

def CreateChoice.draws (choice : CreateChoice) : Draws where
  viewerEntryToken := newOpaqueID "entry_" choice.entryBytes
  bridgeID := newOpaqueID "bridge_" choice.bridgeBytes

/-- A call of `CreateSession` on one of the gateways. -/
structure CreateCall where
  gateway : Nat
  request : SessionRequest

section System

variable (cfg : Nat → Config) (platform : Platform) (sessionID : String)

/-- Give one gateway other sessions. -/
def Deployment.setSessions (state : Deployment) (gateway : Nat)
    (sessions : AList fun _ : String => SessionRecord) : Deployment :=
  { state with
    services := Function.update state.services gateway
      { state.services gateway with sessions := sessions } }

/-- The critical section of a gateway, at the time it is entered. -/
def Deployment.admission (state : Deployment) (choice : CreateChoice) (gateway : Nat)
    (req : SessionRequest) : Service × Service.Admission :=
  Service.admitSession (cfg gateway) platform { state.services gateway with now := choice.now } req
    choice.draws

@[grind =] def createExec (choice : CreateChoice) :
    (op : CreateOp) → Deployment → Deployment × op.Reply
  | .getStoredSession, state =>
      (state, if choice.succeeds then state.stored.bind SessionRecord.reload else none)
  | .admission gateway req, state =>
      let outcome := state.admission cfg platform choice gateway req
      (state.setSessions gateway outcome.1.sessions, outcome.2)
  | .storeSession record, state =>
      if choice.succeeds then ({ state with stored := some record }, true) else (state, false)
  | .forgetSession gateway, state =>
      (state.setSessions gateway ((state.services gateway).sessions.erase sessionID), ())
  | .answer _, state => (state, ())

def storeUnavailable : ApiError := ⟨502, "gateway session store unavailable"⟩

/-- `CreateSession`. -/
def createSession (call : CreateCall) : CreateHandler Unit := do
  match validateRequest platform (cfg call.gateway) call.request with
  | .error failure => CreateOp.await (.answer (.error failure))
  | .ok req =>
      match ← CreateOp.await .getStoredSession with
      | some record => CreateOp.await (.answer (replayAnswer record req))
      | none =>
          match ← CreateOp.await (.admission call.gateway req) with
          | .found result => CreateOp.await (.answer result)
          | .refused failure => CreateOp.await (.answer (.error failure))
          | .created record =>
              if ← CreateOp.await (.storeSession record) then
                CreateOp.await (.answer (.ok (201, record.response)))
              else
                CreateOp.await (.forgetSession call.gateway)
                CreateOp.await (.answer (.error storeUnavailable))

/-- The call is for the session under consideration, if its request is valid at all. -/
def CreateCall.concerns (call : CreateCall) : Bool :=
  match validateRequest platform (cfg call.gateway) call.request with
  | .error _ => true
  | .ok req => req.sessionID = sessionID

/-- Calls for one session id on gateways that share a store, each with its own settings. -/
@[reducible] def creation : System where
  face := createFace
  State := Deployment
  Choice := CreateChoice
  Job := CreateCall
  exec := createExec cfg platform sessionID
  body := createSession cfg platform
  canStart := fun _ call => call.concerns cfg platform sessionID

end System

/-! ## The course of a call -/

/-- How a call ends, before it answers. -/
inductive Ending where
  /-- the session was found in the gateway's map, or in the store for an equivalent request -/
  | found (result : CreateAnswer)
  /-- the request is invalid, differs from the stored one, or there is no room -/
  | refused (failure : ApiError)
  /-- the session was created and saved -/
  | saved (record : SessionRecord)
  /-- the session was created, could not be saved and was removed again -/
  | removed

def Ending.result : Ending → CreateAnswer
  | .found result => result
  | .refused failure => .error failure
  | .saved record => .ok (201, record.response)
  | .removed => .error storeUnavailable

/-- The ending of a call that finds the session in the store. -/
def Ending.ofStored : CreateAnswer → Ending
  | .ok replay => .found (.ok replay)
  | .error failure => .refused failure

@[simp] theorem Ending.result_ofStored (answer : CreateAnswer) :
    (Ending.ofStored answer).result = answer := by
  cases answer <;> rfl

/-- How far a call has come. -/
inductive Stage where
  | fresh (req : SessionRequest)
  | missing (req : SessionRequest)
  | creating (record : SessionRecord)
  | failed (record : SessionRecord)
  | ending (how : Ending)
  | answered (how : Ending)

namespace Stage

/-- What a call on a gateway issues next. -/
def Allows (gateway : Nat) : Stage → CreateOp → Prop
  | .fresh _, op => op = .getStoredSession
  | .missing req, op => op = .admission gateway req
  | .creating record, op => op = .storeSession record
  | .failed _, op => op = .forgetSession gateway
  | .ending how, op => op = .answer how.result
  | .answered _, _ => False

def after : Stage → (op : CreateOp) → op.Reply → Stage
  | .fresh req, .getStoredSession, some record => .ending (.ofStored (replayAnswer record req))
  | .fresh req, .getStoredSession, none => .missing req
  | .missing _, .admission _ _, .found result => .ending (.found result)
  | .missing _, .admission _ _, .refused failure => .ending (.refused failure)
  | .missing _, .admission _ _, .created record => .creating record
  | .creating record, .storeSession _, true => .ending (.saved record)
  | .creating record, .storeSession _, false => .failed record
  | .failed _, .forgetSession _, _ => .ending .removed
  | .ending how, .answer _, _ => .answered how
  | stage, _, _ => stage

end Stage

/-- A call on a gateway and how far it has come. -/
structure Course where
  gateway : Nat
  stage : Stage

/-- The call has answered. -/
def Course.Ended (course : Course) : Prop := ∃ how, course.stage = .answered how

def createCourse : Monitor createFace Course where
  allows := fun course op => course.stage.Allows course.gateway op
  next := fun course op reply => some { course with stage := course.stage.after op reply }

section Courses

variable (cfg : Nat → Config) (platform : Platform)

def CreateCall.opening (call : CreateCall) : Option Course :=
  some ⟨call.gateway,
    match validateRequest platform (cfg call.gateway) call.request with
    | .error failure => .ending (.refused failure)
    | .ok req => .fresh req⟩

theorem createSession_follows (call : CreateCall) (course : Course)
    (opened : call.opening cfg platform = some course) :
    (createSession cfg platform call).Follows createCourse (fun _ => Course.Ended) course := by
  have answers : ∀ gateway how, (CreateOp.await (.answer (Ending.result how))).Follows
      createCourse (fun _ => Course.Ended) ⟨gateway, .ending how⟩ := by
    intro gateway how
    refine ⟨rfl, fun reply course moved => ?_⟩
    cases moved
    exact ⟨how, rfl⟩
  cases opened
  unfold createSession
  cases validateRequest platform (cfg call.gateway) call.request with
  | error failure => exact answers call.gateway (.refused failure)
  | ok req =>
      refine ⟨rfl, ?_⟩
      rintro (- | record) course moved <;> cases moved
      · refine ⟨rfl, ?_⟩
        rintro (result | failure | record) course moved <;> cases moved
        · exact answers call.gateway (.found result)
        · exact answers call.gateway (.refused failure)
        · refine ⟨rfl, ?_⟩
          rintro (- | -) course moved <;> cases moved
          · refine ⟨rfl, ?_⟩
            rintro reply course moved
            cases moved
            exact answers call.gateway .removed
          · exact answers call.gateway (.saved record)
      · have replays := answers call.gateway (.ofStored (replayAnswer record req))
        rw [Ending.result_ofStored] at replays
        exact replays

end Courses

/-! ## How far all calls have come -/

section Progress

variable {cfg : Nat → Config} {platform : Platform} {sessionID : String}

/-- How far a call has come. -/
def courseOf (thread : Thread (creation cfg platform sessionID)) : Option Course :=
  thread.watched createCourse (CreateCall.opening cfg platform)

theorem courseOf_advance {thread : Thread (creation cfg platform sessionID)} {course : Course}
    (known : courseOf thread = some course) (op : CreateOp) (reply : op.Reply)
    (program : Program createFace Unit) :
    courseOf (thread.advance op reply program) =
      some { course with stage := course.stage.after op reply } :=
  congrArg (Option.bind · fun current => createCourse.next current op reply) known

/-- How far the call at a position has come. -/
def courseAt (config : Async.Config (creation cfg platform sessionID)) (index : Nat) :
    Option Course :=
  config.watched createCourse (CreateCall.opening cfg platform) index

theorem courseAt_of_getElem? {config : Async.Config (creation cfg platform sessionID)}
    {index : Nat} {thread : Thread (creation cfg platform sessionID)}
    (found : config.threads[index]? = some thread) :
    courseAt config index = courseOf thread :=
  Config.watched_of_getElem? found

/-- Some call has come to such a stage. -/
def someCall (test : Stage → Bool) (config : Async.Config (creation cfg platform sessionID)) :
    Bool :=
  config.threads.any fun thread =>
    (courseOf thread).any fun course => test course.stage

theorem stage_of_someCall {test : Stage → Bool}
    {config : Async.Config (creation cfg platform sessionID)}
    (nobody : someCall test config = false) {index : Nat} {course : Course}
    (located : courseAt config index = some course) : test course.stage = false := by
  obtain ⟨thread, found, known⟩ := Config.watched_eq_some.mp located
  have one := List.any_eq_false.mp nobody thread (List.mem_of_getElem? found)
  rw [show courseOf thread = some course from known] at one
  simpa using one

theorem exists_of_someCall {test : Stage → Bool}
    {config : Async.Config (creation cfg platform sessionID)}
    (somebody : someCall test config = true) :
    ∃ index course, courseAt config index = some course ∧ test course.stage = true := by
  obtain ⟨thread, member, passes⟩ := List.any_eq_true.mp somebody
  obtain ⟨index, found⟩ := List.mem_iff_getElem?.mp member
  cases known : courseOf thread with
  | none =>
      rw [known] at passes
      cases passes
  | some course =>
      rw [known] at passes
      exact ⟨index, course, (courseAt_of_getElem? found).trans known, passes⟩

theorem someCall_of_courseAt {test : Stage → Bool}
    {config : Async.Config (creation cfg platform sessionID)} {index : Nat} {course : Course}
    (located : courseAt config index = some course) (passes : test course.stage = true) :
    someCall test config = true := by
  cases somebody : someCall test config with
  | true => rfl
  | false =>
      rw [stage_of_someCall somebody located] at passes
      cases passes

theorem courseAt_start (state : Deployment)
    (threads : List (Thread (creation cfg platform sessionID))) (call : CreateCall) :
    courseAt ⟨state, threads ++ [Thread.new (creation cfg platform sessionID) call]⟩ =
      Function.update (courseAt ⟨state, threads⟩) threads.length (call.opening cfg platform) :=
  Config.watched_append state threads _

theorem courseAt_resume (state changed : Deployment)
    {threads : List (Thread (creation cfg platform sessionID))} {index : Nat}
    {thread : Thread (creation cfg platform sessionID)} (found : threads[index]? = some thread)
    {course : Course} (known : courseOf thread = some course) (op : CreateOp) (reply : op.Reply)
    (program : Program createFace Unit) :
    courseAt ⟨changed, threads.set index (thread.advance op reply program)⟩ =
      Function.update (courseAt ⟨state, threads⟩) index
        (some { course with stage := course.stage.after op reply }) := by
  rw [← courseOf_advance known op reply program]
  exact Config.watched_set state changed found _

/-! ## Answers -/

/-- The call has got this answer. -/
def Answered (thread : Thread (creation cfg platform sessionID)) (result : CreateAnswer) : Prop :=
  ⟨.answer result, ()⟩ ∈ thread.past

/-- A call that has answered is at its end. -/
theorem answered_of_run {allowed : Async.Config (creation cfg platform sessionID) →
      Action (creation cfg platform sessionID) → Prop} {start : Deployment}
    {final : Async.Config (creation cfg platform sessionID)}
    (run : Run allowed ⟨start, []⟩ final) {index : Nat}
    {thread : Thread (creation cfg platform sessionID)}
    (found : final.threads[index]? = some thread) {result : CreateAnswer}
    (answered : Answered thread result) :
    ∃ target how, courseAt final index = some ⟨target, .answered how⟩ ∧ how.result = result := by
  have obeying : ∀ config, Run allowed ⟨start, []⟩ config → ∀ thread ∈ config.threads,
      thread.Obeys createCourse (CreateCall.opening cfg platform) Course.Ended :=
    fun config reached => reached.obeys (createSession_follows cfg platform) (by simp)
  have ends : ∀ thread ∈ final.threads, ∀ result, Answered thread result →
      ∃ target how, courseOf thread = some ⟨target, .answered how⟩ ∧ how.result = result := by
    refine (run.assuming obeying).each
      (fun _ _ _ result answered => absurd answered List.not_mem_nil) ?_ (by simp)
    intro config index choice thread op next permitted found suspended holds result answered
    obtain ⟨⟨target, stage⟩, known⟩ : ∃ course, courseOf thread = some course :=
      Option.isSome_iff_exists.mp (Monitor.isSome_after (fun _ _ _ => rfl) rfl thread.past)
    have allows := (permitted.2 thread (List.mem_of_getElem? found)).allows known suspended
    rw [courseOf_advance known]
    rcases List.mem_cons.mp answered with now | earlier
    · cases now
      cases stage with
      | ending how =>
          have same : result = how.result := CreateOp.answer.inj allows
          exact ⟨target, how, rfl, same.symm⟩
      | answered how => exact allows.elim
      | _ => cases allows
    · obtain ⟨_, how, ended, -⟩ := holds result earlier
      cases known.symm.trans ended
      exact allows.elim
  rw [courseAt_of_getElem? found]
  exact ends thread (List.mem_of_getElem? found) result answered

end Progress

/-! ## Effects of the operations -/

section Effects

variable {cfg : Nat → Config} {platform : Platform} {sessionID : String}

@[simp] theorem Deployment.setSessions_self (state : Deployment) (gateway : Nat) :
    state.setSessions gateway (state.services gateway).sessions = state := by
  simp [setSessions]

@[simp] theorem Deployment.setSessions_stored (state : Deployment) (gateway : Nat)
    (sessions : AList fun _ : String => SessionRecord) :
    (state.setSessions gateway sessions).stored = state.stored := rfl

@[simp] theorem Deployment.setSessions_setSessions (state : Deployment) (gateway : Nat)
    (sessions others : AList fun _ : String => SessionRecord) :
    (state.setSessions gateway sessions).setSessions gateway others =
      state.setSessions gateway others := by
  simp [setSessions]

theorem Deployment.setSessions_sessions (state : Deployment) (gateway other : Nat)
    (sessions : AList fun _ : String => SessionRecord) :
    ((state.setSessions gateway sessions).services other).sessions =
      if other = gateway then sessions else (state.services other).sessions := by
  by_cases same : other = gateway
  · subst same
    simp [setSessions]
  · simp [setSessions, same]

/-- Everything that the critical section can come to. -/
theorem Deployment.admission_cases (cfg : Nat → Config) (platform : Platform) (state : Deployment)
    (choice : CreateChoice) (gateway : Nat) (req : SessionRequest) :
    let sessions := (state.services gateway).sessions
    let service : Service := { state.services gateway with now := choice.now }
    let outcome := state.admission cfg platform choice gateway req
    (∃ record, sessions.lookup req.sessionID = some record ∧
      outcome.2 = .found (replayAnswer record req) ∧ outcome.1.sessions = sessions) ∨
    (∃ failure, sessions.lookup req.sessionID = none ∧
      outcome.2 = .refused failure ∧ outcome.1.sessions = sessions) ∨
    (sessions.lookup req.sessionID = none ∧ service.evaluateAdmission (cfg gateway) req = .ok () ∧
      outcome.2 = .created (service.newRecord (cfg gateway) platform req choice.draws) ∧
      outcome.1.sessions = sessions.insert req.sessionID
        (service.newRecord (cfg gateway) platform req choice.draws)) := by
  simp only [admission, Service.admitSession]
  split
  · next record found => exact .inl ⟨record, found, rfl, rfl⟩
  · next unknown =>
      split
      · next failure full => exact .inr (.inl ⟨failure, unknown, rfl, rfl⟩)
      · next admitted => exact .inr (.inr ⟨unknown, admitted, rfl, rfl⟩)

end Effects

/-! ## A sample deployment -/

/-- Calls for one session with the default settings. -/
abbrev sampleCreation : System := creation (fun _ => defaultConfig) plainPlatform "rbi-1"

/-- Gateways without sessions and an empty store. -/
def emptyDeployment : Deployment := ⟨fun _ => Service.initial 0, none⟩

def sampleStart (gateway : Nat) : Action sampleCreation :=
  .start ⟨gateway, plainRequest "rbi-1" "worker-a"⟩

def usualChoice : CreateChoice := {}

/-- Some answer of the call at a position is such. -/
def answeredAt (test : CreateAnswer → Bool) (config : Async.Config sampleCreation)
    (index : Nat) : Bool :=
  config.threads[index]?.any fun thread => thread.past.any fun
    | ⟨.answer result, _⟩ => test result
    | _ => false

theorem exists_of_answeredAt {test : CreateAnswer → Bool} {config : Async.Config sampleCreation}
    {index : Nat} (passes : answeredAt test config index = true) :
    ∃ thread result, config.threads[index]? = some thread ∧ Answered thread result ∧
      test result = true := by
  obtain ⟨thread, found, passes⟩ := (Option.any_eq_true ..).mp passes
  obtain ⟨event, member, passes⟩ := List.any_eq_true.mp passes
  split at passes
  · next result reply => exact ⟨thread, result, found, member, passes⟩
  · cases passes

end RemoteBrowser.MediaGateway
