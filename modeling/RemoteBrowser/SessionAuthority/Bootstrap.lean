import RemoteBrowser.SessionAuthority.Contracts
import RemoteBrowser.Async.Monitor

/-!
# Bootstrapping a session

`Bootstrap` looks its transaction up under the authority's lock, creates a session with the help
of the runtime and the media gateway, and looks again before it stores the record.  The calls
interleave at the lock and at the calls of the two services, which succeed or fail arbitrarily.
-/

namespace RemoteBrowser.SessionAuthority

open Async
open MediaGateway (ApiError SessionRequest SessionResponse firstNonEmpty)

/-! ## The system -/

/-- The maps of the authority, and how many sessions its calls have left at the runtime. -/
structure Authority where
  sessions : String → Option SessionRecord := fun _ => none
  transactions : String → Option String := fun _ => none
  gatewayIndex : String → Nat := fun _ => 0
  workerIndex : String → Nat := fun _ => 0
  runtimeSessions : Nat := 0

abbrev BootstrapAnswer := Except ApiError (Nat × EdgeBootstrapResponse)

inductive BootstrapOp where
  | findTransaction (transactionID : String)
  | assignWorker (region : String)
  | assignGateway (region workerID : String) (req : EdgeBootstrapRequest)
  | newOpaqueID (kind : String)
  | createRuntimeSession
  | createGatewaySession (req : SessionRequest)
  | updateRuntimeSession (sessionID : String) (resp : SessionResponse)
  | storeSession (req : EdgeBootstrapRequest) (resp : EdgeBootstrapResponse) (source : String)
  | answer (result : BootstrapAnswer)

/-- What the operations leave open: the texts that are drawn, the time, and how the two services
answer.  A session may have been created although the runtime's answer is lost. -/
structure BootstrapChoice where
  drawn : String := ""
  now : Int := 0
  runtime : Except String RuntimeSessionResponse := .ok {}
  createsUnheard : Bool := false
  gateway : Except String SessionResponse := .error ""

@[reducible] def BootstrapOp.Reply : BootstrapOp → Type
  | .findTransaction _ => Option EdgeBootstrapResponse
  | .assignWorker _ => MediaGateway.WorkerAssignment
  | .assignGateway _ _ _ => MediaGateway.GatewayAssignment
  | .newOpaqueID _ => String
  | .createRuntimeSession => Except String RuntimeSessionResponse
  | .createGatewaySession _ => Except String SessionResponse
  | .updateRuntimeSession _ _ => Except String RuntimeSessionResponse
  | .storeSession _ _ _ => Option EdgeBootstrapResponse
  | .answer _ => Unit

abbrev bootstrapFace : Interface := ⟨BootstrapOp, BootstrapOp.Reply⟩

abbrev BootstrapHandler := Program bootstrapFace

def BootstrapOp.await (op : BootstrapOp) : BootstrapHandler op.Reply :=
  @Program.call bootstrapFace op

/-- The response that is kept for a transaction. -/
def Authority.responseOf (state : Authority) (transactionID : String) :
    Option EdgeBootstrapResponse :=
  (state.transactions transactionID).map fun sessionID =>
    -- Go reads the zero record where the map has none.
    (state.sessions sessionID).elim {} SessionRecord.response

/-- The runtime's part of a choice creates a session. -/
def BootstrapChoice.creates (choice : BootstrapChoice) : Bool :=
  choice.runtime.toBool || choice.createsUnheard

def Authority.store (state : Authority) (now : Int) (req : EdgeBootstrapRequest)
    (resp : EdgeBootstrapResponse) (source : String) : Authority :=
  { state with
    sessions := Function.update state.sessions resp.sessionID (some ⟨req, resp, now, source⟩)
    transactions := Function.update state.transactions req.transactionID (some resp.sessionID) }

@[simp] theorem Authority.store_transactions (state : Authority) (now : Int)
    (req : EdgeBootstrapRequest) (resp : EdgeBootstrapResponse) (source : String) :
    (state.store now req resp source).transactions =
      Function.update state.transactions req.transactionID (some resp.sessionID) := rfl

section System

variable (cfg : Config) (platform : Platform)

@[grind =] def bootstrapExec (choice : BootstrapChoice) :
    (op : BootstrapOp) → Authority → Authority × op.Reply
  | .findTransaction transactionID, state => (state, state.responseOf transactionID)
  | .assignWorker region, state =>
      let index := state.workerIndex region + 1
      ({ state with workerIndex := Function.update state.workerIndex region index },
        workerAssignment cfg region index)
  | .assignGateway region workerID req, state =>
      let index := state.gatewayIndex region + 1
      ({ state with gatewayIndex := Function.update state.gatewayIndex region index },
        gatewayAssignment cfg region workerID index req)
  | .newOpaqueID kind, state => (state, kind ++ choice.drawn)
  | .createRuntimeSession, state =>
      ({ state with
          runtimeSessions := state.runtimeSessions + if choice.creates then 1 else 0 },
        choice.runtime)
  | .createGatewaySession _, state => (state, choice.gateway)
  | .updateRuntimeSession _ _, state => (state, choice.runtime)
  | .storeSession req resp source, state =>
      match state.responseOf req.transactionID with
      | some existing => (state, some existing)
      | none => (state.store choice.now req resp source, none)
  | .answer _, state => (state, ())

/-- A response that is being put together, with the assignments of its session. -/
structure Draft where
  response : EdgeBootstrapResponse
  gateway : MediaGateway.GatewayAssignment
  worker : MediaGateway.WorkerAssignment
  source : String

/-- Before the runtime is asked. -/
def Draft.start (req : EdgeBootstrapRequest) (worker : MediaGateway.WorkerAssignment)
    (gateway : MediaGateway.GatewayAssignment) (token : String) : Draft where
  response :=
    { handoffURL := buildHandoffURL platform cfg req token
      viewerEntry := cfg.viewerEntryMode }
  gateway := gateway
  worker := worker
  source := "local"

/-- With what the runtime answers. -/
def Draft.adoptRuntime (draft : Draft) (runtimeResp : RuntimeSessionResponse) : Draft :=
  { response :=
      { draft.response with
        sessionID := runtimeResp.sessionID
        handoffURL :=
          if runtimeResp.handoffURL ≠ "" then runtimeResp.handoffURL
          else draft.response.handoffURL
        viewerEntry :=
          if runtimeResp.viewerEntry ≠ "" then runtimeResp.viewerEntry
          else draft.response.viewerEntry }
    gateway := mergeGatewayAssignment
      { draft.gateway with sessionID := runtimeResp.sessionID } runtimeResp.gatewayAssignment
    worker := mergeWorkerAssignment
      { draft.worker with sessionID := runtimeResp.sessionID } runtimeResp.workerAssignment
    source := "runtime" }

/-- With the id of the session. -/
def Draft.identified (draft : Draft) (sessionID : String) : Draft :=
  { draft with
    response := { draft.response with sessionID := sessionID }
    gateway :=
      { draft.gateway with
        sessionID := sessionID
        workerID :=
          if draft.worker.workerID ≠ "" then draft.worker.workerID else draft.gateway.workerID }
    worker := { draft.worker with sessionID := sessionID } }

/-- With what the gateway answers, and the runtime to the update. -/
def Draft.adoptGateway (draft : Draft) (gatewayResp : SessionResponse)
    (updateResp : RuntimeSessionResponse) : Draft :=
  { response :=
      { draft.response with
        viewerEntry :=
          if gatewayResp.viewerEntryMode ≠ "" then gatewayResp.viewerEntryMode
          else draft.response.viewerEntry
        transport := some (mergeGatewayTransport gatewayResp.transport updateResp.transport)
        workerBridge := some (mergeWorkerBridge gatewayResp.workerBridge updateResp.workerBridge) }
    gateway := mergeGatewayAssignment gatewayResp.gatewayAssignment updateResp.gatewayAssignment
    worker := mergeWorkerAssignment gatewayResp.workerAssignment updateResp.workerAssignment
    source := draft.source ++ "+gateway" }

def Draft.finish (draft : Draft) (region : String) : EdgeBootstrapResponse :=
  { draft.response with
    gatewayRegion := firstNonEmpty [draft.gateway.region, region]
    gatewayAssignment := some draft.gateway
    workerAssignment := some draft.worker }

def runtimeFailed (message : String) : ApiError :=
  ⟨502, "runtime session bootstrap failed: " ++ message⟩

def gatewayFailed (message : String) : ApiError :=
  ⟨502, "media gateway session registration failed: " ++ message⟩

def updateFailed (message : String) : ApiError :=
  ⟨502, "runtime session update failed: " ++ message⟩

/-- What `createBootstrap` comes to. -/
abbrev Created := Except ApiError (EdgeBootstrapResponse × String)

/-- The session's registration with the gateway, for a session that the runtime has named. -/
def registerWithGateway (req : EdgeBootstrapRequest) (region : String) (draft : Draft)
    (runtimeResp : RuntimeSessionResponse) : BootstrapHandler Created := do
  let gatewayReq := buildMediaGatewaySessionRequest req draft.response runtimeResp draft.gateway
    draft.worker
  match ← BootstrapOp.await (.createGatewaySession gatewayReq) with
  | .error message => return .error (gatewayFailed message)
  | .ok gatewayResp =>
      match validateMediaGatewaySessionResponse platform gatewayReq gatewayResp with
      | .error failure => return .error failure
      | .ok _ =>
          match ← BootstrapOp.await (.updateRuntimeSession draft.response.sessionID gatewayResp) with
          | .error message => return .error (updateFailed message)
          | .ok updateResp =>
              let final := draft.adoptGateway gatewayResp updateResp
              return .ok (final.finish region, final.source)

/-- `createBootstrap` after the runtime's part: `runtimeResp` is empty without a runtime. -/
def completeBootstrap (req : EdgeBootstrapRequest) (region : String) (draft : Draft)
    (runtimeResp : RuntimeSessionResponse) : BootstrapHandler Created := do
  let sessionID ←
    if draft.response.sessionID = "" then BootstrapOp.await (.newOpaqueID "sess_")
    else pure draft.response.sessionID
  let named := draft.identified sessionID
  if cfg.hasGatewayClient ∧ runtimeResp.sessionID ≠ "" then
    registerWithGateway platform req region named runtimeResp
  else return .ok (named.finish region, named.source)

def createBootstrap (req : EdgeBootstrapRequest) : BootstrapHandler Created := do
  let region := resolveRegion cfg req
  let worker ← BootstrapOp.await (.assignWorker region)
  let gateway ← BootstrapOp.await (.assignGateway region worker.workerID req)
  let token ← BootstrapOp.await (.newOpaqueID "hnd_")
  let draft := Draft.start cfg platform req worker gateway token
  if cfg.hasRuntimeClient then
    match ← BootstrapOp.await .createRuntimeSession with
    | .error message => return .error (runtimeFailed message)
    | .ok runtimeResp =>
        completeBootstrap cfg platform req region (draft.adoptRuntime runtimeResp) runtimeResp
  else completeBootstrap cfg platform req region draft {}

/-- `Bootstrap`. -/
def bootstrap (raw : EdgeBootstrapRequest) : BootstrapHandler Unit := do
  match validateRequest platform raw with
  | .error failure => BootstrapOp.await (.answer (.error failure))
  | .ok req =>
      match ← BootstrapOp.await (.findTransaction req.transactionID) with
      | some response => BootstrapOp.await (.answer (.ok (200, response)))
      | none =>
          match ← createBootstrap cfg platform req with
          | .error failure => BootstrapOp.await (.answer (.error failure))
          | .ok (resp, source) =>
              match ← BootstrapOp.await (.storeSession req resp source) with
              | some response => BootstrapOp.await (.answer (.ok (200, response)))
              | none => BootstrapOp.await (.answer (.ok (201, resp)))

/-- Calls of `Bootstrap` on one session authority. -/
@[reducible] def bootstrapping : System where
  face := bootstrapFace
  State := Authority
  Choice := BootstrapChoice
  Job := EdgeBootstrapRequest
  exec := bootstrapExec cfg
  body := bootstrap cfg platform
  canStart := fun _ _ => true

end System

/-! ## The course of a call -/

/-- How far a call has come. -/
inductive Stage where
  | invalid (failure : ApiError)
  | fresh (req : EdgeBootstrapRequest)
  | creating (req : EdgeBootstrapRequest)
  /-- the runtime has created a session for the call -/
  | holding (req : EdgeBootstrapRequest)
  | ending (req : EdgeBootstrapRequest) (result : BootstrapAnswer)
  | answered (req : EdgeBootstrapRequest) (result : BootstrapAnswer)

namespace Stage

def request : Stage → Option EdgeBootstrapRequest
  | .invalid _ => none
  | .fresh req | .creating req | .holding req | .ending req _ | .answered req _ => some req

/-- What a call issues next. -/
def Allows (cfg : Config) : Stage → BootstrapOp → Prop
  | .invalid failure, op => op = .answer (.error failure)
  | .fresh req, op => op = .findTransaction req.transactionID
  | .creating _, .assignWorker _ => True
  | .creating _, .assignGateway _ _ _ => True
  | .creating _, .newOpaqueID _ => True
  | .creating _, .createRuntimeSession => cfg.hasRuntimeClient = true
  | .creating req, .storeSession asked _ _ => asked = req ∧ cfg.hasRuntimeClient = false
  | .holding _, .newOpaqueID _ => True
  | .holding _, .createGatewaySession _ => True
  | .holding _, .updateRuntimeSession _ _ => True
  | .holding req, .storeSession asked _ _ => asked = req
  | .ending _ result, op => op = .answer result
  | _, _ => False

/-- The stage after the record was stored, or one was found instead. -/
def afterStore (req : EdgeBootstrapRequest) (resp : EdgeBootstrapResponse) :
    Option EdgeBootstrapResponse → Stage
  | some existing => .ending req (.ok (200, existing))
  | none => .ending req (.ok (201, resp))

variable (platform : Platform)

/-- The stage after the gateway has answered. -/
def afterGateway (req : EdgeBootstrapRequest) (gatewayReq : SessionRequest) :
    Except String SessionResponse → Stage
  | .error message => .ending req (.error (gatewayFailed message))
  | .ok gatewayResp =>
      match validateMediaGatewaySessionResponse platform gatewayReq gatewayResp with
      | .error failure => .ending req (.error failure)
      | .ok _ => .holding req

def after : Stage → (op : BootstrapOp) → op.Reply → Stage
  | .fresh req, .findTransaction _, some response => .ending req (.ok (200, response))
  | .fresh req, .findTransaction _, none => .creating req
  | .creating req, .createRuntimeSession, .ok _ => .holding req
  | .creating req, .createRuntimeSession, .error message =>
      .ending req (.error (runtimeFailed message))
  | .holding req, .createGatewaySession gatewayReq, reply =>
      afterGateway platform req gatewayReq reply
  | .holding req, .updateRuntimeSession _ _, .error message =>
      .ending req (.error (updateFailed message))
  | .creating req, .storeSession _ resp _, found => afterStore req resp found
  | .holding req, .storeSession _ resp _, found => afterStore req resp found
  | .ending req result, .answer _, _ => .answered req result
  | stage, _, _ => stage

/-- The call has answered. -/
def Ended : Stage → Prop
  | .invalid _ => True
  | .answered _ _ => True
  | _ => False

end Stage

section Courses

variable (cfg : Config) (platform : Platform)

def bootstrapCourse : Monitor bootstrapFace Stage where
  allows := Stage.Allows cfg
  next := fun stage op reply => some (stage.after platform op reply)

def openingStage (raw : EdgeBootstrapRequest) : Stage :=
  match validateRequest platform raw with
  | .error failure => .invalid failure
  | .ok req => .fresh req

variable {cfg platform}

theorem answer_follows (req : EdgeBootstrapRequest) (result : BootstrapAnswer) :
    (BootstrapOp.await (.answer result)).Follows (bootstrapCourse cfg platform)
      (fun _ => Stage.Ended) (.ending req result) := by
  refine ⟨rfl, fun reply stage moved => ?_⟩
  cases moved
  trivial

/-- The stage that a creation ends in. -/
def Created.Fits (req : EdgeBootstrapRequest) (working : Stage) : Created → Stage → Prop
  | .error failure, stage => stage = .ending req (.error failure)
  | .ok _, stage => stage = working

theorem registerWithGateway_follows (req : EdgeBootstrapRequest) (region : String) (draft : Draft)
    (runtimeResp : RuntimeSessionResponse) :
    (registerWithGateway platform req region draft runtimeResp).Follows
      (bootstrapCourse cfg platform) (Created.Fits req (.holding req)) (.holding req) := by
  refine ⟨trivial, ?_⟩
  rintro (message | gatewayResp) stage moved <;> cases moved
  · rfl
  · simp only [Stage.after, Stage.afterGateway, Program.bind]
    split
    · rfl
    · refine ⟨trivial, ?_⟩
      rintro (message | updateResp) stage moved <;> cases moved <;> rfl

theorem completeBootstrap_follows (req : EdgeBootstrapRequest) (region : String) (draft : Draft)
    (runtimeResp : RuntimeSessionResponse) (working : Stage)
    (held : working = .holding req ∨ working = .creating req ∧ runtimeResp.sessionID = "") :
    (completeBootstrap cfg platform req region draft runtimeResp).Follows
      (bootstrapCourse cfg platform) (Created.Fits req working) working := by
  have continues : ∀ sessionID,
      (let named := draft.identified sessionID
        if cfg.hasGatewayClient ∧ runtimeResp.sessionID ≠ "" then
          registerWithGateway platform req region named runtimeResp
        else return .ok (named.finish region, named.source) : BootstrapHandler Created).Follows
        (bootstrapCourse cfg platform) (Created.Fits req working) working := by
    intro sessionID
    dsimp only
    split
    · next registers =>
        rcases held with rfl | ⟨-, unnamed⟩
        · exact registerWithGateway_follows req region _ runtimeResp
        · exact absurd unnamed registers.2
    · rfl
  unfold completeBootstrap
  dsimp only
  split
  · refine ⟨?_, fun sessionID stage moved => ?_⟩
    · rcases held with rfl | ⟨rfl, -⟩ <;> trivial
    · have unmoved : stage = working := by
        rcases held with rfl | ⟨rfl, -⟩ <;> exact (Option.some.inj moved).symm
      rw [unmoved]
      exact continues sessionID
  · exact continues _

/-- A creation that succeeds leaves the call with or without a session at the runtime. -/
theorem createBootstrap_follows (req : EdgeBootstrapRequest) :
    (createBootstrap cfg platform req).Follows (bootstrapCourse cfg platform)
      (fun created stage =>
        cfg.hasRuntimeClient = false ∧ Created.Fits req (.creating req) created stage ∨
        Created.Fits req (.holding req) created stage) (.creating req) := by
  refine ⟨trivial, fun worker stage moved => ?_⟩
  cases moved
  refine ⟨trivial, fun gateway stage moved => ?_⟩
  cases moved
  refine ⟨trivial, fun token stage moved => ?_⟩
  cases moved
  simp only [Program.bind]
  split
  · next asks =>
    refine ⟨asks, ?_⟩
    rintro (message | runtimeResp) stage moved <;> cases moved
    · exact .inr rfl
    · exact (completeBootstrap_follows req _ _ runtimeResp _ (.inl rfl)).mono
        fun _ _ fits => .inr fits
  · next alone =>
    exact (completeBootstrap_follows req _ _ {} _ (.inr ⟨rfl, rfl⟩)).mono
      fun _ _ fits => .inl ⟨Bool.eq_false_of_not_eq_true alone, fits⟩

theorem bootstrap_follows (raw : EdgeBootstrapRequest) :
    (bootstrap cfg platform raw).Follows (bootstrapCourse cfg platform) (fun _ => Stage.Ended)
      (openingStage platform raw) := by
  unfold bootstrap openingStage
  split
  · refine ⟨rfl, fun reply stage moved => ?_⟩
    cases moved
    trivial
  · next req _ =>
      have stores : ∀ (resp : EdgeBootstrapResponse) (source : String) (working : Stage),
          cfg.hasRuntimeClient = false ∧ working = .creating req ∨ working = .holding req →
          (do match ← BootstrapOp.await (.storeSession req resp source) with
              | some response => BootstrapOp.await (.answer (.ok (200, response)))
              | none => BootstrapOp.await (.answer (.ok (201, resp))) :
            BootstrapHandler Unit).Follows (bootstrapCourse cfg platform) (fun _ => Stage.Ended)
            working := by
        rintro resp source working (⟨alone, rfl⟩ | rfl)
        · refine ⟨⟨rfl, alone⟩, ?_⟩
          rintro (- | response) stage moved <;> cases moved <;> exact answer_follows req _
        · refine ⟨rfl, ?_⟩
          rintro (- | response) stage moved <;> cases moved <;> exact answer_follows req _
      refine ⟨rfl, ?_⟩
      rintro (- | response) stage moved <;> cases moved
      · refine (createBootstrap_follows req).bind fun created stage fits => ?_
        cases created with
        | error failure =>
            rcases fits with ⟨-, rfl⟩ | rfl <;> exact answer_follows req _
        | ok made =>
            rcases fits with ⟨alone, rfl⟩ | rfl
            · exact stores made.1 made.2 _ (.inl ⟨alone, rfl⟩)
            · exact stores made.1 made.2 _ (.inr rfl)
      · exact answer_follows req _

end Courses

/-! ## How far all calls have come -/

section Progress

variable {cfg : Config} {platform : Platform}

/-- How far the call at a position has come. -/
def stageAt (config : Async.Config (bootstrapping cfg platform)) (index : Nat) : Option Stage :=
  config.watched (bootstrapCourse cfg platform) (fun raw => some (openingStage platform raw)) index

/-- The call has got this answer. -/
def Answered (thread : Thread (bootstrapping cfg platform)) (result : BootstrapAnswer) : Prop :=
  ⟨.answer result, ()⟩ ∈ thread.past

/-- What a call has answered at a stage. -/
def Stage.Gave : Stage → BootstrapAnswer → Prop
  | .invalid failure, result => result = .error failure
  | .answered _ given, result => result = given
  | _, _ => False

@[simp] theorem Stage.request_after (stage : Stage) (op : BootstrapOp) (reply : op.Reply) :
    (stage.after platform op reply).request = stage.request := by
  cases stage with
  | invalid failure => cases op <;> rfl
  | fresh req =>
      cases op with
      | findTransaction id => cases reply <;> rfl
      | _ => rfl
  | creating req =>
      cases op with
      | createRuntimeSession => cases reply <;> rfl
      | storeSession asked resp source => cases reply <;> rfl
      | _ => rfl
  | holding req =>
      cases op with
      | createGatewaySession gatewayReq =>
          cases reply with
          | error message => rfl
          | ok gatewayResp =>
              simp only [after, afterGateway]
              split <;> rfl
      | updateRuntimeSession id resp => cases reply <;> rfl
      | storeSession asked resp source => cases reply <;> rfl
      | _ => rfl
  | ending req result => cases op <;> rfl
  | answered req result => cases op <;> rfl

/-- A call keeps the request that it has started with. -/
theorem request_of_watched {thread : Thread (bootstrapping cfg platform)} {stage : Stage}
    (known : thread.watched (bootstrapCourse cfg platform)
      (fun raw => some (openingStage platform raw)) = some stage) :
    stage.request = (openingStage platform thread.job).request := by
  obtain ⟨raw, past, program⟩ := thread
  simp only [Thread.watched] at known
  induction past generalizing stage with
  | nil =>
      cases known
      rfl
  | cons event past ih =>
      obtain ⟨op, reply⟩ := event
      obtain ⟨before, reached, moved⟩ := Option.bind_eq_some_iff.mp known
      cases moved
      rw [Stage.request_after]
      exact ih reached

theorem bodies_follow (raw : EdgeBootstrapRequest) (stage : Stage)
    (opened : some (openingStage platform raw) = some stage) :
    (bootstrap cfg platform raw).Follows (bootstrapCourse cfg platform) (fun _ => Stage.Ended)
      stage := by
  cases opened
  exact bootstrap_follows raw

/-- What a call has answered is what its stage says. -/
theorem gave_of_run {allowed : Async.Config (bootstrapping cfg platform) →
      Action (bootstrapping cfg platform) → Prop} {start : Authority}
    {final : Async.Config (bootstrapping cfg platform)} (run : Run allowed ⟨start, []⟩ final) :
    ∀ thread ∈ final.threads, ∀ stage, thread.watched (bootstrapCourse cfg platform)
      (fun raw => some (openingStage platform raw)) = some stage →
        ∀ result, Answered thread result → stage.Gave result := by
  refine @Run.recorded _ _ _ _ _ _ (fun stage past =>
    ∀ result, ⟨.answer result, ()⟩ ∈ past → stage.Gave result) bodies_follow ?_ ?_ _ _ run
  · intro job stage opened result answered
    cases answered
  · intro stage op reply after past recorded allowed moved result answered
    cases moved
    cases stage with
    | invalid failure =>
        cases allowed
        rcases List.mem_cons.mp answered with now | earlier
        · cases now
          rfl
        · exact recorded result earlier
    | ending req given =>
        cases allowed
        rcases List.mem_cons.mp answered with now | earlier
        · cases now
          rfl
        · exact (recorded result earlier).elim
    | answered req given => cases allowed
    | fresh req =>
        cases allowed
        rcases List.mem_cons.mp answered with now | earlier
        · cases now
        · exact (recorded result earlier).elim
    | creating req =>
        rcases List.mem_cons.mp answered with now | earlier
        · cases now
          exact allowed.elim
        · exact (recorded result earlier).elim
    | holding req =>
        rcases List.mem_cons.mp answered with now | earlier
        · cases now
          exact allowed.elim
        · exact (recorded result earlier).elim

/-- A call that has answered is at its end. -/
theorem gave_of_answered {allowed : Async.Config (bootstrapping cfg platform) →
      Action (bootstrapping cfg platform) → Prop} {start : Authority}
    {final : Async.Config (bootstrapping cfg platform)} (run : Run allowed ⟨start, []⟩ final)
    {thread : Thread (bootstrapping cfg platform)} (member : thread ∈ final.threads)
    {result : BootstrapAnswer} (answered : Answered thread result) :
    ∃ index stage, stageAt final index = some stage ∧ stage.Gave result ∧
      stage.request = (openingStage platform thread.job).request := by
  obtain ⟨index, found⟩ := List.mem_iff_getElem?.mp member
  obtain ⟨stage, known⟩ : ∃ stage, thread.watched (bootstrapCourse cfg platform)
      (fun raw => some (openingStage platform raw)) = some stage :=
    Option.isSome_iff_exists.mp (Monitor.isSome_after (fun _ _ _ => rfl) rfl thread.past)
  exact ⟨index, stage, (Config.watched_of_getElem? found).trans known,
    gave_of_run run thread member stage known result answered, request_of_watched known⟩

end Progress

/-! ## A sample authority -/

/-- The URLs of the sample, as they are parsed. -/
def samplePlatform : Platform where
  urlParse := fun raw =>
    if raw = "https://example.com/" then
      some ⟨"https", "example.com", "/", "", "", ""⟩
    else if raw = "https://remote-browser.example.com" then
      some ⟨"https", "remote-browser.example.com", "", "", "", ""⟩
    else none
  urlString := fun url =>
    url.scheme ++ "://" ++ url.host ++ url.path ++
      if url.rawQuery = "" then "" else "?" ++ url.rawQuery
  hostname := fun url => url.host
  escapedPath := fun url => url.path
  withQuery := fun _ pairs =>
    "&".intercalate (pairs.map fun pair => pair.1 ++ "=" ++ pair.2)
  isIP := fun _ => false
  toLower := fun text => text.toLower
  parseRequestURI := fun _ => none

/-- The defaults of `LoadConfigFromEnv`, with a runtime and without a media gateway. -/
def sampleConfig : Config where
  defaultRegion := "us-east-1"
  regions := ["us-east-1"]
  tenantRegions := []
  gatewaysPerRegion := 2
  workersPerRegion := 8
  zoneSuffixes := ["a", "b", "c"]
  handoffBaseURL := "https://remote-browser.example.com"
  gatewayPublicBaseURL := "https://remote-browser.example.com"
  gatewayPublicWsURL := "wss://remote-browser.example.com/ws"
  viewerEntryMode := "swg-handoff"
  relayMode := "gateway-media-relay"
  runtimeClass := "kata-clh"
  nodePool := "rbi-workers"
  hasRuntimeClient := true
  hasGatewayClient := false

abbrev sampleBootstrapping : System := bootstrapping sampleConfig samplePlatform

def sampleRequest (tenantID : String) : EdgeBootstrapRequest where
  transactionID := "txn-1"
  targetURL := "https://example.com/"
  orgID := tenantID
  boundaryType := "org"
  boundaryID := tenantID
  originID := "origin-1"
  originType := "branch"
  tenantID := tenantID
  profileID := "profile-1"
  policy := "isolate"
  contractVersion := "1"
  requestKind := "navigation"
  originalMethod := "GET"
  provider := "swg"
  providerCategory := "cloud"
  fallbackProvider := "none"
  nonce := "nonce-1"
  keyID := "key-1"
  upstreamHost := "example.com"
  upstreamScheme := "https"
  upstreamPort := "443"

def sampleCall (tenantID : String) : Action sampleBootstrapping := .start (sampleRequest tenantID)

/-- The runtime creates the session of the given name. -/
def runtimeCreates (sessionID : String) : BootstrapChoice :=
  { runtime := .ok { sessionID := sessionID } }

/-- The call at a position has been answered with the status. -/
def succeededAt (status : Nat) (config : Async.Config sampleBootstrapping) (index : Nat) : Bool :=
  config.threads[index]?.any fun thread => thread.past.any fun
    | ⟨.answer (.ok (given, _)), _⟩ => given = status
    | _ => false

theorem exists_of_succeededAt {status : Nat} {config : Async.Config sampleBootstrapping}
    {index : Nat} (passes : succeededAt status config index = true) :
    ∃ thread resp, config.threads[index]? = some thread ∧
      Answered thread (.ok (status, resp)) := by
  obtain ⟨thread, found, passes⟩ := (Option.any_eq_true ..).mp passes
  obtain ⟨event, member, passes⟩ := List.any_eq_true.mp passes
  split at passes
  · next given resp reply =>
      cases of_decide_eq_true passes
      exact ⟨thread, resp, found, member⟩
  · cases passes

end RemoteBrowser.SessionAuthority
