import RemoteBrowser.MediaGateway.Creation

/-!
# Creation on several gateways is idempotent

A call that finds no record of the session, neither in the store nor in its gateway's map, creates
one with texts that it draws.  As long as only one call comes to this, all calls are answered with
its response, and the token in that response opens the viewer on every gateway.
-/

namespace RemoteBrowser.MediaGateway

open Async Text Json

/-! ## The viewer's entrance -/

/-- The session that a path names: `strings.TrimPrefix` and the check that follows it. -/
def gatewayViewerSession (path : String) : Option String :=
  let entry := "/gateway/viewer/"
  let sessionID :=
    if path.startsWith entry then String.ofList (path.toList.drop entry.length) else path
  if sessionID = "" ∨ '/' ∈ sessionID.toList then none else some sessionID

inductive ViewerEntry where
  | notFound
  | unauthorized
  | seeOther (record : SessionRecord)

/-- `handleGatewayViewer`, for what `GetSession` gives it. -/
def handleGatewayViewer (getSession : String → Option SessionRecord) (path entryToken : String) :
    ViewerEntry :=
  match (gatewayViewerSession path).bind getSession with
  | none => .notFound
  | some record =>
      let entered := trimSpace entryToken
      if entered = "" ∨ entered ≠ record.viewerEntryToken then .unauthorized
      else .seeOther record

/-- `GetSession` on one of the gateways, for the session that is created. -/
def Deployment.getSession (state : Deployment) (gateway : Nat) (sessionID : String) :
    Option SessionRecord :=
  match (state.services gateway).sessions.lookup sessionID with
  | some record => some record
  | none => state.stored.bind SessionRecord.reload

/-- Whoever names the session enters the viewer exactly with this token, on every gateway. -/
def OpensEverywhere (state : Deployment) (sessionID token : String) : Prop :=
  ∀ gateway getSession path entryToken,
    getSession sessionID = state.getSession gateway sessionID →
    gatewayViewerSession path = some sessionID →
    ((∃ record, handleGatewayViewer getSession path entryToken = .seeOther record) ↔
      trimSpace entryToken = token)

theorem opensEverywhere_of_token {state : Deployment} {sessionID token : String}
    (present : token ≠ "")
    (shared : ∀ gateway, ∃ record, state.getSession gateway sessionID = some record ∧
      record.viewerEntryToken = token) : OpensEverywhere state sessionID token := by
  intro gateway getSession path entryToken same named
  obtain ⟨record, found, holds⟩ := shared gateway
  simp only [handleGatewayViewer, named, Option.bind_some, same, found, holds]
  constructor
  · rintro ⟨other, entered⟩
    split at entered
    · cases entered
    · next passed => exact not_not.mp fun different => passed (.inr different)
  · intro equal
    refine ⟨record, ?_⟩
    rw [if_neg]
    simp [equal, present]

/-! ## Drawn texts -/

theorem hexDigit_mem (value : Nat) : hexDigit value ∈ "0123456789abcdef".toList := by
  have inside : value % 16 < "0123456789abcdef".toList.length := Nat.mod_lt _ (by decide)
  rw [hexDigit, List.getD_eq_getElem?_getD, List.getElem?_eq_getElem inside]
  exact List.getElem_mem inside

/-- A drawn text has no white space at its ends. -/
theorem trimSpace_newOpaqueID (bytes : Nat) :
    trimSpace (newOpaqueID "entry_" bytes) = newOpaqueID "entry_" bytes := by
  refine trimSpace_of_forall fun char member => ?_
  rw [newOpaqueID, String.toList_append, List.mem_append] at member
  rcases member with kind | digit
  · revert char
    decide
  · simp only [String.toList_ofList] at digit
    obtain ⟨place, -, rfl⟩ := List.mem_map.mp digit
    have digits : ∀ char ∈ "0123456789abcdef".toList, isUnicodeSpace char = false := by
      decide
    exact digits _ (hexDigit_mem _)

theorem newOpaqueID_ne_empty (bytes : Nat) : newOpaqueID "entry_" bytes ≠ "" := by
  intro empty
  have chars := congrArg (fun text : String => text.toList.length) empty
  simp [newOpaqueID] at chars

/-! ## Sole creation -/

/-- The call has created the session. -/
def Stage.hasCreated : Stage → Bool
  | .creating _ => true
  | .failed _ => true
  | .ending (.saved _) => true
  | .answered (.saved _) => true
  | _ => false

section Condition

variable (cfg : Nat → Config)

/-- The gateway has no record of the session and room for it. -/
def Deployment.wouldCreate (state : Deployment) (choice : CreateChoice) (gateway : Nat)
    (req : SessionRequest) : Bool :=
  ((state.services gateway).sessions.lookup req.sessionID).isNone &&
    (Service.evaluateAdmission (cfg gateway)
      { state.services gateway with now := choice.now } req).isOk

variable {cfg} {platform : Platform} {sessionID : String}

/-- Nothing fails, and whoever creates the session is the first one to do so, with a request that
can be read back from the store. -/
def solelyCreates (config : Async.Config (creation cfg platform sessionID)) :
    Action (creation cfg platform sessionID) → Bool
  | .start _ => true
  | .resume index (choice : CreateChoice) =>
      choice.succeeds && (courseAt config index).all fun course =>
        match course.stage with
        | .missing req =>
            !config.state.wouldCreate cfg choice course.gateway req ||
              !someCall Stage.hasCreated config && decide (req.depth + 2 ≤ maxNestingDepth)
        | _ => true

end Condition

/-! ## The invariant -/

/-- The record carries a token of its own, which its response passes on, and can be read back
from the store. -/
structure Genuine (platform : Platform) (sessionID : String) (record : SessionRecord) : Prop where
  present : record.viewerEntryToken ≠ ""
  trimmed : trimSpace record.viewerEntryToken = record.viewerEntryToken
  passed : ∃ base transport, record.response.transport.viewerURL =
    buildViewerURL platform base sessionID transport record.viewerEntryToken
  shallow : record.request.depth + 2 ≤ maxNestingDepth

def Ending.Agrees (record : Option SessionRecord) : Ending → Prop
  | .found (.ok (_, response)) => record.map SessionRecord.response = some response
  | .found (.error _) => True
  | .refused _ => True
  | .saved own => record = some own
  | .removed => False

/-- What the call has got or made is this record. -/
def Stage.Agrees (sessionID : String) (record : Option SessionRecord) : Stage → Prop
  | .fresh req => req.sessionID = sessionID
  | .missing req => req.sessionID = sessionID
  | .creating own => record = some own
  | .failed _ => False
  | .ending how => how.Agrees record
  | .answered how => how.Agrees record

/-- The call has created this record, and has saved it if it is beyond that. -/
def Stage.Created (record : SessionRecord) (stored : Option SessionRecord) (stage : Stage) :
    Prop :=
  stage = .creating record ∨ stage.hasCreated = true ∧ stored = some record

/-- There is at most one record, on the gateways, in the store and with the calls. -/
structure Agreed (platform : Platform) (sessionID : String) (state : Deployment)
    (courses : Nat → Option Course) (record : Option SessionRecord) : Prop where
  genuine : ∀ own, record = some own → Genuine platform sessionID own
  maps : ∀ gateway other,
    (state.services gateway).sessions.lookup sessionID = some other → record = some other
  store : ∀ other, state.stored = some other → record = some other
  stages : ∀ index course, courses index = some course → course.stage.Agrees sessionID record
  creator : ∀ own, record = some own → ∃ index course, courses index = some course ∧
    course.stage.Created own state.stored

section Agreement

variable {platform : Platform} {sessionID : String} {state changed : Deployment}
  {courses : Nat → Option Course} {record : Option SessionRecord}

/-- One call comes to another stage, with the same record. -/
theorem Agreed.change (agreed : Agreed platform sessionID state courses record) {index : Nat}
    {gateway : Nat} {stage : Stage} (agrees : stage.Agrees sessionID record)
    (maps : ∀ gateway other,
      (changed.services gateway).sessions.lookup sessionID = some other → record = some other)
    (store : ∀ other, changed.stored = some other → record = some other)
    (persists : ∀ other, state.stored = some other → changed.stored = some other)
    (own : ∀ record course, courses index = some course →
      course.stage.Created record state.stored → stage.Created record changed.stored) :
    Agreed platform sessionID changed
      (Function.update courses index (some ⟨gateway, stage⟩)) record := by
  refine ⟨agreed.genuine, maps, store, ?_, ?_⟩
  · intro other course located
    rw [Function.update_apply] at located
    split at located
    · cases located
      exact agrees
    · exact agreed.stages other course located
  · intro made known
    obtain ⟨creator, course, located, created⟩ := agreed.creator made known
    by_cases same : creator = index
    · subst same
      exact ⟨creator, ⟨gateway, stage⟩, Function.update_self .., own made course located created⟩
    · refine ⟨creator, course, ?_, created.imp_right fun ⟨past, saved⟩ =>
        ⟨past, persists made saved⟩⟩
      rw [Function.update_of_ne same]
      exact located

/-- A call that has created nothing comes to another stage, in the same state. -/
theorem Agreed.move (agreed : Agreed platform sessionID state courses record) {index : Nat}
    {before : Course} (located : courses index = some before)
    (uninvolved : before.stage.hasCreated = false) {gateway : Nat} {stage : Stage}
    (agrees : stage.Agrees sessionID record) :
    Agreed platform sessionID state
      (Function.update courses index (some ⟨gateway, stage⟩)) record := by
  refine agreed.change agrees agreed.maps agreed.store (fun _ saved => saved) ?_
  intro made course found created
  cases located.symm.trans found
  rcases created with creating | ⟨past, -⟩
  · rw [creating] at uninvolved
    cases uninvolved
  · rw [past] at uninvolved
    cases uninvolved

/-- The first creation. -/
theorem Agreed.create (agreed : Agreed platform sessionID state courses none) {index : Nat}
    {gateway : Nat} {own : SessionRecord} (genuine : Genuine platform sessionID own)
    {sessions : AList fun _ : String => SessionRecord}
    (inserted : sessions = (state.services gateway).sessions.insert sessionID own) :
    Agreed platform sessionID (state.setSessions gateway sessions)
      (Function.update courses index (some ⟨gateway, .creating own⟩)) (some own) := by
  have blank : ∀ stage : Stage, stage.Agrees sessionID none →
      stage.Agrees sessionID (some own) := by
    intro stage agrees
    cases stage with
    | creating other => cases agrees
    | ending how | answered how =>
        cases how with
        | found result =>
            cases result with
            | ok reply => cases agrees
            | error failure => trivial
        | saved other => cases agrees
        | _ => exact agrees
    | _ => exact agrees
  refine ⟨?_, ?_, ?_, ?_, ?_⟩
  · intro other same
    cases same
    exact genuine
  · intro target other found
    rw [Deployment.setSessions_sessions] at found
    split at found
    · rw [inserted, AList.lookup_insert] at found
      exact found
    · cases agreed.maps target other found
  · intro other saved
    cases agreed.store other saved
  · intro other course located
    rw [Function.update_apply] at located
    split at located
    · cases located
      rfl
    · exact blank _ (agreed.stages other course located)
  · intro other same
    cases same
    exact ⟨index, _, Function.update_self .., .inl rfl⟩

/-- The creator saves its record. -/
theorem Agreed.save (agreed : Agreed platform sessionID state courses record) {index : Nat}
    {gateway : Nat} {own : SessionRecord}
    (located : courses index = some ⟨gateway, .creating own⟩) :
    Agreed platform sessionID { state with stored := some own }
      (Function.update courses index (some ⟨gateway, .ending (.saved own)⟩)) record := by
  have known : record = some own := agreed.stages index _ located
  refine agreed.change known agreed.maps ?_ ?_ ?_
  · intro other saved
    cases saved
    exact known
  · intro other saved
    exact known.symm.trans (agreed.store other saved)
  · intro made course found created
    cases located.symm.trans found
    rcases created with creating | ⟨-, saved⟩
    · cases creating
      exact .inr ⟨rfl, rfl⟩
    · exact .inr ⟨rfl, known.symm.trans (agreed.store made saved)⟩

theorem Agreed.respond (agreed : Agreed platform sessionID state courses record) {index : Nat}
    {gateway : Nat} {how : Ending} (located : courses index = some ⟨gateway, .ending how⟩) :
    Agreed platform sessionID state
      (Function.update courses index (some ⟨gateway, .answered how⟩)) record := by
  have agrees : (Stage.answered how).Agrees sessionID record := agreed.stages index _ located
  refine agreed.change agrees agreed.maps agreed.store (fun _ saved => saved) ?_
  intro made course found created
  cases located.symm.trans found
  rcases created with creating | ⟨past, saved⟩
  · cases creating
  · refine .inr ⟨?_, saved⟩
    cases how with
    | saved own => rfl
    | _ => cases past

/-- Nobody has created the session if there is no record of it. -/
theorem Agreed.record_eq_none (agreed : Agreed platform sessionID state courses record)
    (nobody : ∀ index course, courses index = some course → course.stage.hasCreated = false) :
    record = none := by
  cases record with
  | none => rfl
  | some own =>
      obtain ⟨index, course, located, created⟩ := agreed.creator own rfl
      have uninvolved := nobody index course located
      rcases created with creating | ⟨past, -⟩
      · rw [creating] at uninvolved
        cases uninvolved
      · rw [past] at uninvolved
        cases uninvolved

/-- The answer of a call that finds the record agrees with it. -/
theorem agrees_replayAnswer {own found : SessionRecord} (known : record = some own)
    (same : found.response = own.response) (req : SessionRequest) :
    (Ending.found (replayAnswer found req)).Agrees record := by
  subst known
  rw [replayAnswer]
  split
  · exact congrArg some same.symm
  · trivial

theorem Ending.agrees_ofStored {result : CreateAnswer}
    (agrees : (Ending.found result).Agrees record) : (Ending.ofStored result).Agrees record := by
  cases result with
  | ok reply => exact agrees
  | error failure => trivial

end Agreement

/-! ## All calls -/

section Runs

variable {cfg : Nat → Config} {platform : Platform} {sessionID : String}

theorem newRecord_genuine {service : Service} {own : Config} {req : SessionRequest}
    {choice : CreateChoice} (concerned : req.sessionID = sessionID)
    (shallow : req.depth + 2 ≤ maxNestingDepth) :
    Genuine platform sessionID (service.newRecord own platform req choice.draws) := by
  subst concerned
  exact ⟨newOpaqueID_ne_empty _, trimSpace_newOpaqueID _, ⟨_, _, rfl⟩, shallow⟩

theorem reload_of_genuine {own : SessionRecord} (genuine : Genuine platform sessionID own) :
    ∃ loaded, own.reload = some loaded ∧ loaded.response = own.response ∧
      loaded.viewerEntryToken = own.viewerEntryToken :=
  ⟨_, loadSession_saveSession own ((saveSession_depth_le_iff own).mpr genuine.shallow), rfl, rfl⟩

/-- The critical section keeps the agreement. -/
theorem Agreed.admission {state : Deployment} {courses : Nat → Option Course}
    {record : Option SessionRecord} (agreed : Agreed platform sessionID state courses record)
    {index gateway : Nat} {req : SessionRequest} {choice : CreateChoice}
    (located : courses index = some ⟨gateway, .missing req⟩)
    (sole : state.wouldCreate cfg choice gateway req = true →
      (∀ index course, courses index = some course → course.stage.hasCreated = false) ∧
        req.depth + 2 ≤ maxNestingDepth) :
    let outcome := state.admission cfg platform choice gateway req
    ∃ record, Agreed platform sessionID (state.setSessions gateway outcome.1.sessions)
      (Function.update courses index
        (some ⟨gateway, Stage.after (.missing req) (.admission gateway req) outcome.2⟩)) record := by
  have concerned : req.sessionID = sessionID := agreed.stages index _ located
  obtain ⟨found, hit, told, same⟩ | ⟨failure, miss, told, same⟩ | ⟨miss, room, told, same⟩ :=
    state.admission_cases cfg platform choice gateway req
  · simp only [told, same, Deployment.setSessions_self]
    rw [concerned] at hit
    exact ⟨record, agreed.move located rfl
      (agrees_replayAnswer (agreed.maps gateway found hit) rfl req)⟩
  · simp only [told, same, Deployment.setSessions_self]
    exact ⟨record, agreed.move located rfl trivial⟩
  · have creates : state.wouldCreate cfg choice gateway req = true := by
      simp only [Deployment.wouldCreate, miss, room]
      rfl
    obtain ⟨nobody, shallow⟩ := sole creates
    cases agreed.record_eq_none nobody
    simp only [told]
    rw [concerned] at same
    exact ⟨_, agreed.create (newRecord_genuine concerned shallow) same⟩

theorem agreed_watch : Watch (S := creation cfg platform sessionID) createCourse
    (CreateCall.opening cfg platform) (fun config action => solelyCreates config action)
    (fun _ => False) (fun state courses => ∃ record,
      Agreed platform sessionID state courses record) := by
  refine ⟨?_, ?_, fun _ _ _ _ _ impossible => impossible.elim⟩
  · rintro config index ⟨target, request⟩ ⟨record, agreed⟩ vacant - enabled
    have concerned : CreateCall.concerns cfg platform sessionID ⟨target, request⟩ = true :=
      enabled
    unfold CreateCall.concerns at concerned
    have begins : ∀ stage : Stage, stage.Agrees sessionID record → Agreed platform sessionID
        config.state (Function.update (courseAt config) index (some ⟨target, stage⟩)) record := by
      intro stage agrees
      refine agreed.change agrees agreed.maps agreed.store (fun _ saved => saved) ?_
      intro made course found
      cases vacant.symm.trans found
    unfold CreateCall.opening
    cases validated : validateRequest platform (cfg target) request with
    | error failure => exact ⟨record, begins (.ending (.refused failure)) trivial⟩
    | ok req =>
        simp only [validated, decide_eq_true_eq] at concerned
        exact ⟨record, begins (.fresh req) concerned⟩
  · rintro config index choice op ⟨target, stage⟩ ⟨record, agreed⟩ located allowed - permitted
    have condition : solelyCreates config (.resume index choice) = true := permitted
    simp only [solelyCreates, courseAt, located, Option.all_some, Bool.and_eq_true] at condition
    obtain ⟨succeeds, sole⟩ := condition
    cases stage with
    | fresh req =>
        cases (show op = .getStoredSession from allowed)
        have concerned : req.sessionID = sessionID := agreed.stages index _ located
        have replied : (createExec cfg platform sessionID choice .getStoredSession
            config.state).2 = config.state.stored.bind SessionRecord.reload := if_pos succeeds
        change ∃ record, Agreed platform sessionID config.state (Function.update _ index
          (some ⟨target, Stage.after (.fresh req) .getStoredSession
            (createExec cfg platform sessionID choice .getStoredSession config.state).2⟩)) record
        rw [replied]
        refine ⟨record, ?_⟩
        cases stored : config.state.stored with
        | none => exact agreed.move located rfl concerned
        | some own =>
            have known := agreed.store own stored
            obtain ⟨loaded, reloaded, same, -⟩ := reload_of_genuine (agreed.genuine own known)
            rw [Option.bind_some, reloaded]
            exact agreed.move located rfl
              (Ending.agrees_ofStored (agrees_replayAnswer known same req))
    | missing req =>
        cases (show op = .admission target req from allowed)
        refine agreed.admission located fun creates => ?_
        simp only [creates, Bool.not_true, Bool.false_or, Bool.and_eq_true, Bool.not_eq_true',
          decide_eq_true_eq] at sole
        exact ⟨fun _ _ found => stage_of_someCall sole.1 found, sole.2⟩
    | creating own =>
        cases (show op = .storeSession own from allowed)
        refine ⟨record, ?_⟩
        have saves : createExec cfg platform sessionID choice (.storeSession own) config.state =
            ({ config.state with stored := some own }, true) := if_pos succeeds
        change Agreed platform sessionID
          (createExec cfg platform sessionID choice (.storeSession own) config.state).1
          (Function.update _ index (some ⟨target, Stage.after (.creating own) (.storeSession own)
            (createExec cfg platform sessionID choice (.storeSession own) config.state).2⟩)) record
        rw [saves]
        exact agreed.save located
    | failed own => exact (agreed.stages index _ located).elim
    | ending how =>
        cases (show op = .answer how.result from allowed)
        exact ⟨record, agreed.respond located⟩
    | answered how => exact allowed.elim

/-- Neither a gateway nor the store has a record of the session. -/
def Deployment.IsNew (state : Deployment) (sessionID : String) : Prop :=
  state.stored = none ∧ ∀ gateway, (state.services gateway).sessions.lookup sessionID = none

theorem agreed_of_run {start : Deployment} (new : start.IsNew sessionID)
    {final : Async.Config (creation cfg platform sessionID)}
    (run : Run (fun config action => solelyCreates config action) ⟨start, []⟩ final) :
    ∃ record, Agreed platform sessionID final.state (courseAt final) record := by
  refine agreed_watch.run (createSession_follows cfg platform) (fun job => ?_)
    (fun _ _ _ => rfl) run ⟨none, ?_, ?_, ?_, ?_, ?_⟩
  · exact Program.issues_of_all (fun op unopened => by cases unopened) _
  · intro own impossible
    cases impossible
  · intro gateway other found
    cases (new.2 gateway).symm.trans found
  · intro other found
    cases new.1.symm.trans found
  · intro index course located
    cases located
  · intro own impossible
    cases impossible

/-- All calls that succeed get the same response, which is that of the stored record.  When all
calls have returned there is one, the response passes on its token, and this opens the viewer on
every gateway. -/
def AnsweredAlike (final : Async.Config (creation cfg platform sessionID)) : Prop :=
  ∀ thread ∈ final.threads, ∀ status response, Answered thread (.ok (status, response)) →
    (∀ other ∈ final.threads, ∀ otherStatus otherResponse,
      Answered other (.ok (otherStatus, otherResponse)) → otherResponse = response) ∧
    (∀ record, final.state.stored = some record → record.response = response) ∧
    (final.Quiescent → ∃ record base transport, final.state.stored = some record ∧
      response.transport.viewerURL =
        buildViewerURL platform base sessionID transport record.viewerEntryToken ∧
      trimSpace record.viewerEntryToken = record.viewerEntryToken ∧
      OpensEverywhere final.state sessionID record.viewerEntryToken)

/-- The record of a call that was answered. -/
theorem Agreed.of_answered {start : Deployment} {record : Option SessionRecord}
    {final : Async.Config (creation cfg platform sessionID)}
    (agreed : Agreed platform sessionID final.state (courseAt final) record)
    {allowed : Async.Config (creation cfg platform sessionID) →
      Action (creation cfg platform sessionID) → Prop}
    (run : Run allowed ⟨start, []⟩ final) {thread : Thread (creation cfg platform sessionID)}
    (member : thread ∈ final.threads) {status : Nat} {response : SessionResponse}
    (answered : Answered thread (.ok (status, response))) :
    ∃ own, record = some own ∧ own.response = response := by
  obtain ⟨index, found⟩ := List.mem_iff_getElem?.mp member
  obtain ⟨gateway, how, located, result⟩ := answered_of_run run found answered
  have agrees : how.Agrees record := agreed.stages index _ located
  cases how with
  | found answer =>
      cases (show answer = .ok (status, response) from result)
      exact Option.map_eq_some_iff.mp agrees
  | saved own =>
      cases result
      exact ⟨own, agrees, rfl⟩
  | refused failure => cases result
  | removed => cases result

/-- Once all calls have returned, the record is saved. -/
theorem Agreed.stored_of_quiescent {start : Deployment} {own : SessionRecord}
    {final : Async.Config (creation cfg platform sessionID)}
    (agreed : Agreed platform sessionID final.state (courseAt final) (some own))
    {allowed : Async.Config (creation cfg platform sessionID) →
      Action (creation cfg platform sessionID) → Prop}
    (run : Run allowed ⟨start, []⟩ final) (quiescent : final.Quiescent) :
    final.state.stored = some own := by
  obtain ⟨index, course, located, created⟩ := agreed.creator own rfl
  obtain ⟨thread, found, known⟩ := Config.watched_eq_some.mp located
  have member := List.mem_of_getElem? found
  have obeys := run.obeys (createSession_follows cfg platform) (by simp) thread member
  obtain ⟨how, ended⟩ := obeys.post_of_finished known (quiescent thread member)
  rcases created with creating | ⟨-, saved⟩
  · cases ended.symm.trans creating
  · exact saved

/-- What every gateway finds carries the token of the record. -/
theorem Agreed.getSession {state : Deployment} {courses : Nat → Option Course}
    {own : SessionRecord} (agreed : Agreed platform sessionID state courses (some own))
    (saved : state.stored = some own) (gateway : Nat) :
    ∃ record, state.getSession gateway sessionID = some record ∧
      record.viewerEntryToken = own.viewerEntryToken := by
  unfold Deployment.getSession
  cases found : (state.services gateway).sessions.lookup sessionID with
  | some record =>
      cases agreed.maps gateway record found
      exact ⟨own, rfl, rfl⟩
  | none =>
      obtain ⟨loaded, reloaded, -, same⟩ := reload_of_genuine (agreed.genuine own rfl)
      exact ⟨loaded, by rw [saved, Option.bind_some, reloaded], same⟩

end Runs

/-- Calls for a new session on gateways that share a store are answered alike in every run in
which nothing fails and only the first call that finds no record creates one, from a request that
can be read back. -/
theorem creation_is_idempotent (cfg : Nat → Config) (platform : Platform) (sessionID : String)
    (start : Deployment) (new : start.IsNew sessionID)
    (final : Async.Config (creation cfg platform sessionID))
    (run : Run (fun config action => solelyCreates config action) ⟨start, []⟩ final) :
    AnsweredAlike final := by
  obtain ⟨record, agreed⟩ := agreed_of_run new run
  intro thread member status response answered
  obtain ⟨own, rfl, same⟩ := agreed.of_answered run member answered
  refine ⟨?_, ?_, ?_⟩
  · intro other otherMember otherStatus otherResponse otherAnswered
    obtain ⟨_, same', also⟩ := agreed.of_answered run otherMember otherAnswered
    cases same'
    exact also.symm.trans same
  · intro record saved
    cases agreed.store record saved
    exact same
  · intro quiescent
    have saved := agreed.stored_of_quiescent run quiescent
    have genuine := agreed.genuine own rfl
    obtain ⟨base, transport, passed⟩ := genuine.passed
    exact ⟨own, base, transport, saved, same ▸ passed, genuine.trimmed,
      opensEverywhere_of_token genuine.present (agreed.getSession saved)⟩

/-! ## Sample runs -/

theorem emptyDeployment_isNew : emptyDeployment.IsNew "rbi-1" := ⟨rfl, fun _ => rfl⟩

/-- Two calls find nothing in the store, and the second one finds the first one's record in the map
of the gateway; a third one on another gateway finds it in the store. -/
def sharedCreation : List (Action sampleCreation) :=
  sampleStart 0 :: sampleStart 0 :: Action.resumes 0 1 usualChoice ++
    Action.resumes 1 1 usualChoice ++ Action.resumes 0 1 usualChoice ++
    Action.resumes 1 2 usualChoice ++ Action.resumes 0 2 usualChoice ++
    sampleStart 1 :: Action.resumes 2 2 usualChoice

theorem shared_creation_is_answered_alike :
    ∃ final : Async.Config sampleCreation,
      Run (fun config action => solelyCreates config action) ⟨emptyDeployment, []⟩ final ∧
      (∀ index < 3, answeredAt Except.isOk final index = true) ∧ final.Quiescent ∧
      AnsweredAlike final := by
  obtain ⟨final, run, seen⟩ := Run.exists_of_schedule
    (fun config action (sole : solelyCreates config action = true) => sole)
    (⟨emptyDeployment, []⟩ : Async.Config sampleCreation) sharedCreation
    (fun final => (List.range 3).all (answeredAt Except.isOk final) && decide final.Quiescent)
    (by decide +kernel)
  obtain ⟨answered, returned⟩ := Bool.and_eq_true_iff.mp seen
  have all (index : Nat) (called : index < 3) :=
    List.all_eq_true.mp answered index (List.mem_range.mpr called)
  exact ⟨final, run, all, of_decide_eq_true returned,
    creation_is_idempotent _ plainPlatform "rbi-1" emptyDeployment emptyDeployment_isNew final
      run⟩

def drawsAnew : CreateChoice := { entryBytes := 1, bridgeBytes := 1 }

/-- Nothing fails. -/
def succeeds (_ : Async.Config sampleCreation) : Action sampleCreation → Bool
  | .start _ => true
  | .resume _ (choice : CreateChoice) => choice.succeeds

/-- Two gateways look the session up before either of them has saved it. -/
def twoCreations : List (Action sampleCreation) :=
  sampleStart 0 :: sampleStart 1 :: Action.resumes 0 1 usualChoice ++
    Action.resumes 1 1 usualChoice ++ Action.resumes 0 3 usualChoice ++
    Action.resumes 1 3 drawsAnew

/-- The call was answered with a response that has the bridge drawn from these bytes. -/
def bridges (bytes : Nat) : CreateAnswer → Bool
  | .ok (_, response) => response.workerBridge.bridgeID = newOpaqueID "bridge_" bytes
  | .error _ => false

theorem two_gateways_create_one_session_twice :
    ¬∀ final : Async.Config sampleCreation,
      Run (fun config action => succeeds config action) ⟨emptyDeployment, []⟩ final →
        AnsweredAlike final := by
  intro always
  obtain ⟨final, run, seen⟩ := Run.exists_of_schedule
    (fun config action (fine : succeeds config action = true) => fine)
    (⟨emptyDeployment, []⟩ : Async.Config sampleCreation) twoCreations
    (fun final => answeredAt (bridges 0) final 0 && answeredAt (bridges 1) final 1)
    (by rfl)
  obtain ⟨first, second⟩ := Bool.and_eq_true_iff.mp seen
  obtain ⟨one, result, located, answered, bridge⟩ := exists_of_answeredAt first
  obtain ⟨other, another, there, replied, bridged⟩ := exists_of_answeredAt second
  cases result with
  | error failure => cases bridge
  | ok reply =>
      cases another with
      | error failure => cases bridged
      | ok replay =>
          obtain ⟨status, response⟩ := reply
          obtain ⟨otherStatus, otherResponse⟩ := replay
          have same : otherResponse = response :=
            (always final run one (List.mem_of_getElem? located) status response answered).1
              other (List.mem_of_getElem? there) otherStatus otherResponse replied
          have drawn : response.workerBridge.bridgeID = newOpaqueID "bridge_" 0 :=
            of_decide_eq_true bridge
          have drawnAnew : otherResponse.workerBridge.bridgeID = newOpaqueID "bridge_" 1 :=
            of_decide_eq_true bridged
          rw [same, drawn] at drawnAnew
          revert drawnAnew
          decide

end RemoteBrowser.MediaGateway
