import RemoteBrowser.SessionAuthority.Bootstrap

/-!
# Transactions

A transaction id leads to the record that was stored for it first, and every later call of the
transaction is answered from that record.  Neither of the two lookups compares requests, and
nothing takes back the session that the runtime has created for a call which fails later on or
loses to another one.
-/

namespace RemoteBrowser.SessionAuthority

open Async
open MediaGateway (ApiError SessionResponse)

/-! ## The records of transactions -/

/-- The record of a transaction. -/
def Authority.recordOf (state : Authority) (transactionID : String) : Option SessionRecord :=
  (state.transactions transactionID).bind state.sessions

/-- A new record is not stored under a session id that is in use. -/
def Authority.Unshared (state : Authority) : BootstrapOp → Prop
  | .storeSession req resp _ =>
      state.transactions req.transactionID = none → state.sessions resp.sessionID = none
  | _ => True

/-- The request of a call that has not yet come to its end. -/
def Stage.pending : Stage → Option EdgeBootstrapRequest
  | .fresh req | .creating req | .holding req => some req
  | _ => none

/-- The request of a call that succeeds, and the response it is given. -/
def Stage.told : Stage → Option (EdgeBootstrapRequest × EdgeBootstrapResponse)
  | .ending req (.ok (_, resp)) | .answered req (.ok (_, resp)) => some (req, resp)
  | _ => none

/-- Every transaction has a record, and whoever succeeds is given its response. -/
structure Kept (state : Authority) (states : Nat → Option Stage) : Prop where
  stored : ∀ id sessionID, state.transactions id = some sessionID →
    (state.sessions sessionID).isSome = true
  told : ∀ index stage req resp, states index = some stage → stage.told = some (req, resp) →
    ∃ record, state.recordOf req.transactionID = some record ∧ record.response = resp

section Records

variable {cfg : Config} {platform : Platform}

theorem Kept.responseOf {state : Authority} {states : Nat → Option Stage}
    (kept : Kept state states) (id : String) :
    state.responseOf id = (state.recordOf id).map SessionRecord.response := by
  unfold Authority.responseOf Authority.recordOf
  cases found : state.transactions id with
  | none => rfl
  | some sessionID =>
      obtain ⟨record, known⟩ := Option.isSome_iff_exists.mp (kept.stored id sessionID found)
      simp [known]

theorem Kept.recordOf_store {state : Authority} {states : Nat → Option Stage}
    (kept : Kept state states) {now : Int} {req : EdgeBootstrapRequest}
    {resp : EdgeBootstrapResponse} {source : String}
    (fresh : state.sessions resp.sessionID = none) (id : String) :
    (state.store now req resp source).recordOf id =
      if id = req.transactionID then some ⟨req, resp, now, source⟩ else state.recordOf id := by
  unfold Authority.recordOf Authority.store
  by_cases own : id = req.transactionID
  · subst own
    simp
  · rw [if_neg own]
    dsimp only
    rw [Function.update_of_ne own]
    cases found : state.transactions id with
    | none => rfl
    | some sessionID =>
        have different : sessionID ≠ resp.sessionID := by
          rintro rfl
          have known := kept.stored id resp.sessionID found
          rw [fresh] at known
          cases known
        simp [different]

theorem Authority.responseOf_eq_none {state : Authority} {id : String} :
    state.responseOf id = none ↔ state.transactions id = none :=
  Option.map_eq_none_iff

/-- Records are never replaced. -/
theorem Kept.exec_recordOf {state : Authority} {states : Nat → Option Stage}
    (kept : Kept state states) {op : BootstrapOp} (unshared : state.Unshared op)
    (choice : BootstrapChoice) {id : String} {record : SessionRecord}
    (found : state.recordOf id = some record) :
    (bootstrapExec cfg choice op state).1.recordOf id = some record := by
  cases op with
  | storeSession req resp source =>
      simp only [bootstrapExec]
      split
      · exact found
      · next unknown =>
          have missing := Authority.responseOf_eq_none.mp unknown
          rw [kept.recordOf_store (unshared missing)]
          rw [if_neg ?_]
          · exact found
          · rintro rfl
            rw [Authority.recordOf, missing] at found
            cases found
  | _ => exact found

/-- A record that answers a call: the one that was there before, or one for its own request. -/
def Answers (before after : Authority) (req : EdgeBootstrapRequest)
    (resp : EdgeBootstrapResponse) : Prop :=
  ∃ record, after.recordOf req.transactionID = some record ∧ record.response = resp ∧
    (record.request = req ∨ before.recordOf req.transactionID = some record)

theorem Kept.answers_of_responseOf {state : Authority} {states : Nat → Option Stage}
    (kept : Kept state states) {req : EdgeBootstrapRequest} {resp : EdgeBootstrapResponse}
    (found : state.responseOf req.transactionID = some resp) : Answers state state req resp := by
  rw [kept.responseOf] at found
  obtain ⟨record, known, given⟩ := Option.map_eq_some_iff.mp found
  exact ⟨record, known, given, .inr known⟩

theorem Kept.answers_of_store (cfg : Config) {state : Authority} {states : Nat → Option Stage}
    (kept : Kept state states) {req : EdgeBootstrapRequest} {made : EdgeBootstrapResponse}
    {source : String} (unshared : state.Unshared (.storeSession req made source))
    (choice : BootstrapChoice) :
    let result := bootstrapExec cfg choice (.storeSession req made source) state
    ∃ resp, (Stage.afterStore req made result.2).told = some (req, resp) ∧
      Answers state result.1 req resp := by
  simp only [bootstrapExec]
  split
  · next existing found => exact ⟨existing, rfl, kept.answers_of_responseOf found⟩
  · next unknown =>
      have missing := Authority.responseOf_eq_none.mp unknown
      refine ⟨made, rfl, ⟨req, made, choice.now, source⟩, ?_, rfl, .inl rfl⟩
      rw [kept.recordOf_store (unshared missing), if_pos rfl]

/-- Whoever comes to succeed is given the response of the transaction's record. -/
theorem told_after {state : Authority} {states : Nat → Option Stage} (kept : Kept state states)
    {stage : Stage} {op : BootstrapOp} (allowed : stage.Allows cfg op)
    (unshared : state.Unshared op) (choice : BootstrapChoice) {req : EdgeBootstrapRequest}
    {resp : EdgeBootstrapResponse}
    (told : (stage.after platform op (bootstrapExec cfg choice op state).2).told =
      some (req, resp)) :
    stage.told = some (req, resp) ∨ stage.pending = some req ∧
      Answers state (bootstrapExec cfg choice op state).1 req resp := by
  cases stage with
  | invalid failure =>
      cases allowed
      cases told
  | fresh asked =>
      cases allowed
      refine .inr ?_
      simp only [bootstrapExec] at told ⊢
      cases found : state.responseOf asked.transactionID with
      | none =>
          rw [found] at told
          cases told
      | some existing =>
          rw [found] at told
          cases told
          exact ⟨rfl, kept.answers_of_responseOf found⟩
  | creating asked =>
      cases op with
      | assignWorker _ | assignGateway _ _ _ | newOpaqueID _ => cases told
      | createRuntimeSession =>
          simp only [bootstrapExec] at told
          generalize choice.runtime = reply at told
          cases reply <;> cases told
      | storeSession stored made source =>
          obtain ⟨rfl, -⟩ := allowed
          obtain ⟨given, tells, answers⟩ := kept.answers_of_store cfg unshared choice
          cases tells.symm.trans told
          exact .inr ⟨rfl, answers⟩
      | _ => exact allowed.elim
  | holding asked =>
      cases op with
      | newOpaqueID _ => cases told
      | createGatewaySession gatewayReq =>
          simp only [bootstrapExec, Stage.after] at told
          generalize choice.gateway = reply at told
          cases reply with
          | error message => cases told
          | ok gatewayResp =>
              simp only [Stage.afterGateway] at told
              generalize validateMediaGatewaySessionResponse platform gatewayReq gatewayResp = judged
                at told
              cases judged <;> cases told
      | updateRuntimeSession _ _ =>
          simp only [bootstrapExec] at told
          generalize choice.runtime = reply at told
          cases reply <;> cases told
      | storeSession stored made source =>
          cases allowed
          obtain ⟨given, tells, answers⟩ := kept.answers_of_store cfg unshared choice
          cases tells.symm.trans told
          exact .inr ⟨rfl, answers⟩
      | _ => exact allowed.elim
  | ending asked result =>
      cases allowed
      cases result <;> exact .inl told
  | answered asked result => exact allowed.elim

theorem Kept.resume {state : Authority} {states : Nat → Option Stage} (kept : Kept state states)
    {index : Nat} {stage : Stage} (located : states index = some stage) {op : BootstrapOp}
    (allowed : stage.Allows cfg op) (unshared : state.Unshared op) (choice : BootstrapChoice) :
    Kept (bootstrapExec cfg choice op state).1
      (Function.update states index
        (some (stage.after platform op (bootstrapExec cfg choice op state).2))) := by
  constructor
  case stored =>
    intro id sessionID found
    cases op with
    | storeSession req resp source =>
        simp only [bootstrapExec] at found ⊢
        split at found
        · exact kept.stored id sessionID found
        · simp only [Authority.store, Function.update_apply] at found ⊢
          split
          · rfl
          · next other =>
              split at found
              · exact absurd (Option.some.inj found).symm other
              · exact kept.stored id sessionID found
    | _ => exact kept.stored id sessionID found
  case told =>
    intro position now req resp found told
    rw [Function.update_apply] at found
    split at found
    · cases found
      rcases told_after kept allowed unshared choice told with
        before | ⟨-, record, known, given, -⟩
      · obtain ⟨record, known, given⟩ := kept.told index stage req resp located before
        exact ⟨record, kept.exec_recordOf unshared choice known, given⟩
      · exact ⟨record, known, given⟩
    · obtain ⟨record, known, given⟩ := kept.told position now req resp found told
      exact ⟨record, kept.exec_recordOf unshared choice known, given⟩

theorem Kept.start {state : Authority} {states : Nat → Option Stage} (kept : Kept state states)
    (index : Nat) (raw : EdgeBootstrapRequest) :
    Kept state (Function.update states index (some (openingStage platform raw))) := by
  refine ⟨kept.stored, fun position stage req resp found told => ?_⟩
  rw [Function.update_apply] at found
  split at found
  · cases found
    unfold openingStage at told
    split at told <;> cases told
  · exact kept.told position stage req resp found told

theorem request_of_pending {stage : Stage} {req : EdgeBootstrapRequest}
    (pending : stage.pending = some req) : stage.request = some req := by
  cases stage with
  | fresh asked | creating asked | holding asked => exact pending
  | invalid failure | ending asked result | answered asked result => cases pending

/-- A call that has not come to its end was not further before. -/
theorem pending_after {stage : Stage} {op : BootstrapOp} {reply : op.Reply}
    {req : EdgeBootstrapRequest}
    (pending : (stage.after platform op reply).pending = some req) :
    stage.pending = some req := by
  have same : (stage.after platform op reply).request = stage.request := by simp
  rw [request_of_pending pending] at same
  cases stage with
  | fresh asked | creating asked | holding asked => exact same.symm
  | invalid failure | ending asked result | answered asked result =>
      cases op <;> cases pending

end Records

/-! ## Replays -/

section Replays

variable (cfg : Config) (platform : Platform)

/-- A call is started only with the request that is kept for its transaction and that the calls
of the transaction in progress have; a record is stored under a session id of its own. -/
def SameRequests (config : Async.Config (bootstrapping cfg platform)) :
    Action (bootstrapping cfg platform) → Prop
  | .start raw => ∀ req, validateRequest platform raw = .ok req →
      (∀ record, config.state.recordOf req.transactionID = some record → record.request = req) ∧
      ∀ index stage other, stageAt config index = some stage → stage.pending = some other →
        other.transactionID = req.transactionID → other = req
  | .resume index _ => ∀ op, config.awaits index = some op → config.state.Unshared op

variable {cfg platform}

/-- Records, and what calls of one transaction ask for. -/
structure Bound (state : Authority) (states : Nat → Option Stage) : Prop where
  kept : Kept state states
  pending : ∀ index stage req record, states index = some stage → stage.pending = some req →
    state.recordOf req.transactionID = some record → record.request = req
  told : ∀ index stage req resp record, states index = some stage →
    stage.told = some (req, resp) → state.recordOf req.transactionID = some record →
    record.request = req
  alike : ∀ index other stage opposite req wanted, states index = some stage →
    states other = some opposite → stage.pending = some req → opposite.pending = some wanted →
    req.transactionID = wanted.transactionID → req = wanted

/-- A record is an old one, or the one that the resumed call stores for its own request. -/
theorem Kept.recordOf_exec {state : Authority} {states : Nat → Option Stage}
    (kept : Kept state states) {stage : Stage} {op : BootstrapOp} (allowed : stage.Allows cfg op)
    (unshared : state.Unshared op) (choice : BootstrapChoice)
    {id : String} {record : SessionRecord}
    (found : (bootstrapExec cfg choice op state).1.recordOf id = some record) :
    state.recordOf id = some record ∨
      ∃ req, stage.pending = some req ∧ req.transactionID = id ∧ record.request = req := by
  cases op with
  | storeSession req made source =>
      simp only [bootstrapExec] at found
      split at found
      · exact .inl found
      · next unknown =>
          have missing := Authority.responseOf_eq_none.mp unknown
          rw [kept.recordOf_store (unshared missing)] at found
          split at found
          · next own =>
              cases found
              refine .inr ⟨req, ?_, own.symm, rfl⟩
              cases stage with
              | creating asked =>
                  cases allowed.1
                  rfl
              | holding asked =>
                  cases allowed
                  rfl
              | invalid failure | fresh asked | ending asked result => cases allowed
              | answered asked result => exact allowed.elim
          · exact .inl found
  | _ => exact .inl found

/-- Who has not come to its end had not before. -/
theorem pending_update {states : Nat → Option Stage} {index : Nat} {stage : Stage}
    (located : states index = some stage) {op : BootstrapOp} {reply : op.Reply} {position : Nat}
    {now : Stage} {req : EdgeBootstrapRequest}
    (found : Function.update states index (some (stage.after platform op reply)) position =
      some now) (pending : now.pending = some req) :
    ∃ before, states position = some before ∧ before.pending = some req := by
  rw [Function.update_apply] at found
  split at found
  · next same =>
      cases found
      exact ⟨stage, same ▸ located, pending_after pending⟩
  · exact ⟨now, found, pending⟩

theorem Bound.resume {state : Authority} {states : Nat → Option Stage} (bound : Bound state states)
    {index : Nat} {stage : Stage} (located : states index = some stage) {op : BootstrapOp}
    (allowed : stage.Allows cfg op) (unshared : state.Unshared op) (choice : BootstrapChoice) :
    Bound (bootstrapExec cfg choice op state).1
      (Function.update states index
        (some (stage.after platform op (bootstrapExec cfg choice op state).2))) := by
  constructor
  case kept => exact bound.kept.resume located allowed unshared choice
  case pending =>
    intro position now req record found pending recorded
    obtain ⟨before, held, pending⟩ := pending_update located found pending
    rcases bound.kept.recordOf_exec allowed unshared choice recorded with old | ⟨asked, asks, same, own⟩
    · exact bound.pending position before req record held pending old
    · rw [own]
      exact bound.alike index position stage before asked req located held asks pending same
  case told =>
    intro position now req resp record found told recorded
    rw [Function.update_apply] at found
    have earlier : ∀ place before, states place = some before →
        before.told = some (req, resp) → record.request = req := by
      intro place before held told
      obtain ⟨older, known, -⟩ := bound.kept.told place before req resp held told
      rw [Option.some.inj (recorded.symm.trans (bound.kept.exec_recordOf unshared choice known))]
      exact bound.told place before req resp older held told known
    split at found
    · cases found
      rcases told_after bound.kept allowed unshared choice told with before | ⟨pending, answers⟩
      · exact earlier index stage located before
      · obtain ⟨answering, known, -, own⟩ := answers
        cases recorded.symm.trans known
        rcases own with own | old
        · exact own
        · exact bound.pending index stage req record located pending old
    · exact earlier position now found told
  case alike =>
    intro first second stage opposite req wanted one two asks wants same
    obtain ⟨before, held, asks⟩ := pending_update located one asks
    obtain ⟨against, kept, wants⟩ := pending_update located two wants
    exact bound.alike first second before against req wanted held kept asks wants same

/-- The opening of a call asks for its normalised request. -/
theorem pending_opening {raw req : EdgeBootstrapRequest}
    (pending : (openingStage platform raw).pending = some req) :
    validateRequest platform raw = .ok req := by
  unfold openingStage at pending
  split at pending
  · cases pending
  · next asked valid =>
      cases pending
      exact valid

theorem opening_told (raw : EdgeBootstrapRequest) : (openingStage platform raw).told = none := by
  unfold openingStage
  split <;> rfl

theorem bound_watch : Watch (bootstrapCourse cfg platform)
    (fun raw => some (openingStage platform raw)) (SameRequests cfg platform)
    (fun _ => False) Bound := by
  constructor
  case start =>
    intro config index raw bound free same enabled
    have others : ∀ {position now}, position ≠ index →
        Function.update (stageAt config) index (some (openingStage platform raw)) position =
          some now → stageAt config position = some now := by
      intro position now different found
      rw [Function.update_of_ne different] at found
      exact found
    constructor
    case kept => exact bound.kept.start index raw
    case pending =>
      intro position now req record found pending recorded
      by_cases mine : position = index
      · subst mine
        rw [Function.update_self] at found
        cases found
        exact (same req (pending_opening pending)).1 record recorded
      · exact bound.pending position now req record (others mine found) pending recorded
    case told =>
      intro position now req resp record found told recorded
      by_cases mine : position = index
      · subst mine
        rw [Function.update_self] at found
        cases found
        rw [opening_told] at told
        cases told
      · exact bound.told position now req resp record (others mine found) told recorded
    case alike =>
      intro first second stage opposite req wanted one two asks wants agree
      by_cases mine : first = index
      · subst mine
        rw [Function.update_self] at one
        cases one
        have asked := pending_opening asks
        by_cases yours : second = first
        · subst yours
          rw [Function.update_self] at two
          cases two
          exact Option.some.inj (asks.symm.trans wants)
        · exact ((same req asked).2 second opposite wanted (others yours two) wants
            agree.symm).symm
      · by_cases yours : second = index
        · subst yours
          rw [Function.update_self] at two
          cases two
          exact (same wanted (pending_opening wants)).2 first stage req (others mine one) asks
            agree
        · exact bound.alike first second stage opposite req wanted (others mine one)
            (others yours two) asks wants agree
  case resume =>
    intro config index choice op stage bound located allowed awaited same
    exact bound.resume located allowed (same op awaited) choice
  case other =>
    intro state states choice op bound never
    exact never.elim

theorem bound_initially : Bound {} fun _ => none := by
  constructor
  case kept =>
    constructor
    case stored =>
      intro id sessionID found
      cases found
    case told =>
      intro index stage req resp found
      cases found
  case pending =>
    intro index stage req record found
    cases found
  case told =>
    intro index stage req resp record found
    cases found
  case alike =>
    intro first second stage opposite req wanted found
    cases found

theorem bound_of_run {final : Async.Config (bootstrapping cfg platform)}
    (run : Run (SameRequests cfg platform) ⟨{}, []⟩ final) :
    Bound final.state (stageAt final) := by
  refine bound_watch.run bodies_follow (fun job => ?_) (fun _ _ _ => rfl) run bound_initially
  exact Program.issues_of_all (fun op unopened => by cases unopened) _

theorem told_of_gave {stage : Stage} {status : Nat} {resp : EdgeBootstrapResponse}
    {req : EdgeBootstrapRequest} (gave : stage.Gave (.ok (status, resp)))
    (asks : stage.request = some req) : stage.told = some (req, resp) := by
  cases stage with
  | answered asked result =>
      cases gave
      cases asks
      rfl
  | invalid failure => cases gave
  | fresh _ | creating _ | holding _ | ending _ _ => exact gave.elim

theorem openingStage_request {raw req : EdgeBootstrapRequest}
    (valid : validateRequest platform raw = .ok req) :
    (openingStage platform raw).request = some req := by
  rw [openingStage, valid]
  rfl

/-- Where calls of one transaction ask for the same, every call that succeeds is given the
response of a record with its own request. -/
theorem replay_bound_to_request (cfg : Config) (platform : Platform)
    (final : Async.Config (bootstrapping cfg platform))
    (run : Run (SameRequests cfg platform) ⟨{}, []⟩ final) :
    ∀ thread ∈ final.threads, ∀ req status resp, validateRequest platform thread.job = .ok req →
      Answered thread (.ok (status, resp)) →
        ∃ record, final.state.recordOf req.transactionID = some record ∧
          record.response = resp ∧ record.request = req := by
  intro thread member req status resp valid answered
  obtain ⟨index, stage, located, gave, asks⟩ := gave_of_answered run member answered
  rw [openingStage_request valid] at asks
  have told := told_of_gave gave asks
  have bound := bound_of_run run
  obtain ⟨record, known, given⟩ := bound.kept.told index stage req resp located told
  exact ⟨record, known, given, bound.told index stage req resp record located told known⟩

end Replays

/-! ### A transaction of two requests -/

/-- All texts of a request. -/
def EdgeBootstrapRequest.texts (req : EdgeBootstrapRequest) : List String :=
  [req.transactionID, req.targetURL, req.orgID, req.boundaryType, req.boundaryID, req.originID,
    req.originType, req.tenantID, req.profileID, req.policy, req.contractVersion,
    req.requestKind, req.originalMethod, req.provider, req.providerCategory,
    req.fallbackProvider, req.fallbackReason, req.nonce, req.keyID, req.upstreamHost,
    req.upstreamScheme, req.upstreamPort, req.publicBaseURL, req.publicWsURL]

/-- Two requests without client and experiments are the same. -/
def EdgeBootstrapRequest.matchesPlainly (req other : EdgeBootstrapRequest) : Bool :=
  req.texts = other.texts ∧ req.viewport = other.viewport ∧ req.client.isNone ∧
    other.client.isNone ∧ req.experiments.isNone ∧ other.experiments.isNone

theorem EdgeBootstrapRequest.eq_of_matchesPlainly {req other : EdgeBootstrapRequest}
    (same : req.matchesPlainly other = true) : req = other := by
  cases req
  cases other
  simp only [matchesPlainly, texts, decide_eq_true_eq, Option.isNone_iff_eq_none] at same
  simp_all

/-- No call is in progress when one is started, and its request is the one that is kept. -/
def repeats (config : Async.Config sampleBootstrapping) : Action sampleBootstrapping → Bool
  | .start (raw : EdgeBootstrapRequest) =>
      ((List.range config.threads.length).all fun index =>
        (stageAt config index).all fun stage => stage.pending.isNone) &&
      match validateRequest samplePlatform raw with
      | .error _ => true
      | .ok req => (config.state.recordOf req.transactionID).all fun record =>
          record.request.matchesPlainly req
  | .resume index _ =>
      match config.awaits index with
      | some (.storeSession _ resp _) => (config.state.sessions resp.sessionID).isNone
      | _ => true

theorem sameRequests_of_repeats {config : Async.Config sampleBootstrapping}
    {action : Action sampleBootstrapping} (passes : repeats config action = true) :
    SameRequests sampleConfig samplePlatform config action := by
  cases action with
  | start raw =>
      obtain ⟨idle, alike⟩ := Bool.and_eq_true_iff.mp passes
      intro req valid
      rw [valid] at alike
      refine ⟨fun record known => ?_, fun index stage other located pending => ?_⟩
      · dsimp only at alike
        rw [known] at alike
        exact EdgeBootstrapRequest.eq_of_matchesPlainly alike
      · obtain ⟨thread, found, known⟩ := Config.watched_eq_some.mp located
        have inside := List.mem_range.mpr (List.getElem?_eq_some_iff.mp found).1
        have none := List.all_eq_true.mp idle index inside
        rw [located, Option.all_some, pending] at none
        cases none
  | resume index choice =>
      intro op awaited
      simp only [repeats, awaited] at passes
      cases op with
      | storeSession req resp source => exact fun _ => Option.isNone_iff_eq_none.mp passes
      | _ => trivial

/-- A call of the transaction that comes after it. -/
def repeatedTransaction : List (Action sampleBootstrapping) :=
  sampleCall "tenant-a" :: Action.resumes 0 7 (runtimeCreates "rbi-1") ++
    sampleCall "tenant-a" :: Action.resumes 1 2 {}

theorem repeated_request_is_replayed :
    ∃ (final : Async.Config sampleBootstrapping) (thread : Thread sampleBootstrapping)
      (req : EdgeBootstrapRequest) (resp : EdgeBootstrapResponse),
      Run (SameRequests sampleConfig samplePlatform) ⟨{}, []⟩ final ∧ thread ∈ final.threads ∧
      validateRequest samplePlatform thread.job = .ok req ∧
      Answered thread (.ok (200, resp)) ∧
      ∃ record, final.state.recordOf req.transactionID = some record ∧
        record.response = resp ∧ record.request = req := by
  obtain ⟨final, run, seen⟩ := Run.exists_of_schedule
    (fun config action (passes : repeats config action = true) => sameRequests_of_repeats passes)
    (⟨{}, []⟩ : Async.Config sampleBootstrapping) repeatedTransaction
    (fun final => succeededAt 200 final 1 &&
      final.threads[1]?.all fun thread => (validateRequest samplePlatform thread.job).toBool)
    (by decide +kernel)
  obtain ⟨succeeded, valid⟩ := Bool.and_eq_true_iff.mp seen
  obtain ⟨thread, resp, found, answered⟩ := exists_of_succeededAt succeeded
  have member := List.mem_of_getElem? found
  rw [found, Option.all_some] at valid
  cases normalised : validateRequest samplePlatform thread.job with
  | error failure =>
      rw [normalised] at valid
      cases valid
  | ok req =>
      exact ⟨final, thread, req, resp, run, member, normalised, answered,
        replay_bound_to_request sampleConfig samplePlatform final run thread member req 200 resp
          normalised answered⟩

/-- A second organisation uses the transaction id of the first one. -/
def reusedTransaction : List (Action sampleBootstrapping) :=
  sampleCall "tenant-a" :: Action.resumes 0 7 (runtimeCreates "rbi-1") ++
    sampleCall "tenant-b" :: Action.resumes 1 2 {}

theorem reused_transaction_is_given_anothers_session :
    ¬∀ final : Async.Config sampleBootstrapping, Run anyAction ⟨({} : Authority), []⟩ final →
      ∀ thread ∈ final.threads, ∀ req resp,
        validateRequest samplePlatform thread.job = .ok req →
        Answered thread (.ok (200, resp)) →
          ∃ record, final.state.recordOf req.transactionID = some record ∧
            record.response = resp ∧ record.request = req := by
  intro always
  obtain ⟨final, run, seen⟩ := Run.exists_of_actions
    (⟨{}, []⟩ : Async.Config sampleBootstrapping) reusedTransaction
    (fun final => succeededAt 200 final 1 && final.threads[1]?.all fun thread =>
      match validateRequest samplePlatform thread.job with
      | .error _ => false
      | .ok req => (final.state.recordOf req.transactionID).all fun record =>
          record.request.tenantID ≠ req.tenantID)
    (by decide +kernel)
  obtain ⟨succeeded, differs⟩ := Bool.and_eq_true_iff.mp seen
  obtain ⟨thread, resp, found, answered⟩ := exists_of_succeededAt succeeded
  rw [found, Option.all_some] at differs
  split at differs
  · cases differs
  · next req valid =>
      obtain ⟨record, known, -, same⟩ :=
        always final run thread (List.mem_of_getElem? found) req resp valid answered
      rw [known, Option.all_some, same] at differs
      exact of_decide_eq_true differs rfl

end RemoteBrowser.SessionAuthority
