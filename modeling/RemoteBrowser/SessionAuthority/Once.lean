import RemoteBrowser.SessionAuthority.Transactions

/-!
# One session for a transaction

Calls of one transaction that succeed are given the same response.  The sessions that they leave
at the runtime are more than one as soon as two of them create a session, since the authority has
no means of deleting the session of a call that loses or fails.
-/

namespace RemoteBrowser.SessionAuthority

open Async

section Once

variable (cfg : Config) (platform : Platform) (transactionID : String)

/-- The valid calls are of one transaction. -/
def OfTransaction (_ : Async.Config (bootstrapping cfg platform)) :
    Action (bootstrapping cfg platform) → Prop
  | .start raw => ∀ req, validateRequest platform raw = .ok req →
      req.transactionID = transactionID
  | .resume _ _ => True

/-- The condition on a step of a call, by the operation that it awaits. -/
def Sound (state : Authority) (states : Nat → Option Stage) (choice : BootstrapChoice) :
    BootstrapOp → Prop
  | .createRuntimeSession => choice.creates = true →
      choice.runtime.toBool = true ∧ state.transactions transactionID = none ∧
        ∀ other req, states other ≠ some (.holding req)
  | .createGatewaySession req => ∃ resp, choice.gateway = .ok resp ∧
      validateMediaGatewaySessionResponse platform req resp = .ok ()
  | .updateRuntimeSession _ _ => choice.runtime.toBool = true
  | _ => True

/-- A session is created for a call only while none is kept for the transaction and no other call
in progress has one, and the answer arrives; then the gateway and the update succeed as well. -/
def Undisputed (config : Async.Config (bootstrapping cfg platform)) :
    Action (bootstrapping cfg platform) → Prop
  | .start _ => True
  | .resume index choice => ∀ op, config.awaits index = some op →
      Sound platform transactionID config.state (stageAt config) choice op

variable {cfg platform}

/-- All successful calls have the same response, at most one session is left at the runtime, and
once all calls have returned it is not that of a call which has lost or failed. -/
structure ExactlyOnce (final : Async.Config (bootstrapping cfg platform)) : Prop where
  agree : ∀ thread ∈ final.threads, ∀ other ∈ final.threads, ∀ status given resp response,
    Answered thread (.ok (status, resp)) → Answered other (.ok (given, response)) →
      resp = response
  single : final.state.runtimeSessions ≤ 1
  owned : final.Quiescent → final.state.runtimeSessions ≠ 0 →
    (final.state.transactions transactionID).isSome = true

/-- Records, while all calls are of one transaction. -/
structure Sole (state : Authority) (states : Nat → Option Stage) : Prop where
  kept : Kept state states
  only : ∀ id, id ≠ transactionID → state.transactions id = none
  empty : state.transactions transactionID = none → ∀ id, state.sessions id = none
  asks : ∀ index stage req, states index = some stage → stage.request = some req →
    req.transactionID = transactionID

variable {transactionID}

/-- The request that is stored is the one of the call. -/
theorem request_of_store {stage : Stage} {req : EdgeBootstrapRequest}
    {resp : EdgeBootstrapResponse} {source : String}
    (allowed : stage.Allows cfg (.storeSession req resp source)) : stage.request = some req := by
  cases stage with
  | creating asked =>
      cases allowed.1
      rfl
  | holding asked =>
      cases allowed
      rfl
  | invalid _ | fresh _ | ending _ _ => cases allowed
  | answered _ _ => exact allowed.elim

theorem Sole.unshared {state : Authority} {states : Nat → Option Stage}
    (sole : Sole transactionID state states) {index : Nat} {stage : Stage}
    (located : states index = some stage) {op : BootstrapOp} (allowed : stage.Allows cfg op) :
    state.Unshared op := by
  cases op with
  | storeSession req resp source =>
      intro unknown
      rw [sole.asks index stage req located (request_of_store allowed)] at unknown
      exact sole.empty unknown resp.sessionID
  | _ => trivial

theorem Sole.resume {state : Authority} {states : Nat → Option Stage}
    (sole : Sole transactionID state states) {index : Nat} {stage : Stage}
    (located : states index = some stage) {op : BootstrapOp} (allowed : stage.Allows cfg op)
    (choice : BootstrapChoice) :
    Sole transactionID (bootstrapExec cfg choice op state).1
      (Function.update states index
        (some (stage.after platform op (bootstrapExec cfg choice op state).2))) := by
  constructor
  case kept => exact sole.kept.resume located allowed (sole.unshared located allowed) choice
  case only =>
    intro id other
    cases op with
    | storeSession req resp source =>
        simp only [bootstrapExec]
        split
        · exact sole.only id other
        · have same := sole.asks index stage req located (request_of_store allowed)
          rw [Authority.store_transactions, Function.update_of_ne (same ▸ other)]
          exact sole.only id other
    | _ => exact sole.only id other
  case empty =>
    cases op with
    | storeSession req resp source =>
        simp only [bootstrapExec]
        split
        · exact sole.empty
        · intro unknown
          rw [← sole.asks index stage req located (request_of_store allowed),
            Authority.store_transactions, Function.update_self] at unknown
          cases unknown
    | _ => exact sole.empty
  case asks =>
    intro position now req found asked
    rw [Function.update_apply] at found
    split at found
    · cases found
      rw [Stage.request_after] at asked
      exact sole.asks index stage req located asked
    · exact sole.asks position now req found asked

theorem sole_watch : Watch (bootstrapCourse cfg platform)
    (fun raw => some (openingStage platform raw)) (OfTransaction cfg platform transactionID)
    (fun _ => False) (Sole transactionID) := by
  constructor
  case start =>
    intro config index raw sole free same enabled
    refine ⟨sole.kept.start index raw, sole.only, sole.empty, ?_⟩
    intro position now req found asked
    rw [Function.update_apply] at found
    split at found
    · cases found
      refine same req (pending_opening ?_)
      unfold openingStage at asked ⊢
      split at asked
      · cases asked
      · exact asked
    · exact sole.asks position now req found asked
  case resume =>
    intro config index choice op stage sole located allowed awaited same
    exact sole.resume located allowed choice
  case other =>
    intro state states choice op sole never
    exact never.elim

theorem sole_of_run {allowed : Async.Config (bootstrapping cfg platform) →
      Action (bootstrapping cfg platform) → Prop}
    {final : Async.Config (bootstrapping cfg platform)}
    (run : Run allowed ⟨{}, []⟩ final)
    (implies : ∀ config action, allowed config action →
      OfTransaction cfg platform transactionID config action) :
    Sole transactionID final.state (stageAt final) := by
  refine sole_watch.run bodies_follow (fun job => ?_) (fun _ _ _ => rfl) (run.mono implies)
    ⟨bound_initially.kept, fun _ _ => rfl, fun _ _ => rfl, ?_⟩
  · exact Program.issues_of_all (fun op unopened => by cases unopened) _
  · intro index stage req found
    cases found

/-! ## Sessions at the runtime -/

variable (cfg transactionID) in
/-- A session at the runtime is that of the one call that holds it, or of the stored record. -/
structure Accounted (state : Authority) (states : Nat → Option Stage) : Prop where
  held : ∀ index req, states index = some (.holding req) →
    state.transactions transactionID = none ∧ state.runtimeSessions = 1 ∧
      cfg.hasRuntimeClient = true
  unique : ∀ index other req wanted, states index = some (.holding req) →
    states other = some (.holding wanted) → index = other
  free : (∀ index req, states index ≠ some (.holding req)) →
    state.transactions transactionID = none → state.runtimeSessions = 0
  single : state.runtimeSessions ≤ 1

/-- The same calls hold sessions after a step of a call that does if it did before. -/
theorem holding_update {states : Nat → Option Stage} {index : Nat} {old : Option Stage}
    (located : states index = old) {now : Stage}
    (holds : ∀ req, now = .holding req ↔ old = some (.holding req)) (position : Nat)
    (req : EdgeBootstrapRequest) :
    Function.update states index (some now) position = some (.holding req) ↔
      states position = some (.holding req) := by
  rw [Function.update_apply]
  split
  · next same => rw [same, located, Option.some.injEq, holds]
  · rfl

/-- A step that neither creates a session nor stores the record. -/
theorem Accounted.same {state after : Authority} {states changed : Nat → Option Stage}
    (accounted : Accounted cfg transactionID state states)
    (transactions : after.transactions transactionID = state.transactions transactionID)
    (sessions : after.runtimeSessions = state.runtimeSessions)
    (holding : ∀ position req, changed position = some (.holding req) ↔
      states position = some (.holding req)) :
    Accounted cfg transactionID after changed := by
  constructor
  case held =>
    intro position req found
    rw [transactions, sessions]
    exact accounted.held position req ((holding position req).mp found)
  case unique =>
    intro first second req wanted one two
    exact accounted.unique first second req wanted ((holding first req).mp one)
      ((holding second wanted).mp two)
  case free =>
    intro nobody unknown
    rw [transactions] at unknown
    rw [sessions]
    exact accounted.free (fun position req found =>
      nobody position req ((holding position req).mpr found)) unknown
  case single => exact sessions ▸ accounted.single

/-- The record is stored by a call that holds the session, or where there are no sessions. -/
theorem Accounted.stored {state after : Authority} {states : Nat → Option Stage}
    (accounted : Accounted cfg transactionID state states)
    (transactions : after.transactions transactionID ≠ none)
    (sessions : after.runtimeSessions = state.runtimeSessions) {index : Nat} {now : Stage}
    (ended : ∀ req, now ≠ .holding req)
    (others : ∀ position req, position ≠ index → states position ≠ some (.holding req)) :
    Accounted cfg transactionID after (Function.update states index (some now)) := by
  have nobody : ∀ position req,
      Function.update states index (some now) position ≠ some (.holding req) := by
    intro position req found
    rw [Function.update_apply] at found
    split at found
    · exact ended req (Option.some.inj found)
    · next other => exact others position req other found
  constructor
  case held => exact fun position req found => absurd found (nobody position req)
  case unique => exact fun first _ req _ one => absurd one (nobody first req)
  case free => exact fun _ unknown => absurd unknown transactions
  case single => exact sessions ▸ accounted.single

/-- The session of a call, where there is none yet. -/
theorem Accounted.created {state : Authority} {states : Nat → Option Stage}
    (accounted : Accounted cfg transactionID state states)
    (unknown : state.transactions transactionID = none)
    (nobody : ∀ position req, states position ≠ some (.holding req))
    (asks : cfg.hasRuntimeClient = true) (index : Nat) (req : EdgeBootstrapRequest) :
    Accounted cfg transactionID { state with runtimeSessions := state.runtimeSessions + 1 }
      (Function.update states index (some (.holding req))) := by
  have none := accounted.free nobody unknown
  have own : ∀ position wanted, Function.update states index (some (.holding req)) position =
      some (.holding wanted) → position = index := by
    intro position wanted found
    by_contra other
    rw [Function.update_of_ne other] at found
    exact nobody position wanted found
  constructor
  case held =>
    intro position wanted found
    exact ⟨unknown, by rw [none], asks⟩
  case unique =>
    intro first second asked wanted one two
    exact (own first asked one).trans (own second wanted two).symm
  case free =>
    intro others
    exact absurd (Function.update_self ..) (others index req)
  case single =>
    dsimp only
    omega

theorem Accounted.resume {state : Authority} {states : Nat → Option Stage}
    (accounted : Accounted cfg transactionID state states) (sole : Sole transactionID state states)
    {index : Nat} {stage : Stage} (located : states index = some stage) {op : BootstrapOp}
    (allowed : stage.Allows cfg op) {choice : BootstrapChoice}
    (sound : Sound platform transactionID state states choice op) :
    Accounted cfg transactionID (bootstrapExec cfg choice op state).1
      (Function.update states index
        (some (stage.after platform op (bootstrapExec cfg choice op state).2))) := by
  cases stage with
  | invalid failure =>
      cases allowed
      exact accounted.same rfl rfl (holding_update located (by simp [Stage.after]))
  | fresh req =>
      cases allowed
      refine accounted.same rfl rfl (holding_update located ?_)
      simp only [bootstrapExec]
      cases state.responseOf req.transactionID <;> simp [Stage.after]
  | ending req result =>
      cases allowed
      exact accounted.same rfl rfl (holding_update located (by simp [Stage.after]))
  | answered req result => exact allowed.elim
  | creating req =>
      cases op with
      | assignWorker _ | assignGateway _ _ _ | newOpaqueID _ =>
          exact accounted.same rfl rfl (holding_update located (by simp [Stage.after]))
      | createRuntimeSession =>
          simp only [bootstrapExec]
          cases creates : choice.creates with
          | true =>
              obtain ⟨heard, unknown, nobody⟩ := sound creates
              cases answered : choice.runtime with
              | error message =>
                  rw [answered] at heard
                  cases heard
              | ok resp => exact accounted.created unknown nobody allowed index req
          | false =>
              cases answered : choice.runtime with
              | error message =>
                  exact accounted.same rfl rfl (holding_update located (by simp [Stage.after]))
              | ok resp => simp [BootstrapChoice.creates, answered, Except.toBool] at creates
      | storeSession asked made source =>
          obtain ⟨rfl, alone⟩ := allowed
          have nobody : ∀ position wanted, states position ≠ some (.holding wanted) := by
            intro position wanted held
            rw [(accounted.held position wanted held).2.2] at alone
            cases alone
          have same := sole.asks index _ asked located rfl
          simp only [bootstrapExec]
          split
          · exact accounted.same rfl rfl
              (holding_update located (by simp [Stage.after, Stage.afterStore]))
          · apply accounted.stored
            case transactions =>
              rw [Authority.store_transactions, same, Function.update_self]
              exact Option.some_ne_none _
            case sessions => rfl
            case ended =>
              intro wanted
              simp [Stage.after, Stage.afterStore]
            case others => exact fun position wanted _ => nobody position wanted
      | _ => exact allowed.elim
  | holding req =>
      obtain ⟨unknown, -, -⟩ := accounted.held index req located
      cases op with
      | newOpaqueID _ =>
          exact accounted.same rfl rfl (holding_update located (by simp [Stage.after]))
      | createGatewaySession gatewayReq =>
          obtain ⟨resp, answered, accepted⟩ := sound
          refine accounted.same rfl rfl (holding_update located ?_)
          simp [bootstrapExec, Stage.after, Stage.afterGateway, answered, accepted]
      | updateRuntimeSession _ _ =>
          refine accounted.same rfl rfl (holding_update located ?_)
          simp only [bootstrapExec]
          cases updated : choice.runtime with
          | error message =>
              rw [Sound, updated] at sound
              cases sound
          | ok resp => simp [Stage.after]
      | storeSession asked made source =>
          cases allowed
          have same := sole.asks index _ req located rfl
          have missing : state.responseOf req.transactionID = none := by
            rw [Authority.responseOf_eq_none, same]
            exact unknown
          simp only [bootstrapExec, missing]
          apply accounted.stored
          case transactions =>
            rw [Authority.store_transactions, same, Function.update_self]
            exact Option.some_ne_none _
          case sessions => rfl
          case ended =>
            intro wanted
            simp [Stage.after, Stage.afterStore]
          case others =>
            intro position wanted other held
            exact other (accounted.unique position index wanted req held located)
      | _ => exact allowed.elim

theorem accounted_watch : Watch (bootstrapCourse cfg platform)
    (fun raw => some (openingStage platform raw))
    (fun config action => Undisputed cfg platform transactionID config action ∧
      Sole transactionID config.state (stageAt config))
    (fun _ => False) (Accounted cfg transactionID) := by
  constructor
  case start =>
    intro config index raw accounted free permitted enabled
    refine accounted.same rfl rfl (holding_update free fun req => ?_)
    unfold openingStage
    split <;> simp
  case resume =>
    intro config index choice op stage accounted located allowed awaited permitted
    exact accounted.resume permitted.2 located allowed (permitted.1 op awaited)
  case other =>
    intro state states choice op accounted never
    exact never.elim

variable (cfg platform transactionID) in
/-- The calls of one transaction, under the condition on their steps. -/
def UndisputedCalls (config : Async.Config (bootstrapping cfg platform))
    (action : Action (bootstrapping cfg platform)) : Prop :=
  OfTransaction cfg platform transactionID config action ∧
    Undisputed cfg platform transactionID config action

theorem accounted_of_run {final : Async.Config (bootstrapping cfg platform)}
    (run : Run (UndisputedCalls cfg platform transactionID) ⟨{}, []⟩ final) :
    Accounted cfg transactionID final.state (stageAt final) := by
  have sole : ∀ config, Run (UndisputedCalls cfg platform transactionID) ⟨{}, []⟩ config →
      Sole transactionID config.state (stageAt config) :=
    fun config reached => sole_of_run reached fun _ _ permitted => permitted.1
  refine accounted_watch.run bodies_follow (fun job => ?_) (fun _ _ _ => rfl)
    ((run.assuming sole).mono fun _ _ permitted => ⟨permitted.1.2, permitted.2⟩) ?_
  · exact Program.issues_of_all (fun op unopened => by cases unopened) _
  · constructor
    case held =>
      intro index req found
      cases found
    case unique =>
      intro index other req wanted found
      cases found
    case free => exact fun _ _ => rfl
    case single => exact Nat.zero_le 1

/-- Whatever the services do, the successful calls of one transaction have one response. -/
theorem successes_agree {allowed : Async.Config (bootstrapping cfg platform) →
      Action (bootstrapping cfg platform) → Prop}
    {final : Async.Config (bootstrapping cfg platform)}
    (run : Run allowed ⟨{}, []⟩ final)
    (implies : ∀ config action, allowed config action →
      OfTransaction cfg platform transactionID config action) :
    ∀ thread ∈ final.threads, ∀ other ∈ final.threads, ∀ status given resp response,
      Answered thread (.ok (status, resp)) → Answered other (.ok (given, response)) →
        resp = response := by
  intro thread member other listed status given resp response answered replied
  have sole := sole_of_run run implies
  have given : ∀ thread ∈ final.threads, ∀ status resp, Answered thread (.ok (status, resp)) →
      ∃ record, final.state.recordOf transactionID = some record ∧ record.response = resp := by
    intro thread member status resp answered
    obtain ⟨index, stage, located, gave, -⟩ := gave_of_answered run member answered
    cases asks : stage.request with
    | none =>
        cases stage with
        | invalid failure => cases gave
        | fresh _ | creating _ | holding _ | ending _ _ | answered _ _ => cases asks
    | some req =>
        obtain ⟨record, known, told⟩ :=
          sole.kept.told index stage req resp located (told_of_gave gave asks)
        rw [sole.asks index stage req located asks] at known
        exact ⟨record, known, told⟩
  obtain ⟨record, known, rfl⟩ := given thread member status resp answered
  obtain ⟨again, found, rfl⟩ := given other listed _ response replied
  rw [Option.some.inj (known.symm.trans found)]

/-- Bootstrap is exactly-once for a transaction if a session is created for a call only while no
other call of the transaction has one and none is kept, and if whatever follows the creation of
a session succeeds. -/
theorem bootstrap_exactly_once (cfg : Config) (platform : Platform) (transactionID : String)
    (final : Async.Config (bootstrapping cfg platform))
    (run : Run (UndisputedCalls cfg platform transactionID) ⟨{}, []⟩ final) :
    ExactlyOnce transactionID final := by
  have accounted := accounted_of_run run
  constructor
  case agree => exact successes_agree run fun _ _ permitted => permitted.1
  case single => exact accounted.single
  case owned =>
    intro quiescent some
    cases unknown : final.state.transactions transactionID with
    | some sessionID => rfl
    | none =>
        refine absurd (accounted.free (fun index req held => ?_) unknown) some
        obtain ⟨thread, found, known⟩ := Config.watched_eq_some.mp held
        have obeys := run.obeys bodies_follow (by simp) thread (List.mem_of_getElem? found)
        exact obeys.post_of_finished known (quiescent thread (List.mem_of_getElem? found))

end Once

/-! ### Calls that follow or race each other -/

def Stage.holds : Stage → Bool
  | .holding _ => true
  | _ => false

/-- The call is of the sample transaction, if it is valid. -/
def isOfSample (_ : Async.Config sampleBootstrapping) : Action sampleBootstrapping → Bool
  | .start (raw : EdgeBootstrapRequest) =>
      match validateRequest samplePlatform raw with
      | .error _ => true
      | .ok req => req.transactionID = "txn-1"
  | .resume _ _ => true

theorem ofTransaction_of_check {config : Async.Config sampleBootstrapping}
    {action : Action sampleBootstrapping} (passes : isOfSample config action = true) :
    OfTransaction sampleConfig samplePlatform "txn-1" config action := by
  cases action with
  | start raw =>
      intro req valid
      simp only [isOfSample, valid] at passes
      exact of_decide_eq_true passes
  | resume index choice => trivial

/-- Without a media gateway, only the runtime can dispute a call. -/
def isUndisputed (config : Async.Config sampleBootstrapping) :
    Action sampleBootstrapping → Bool
  | .start raw => isOfSample config (.start raw)
  | .resume index choice =>
      match config.awaits index with
      | some .createRuntimeSession =>
          !choice.creates || choice.runtime.toBool &&
            (config.state.transactions "txn-1").isNone &&
            (List.range config.threads.length).all fun other =>
              (stageAt config other).all fun stage => !stage.holds
      | some (.createGatewaySession _) => false
      | some (.updateRuntimeSession _ _) => false
      | _ => true

theorem undisputed_of_check {config : Async.Config sampleBootstrapping}
    {action : Action sampleBootstrapping} (passes : isUndisputed config action = true) :
    UndisputedCalls sampleConfig samplePlatform "txn-1" config action := by
  cases action with
  | start raw => exact ⟨ofTransaction_of_check passes, trivial⟩
  | resume index choice =>
      refine ⟨trivial, fun op awaited => ?_⟩
      simp only [isUndisputed, awaited] at passes
      cases op with
      | createRuntimeSession =>
          intro creates
          simp only [creates, Bool.not_true, Bool.false_or, Bool.and_eq_true] at passes
          refine ⟨passes.1.1, Option.isNone_iff_eq_none.mp passes.1.2, fun other req held => ?_⟩
          obtain ⟨thread, found, known⟩ := Config.watched_eq_some.mp held
          have inside := List.mem_range.mpr (List.getElem?_eq_some_iff.mp found).1
          have free := List.all_eq_true.mp passes.2 other inside
          rw [held] at free
          cases free
      | createGatewaySession _ | updateRuntimeSession _ _ => cases passes
      | _ => trivial

theorem repeated_transaction_creates_once :
    ∃ final : Async.Config sampleBootstrapping,
      Run (UndisputedCalls sampleConfig samplePlatform "txn-1") ⟨{}, []⟩ final ∧
        succeededAt 200 final 1 = true ∧ ExactlyOnce "txn-1" final := by
  obtain ⟨final, run, seen⟩ := Run.exists_of_schedule
    (fun config action (passes : isUndisputed config action = true) => undisputed_of_check passes)
    (⟨{}, []⟩ : Async.Config sampleBootstrapping) repeatedTransaction
    (fun final => succeededAt 200 final 1) (by decide +kernel)
  exact ⟨final, run, seen,
    bootstrap_exactly_once sampleConfig samplePlatform "txn-1" final run⟩

/-- Both calls find that there is no record, and create a session each. -/
def racingCalls : List (Action sampleBootstrapping) :=
  sampleCall "tenant-a" :: sampleCall "tenant-a" ::
    Action.resumes 0 5 (runtimeCreates "rbi-1") ++ Action.resumes 1 5 (runtimeCreates "rbi-2") ++
    Action.resumes 0 2 (runtimeCreates "") ++ Action.resumes 1 2 (runtimeCreates "")

theorem racing_calls_leave_two_sessions :
    ¬∀ final : Async.Config sampleBootstrapping,
      Run (OfTransaction sampleConfig samplePlatform "txn-1") ⟨{}, []⟩ final →
        ExactlyOnce "txn-1" final := by
  intro always
  obtain ⟨final, run, seen⟩ := Run.exists_of_schedule
    (fun config action (passes : isOfSample config action = true) => ofTransaction_of_check passes)
    (⟨{}, []⟩ : Async.Config sampleBootstrapping) racingCalls
    (fun final => succeededAt 201 final 0 && succeededAt 200 final 1 &&
      final.state.runtimeSessions = 2) (by decide +kernel)
  have two := of_decide_eq_true (Bool.and_eq_true_iff.mp seen).2
  have one := (always final run).single
  rw [two] at one
  exact absurd one (by decide)

end RemoteBrowser.SessionAuthority
