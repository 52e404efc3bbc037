import RemoteBrowser.MediaGateway.Quota

/-!
# Admission accounting

Every call of `CreateSession` leaves a decision, which is counted and kept in a list of the last
ones.  The decision on a new session is recorded before its record is saved, so a call whose save
fails is counted as accepted although it answers with an error.
-/

namespace RemoteBrowser.MediaGateway

open Text

/-! ## Decisions -/

structure AdmissionQuotaConfig where
  maxActiveSessions : Int
  maxActiveSessionsPerTenant : Int
  maxActiveSessionsPerWorker : Int
  deriving DecidableEq

structure AdmissionQuotaUsage where
  activeSessions : Nat
  tenantActiveSessions : Nat
  workerActiveSessions : Nat
  deriving DecidableEq

structure AdmissionDecision where
  sessionID : String
  tenantID : String
  workerID : String
  admitted : Bool
  idempotentReplay : Bool := false
  statusCode : Nat
  reason : String
  reasonCode : String
  evaluatedAt : Int
  quotas : AdmissionQuotaConfig
  usage : AdmissionQuotaUsage
  deriving DecidableEq

def recentAdmissionDecisionsLimit : Nat := 20

/-- A map from texts to counters. -/
abbrev Counters := List (String × Nat)

namespace Counters

/-- `counters[name]++`. -/
def increment (name : String) : Counters → Counters
  | [] => [(name, 1)]
  | (other, count) :: rest =>
      if other = name then (other, count + 1) :: rest else (other, count) :: increment name rest

def total (counters : Counters) : Nat := (counters.map Prod.snd).sum

theorem total_increment (name : String) (counters : Counters) :
    (increment name counters).total = counters.total + 1 := by
  induction counters with
  | nil => rfl
  | cons counter rest ih =>
      obtain ⟨other, count⟩ := counter
      simp only [total] at ih
      simp only [increment]
      split
      · simp only [total, List.map_cons, List.sum_cons]
        omega
      · simp only [total, List.map_cons, List.sum_cons, ih]
        omega

end Counters

structure AdmissionState where
  attempts : Nat := 0
  accepted : Nat := 0
  rejected : Nat := 0
  idempotentReplays : Nat := 0
  rejectionsByReason : Counters := []
  recentDecisions : List AdmissionDecision := []
  lastDecision : Option AdmissionDecision := none
  deriving DecidableEq

namespace AdmissionState

/-- Count a decision. -/
def count (state : AdmissionState) (decision : AdmissionDecision) : AdmissionState :=
  if decision.idempotentReplay then
    { state with idempotentReplays := state.idempotentReplays + 1 }
  else if decision.admitted then { state with accepted := state.accepted + 1 }
  else
    { state with
      rejected := state.rejected + 1
      rejectionsByReason :=
        if decision.reasonCode ≠ "" then
          state.rejectionsByReason.increment decision.reasonCode
        else state.rejectionsByReason }

/-- `recordAdmissionDecisionLocked`. -/
def record (state : AdmissionState) (decision : AdmissionDecision) : AdmissionState :=
  let counted := { state.count decision with attempts := state.attempts + 1 }
  let decisions := counted.recentDecisions ++ [decision]
  { counted with
    lastDecision := some decision
    recentDecisions :=
      if recentAdmissionDecisionsLimit < decisions.length then
        decisions.drop (decisions.length - recentAdmissionDecisionsLimit)
      else decisions }

end AdmissionState

section Reasons

variable (platform : Platform)

def classifyAdmissionReason (message : String) (status : Nat) : String :=
  if status = 429 ∧ containsText message "tenant" then "tenant-active-sessions-quota-exceeded"
  else if status = 429 ∧ containsText message "worker" then
    "worker-active-sessions-quota-exceeded"
  else if status = 429 then "active-sessions-quota-exceeded"
  else if status = 409 ∧ containsText message "replay" then "session-id-conflict"
  else if status = 409 ∧ containsText message "region" then "gateway-region-mismatch"
  else if status = 409 ∧ containsText message "gateway" then "gateway-id-mismatch"
  else if status = 400 ∧ containsText message "workerAssignment.workerId" then
    "worker-assignment-mismatch"
  else if status = 400 ∧ containsText message "relayMode" then "unsupported-relay-mode"
  else if status = 400 ∧ containsText message "direct worker public endpoint" then
    "direct-worker-public-endpoint"
  else if status = 400 ∧ containsText message "session ids" then
    "assignment-session-id-mismatch"
  else if status = 400 ∧ containsText message "sessionId" then "session-id-required"
  else if status = 400 ∧ containsText message "tenantId" then "tenant-id-required"
  else if status = 400 ∧ containsText message "viewerToken" then "viewer-token-required"
  else if status = 400 ∧ containsText message "workerToken" then "worker-token-required"
  else if status = 400 ∧ containsText message "targetUrl" then "invalid-target-url"
  else
    let trimmed := trimSpace (platform.toLower message)
    if trimmed = "" then "admission-rejected"
    else String.ofList (trimmed.toList.map fun char => if char = ' ' then '-' else char)

/-- A text that is neither branch is not the conditional. -/
theorem ite_ne_text {condition : Prop} [Decidable condition] {text first second : String}
    (unlike : first ≠ text) (different : second ≠ text) :
    (if condition then first else second) ≠ text := by
  split
  · exact unlike
  · exact different

theorem classifyAdmissionReason_ne_empty (message : String) (status : Nat) :
    classifyAdmissionReason platform message status ≠ "" := by
  unfold classifyAdmissionReason
  iterate 15 apply ite_ne_text (by decide)
  dsimp only
  split
  · decide
  · next some =>
      intro empty
      have nothing := congrArg String.toList empty
      rw [String.toList_ofList, String.toList_empty, List.map_eq_nil_iff] at nothing
      exact some (String.toList_eq_nil_iff.mp nothing)

end Reasons

/-! ## Calls -/

/-- A service with its counters. -/
structure CountingService where
  service : Service
  admission : AdmissionState := {}

/-- A call of `CreateSession`, with what the shared store has for its session, the time, the
texts that are drawn and whether the save works. -/
structure Attempt where
  request : SessionRequest
  stored : Option SessionRecord
  now : Int
  draws : Draws
  saves : Bool

abbrev CreateResult := Except ApiError (Nat × SessionResponse)

/-- What a call leaves: the service, the decision that it has recorded and its answer. -/
structure Outcome where
  after : CountingService
  decision : AdmissionDecision
  answer : CreateResult

section Decisions

variable (platform : Platform) (cfg : Config)

def quotaConfig : AdmissionQuotaConfig :=
  ⟨cfg.maxActiveSessions, cfg.maxActiveSessionsPerTenant, cfg.maxActiveSessionsPerWorker⟩

def admissionUsageForRequest (s : Service) (req : SessionRequest) : AdmissionQuotaUsage where
  activeSessions := s.activeSessions cfg
  tenantActiveSessions := Service.tenantActiveSessions cfg s req.tenantID
  workerActiveSessions := Service.workerActiveSessions cfg s req.workerAssignment.workerID

def evaluateAdmissionLocked (s : Service) (req : SessionRequest) :
    AdmissionDecision × Option ApiError :=
  let usage := admissionUsageForRequest cfg s req
  let decision : AdmissionDecision :=
    { sessionID := req.sessionID
      tenantID := req.tenantID
      workerID := req.workerAssignment.workerID
      admitted := true
      statusCode := 201
      reason := "session admitted"
      reasonCode := "accepted"
      evaluatedAt := s.now
      quotas := quotaConfig cfg
      usage := usage }
  let refused (reason reasonCode : String) : AdmissionDecision × Option ApiError :=
    ({ decision with
        admitted := false
        statusCode := 429
        reason := reason
        reasonCode := reasonCode },
      some ⟨429, reason⟩)
  if Service.isFull cfg.maxActiveSessions usage.activeSessions then
    refused "gateway active session quota exceeded" "active-sessions-quota-exceeded"
  else if Service.isFull cfg.maxActiveSessionsPerTenant usage.tenantActiveSessions then
    refused "tenant active session quota exceeded" "tenant-active-sessions-quota-exceeded"
  else if Service.isFull cfg.maxActiveSessionsPerWorker usage.workerActiveSessions then
    refused "worker active session quota exceeded" "worker-active-sessions-quota-exceeded"
  else (decision, none)

def admissionDecisionFromError (s : Service) (req : SessionRequest) (failure : ApiError) :
    AdmissionDecision where
  sessionID := trimSpace req.sessionID
  tenantID := trimSpace req.tenantID
  workerID := trimSpace req.workerAssignment.workerID
  admitted := false
  statusCode := failure.status
  reason := failure.message
  reasonCode := classifyAdmissionReason platform failure.message failure.status
  evaluatedAt := s.now
  quotas := quotaConfig cfg
  usage := admissionUsageForRequest cfg s req

def replayDecision (s : Service) (req : SessionRequest) (reason : String) :
    AdmissionDecision where
  sessionID := req.sessionID
  tenantID := req.tenantID
  workerID := req.workerAssignment.workerID
  admitted := true
  idempotentReplay := true
  statusCode := 200
  reason := reason
  reasonCode := "idempotent-replay"
  evaluatedAt := s.now
  quotas := quotaConfig cfg
  usage := admissionUsageForRequest cfg s req

end Decisions

namespace CountingService

variable (platform : Platform) (cfg : Config)

/-- Record a decision and answer. -/
def settle (s : CountingService) (decision : AdmissionDecision) (answer : CreateResult) :
    Outcome :=
  ⟨{ s with admission := s.admission.record decision }, decision, answer⟩

/-- A request for a session of which a record was found. -/
def replay (s : CountingService) (record : SessionRecord) (req : SessionRequest)
    (reason : String) : Outcome :=
  match replayAnswer record req with
  | .error conflict =>
      s.settle (admissionDecisionFromError platform cfg s.service req conflict) (.error conflict)
  | .ok answer => s.settle (replayDecision cfg s.service req reason) (.ok answer)

/-- `CreateSession`. -/
def createSession (before : CountingService) (call : Attempt) : Outcome :=
  let s := { before with service := { before.service with now := call.now } }
  match validateRequest platform cfg call.request with
  | .error failure =>
      s.settle (admissionDecisionFromError platform cfg s.service call.request failure)
        (.error failure)
  | .ok req =>
      match call.stored with
      | some record => s.replay platform cfg record req "shared-store idempotent session replay"
      | none =>
          match s.service.sessions.lookup req.sessionID with
          | some record => s.replay platform cfg record req "idempotent session replay"
          | none =>
              match evaluateAdmissionLocked cfg s.service req with
              | (decision, some failure) => s.settle decision (.error failure)
              | (decision, none) =>
                  let record := s.service.newRecord cfg platform req call.draws
                  let sessions := s.service.sessions.insert req.sessionID record
                  let admission := s.admission.record decision
                  if call.saves then
                    ⟨⟨{ s.service with sessions := sessions }, admission⟩, decision,
                      .ok (201, record.response)⟩
                  else
                    let forgotten := sessions.erase req.sessionID
                    ⟨⟨{ s.service with sessions := forgotten }, admission⟩, decision,
                      .error ⟨502, "gateway session store unavailable"⟩⟩

/-- What is recorded and answered, call by call. -/
abbrev Log := List (AdmissionDecision × CreateResult)

/-- The service after a sequence of calls, and its log. -/
def run (s : CountingService) : List Attempt → CountingService × Log
  | [] => (s, [])
  | call :: rest =>
      let outcome := s.createSession platform cfg call
      let following := run outcome.after rest
      (following.1, (outcome.decision, outcome.answer) :: following.2)

/-- The call comes to the save of a new record. -/
def reachesSave (s : CountingService) (call : Attempt) : Bool :=
  match validateRequest platform cfg call.request with
  | .error _ => false
  | .ok req =>
      call.stored.isNone && (s.service.sessions.lookup req.sessionID).isNone &&
        (evaluateAdmissionLocked cfg { s.service with now := call.now } req).2.isNone

/-- Every save that is come to works. -/
def SavesWork (s : CountingService) : List Attempt → Prop
  | [] => True
  | call :: rest =>
      (s.reachesSave platform cfg call = true → call.saves = true) ∧
        SavesWork (s.createSession platform cfg call).after rest

end CountingService

/-! ## The accounts -/

/-- A call answers with the status. -/
def answers (status : Nat) : CreateResult → Bool
  | .ok (given, _) => given = status
  | .error _ => false

/-- A call answers with an error. -/
def isFailure : CreateResult → Bool
  | .ok _ => false
  | .error _ => true

theorem answers_of_failure {answer : CreateResult} (failed : isFailure answer = true)
    (status : Nat) : answers status answer = false := by
  cases answer with
  | error failure => rfl
  | ok answer => cases failed

theorem unlike_of_answers {answer : CreateResult} {status : Nat}
    (answered : answers status answer = true) :
    isFailure answer = false ∧
      ∀ other, other ≠ status → answers other answer = false := by
  cases answer with
  | error failure => cases answered
  | ok answer =>
      refine ⟨rfl, fun other different => ?_⟩
      rw [answers, decide_eq_true_eq] at answered
      rw [answers, answered, decide_eq_false different.symm]

/-- The counters agree with each other and with what was recorded and answered. -/
structure Accurate (admission : AdmissionState) (log : CountingService.Log) : Prop where
  attempts : admission.attempts =
    admission.accepted + admission.rejected + admission.idempotentReplays
  reasons : admission.rejectionsByReason.total = admission.rejected
  recent : admission.recentDecisions =
    (log.map Prod.fst).rtake (min recentAdmissionDecisionsLimit admission.attempts)
  last : admission.lastDecision = admission.recentDecisions.getLast?
  accepted : admission.accepted = log.countP fun entry => answers 201 entry.2
  replayed : admission.idempotentReplays = log.countP fun entry => answers 200 entry.2
  rejected : admission.rejected = log.countP fun entry => isFailure entry.2

/-! ## Counting decisions -/

namespace AdmissionDecision

def accepts (decision : AdmissionDecision) : Bool :=
  decision.admitted && !decision.idempotentReplay

def rejects (decision : AdmissionDecision) : Bool :=
  !decision.admitted && !decision.idempotentReplay

theorem kinds_of_replay {decision : AdmissionDecision}
    (replays : decision.idempotentReplay = true) :
    decision.accepts = false ∧ decision.rejects = false := by
  simp [accepts, rejects, replays]

theorem kinds_of_accepts {decision : AdmissionDecision} (accepted : decision.accepts = true) :
    decision.idempotentReplay = false ∧ decision.rejects = false := by
  simp only [accepts, Bool.and_eq_true, Bool.not_eq_true'] at accepted
  simp [rejects, accepted]

theorem kinds_of_rejects {decision : AdmissionDecision} (rejected : decision.rejects = true) :
    decision.idempotentReplay = false ∧ decision.accepts = false := by
  simp only [rejects, Bool.and_eq_true, Bool.not_eq_true'] at rejected
  simp [accepts, rejected]

end AdmissionDecision

/-- The counters are those of the recorded decisions. -/
structure Tallied (admission : AdmissionState) (decisions : List AdmissionDecision) : Prop where
  attempts : admission.attempts = decisions.length
  accepted : admission.accepted = decisions.countP AdmissionDecision.accepts
  replayed : admission.idempotentReplays = decisions.countP AdmissionDecision.idempotentReplay
  rejected : admission.rejected = decisions.countP AdmissionDecision.rejects
  reasons : admission.rejectionsByReason.total = admission.rejected
  recent : admission.recentDecisions = decisions.rtake recentAdmissionDecisionsLimit
  last : admission.lastDecision = decisions.getLast?

theorem tallied_nil : Tallied {} [] := ⟨rfl, rfl, rfl, rfl, rfl, rfl, rfl⟩

/-- The last decisions of a longer list are the last ones of the last ones. -/
theorem recent_concat (decisions : List AdmissionDecision) (decision : AdmissionDecision) :
    let recent := decisions.rtake recentAdmissionDecisionsLimit ++ [decision]
    (if recentAdmissionDecisionsLimit < recent.length then
        recent.drop (recent.length - recentAdmissionDecisionsLimit)
      else recent) = (decisions ++ [decision]).rtake recentAdmissionDecisionsLimit := by
  have whole : (if recentAdmissionDecisionsLimit <
        (decisions.rtake recentAdmissionDecisionsLimit ++ [decision]).length then
      (decisions.rtake recentAdmissionDecisionsLimit ++ [decision]).drop
        ((decisions.rtake recentAdmissionDecisionsLimit ++ [decision]).length -
          recentAdmissionDecisionsLimit)
      else decisions.rtake recentAdmissionDecisionsLimit ++ [decision]) =
      (decisions.rtake recentAdmissionDecisionsLimit ++ [decision]).rtake
        recentAdmissionDecisionsLimit := by
    unfold List.rtake
    split
    · rfl
    · next short => rw [Nat.sub_eq_zero_of_le (Nat.le_of_not_lt short), List.drop_zero]
  refine whole.trans ?_
  simp only [recentAdmissionDecisionsLimit, List.rtake_concat_succ]
  congr 1
  simp only [List.rtake, List.length_drop, List.drop_drop]
  congr 1
  omega

theorem rtake_min_length (decisions : List AdmissionDecision) (count : Nat) :
    decisions.rtake (min count decisions.length) = decisions.rtake count := by
  unfold List.rtake
  congr 1
  omega

theorem getLast?_recent (decisions : List AdmissionDecision) :
    (decisions.rtake recentAdmissionDecisionsLimit).getLast? = decisions.getLast? := by
  unfold List.rtake
  rw [List.getLast?_drop, recentAdmissionDecisionsLimit]
  split
  · next short =>
      have none : decisions.length = 0 := by omega
      rw [List.eq_nil_of_length_eq_zero none, List.getLast?_nil]
  · rfl

/-- Every decision is of one of the three kinds. -/
theorem length_eq_kinds (decisions : List AdmissionDecision) :
    decisions.length = decisions.countP AdmissionDecision.accepts +
      decisions.countP AdmissionDecision.rejects +
      decisions.countP AdmissionDecision.idempotentReplay := by
  induction decisions with
  | nil => rfl
  | cons decision rest ih =>
      rw [List.length_cons, ih, List.countP_cons, List.countP_cons, List.countP_cons]
      cases replays : decision.idempotentReplay with
      | true =>
          have kinds := AdmissionDecision.kinds_of_replay replays
          simp only [kinds, if_true, Bool.false_eq_true, if_false]
          omega
      | false =>
          cases admits : decision.admitted with
          | true =>
              have accepted : decision.accepts = true := by
                simp [AdmissionDecision.accepts, admits, replays]
              have kinds := AdmissionDecision.kinds_of_accepts accepted
              simp only [accepted, kinds, if_true, Bool.false_eq_true, if_false]
              omega
          | false =>
              have rejected : decision.rejects = true := by
                simp [AdmissionDecision.rejects, admits, replays]
              have kinds := AdmissionDecision.kinds_of_rejects rejected
              simp only [rejected, kinds, if_true, Bool.false_eq_true, if_false]
              omega

theorem Tallied.record {admission : AdmissionState} {decisions : List AdmissionDecision}
    (tallied : Tallied admission decisions) (decision : AdmissionDecision)
    (named : decision.rejects = true → decision.reasonCode ≠ "") :
    Tallied (admission.record decision) (decisions ++ [decision]) := by
  obtain ⟨attempts, accepted, replayed, rejected, reasons, recent, last⟩ := tallied
  have unchanged : (admission.count decision).recentDecisions = admission.recentDecisions := by
    unfold AdmissionState.count
    split
    · rfl
    · split <;> rfl
  have latest : (admission.record decision).recentDecisions =
      (decisions ++ [decision]).rtake recentAdmissionDecisionsLimit := by
    rw [← recent_concat, ← recent, ← unchanged]
    rfl
  have ending :
      (admission.record decision).lastDecision = (decisions ++ [decision]).getLast? := by
    rw [List.getLast?_concat]
    rfl
  cases replays : decision.idempotentReplay with
  | true =>
      refine ⟨by simp [AdmissionState.record, attempts], ?_, ?_, ?_, ?_, latest, ending⟩
      all_goals
        simp [AdmissionState.record, AdmissionState.count, AdmissionDecision.accepts,
          AdmissionDecision.rejects, List.countP_append, replays, accepted, replayed, rejected,
          reasons]
  | false =>
      cases admits : decision.admitted with
      | true =>
          refine ⟨by simp [AdmissionState.record, attempts], ?_, ?_, ?_, ?_, latest, ending⟩
          all_goals
            simp [AdmissionState.record, AdmissionState.count, AdmissionDecision.accepts,
              AdmissionDecision.rejects, List.countP_append, replays, admits, accepted, replayed,
              rejected, reasons]
      | false =>
          have reason := named (by simp [AdmissionDecision.rejects, replays, admits])
          refine ⟨by simp [AdmissionState.record, attempts], ?_, ?_, ?_, ?_, latest, ending⟩
          all_goals
            simp [AdmissionState.record, AdmissionState.count, AdmissionDecision.accepts,
              AdmissionDecision.rejects, List.countP_append, replays, admits, accepted, replayed,
              rejected, reasons, reason, Counters.total_increment]

/-! ## What a call records and answers -/

section Calls

variable {platform : Platform} {cfg : Config}

theorem evaluateAdmissionLocked_admitted {s : Service} {req : SessionRequest}
    {decision : AdmissionDecision}
    (evaluated : evaluateAdmissionLocked cfg s req = (decision, none)) :
    decision.accepts = true := by
  unfold evaluateAdmissionLocked at evaluated
  dsimp only [admissionUsageForRequest] at evaluated
  split at evaluated
  · cases evaluated
  · split at evaluated
    · cases evaluated
    · split at evaluated
      · cases evaluated
      · cases evaluated
        rfl

theorem evaluateAdmissionLocked_refused {s : Service} {req : SessionRequest}
    {decision : AdmissionDecision} {failure : ApiError}
    (evaluated : evaluateAdmissionLocked cfg s req = (decision, some failure)) :
    decision.rejects = true ∧ decision.reasonCode ≠ "" := by
  unfold evaluateAdmissionLocked at evaluated
  dsimp only [admissionUsageForRequest] at evaluated
  split at evaluated
  · cases evaluated
    exact ⟨rfl, by dsimp only; decide⟩
  · split at evaluated
    · cases evaluated
      exact ⟨rfl, by dsimp only; decide⟩
    · split at evaluated
      · cases evaluated
        exact ⟨rfl, by dsimp only; decide⟩
      · cases evaluated

namespace CountingService

/-- What the decision of a call says of its answer. -/
inductive Fits (outcome : Outcome) (reaches saves : Bool) : Prop where
  | replayed (decided : outcome.decision.idempotentReplay = true)
      (answered : answers 200 outcome.answer = true) (early : reaches = false)
  | rejected (decided : outcome.decision.rejects = true)
      (named : outcome.decision.reasonCode ≠ "")
      (answered : isFailure outcome.answer = true) (early : reaches = false)
  | accepted (decided : outcome.decision.accepts = true) (late : reaches = true)
      (answered : if saves then answers 201 outcome.answer = true
        else isFailure outcome.answer = true)

/-- Every call records its decision. -/
theorem createSession_admission (before : CountingService) (call : Attempt) :
    let outcome := before.createSession platform cfg call
    outcome.after.admission = before.admission.record outcome.decision := by
  unfold createSession
  dsimp only
  cases validateRequest platform cfg call.request with
  | error failure => rfl
  | ok req =>
      dsimp only
      cases call.stored with
      | some record =>
          dsimp only [replay]
          cases replayAnswer record req <;> rfl
      | none =>
          dsimp only
          cases before.service.sessions.lookup req.sessionID with
          | some record =>
              dsimp only [replay]
              cases replayAnswer record req <;> rfl
          | none =>
              dsimp only
              split
              · rfl
              · split <;> rfl

theorem replay_fits (s : CountingService) (record : SessionRecord) (req : SessionRequest)
    (reason : String) (saves : Bool) :
    Fits (s.replay platform cfg record req reason) false saves := by
  unfold replay replayAnswer
  split
  · next conflict found =>
      exact .rejected rfl
        (classifyAdmissionReason_ne_empty platform conflict.message conflict.status) rfl rfl
  · next answer found =>
      split at found
      · cases found
        exact .replayed rfl rfl rfl
      · cases found

theorem createSession_fits (before : CountingService) (call : Attempt) :
    Fits (before.createSession platform cfg call) (before.reachesSave platform cfg call)
      call.saves := by
  unfold createSession reachesSave
  dsimp only
  cases validateRequest platform cfg call.request with
  | error failure =>
      exact .rejected rfl (classifyAdmissionReason_ne_empty platform _ _) rfl rfl
  | ok req =>
      dsimp only
      cases call.stored with
      | some record => exact replay_fits _ record req _ call.saves
      | none =>
          dsimp only
          cases before.service.sessions.lookup req.sessionID with
          | some record => exact replay_fits _ record req _ call.saves
          | none =>
              dsimp only
              split
              · next decision failure evaluated =>
                  have refused := evaluateAdmissionLocked_refused evaluated
                  exact .rejected refused.1 refused.2 rfl (by rw [evaluated]; rfl)
              · next decision evaluated =>
                  have admitted := evaluateAdmissionLocked_admitted evaluated
                  cases saved : call.saves with
                  | true => exact .accepted admitted (by rw [evaluated]; rfl) rfl
                  | false => exact .accepted admitted (by rw [evaluated]; rfl) rfl

/-! ## Runs -/

theorem run_tallied (calls : List Attempt) :
    ∀ (s : CountingService) (decisions : List AdmissionDecision),
      Tallied s.admission decisions →
        let finished := s.run platform cfg calls
        Tallied finished.1.admission (decisions ++ finished.2.map Prod.fst) := by
  induction calls with
  | nil =>
      intro s decisions tallied
      simpa only [run, List.map_nil, List.append_nil] using tallied
  | cons call rest ih =>
      intro s decisions tallied
      have recorded := @createSession_admission platform cfg s call
      have named : (s.createSession platform cfg call).decision.rejects = true →
          (s.createSession platform cfg call).decision.reasonCode ≠ "" := by
        intro rejects
        cases @createSession_fits platform cfg s call with
        | replayed decided => simp [AdmissionDecision.rejects, decided] at rejects
        | rejected _ reason => exact reason
        | accepted decided =>
            simp only [AdmissionDecision.accepts, Bool.and_eq_true] at decided
            simp [AdmissionDecision.rejects, decided.1] at rejects
      have next := ih (s.createSession platform cfg call).after _
        (recorded ▸ tallied.record (s.createSession platform cfg call).decision named)
      simpa only [run, List.map_cons, List.append_assoc, List.singleton_append] using next

/-- How often a decision was accepted and a call answered, in a log in which every save that is
come to works exactly if a condition holds. -/
structure Counted (log : Log) (works : Prop) : Prop where
  replayed : (log.countP fun entry => answers 200 entry.2) =
    log.countP fun entry => entry.1.idempotentReplay
  settled :
    (log.countP fun entry => entry.1.accepts) + (log.countP fun entry => entry.1.rejects) =
    (log.countP fun entry => answers 201 entry.2) + log.countP fun entry => isFailure entry.2
  least : (log.countP fun entry => answers 201 entry.2) ≤
    log.countP fun entry => entry.1.accepts
  works_iff : (log.countP fun entry => answers 201 entry.2) =
    (log.countP fun entry => entry.1.accepts) ↔ works

theorem run_counted (calls : List Attempt) : ∀ s : CountingService,
    Counted (s.run platform cfg calls).2 (s.SavesWork platform cfg calls) := by
  induction calls with
  | nil =>
      intro s
      exact ⟨rfl, rfl, le_rfl, iff_of_true rfl trivial⟩
  | cons call rest ih =>
      intro s
      obtain ⟨replayed, settled, least, works_iff⟩ :=
        ih (s.createSession platform cfg call).after
      rw [run, SavesWork]
      have fits := @createSession_fits platform cfg s call
      generalize s.createSession platform cfg call = outcome at *
      cases fits with
      | replayed decided answered early =>
          have kinds := AdmissionDecision.kinds_of_replay decided
          obtain ⟨succeeded, unlike⟩ := unlike_of_answers answered
          have created := unlike 201 (by decide)
          constructor
          case replayed => simpa [decided, answered] using replayed
          case settled => simpa [kinds, created, succeeded] using settled
          case least => simpa [kinds, created] using least
          case works_iff => simpa [kinds, created, early] using works_iff
      | rejected decided named answered early =>
          have kinds := AdmissionDecision.kinds_of_rejects decided
          have unlike := answers_of_failure answered
          constructor
          case replayed => simpa [kinds, unlike] using replayed
          case settled =>
            simp only [List.countP_cons, kinds, decided, unlike, answered] at settled ⊢
            omega
          case least => simpa [kinds, unlike] using least
          case works_iff => simpa [kinds, unlike, early] using works_iff
      | accepted decided late answered =>
          have kinds := AdmissionDecision.kinds_of_accepts decided
          cases saved : call.saves with
          | true =>
              rw [saved, if_pos rfl] at answered
              obtain ⟨succeeded, unlike⟩ := unlike_of_answers answered
              have replays := unlike 200 (by decide)
              constructor
              case replayed => simpa [kinds, replays] using replayed
              case settled =>
                simp only [List.countP_cons, kinds, decided, succeeded, answered] at settled ⊢
                omega
              case least => simpa [decided, answered] using least
              case works_iff => simpa [decided, answered, late] using works_iff
          | false =>
              rw [saved, if_neg Bool.false_ne_true] at answered
              have unlike := answers_of_failure answered
              constructor
              case replayed => simpa [kinds, unlike] using replayed
              case settled =>
                simp only [List.countP_cons, kinds, decided, unlike, answered] at settled ⊢
                omega
              case least =>
                simp only [List.countP_cons, decided, unlike, if_true, Bool.false_eq_true,
                  if_false] at least ⊢
                omega
              case works_iff =>
                refine iff_of_false (fun same => ?_) fun works =>
                  Bool.false_ne_true (works.1 late)
                simp only [List.countP_cons, decided, unlike, if_true, Bool.false_eq_true,
                  if_false] at same least
                omega

/-- Whatever is saved, the counters and lists are those of the recorded decisions. -/
theorem run_books (service : Service) (calls : List Attempt) :
    let finished := run platform cfg ⟨service, {}⟩ calls
    Tallied finished.1.admission (finished.2.map Prod.fst) := by
  have tallied := @run_tallied platform cfg calls ⟨service, {}⟩ []
    tallied_nil
  simpa only [List.nil_append] using tallied

/-- The accounts agree with the answers of a sequence of calls exactly if every save that a call
comes to works. -/
theorem accounting_accurate_iff (platform : Platform) (cfg : Config) (service : Service)
    (calls : List Attempt) :
    let finished := run platform cfg ⟨service, {}⟩ calls
    Accurate finished.1.admission finished.2 ↔
      SavesWork platform cfg ⟨service, {}⟩ calls := by
  intro finished
  have tallied : Tallied finished.1.admission (finished.2.map Prod.fst) := run_books service calls
  have counted : Counted finished.2 (SavesWork platform cfg ⟨service, {}⟩ calls) :=
    run_counted calls ⟨service, {}⟩
  have accepted : finished.1.admission.accepted =
      finished.2.countP fun entry => entry.1.accepts :=
    tallied.accepted.trans List.countP_map
  have rejected : finished.1.admission.rejected =
      finished.2.countP fun entry => entry.1.rejects :=
    tallied.rejected.trans List.countP_map
  have replayed : finished.1.admission.idempotentReplays =
      finished.2.countP fun entry => entry.1.idempotentReplay :=
    tallied.replayed.trans List.countP_map
  constructor
  · intro accurate
    exact counted.works_iff.mp (accurate.accepted.symm.trans accepted)
  · intro works
    have created := counted.works_iff.mpr works
    constructor
    case attempts =>
      rw [tallied.attempts, length_eq_kinds, tallied.accepted, tallied.rejected, tallied.replayed]
    case reasons => exact tallied.reasons
    case recent => rw [tallied.recent, tallied.attempts, rtake_min_length]
    case last => rw [tallied.last, tallied.recent, getLast?_recent]
    case accepted => exact accepted.trans created.symm
    case replayed => exact replayed.trans counted.replayed.symm
    case rejected =>
      have settled := counted.settled
      exact rejected.trans (by omega)

/-- The first session of a gateway, whose record cannot be saved. -/
def unsavedSession : List Attempt :=
  [⟨plainRequest "rbi-1" "worker-a", none, 0, ⟨"entry_1", "bridge_1"⟩, false⟩]

theorem unsaved_session_counts_as_accepted :
    let finished := run plainPlatform defaultConfig ⟨Service.initial 0, {}⟩ unsavedSession
    ¬Accurate finished.1.admission finished.2 := by
  intro finished accurate
  have counted : finished.1.admission.accepted = 1 := by rfl
  have created : (finished.2.countP fun entry => answers 201 entry.2) = 0 := by rfl
  have same := accurate.accepted
  rw [counted, created] at same
  cases same

end CountingService

end Calls

end RemoteBrowser.MediaGateway
