import Mathlib.Algebra.GroupWithZero.Nat
import RemoteBrowser.Text.Percent
import RemoteBrowser.Text.Whitespace

/-!
# The clipboard broker

The broker decides whether a text may pass between a session and its user, and keeps a summary of
its decisions.  The limit on the size of a text is compared with the size that the caller declares,
if there is one.
-/

namespace RemoteBrowser.Clipboard

open Text

/-! ## Contracts -/

inductive BrokerDecision where
  | allowed
  | blocked
  | unsupported
  deriving DecidableEq

inductive BrokerReason where
  | policyAllowed
  | policyBlocked
  | unsupportedDirection
  | payloadTooLarge
  | unsupportedMimeType
  | scanRequired
  deriving DecidableEq

/-- The keys of the summary's counters. -/
def BrokerReason.all : List BrokerReason :=
  [.policyAllowed, .policyBlocked, .unsupportedDirection, .payloadTooLarge, .unsupportedMimeType,
    .scanRequired]

structure ClipboardBrokerRequest where
  sessionID : String
  tenantID : String
  direction : String
  format : String
  sizeBytes : Int := 0
  text : String := ""
  policyLabels : List String := []
  deriving DecidableEq

structure BrokerResponse where
  id : String
  decision : BrokerDecision
  reason : BrokerReason
  sessionID : String
  tenantID : String
  direction : String
  action : String
  fallbackProvider : String
  releaseRef : String
  auditID : String
  ttlSeconds : Int
  deriving DecidableEq

structure BrokerSummary where
  requestsTotal : Nat := 0
  allowed : Nat := 0
  blocked : Nat := 0
  unsupported : Nat := 0
  bytesTotal : Int := 0
  lastDecision : Option BrokerResponse := none
  decisionReasons : BrokerReason → Nat := fun _ => 0

structure Config where
  maxTextBytes : Int := 0
  allowedDirections : List String := []
  allowedFormats : List String := []
  ttlSeconds : Int := 0
  fallbackProvider : String := ""
  deriving DecidableEq

/-- The configuration that `NewService` keeps. -/
def Config.completed (cfg : Config) : Config where
  maxTextBytes := if cfg.maxTextBytes ≤ 0 then 16 * 1024 else cfg.maxTextBytes
  allowedDirections :=
    if cfg.allowedDirections = [] then ["to-remote", "from-remote"] else cfg.allowedDirections
  allowedFormats := if cfg.allowedFormats = [] then ["text/plain"] else cfg.allowedFormats
  ttlSeconds := if cfg.ttlSeconds ≤ 0 then 120 else cfg.ttlSeconds
  fallbackProvider := if trimSpace cfg.fallbackProvider = "" then "menlo" else cfg.fallbackProvider

/-- What `opaqueID` draws for a response. -/
structure Draws where
  release : String
  id : String
  audit : String
  deriving DecidableEq

/-! ## Decisions -/

/-- `len([]byte(text))`. -/
def textBytes (text : String) : Int := (utf8 text.toList).length

def blockingLabels : List String :=
  ["block", "blocked", "dlp-block", "secret", "credential", "password", "token", "malware"]

section Broker

-- `strings.ToLower` maps letters of every alphabet.
variable (toLower : String → String)

def normalize (value : String) : String := toLower (trimSpace value)

def containsNormalized (values : List String) (value : String) : Bool :=
  values.any fun candidate => normalize toLower candidate = value

def hasPolicyLabel (labels candidates : List String) : Bool :=
  labels.any fun label => candidates.any fun candidate =>
    normalize toLower label = normalize toLower candidate

variable (cfg : Config)

/-- The size that is compared with the limit. -/
def declaredBytes (req : ClipboardBrokerRequest) : Int :=
  if req.sizeBytes ≤ 0 then textBytes req.text else req.sizeBytes

def decideClipboard (req : ClipboardBrokerRequest) : BrokerDecision × BrokerReason :=
  if !containsNormalized toLower cfg.allowedDirections (normalize toLower req.direction) then
    (.unsupported, .unsupportedDirection)
  else if !containsNormalized toLower cfg.allowedFormats (normalize toLower req.format) then
    (.unsupported, .unsupportedMimeType)
  else if cfg.maxTextBytes < declaredBytes req then (.blocked, .payloadTooLarge)
  else if hasPolicyLabel toLower req.policyLabels blockingLabels then (.blocked, .policyBlocked)
  else (.allowed, .policyAllowed)

def evaluate (req : ClipboardBrokerRequest) (draws : Draws) : BrokerResponse :=
  let outcome := decideClipboard toLower cfg req
  { id := "clipboard-broker-" ++ draws.id
    decision := outcome.1
    reason := outcome.2
    sessionID := trimSpace req.sessionID
    tenantID := trimSpace req.tenantID
    direction := normalize toLower req.direction
    action := if outcome.1 ≠ .allowed then "fallback-to-menlo" else "release"
    fallbackProvider := if outcome.1 ≠ .allowed then cfg.fallbackProvider else ""
    releaseRef := if outcome.1 ≠ .allowed then "" else "clipboard-release-" ++ draws.release
    auditID := "audit-" ++ draws.audit
    ttlSeconds := cfg.ttlSeconds }

end Broker

namespace BrokerSummary

def record (summary : BrokerSummary) (resp : BrokerResponse) (bytes : Int) : BrokerSummary :=
  { requestsTotal := summary.requestsTotal + 1
    bytesTotal := if 0 < bytes then summary.bytesTotal + bytes else summary.bytesTotal
    allowed := summary.allowed + if resp.decision = .allowed then 1 else 0
    unsupported := summary.unsupported + if resp.decision = .unsupported then 1 else 0
    blocked := summary.blocked + if resp.decision = .blocked then 1 else 0
    decisionReasons := fun reason =>
      summary.decisionReasons reason + if reason = resp.reason then 1 else 0
    lastDecision := some resp }

/-- Every request is counted once by its decision and once by its reason. -/
structure Balanced (summary : BrokerSummary) : Prop where
  decisions : summary.requestsTotal = summary.allowed + summary.blocked + summary.unsupported
  reasons : summary.requestsTotal = (BrokerReason.all.map summary.decisionReasons).sum

theorem balanced_empty : ({} : BrokerSummary).Balanced := ⟨rfl, rfl⟩

theorem Balanced.record {summary : BrokerSummary} (balanced : summary.Balanced)
    (resp : BrokerResponse) (bytes : Int) : (summary.record resp bytes).Balanced := by
  have decisions := balanced.decisions
  have reasons := balanced.reasons
  constructor
  case decisions =>
    simp only [BrokerSummary.record]
    cases resp.decision with
    | allowed => simp; omega
    | blocked => simp; omega
    | unsupported => simp; omega
  case reasons =>
    simp only [BrokerSummary.record, BrokerReason.all, List.map_cons, List.map_nil,
      List.sum_cons, List.sum_nil] at reasons ⊢
    cases resp.reason with
    | policyAllowed => simp; omega
    | policyBlocked => simp; omega
    | unsupportedDirection => simp; omega
    | payloadTooLarge => simp; omega
    | unsupportedMimeType => simp; omega
    | scanRequired => simp; omega

end BrokerSummary

/-! ## Requests -/

section Requests

variable (toLower : String → String) (cfg : Config)

/-- `handleClipboard`, for a request that was decoded; a refusal is not counted. -/
def handleClipboard (summary : BrokerSummary) (req : ClipboardBrokerRequest) (draws : Draws) :
    BrokerSummary × Except (Nat × String) BrokerResponse :=
  if trimSpace req.sessionID = "" ∨ trimSpace req.tenantID = "" ∨ trimSpace req.direction = "" ∨
      trimSpace req.format = "" then
    (summary, .error (400, "sessionId, tenantId, direction, and format are required"))
  else
    let resp := evaluate toLower cfg req draws
    (summary.record resp req.sizeBytes, .ok resp)

/-- The summary after a sequence of requests. -/
def summaryAfter (requests : List (ClipboardBrokerRequest × Draws)) : BrokerSummary :=
  requests.foldl (fun summary (req, draws) => (handleClipboard toLower cfg summary req draws).1) {}

/-- What an allowed text has to satisfy. -/
structure IsReleasable (req : ClipboardBrokerRequest) : Prop where
  size : textBytes req.text ≤ cfg.maxTextBytes
  direction : containsNormalized toLower cfg.allowedDirections (normalize toLower req.direction) = true
  format : containsNormalized toLower cfg.allowedFormats (normalize toLower req.format) = true
  labels : hasPolicyLabel toLower req.policyLabels blockingLabels = false

/-- A text that is longer than the limit is not declared to be within it, or is held back for
another reason. -/
def DeclaresLongText (req : ClipboardBrokerRequest) : Prop :=
  cfg.maxTextBytes < textBytes req.text →
    req.sizeBytes ≤ 0 ∨ cfg.maxTextBytes < req.sizeBytes ∨
      containsNormalized toLower cfg.allowedDirections (normalize toLower req.direction) = false ∨
      containsNormalized toLower cfg.allowedFormats (normalize toLower req.format) = false ∨
      hasPolicyLabel toLower req.policyLabels blockingLabels = true

theorem decideClipboard_allowed_iff (req : ClipboardBrokerRequest) :
    (decideClipboard toLower cfg req).1 = .allowed ↔
      containsNormalized toLower cfg.allowedDirections (normalize toLower req.direction) = true ∧
        containsNormalized toLower cfg.allowedFormats (normalize toLower req.format) = true ∧
        declaredBytes req ≤ cfg.maxTextBytes ∧
        hasPolicyLabel toLower req.policyLabels blockingLabels = false := by
  unfold decideClipboard
  split
  case isTrue other =>
    rw [Bool.not_eq_true'] at other
    simp [other]
  case isFalse direction =>
    split
    case isTrue other =>
      rw [Bool.not_eq_true'] at other
      simp [other]
    case isFalse format =>
      rw [Bool.not_eq_true', Bool.not_eq_false] at direction format
      split
      case isTrue large => simp [Int.not_le.mpr large]
      case isFalse small =>
        split
        case isTrue labelled => simp [labelled]
        case isFalse free => simp [direction, format, Int.not_lt.mp small, free]

theorem releases_releasable_iff (req : ClipboardBrokerRequest) (draws : Draws) :
    ((evaluate toLower cfg req draws).decision = .allowed → IsReleasable toLower cfg req) ↔
      DeclaresLongText toLower cfg req := by
  have allowed := decideClipboard_allowed_iff toLower cfg req
  change ((decideClipboard toLower cfg req).1 = .allowed → _) ↔ _
  rw [allowed]
  unfold DeclaresLongText declaredBytes
  constructor
  · intro releases long
    by_contra held
    simp only [not_or, Bool.not_eq_false, Bool.not_eq_true, Int.not_le, Int.not_lt] at held
    obtain ⟨positive, declared, direction, format, free⟩ := held
    rw [if_neg (Int.not_le.mpr positive)] at releases
    have size := (releases ⟨direction, format, declared, free⟩).size
    omega
  · rintro declares ⟨direction, format, size, free⟩
    refine ⟨?_, direction, format, free⟩
    by_contra long
    have held := declares (Int.not_le.mp long)
    split at size
    · exact long size
    · next positive =>
        rcases held with none | large | wrong | wrong | labelled
        · exact positive none
        · omega
        · exact Bool.false_ne_true (wrong.symm.trans direction)
        · exact Bool.false_ne_true (wrong.symm.trans format)
        · exact Bool.false_ne_true (free.symm.trans labelled)

theorem summaryAfter_balanced (requests : List (ClipboardBrokerRequest × Draws)) :
    (summaryAfter toLower cfg requests).Balanced := by
  unfold summaryAfter
  induction requests using List.reverseRecOn with
  | nil => exact BrokerSummary.balanced_empty
  | append_singleton requests last ih =>
      rw [List.foldl_append]
      change (handleClipboard toLower cfg _ last.1 last.2).1.Balanced
      unfold handleClipboard
      split
      · exact ih
      · exact ih.record _ _

/-- The counters always agree, and only texts within the limits are released exactly if no long
text is declared to be short. -/
theorem clipboard_limits_hold_iff (requests : List (ClipboardBrokerRequest × Draws)) :
    ((∀ request ∈ requests,
        (evaluate toLower cfg.completed request.1 request.2).decision = .allowed →
          IsReleasable toLower cfg.completed request.1) ∧
      (summaryAfter toLower cfg.completed requests).Balanced) ↔
      ∀ request ∈ requests, DeclaresLongText toLower cfg.completed request.1 := by
  rw [and_iff_left (summaryAfter_balanced toLower cfg.completed requests)]
  exact forall₂_congr fun request _ =>
    releases_releasable_iff toLower cfg.completed request.1 request.2

end Requests

/-- A text of two bytes that is declared to have one. -/
def understatedRequest : ClipboardBrokerRequest where
  sessionID := "sess_clip"
  tenantID := "tenant-a"
  direction := "to-remote"
  format := "text/plain"
  sizeBytes := 1
  text := "hi"

theorem understated_text_is_released :
    ¬∀ (toLower : String → String) (cfg : Config) (req : ClipboardBrokerRequest) (draws : Draws),
      (evaluate toLower cfg.completed req draws).decision = .allowed →
        IsReleasable toLower cfg.completed req := by
  intro always
  have allowed : (evaluate id (Config.completed { maxTextBytes := 1 }) understatedRequest
      ⟨"1", "2", "3"⟩).decision = .allowed := by
    decide +kernel
  have size := (always id { maxTextBytes := 1 } _ _ allowed).size
  revert size
  decide +kernel

end RemoteBrowser.Clipboard
