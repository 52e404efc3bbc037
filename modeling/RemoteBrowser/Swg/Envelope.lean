import RemoteBrowser.Swg.Canonical
import RemoteBrowser.Text.Whitespace

/-!
# Validation of bootstrap requests

`POST /api/swg/sessions` carries a signed request in its headers and the target URL in its
body.  The server normalises the URL, checks the headers against the configured policy, rebuilds
the signed input from the normalised values and verifies the signature.  The result becomes the
`client.swg` of the new session.
-/

namespace RemoteBrowser.Swg

/-- The platform with the serializer of URLs. -/
structure WebPlatform extends Platform where
  /-- `new URL(text).toString()`, unless it throws -/
  href : String → Option String

/-! ## `shared/target-url.js` -/

/-- `/^[a-z]+:\/\//i` -/
def hasScheme (text : String) : Bool :=
  let rest := text.toList.dropWhile Char.isAlpha
  decide (text.toList.takeWhile Char.isAlpha ≠ []) && [':', '/', '/'].isPrefixOf rest

namespace WebPlatform

variable (platform : WebPlatform)

/-- What is parsed: a text without a scheme is taken for a host. -/
def targetCandidate (trimmed : String) : String :=
  if hasScheme trimmed then trimmed else "https://" ++ trimmed

def normalizeTargetUrl (value : String) : Except String String :=
  let trimmed := platform.trim value
  if trimmed = "" then .error "Enter a URL to isolate."
  else match platform.url (targetCandidate trimmed), platform.href (targetCandidate trimmed) with
    | some url, some text =>
        if url.scheme = "http" ∨ url.scheme = "https" then .ok text
        else .error "Only http and https URLs are supported."
    | _, _ => .error "Invalid URL"

/-- `validateTargetUrl` of `app/server.js`. -/
def validateTargetUrl (value : String) : Except HttpError String :=
  match platform.normalizeTargetUrl value with
  | .ok text => .ok text
  | .error message => .error ⟨400, message⟩

end WebPlatform

/-! ## Headers -/

/-- The fields that headers carry. -/
def SwgField.inHeaders : SwgField → Bool
  | .token => false
  | .method => false
  | .sessionId => false
  | _ => true

namespace Platform

variable (platform : Platform)

/-- `buildSwgHeaders`; the timestamp and the transaction default to the given values. -/
def signedInput (input : SwgFields) (now uuid : String) : SwgFields
  | .timestamp => platform.trim (orElse (input .timestamp) now)
  | .transactionId => orElse (platform.trim (input .transactionId)) uuid
  | field => input field

def buildSwgHeaders (input : SwgFields) (now uuid : String) : SwgFields
  | .signature => platform.signSwgRequest (platform.signedInput input now uuid)
  | .timestamp => platform.signedInput input now uuid .timestamp
  | .transactionId => platform.signedInput input now uuid .transactionId
  | field => if field.inHeaders then platform.trim (input field) else ""

def extractSwgHeaders (headers : SwgFields) : SwgFields := fun field =>
  if field.inHeaders then platform.trim (headers field) else ""

/-! ## `app/swg-bootstrap-policy.js` -/

/-- The text without the characters of `[-_\s]`. -/
def squeezed (text : String) : String :=
  String.ofList (text.toList.filter fun char => !(char = '-' || char = '_' || Text.isSpace char))

def normalizeBootstrapProvider (value : String) : String :=
  let folded := platform.toLowerCase (platform.trim value)
  let normalized := squeezed folded
  if normalized ∈ ["inhouse", "internal", "cloudsec"] then "in_house"
  else if normalized ∈ ["menlo", "menlosecurity"] then "menlo"
  else folded

/-- The text with a hyphen for every character of `[_\s]`. -/
def hyphenated (text : String) : String :=
  String.ofList (text.toList.map fun char =>
    if char = '_' || Text.isSpace char then '-' else char)

def normalizeBootstrapCategory (value : String) : String :=
  let normalized := hyphenated (platform.toLowerCase (platform.trim value))
  if normalized ∈ ["catb", "category-b"] then "cat-b"
  else if normalized ∈ ["cata", "category-a"] then "cat-a"
  else normalized

/-- `normalizeSet` -/
def normalizeSet (values : List String) (normalize : String → String) : List String :=
  (values.map normalize).filter (· ≠ "")

end Platform

/-- The policy as it is configured. -/
structure SwgBootstrapPolicy where
  allowedContractVersions : List String
  allowedRequestKinds : List String
  allowedOriginalMethods : List String
  allowedProviders : List String
  allowedProviderCategories : List String
  fallbackProvider : String

structure SwgEnvelope where
  contractVersion : String
  requestKind : String
  originalMethod : String
  provider : String
  providerCategory : String
  canonicalProvider : String
  canonicalProviderCategory : String
  canonicalFallbackProvider : String
  fallbackProvider : String
  fallbackReason : String
  deriving DecidableEq

section Envelope

variable (platform : Platform) (policy : SwgBootstrapPolicy)

/-- The fallback provider of the normalised policy. -/
def policyFallback : String :=
  orElse (platform.normalizeBootstrapProvider policy.fallbackProvider) "menlo"

/-- Whether a set of the normalised policy has the value. -/
def Platform.allows (values : List String) (normalize : String → String) (value : String) : Bool :=
  decide (value ∈ Platform.normalizeSet values normalize)

def validateSwgRequestEnvelope (headers : SwgFields) : Except HttpError SwgEnvelope :=
  let contractVersion := platform.trim (headers .contractVersion)
  let requestKind := platform.toLowerCase (platform.trim (headers .requestKind))
  let originalMethod := platform.toUpperCase (platform.trim (headers .originalMethod))
  let provider := platform.normalizeBootstrapProvider (headers .provider)
  let providerCategory := platform.normalizeBootstrapCategory (headers .providerCategory)
  let missing := [SwgField.contractVersion, .requestKind, .originalMethod, .provider,
    .providerCategory, .fallbackProvider].filter fun field =>
      platform.trim (headers field) = ""
  if contractVersion = "" then
    .ok
      { contractVersion := "", requestKind := "http-document", originalMethod := "GET"
        provider := "", providerCategory := "", canonicalProvider := ""
        canonicalProviderCategory := "", canonicalFallbackProvider := ""
        fallbackProvider := policyFallback platform policy, fallbackReason := "" }
  else if missing ≠ [] then
    .error ⟨400, "Missing SWG fields: " ++ ", ".intercalate (missing.map SwgField.name)⟩
  else if Platform.allows policy.allowedContractVersions platform.trim contractVersion = false then
    .error ⟨422, "Unsupported SWG contract version: " ++ contractVersion⟩
  else if Platform.allows policy.allowedRequestKinds
      (fun value => platform.toLowerCase (platform.trim value)) requestKind = false then
    .error ⟨422, "Unsupported SWG request kind: " ++ requestKind⟩
  else if Platform.allows policy.allowedOriginalMethods
      (fun value => platform.toUpperCase (platform.trim value)) originalMethod = false then
    .error ⟨422, "Unsupported SWG original method: " ++ originalMethod⟩
  else if Platform.allows policy.allowedProviders platform.normalizeBootstrapProvider
      provider = false then
    .error ⟨422, "Unsupported SWG RBI provider: " ++ provider⟩
  else if Platform.allows policy.allowedProviderCategories platform.normalizeBootstrapCategory
      providerCategory = false then
    .error ⟨422, "Unsupported SWG RBI provider category: " ++ providerCategory⟩
  else
    .ok
      { contractVersion, requestKind, originalMethod, provider, providerCategory
        canonicalProvider := platform.trim (headers .provider)
        canonicalProviderCategory := platform.trim (headers .providerCategory)
        canonicalFallbackProvider := platform.trim (headers .fallbackProvider)
        fallbackProvider := orElse
          (platform.normalizeBootstrapProvider (headers .fallbackProvider))
          (policyFallback platform policy)
        fallbackReason := platform.trim (headers .fallbackReason) }

end Envelope

/-! ## `POST /api/swg/sessions` -/

structure AdmissionSettings extends HandoffSettings where
  swgBootstrapLocalOnly : Bool
  policy : SwgBootstrapPolicy

/-- What the route reads of a request. -/
structure HeaderRequest where
  headers : SwgFields
  /-- `body.targetUrl` -/
  targetUrl : String
  /-- `isLocalRequest` -/
  isLocal : Bool

def bootstrapFields : List SwgField :=
  [.signature, .timestamp, .transactionId, .contractVersion, .requestKind, .originalMethod,
    .orgId, .boundaryType, .boundaryId, .originId, .originType, .tenantId, .profileId, .policy,
    .provider, .providerCategory, .fallbackProvider, .nonce, .keyId]

/-- The input whose signature is verified. -/
def verifiedInput (headers upstream : SwgFields) (envelope : SwgEnvelope) (targetUrl : String) :
    SwgFields
  | .method => "POST"
  | .contractVersion => envelope.contractVersion
  | .requestKind => envelope.requestKind
  | .originalMethod => envelope.originalMethod
  | .targetUrl => targetUrl
  | .provider => orElse envelope.canonicalProvider envelope.provider
  | .providerCategory => orElse envelope.canonicalProviderCategory envelope.providerCategory
  | .fallbackProvider => orElse envelope.canonicalFallbackProvider envelope.fallbackProvider
  | .fallbackReason => envelope.fallbackReason
  | .token => ""
  | .signature => ""
  | .sessionId => ""
  | field => headers.withUpstream upstream field

/-- The context of an accepted request, which becomes `client.swg`. -/
def bootstrapContext (headers upstream : SwgFields) (envelope : SwgEnvelope) : SwgFields
  | .contractVersion => envelope.contractVersion
  | .requestKind => envelope.requestKind
  | .originalMethod => envelope.originalMethod
  | .provider => envelope.provider
  | .providerCategory => envelope.providerCategory
  | .fallbackProvider => envelope.fallbackProvider
  | .fallbackReason => envelope.fallbackReason
  | .token => ""
  | .signature => ""
  | .method => ""
  | .sessionId => ""
  | .targetUrl => ""
  | .timestamp => ""
  | field => headers.withUpstream upstream field

section Bootstrap

variable (platform : WebPlatform) (settings : AdmissionSettings)

def resolveSwgBootstrapTargetUrl (request : HeaderRequest) : Except HttpError String :=
  if request.targetUrl ≠ "" then platform.validateTargetUrl request.targetUrl
  else if request.headers .targetUrl ≠ "" then
    platform.validateTargetUrl (request.headers .targetUrl)
  else .error ⟨400, "Missing targetUrl"⟩

/-- The checks of `validateSwgBootstrapRequest` on the extracted headers. -/
def checkSwgHeaders (headers : SwgFields) (targetUrl : String) (now : Nat) :
    Except HttpError SwgFields := do
  requireSwgFields platform.toPlatform headers bootstrapFields
  requireOrgBoundaryContext platform.toPlatform headers
  match platform.number (headers .timestamp) with
  | none => .error ⟨400, "Invalid SWG timestamp"⟩
  | some timestamp =>
      if Stale settings.toHandoffSettings now timestamp then .error ⟨401, "Stale SWG request"⟩
      else do
        let upstream ← deriveUpstreamContext platform.toPlatform headers targetUrl
        let envelope ← validateSwgRequestEnvelope platform.toPlatform settings.policy headers
        if platform.verifySwgRequest (verifiedInput headers upstream envelope targetUrl)
            (headers .signature) = false then
          .error ⟨401, "Invalid SWG signature"⟩
        else
          return bootstrapContext headers upstream envelope

def validateSwgBootstrapRequest (request : HeaderRequest) (targetUrl : String) (now : Nat) :
    Except HttpError SwgFields :=
  if settings.enableSwgBootstrap = false then .error ⟨404, "SWG bootstrap is disabled"⟩
  else if settings.swgBootstrapLocalOnly && !request.isLocal then
    .error ⟨403, "SWG bootstrap is restricted to local callers"⟩
  else
    checkSwgHeaders platform settings (platform.extractSwgHeaders request.headers) targetUrl now

/-- The part of the route before the idempotency record: the normalised target URL and the
context of the request. -/
def acceptSwgBootstrap (request : HeaderRequest) (now : Nat) :
    Except HttpError (String × SwgFields) := do
  let targetUrl ← resolveSwgBootstrapTargetUrl platform request
  let context ← validateSwgBootstrapRequest platform settings request targetUrl now
  return (targetUrl, context)

end Bootstrap

end RemoteBrowser.Swg
