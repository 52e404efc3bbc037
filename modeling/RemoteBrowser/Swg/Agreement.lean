import RemoteBrowser.Swg.Envelope
import Mathlib.Tactic.NormNum

/-!
# Signer and verifier of bootstrap requests

`buildSwgHeaders` signs the input as it is given; the server verifies the signature over the
normalised target URL, the request kind in lower case and upstream values that it derives by
itself.  Since the canonical string determines its fields, the signature verifies exactly when
the input is spelled as the server spells it.
-/

namespace RemoteBrowser.Swg

/-- What is documented of the platform: trimming removes white space at the ends, the case
mappings are idempotent and neither create nor remove white space, a serialized URL is its own
serialization, and one of the web contains no white space. -/
structure WebPlatform.Lawful (platform : WebPlatform) : Prop where
  trim_eq : ∀ text, platform.trim text = Text.strip text
  upper_upper : ∀ text, platform.toUpperCase (platform.toUpperCase text) =
    platform.toUpperCase text
  lower_lower : ∀ text, platform.toLowerCase (platform.toLowerCase text) =
    platform.toLowerCase text
  strip_upper : ∀ text, Text.strip text = text →
    Text.strip (platform.toUpperCase text) = platform.toUpperCase text
  strip_lower : ∀ text, Text.strip text = text →
    Text.strip (platform.toLowerCase text) = platform.toLowerCase text
  upper_present : ∀ text, platform.toUpperCase text = "" → text = ""
  lower_present : ∀ text, platform.toLowerCase text = "" → text = ""
  upper_line : ∀ text, '\n' ∉ text.toList → '\n' ∉ (platform.toUpperCase text).toList
  lower_line : ∀ text, '\n' ∉ text.toList → '\n' ∉ (platform.toLowerCase text).toList
  upper_ascii : ∀ text, (∀ char ∈ text.toList, char.isUpper) → platform.toUpperCase text = text
  lower_ascii : ∀ text, (∀ char ∈ text.toList, char.isLower) → platform.toLowerCase text = text
  /-- A serialized URL is parsed to the same URL, whose parts are in lower case and without
  white space; a URL of the web has a host, and its serialization starts with the scheme. -/
  href_url : ∀ text serialized, platform.href text = some serialized → ∃ url : ParsedUrl,
    platform.url text = some url ∧ platform.url serialized = some url
  href_href : ∀ text serialized, platform.href text = some serialized →
    platform.href serialized = some serialized
  href_plain : ∀ text serialized url, platform.href text = some serialized →
    platform.url text = some url → url.scheme = "http" ∨ url.scheme = "https" →
    serialized ≠ "" ∧ ∀ char ∈ serialized.toList, Text.isSpace char = false
  url_plain : ∀ text url, platform.url text = some url →
    platform.toLowerCase url.scheme = url.scheme ∧
      (∀ char ∈ url.scheme.toList, Text.isSpace char = false) ∧
      (∀ char ∈ url.hostname.toList, Text.isSpace char = false) ∧
      ∀ char ∈ url.port.toList, Text.isSpace char = false
  url_web : ∀ text url, platform.url text = some url →
    url.scheme = "http" ∨ url.scheme = "https" → url.hostname ≠ ""
  href_web : ∀ text serialized url, platform.href text = some serialized →
    platform.url text = some url → url.scheme = "http" ∨ url.scheme = "https" →
    ∃ rest, serialized = url.scheme ++ "://" ++ rest

/-- What is assumed of the digest: it is injective, and its text is present and trimmed. -/
structure Platform.Digests (platform : Platform) : Prop where
  injective : Function.Injective platform.hmac
  present : ∀ text, platform.hmac text ≠ ""
  strip : ∀ text, Text.strip (platform.hmac text) = platform.hmac text

/-! ## Target URLs -/

section Urls

variable {platform : WebPlatform}

theorem strip_empty : Text.strip "" = "" := by decide

theorem newline_isSpace : Text.isSpace '\n' = true := by decide

theorem newline_not_mem_of_plain {text : String}
    (plain : ∀ char ∈ text.toList, Text.isSpace char = false) : '\n' ∉ text.toList := by
  intro member
  have notSpace := plain '\n' member
  rw [newline_isSpace] at notSpace
  cases notSpace

/-- What is known of an accepted target URL. -/
structure Target (platform : WebPlatform) (targetUrl : String) (url : ParsedUrl) : Prop where
  parsed : platform.url targetUrl = some url
  serialized : platform.href targetUrl = some targetUrl
  web : url.scheme = "http" ∨ url.scheme = "https"

theorem target_of_normalized (lawful : platform.Lawful) {value targetUrl : String}
    (accepted : platform.normalizeTargetUrl value = .ok targetUrl) :
    ∃ url, Target platform targetUrl url := by
  unfold WebPlatform.normalizeTargetUrl at accepted
  simp only at accepted
  split at accepted
  · cases accepted
  · split at accepted
    next url text parsed serialized =>
      split at accepted
      next web =>
        cases accepted
        obtain ⟨same, first, again⟩ := lawful.href_url _ _ serialized
        rw [parsed] at first
        cases first
        exact ⟨url, again, lawful.href_href _ _ serialized, web⟩
      next => cases accepted
    next => cases accepted

namespace Target

variable {targetUrl : String} {url : ParsedUrl} (target : Target platform targetUrl url)
  (lawful : platform.Lawful)
include target lawful

theorem plain : targetUrl ≠ "" ∧ ∀ char ∈ targetUrl.toList, Text.isSpace char = false :=
  lawful.href_plain _ _ _ target.serialized target.parsed target.web

theorem trimmed : platform.trim targetUrl = targetUrl := by
  rw [lawful.trim_eq]
  exact Text.strip_of_forall (target.plain lawful).2

theorem host : url.hostname ≠ "" := lawful.url_web _ _ target.parsed target.web

theorem hasScheme_of_web : hasScheme targetUrl = true := by
  obtain ⟨rest, shape⟩ := lawful.href_web _ _ _ target.serialized target.parsed target.web
  rcases target.web with scheme | scheme
  · rw [shape, scheme]
    simp [hasScheme]
  · rw [shape, scheme]
    simp [hasScheme]

/-- A normalised target URL is its own normal form. -/
theorem normalizeTargetUrl_eq : platform.normalizeTargetUrl targetUrl = .ok targetUrl := by
  have present := (target.plain lawful).1
  have candidate : WebPlatform.targetCandidate targetUrl = targetUrl := by
    rw [WebPlatform.targetCandidate, target.hasScheme_of_web lawful, if_pos rfl]
  simp only [WebPlatform.normalizeTargetUrl, target.trimmed lawful, if_neg present, candidate,
    target.parsed, target.serialized, if_pos target.web]

end Target

end Urls

/-! ## What the verifier sees of a signed input -/

section Headers

variable {platform : WebPlatform} {input : SwgFields} {now uuid : String}

/-- The headers of a signed input, as the server reads them. -/
def received (platform : WebPlatform) (input : SwgFields) (now uuid : String) : SwgFields :=
  platform.extractSwgHeaders (platform.buildSwgHeaders input now uuid)

/-- The input is complete: no required field is blank. -/
def Complete (platform : WebPlatform) (input : SwgFields) : Prop :=
  ∀ field ∈ bootstrapFields, field ≠ .signature → platform.trim (input field) ≠ ""

theorem trim_trim (lawful : platform.Lawful) (text : String) :
    platform.trim (platform.trim text) = platform.trim text := by
  simp only [lawful.trim_eq, Text.strip_strip]

theorem trim_empty (lawful : platform.Lawful) : platform.trim "" = "" := by
  rw [lawful.trim_eq, strip_empty]

theorem ne_empty_of_trim (lawful : platform.Lawful) {text : String}
    (present : platform.trim text ≠ "") : text ≠ "" := by
  intro empty
  apply present
  rw [empty, lawful.trim_eq, strip_empty]

theorem orElse_of_ne {left : String} (present : left ≠ "") (right : String) :
    orElse left right = left := by
  rw [orElse, if_neg present]

@[simp] theorem orElse_empty (right : String) : orElse "" right = right := rfl

@[simp] theorem orElse_empty_right (left : String) : orElse left "" = left := by
  unfold orElse
  split
  · exact Eq.symm (by assumption)
  · rfl

theorem trim_extractSwgHeaders (lawful : platform.Lawful) (headers : SwgFields)
    (field : SwgField) :
    platform.trim (platform.extractSwgHeaders headers field) =
      platform.extractSwgHeaders headers field := by
  unfold Platform.extractSwgHeaders
  split
  · exact trim_trim lawful _
  · exact trim_empty lawful

/-- Every header but the signature is the trimmed field of the input. -/
theorem received_eq (lawful : platform.Lawful) (complete : Complete platform input)
    {field : SwgField} (carried : field.inHeaders = true) (unsigned : field ≠ .signature) :
    received platform input now uuid field = platform.trim (input field) := by
  have timestamp : input .timestamp ≠ "" :=
    ne_empty_of_trim lawful (complete .timestamp (by decide) (by decide))
  have transaction := complete .transactionId (by decide) (by decide)
  cases field <;>
    simp_all [received, Platform.extractSwgHeaders, Platform.buildSwgHeaders,
      Platform.signedInput, SwgField.inHeaders, trim_trim lawful, orElse_of_ne]

theorem received_signature (lawful : platform.Lawful) (digests : platform.Digests) :
    received platform input now uuid .signature =
      platform.signSwgRequest (platform.signedInput input now uuid) := by
  have digest := digests.strip
    (platform.buildSwgCanonicalString (platform.signedInput input now uuid))
  simp only [received, Platform.extractSwgHeaders, SwgField.inHeaders, if_true,
    Platform.buildSwgHeaders, Platform.signSwgRequest, lawful.trim_eq, digest]

/-- The envelope of a request with a contract version. -/
theorem envelope_eq {policy : SwgBootstrapPolicy} {headers : SwgFields} {envelope : SwgEnvelope}
    (versioned : platform.trim (headers .contractVersion) ≠ "")
    (accepted : validateSwgRequestEnvelope platform.toPlatform policy headers = .ok envelope) :
    envelope =
      { contractVersion := platform.trim (headers .contractVersion)
        requestKind := platform.toLowerCase (platform.trim (headers .requestKind))
        originalMethod := platform.toUpperCase (platform.trim (headers .originalMethod))
        provider := platform.normalizeBootstrapProvider (headers .provider)
        providerCategory := platform.normalizeBootstrapCategory (headers .providerCategory)
        canonicalProvider := platform.trim (headers .provider)
        canonicalProviderCategory := platform.trim (headers .providerCategory)
        canonicalFallbackProvider := platform.trim (headers .fallbackProvider)
        fallbackProvider := orElse
          (platform.normalizeBootstrapProvider (headers .fallbackProvider))
          (policyFallback platform.toPlatform policy)
        fallbackReason := platform.trim (headers .fallbackReason) } := by
  simp only [validateSwgRequestEnvelope, if_neg versioned] at accepted
  split_ifs at accepted
  exact (Except.ok.inj accepted).symm

/-- The upstream values for an accepted target URL. -/
theorem upstream_eq {headers upstream : SwgFields} {targetUrl : String} {url : ParsedUrl}
    (target : Target platform targetUrl url)
    (derived : deriveUpstreamContext platform.toPlatform headers targetUrl = .ok upstream) :
    let scheme := platform.toLowerCase (orElse (headers .upstreamScheme) url.scheme)
    upstream .upstreamHost = orElse (headers .upstreamHost) url.hostname ∧
      upstream .upstreamScheme = scheme ∧
      upstream .upstreamPort = orElse (orElse (headers .upstreamPort) url.port)
        (Platform.defaultPort scheme) := by
  simp only [deriveUpstreamContext, target.parsed, Except.ok.injEq] at derived
  subst derived
  exact ⟨rfl, rfl, rfl⟩

end Headers

/-! ## The two canonical inputs -/

section Values

variable {platform : WebPlatform} {input : SwgFields} {now uuid targetUrl : String}
  {url : ParsedUrl}

/-- The values over which the signature is made, for a target URL that is in normal form. -/
def signedValues (platform : WebPlatform) (input : SwgFields) (url : ParsedUrl) : SwgFields
  | .token => ""
  | .signature => ""
  | .sessionId => ""
  | .method => platform.toUpperCase (platform.trim (orElse (input .method) "POST"))
  | .originalMethod => platform.toUpperCase (platform.trim (input .originalMethod))
  | .upstreamHost => platform.trim (orElse (input .upstreamHost) url.hostname)
  | .upstreamScheme => platform.trim (orElse (input .upstreamScheme) url.scheme)
  | .upstreamPort => platform.trim
      (orElse (input .upstreamPort) (orElse url.port (Platform.defaultPort url.scheme)))
  | field => platform.trim (input field)

/-- The values over which the signature is verified. -/
def verifiedValues (platform : WebPlatform) (input : SwgFields) (targetUrl : String)
    (url : ParsedUrl) : SwgFields
  | .token => ""
  | .signature => ""
  | .sessionId => ""
  | .method => "POST"
  | .requestKind => platform.toLowerCase (platform.trim (input .requestKind))
  | .originalMethod => platform.toUpperCase (platform.trim (input .originalMethod))
  | .targetUrl => targetUrl
  | .upstreamHost => orElse (platform.trim (input .upstreamHost)) url.hostname
  | .upstreamScheme =>
      platform.toLowerCase (orElse (platform.trim (input .upstreamScheme)) url.scheme)
  | .upstreamPort => orElse (orElse (platform.trim (input .upstreamPort)) url.port)
      (Platform.defaultPort
        (platform.toLowerCase (orElse (platform.trim (input .upstreamScheme)) url.scheme)))
  | field => platform.trim (input field)

theorem trim_plain (lawful : platform.Lawful) {text : String}
    (plain : ∀ char ∈ text.toList, Text.isSpace char = false) : platform.trim text = text := by
  rw [lawful.trim_eq]
  exact Text.strip_of_forall plain

theorem trim_lower_trim (lawful : platform.Lawful) (text : String) :
    platform.trim (platform.toLowerCase (platform.trim text)) =
      platform.toLowerCase (platform.trim text) := by
  simp only [lawful.trim_eq]
  exact lawful.strip_lower _ (Text.strip_strip text)

theorem trim_upper_trim (lawful : platform.Lawful) (text : String) :
    platform.trim (platform.toUpperCase (platform.trim text)) =
      platform.toUpperCase (platform.trim text) := by
  simp only [lawful.trim_eq]
  exact lawful.strip_upper _ (Text.strip_strip text)

/-- A choice between trimmed texts is trimmed. -/
theorem trim_orElse {left right : String} (leftTrimmed : platform.trim left = left)
    (rightTrimmed : platform.trim right = right) :
    platform.trim (orElse left right) = orElse left right := by
  unfold orElse
  split
  · exact rightTrimmed
  · exact leftTrimmed

theorem trim_defaultPort (lawful : platform.Lawful) (scheme : String) :
    platform.trim (Platform.defaultPort scheme) = Platform.defaultPort scheme := by
  rw [lawful.trim_eq, Platform.defaultPort]
  split
  · decide
  · decide

theorem defaultPort_ne (scheme : String) : Platform.defaultPort scheme ≠ "" := by
  rw [Platform.defaultPort]
  split
  · decide
  · decide

theorem orElse_ne {left right : String} (present : right ≠ "") : orElse left right ≠ "" := by
  unfold orElse
  split
  · exact present
  · assumption

theorem upper_post (lawful : platform.Lawful) :
    platform.toUpperCase (platform.trim "POST") = "POST" := by
  rw [lawful.trim_eq, show Text.strip "POST" = "POST" by decide]
  exact lawful.upper_ascii "POST" (by decide)

/-- Scheme, host and port of an accepted target URL are trimmed and, but for the port,
present. -/
theorem Target.parts (target : Target platform targetUrl url) (lawful : platform.Lawful) :
    platform.toLowerCase url.scheme = url.scheme ∧ platform.trim url.scheme = url.scheme ∧
      platform.trim url.hostname = url.hostname ∧ platform.trim url.port = url.port ∧
      url.scheme ≠ "" := by
  obtain ⟨lower, scheme, host, port⟩ := lawful.url_plain _ _ target.parsed
  refine ⟨lower, trim_plain lawful scheme, trim_plain lawful host, trim_plain lawful port, ?_⟩
  rcases target.web with same | same
  · rw [same]
    decide
  · rw [same]
    decide

/-- The upstream values that are derived from trimmed headers are trimmed and present. -/
theorem upstream_settled (lawful : platform.Lawful) (target : Target platform targetUrl url)
    {headers upstream : SwgFields}
    (trimmed : ∀ field, platform.trim (headers field) = headers field)
    (derived : deriveUpstreamContext platform.toPlatform headers targetUrl = .ok upstream)
    {field : SwgField} (isUpstream : field.isUpstream = true) :
    platform.trim (upstream field) = upstream field ∧ upstream field ≠ "" := by
  obtain ⟨hostEq, schemeEq, portEq⟩ := upstream_eq target derived
  obtain ⟨_, schemeTrim, hostTrim, portTrim, schemePresent⟩ := target.parts lawful
  cases field with
  | upstreamHost =>
      rw [hostEq]
      exact ⟨trim_orElse (trimmed _) hostTrim, orElse_ne (target.host lawful)⟩
  | upstreamScheme =>
      rw [schemeEq]
      constructor
      · have folded := trim_lower_trim lawful (orElse (headers .upstreamScheme) url.scheme)
        rw [trim_orElse (trimmed _) schemeTrim] at folded
        exact folded
      · intro empty
        exact orElse_ne schemePresent (lawful.lower_present _ empty)
  | upstreamPort =>
      rw [portEq]
      exact ⟨trim_orElse (trim_orElse (trimmed _) portTrim) (trim_defaultPort lawful _),
        orElse_ne (defaultPort_ne _)⟩
  | _ => cases isUpstream

theorem signed_eq (lawful : platform.Lawful) (complete : Complete platform input)
    (target : Target platform targetUrl url) (same : platform.trim (input .targetUrl) = targetUrl) :
    platform.normalizeSwgRequestFields (platform.signedInput input now uuid) =
      signedValues platform input url := by
  have timestamp : input .timestamp ≠ "" :=
    ne_empty_of_trim lawful (complete .timestamp (by decide) (by decide))
  have transaction := complete .transactionId (by decide) (by decide)
  have lower := (target.parts lawful).1
  have present := (target.plain lawful).1
  have derived : platform.deriveUpstreamDefaults (platform.signedInput input now uuid) =
      (url.hostname, url.scheme, orElse url.port (Platform.defaultPort url.scheme)) := by
    simp only [Platform.deriveUpstreamDefaults, Platform.signedInput, same, if_neg present,
      target.parsed, lower]
  funext field
  cases field <;>
    simp [Platform.normalizeSwgRequestFields, signedValues, Platform.normalizeMethod, derived,
      Platform.signedInput, trim_trim lawful, orElse_of_ne timestamp, orElse_of_ne transaction]

theorem verified_eq (lawful : platform.Lawful) (complete : Complete platform input)
    (target : Target platform targetUrl url) {policy : SwgBootstrapPolicy}
    {envelope : SwgEnvelope} {upstream : SwgFields}
    (accepted : validateSwgRequestEnvelope platform.toPlatform policy
      (received platform input now uuid) = .ok envelope)
    (derived : deriveUpstreamContext platform.toPlatform (received platform input now uuid)
      targetUrl = .ok upstream) :
    platform.normalizeSwgRequestFields
        (verifiedInput (received platform input now uuid) upstream envelope targetUrl) =
      verifiedValues platform input targetUrl url := by
  have header : ∀ field : SwgField, field.inHeaders = true → field ≠ .signature →
      received platform input now uuid field = platform.trim (input field) :=
    fun field carried unsigned => received_eq lawful complete carried unsigned
  have versioned : platform.trim (received platform input now uuid .contractVersion) ≠ "" := by
    rw [header .contractVersion rfl (by decide), trim_trim lawful]
    exact complete .contractVersion (by decide) (by decide)
  have envelopeEq := envelope_eq versioned accepted
  obtain ⟨hostEq, schemeEq, portEq⟩ := upstream_eq target derived
  have provider := complete .provider (by decide) (by decide)
  have category := complete .providerCategory (by decide) (by decide)
  have fallback := complete .fallbackProvider (by decide) (by decide)
  simp (disch := decide) only [header, trim_trim lawful] at envelopeEq hostEq schemeEq portEq
  -- The upstream values are present and trimmed, so that no default replaces them.
  have upstreamSettled : ∀ field : SwgField, field.isUpstream = true →
      platform.trim (upstream field) = upstream field ∧ upstream field ≠ "" :=
    fun field => upstream_settled lawful target (trim_extractSwgHeaders lawful _) derived
  have host := upstreamSettled .upstreamHost rfl
  have scheme := upstreamSettled .upstreamScheme rfl
  have port := upstreamSettled .upstreamPort rfl
  funext field
  cases field <;>
    simp (disch := decide) [Platform.normalizeSwgRequestFields, verifiedInput, verifiedValues,
      envelopeEq, Platform.normalizeMethod, header, trim_trim lawful, upper_post lawful,
      trim_lower_trim lawful, trim_upper_trim lawful, lawful.upper_upper,
      SwgFields.withUpstream, SwgField.isUpstream, target.trimmed lawful, orElse_of_ne provider,
      orElse_of_ne category, orElse_of_ne fallback, orElse_of_ne host.2, orElse_of_ne scheme.2,
      orElse_of_ne port.2, host.1, scheme.1, port.1, orElse_of_ne (show "POST" ≠ "" by decide)]
  · exact hostEq
  · exact schemeEq
  · exact portEq

end Values

/-! ## When the signature verifies -/

/-- The input is spelled as the server spells it: the method is `POST`, the request kind and
the upstream scheme are in lower case, the target URL is in normal form, an upstream value that
is given is not blank, and the port that is derived for a URL without one does not depend on
the given scheme. -/
structure SpelledAsVerified (platform : WebPlatform) (input : SwgFields) : Prop where
  method : platform.toUpperCase (platform.trim (orElse (input .method) "POST")) = "POST"
  requestKind : platform.toLowerCase (platform.trim (input .requestKind)) =
    platform.trim (input .requestKind)
  targetUrl : platform.normalizeTargetUrl (input .targetUrl) =
    .ok (platform.trim (input .targetUrl))
  upstreamHost : input .upstreamHost = "" ∨ platform.trim (input .upstreamHost) ≠ ""
  upstreamScheme : input .upstreamScheme = "" ∨ platform.trim (input .upstreamScheme) ≠ "" ∧
    platform.toLowerCase (platform.trim (input .upstreamScheme)) =
      platform.trim (input .upstreamScheme)
  upstreamPort : input .upstreamPort = "" ∨ platform.trim (input .upstreamPort) ≠ ""
  derivedPort : input .upstreamPort = "" →
    ∀ url, platform.url (platform.trim (input .targetUrl)) = some url → url.port = "" →
      Platform.defaultPort url.scheme = Platform.defaultPort
        (platform.toLowerCase (orElse (platform.trim (input .upstreamScheme)) url.scheme))

section Spelling

variable {platform : WebPlatform} {input : SwgFields} {targetUrl : String} {url : ParsedUrl}

/-- A value replaces its default before or after trimming alike, unless it is blank. -/
theorem trim_orElse_iff (lawful : platform.Lawful) {value fallback : String}
    (trimmed : platform.trim fallback = fallback) (present : fallback ≠ "") :
    platform.trim (orElse value fallback) = orElse (platform.trim value) fallback ↔
      value = "" ∨ platform.trim value ≠ "" := by
  by_cases empty : value = ""
  · simp [empty, trimmed, trim_empty lawful]
  · by_cases blank : platform.trim value = ""
    · simp [orElse, empty, blank, Ne.symm present]
    · simp [orElse, empty, blank]

theorem scheme_agrees_iff (lawful : platform.Lawful) (target : Target platform targetUrl url) :
    platform.trim (orElse (input .upstreamScheme) url.scheme) =
        platform.toLowerCase (orElse (platform.trim (input .upstreamScheme)) url.scheme) ↔
      (input .upstreamScheme = "" ∨ platform.trim (input .upstreamScheme) ≠ "" ∧
        platform.toLowerCase (platform.trim (input .upstreamScheme)) =
          platform.trim (input .upstreamScheme)) := by
  obtain ⟨lower, trimmed, _, _, present⟩ := target.parts lawful
  by_cases empty : input .upstreamScheme = ""
  · simp [empty, trimmed, lower, trim_empty lawful]
  · by_cases blank : platform.trim (input .upstreamScheme) = ""
    · simp [orElse, empty, blank, lower, Ne.symm present]
    · simp [orElse, empty, blank, eq_comm]

theorem port_agrees_iff (lawful : platform.Lawful) (target : Target platform targetUrl url)
    (given : String) :
    platform.trim (orElse (input .upstreamPort)
        (orElse url.port (Platform.defaultPort url.scheme))) =
        orElse (orElse (platform.trim (input .upstreamPort)) url.port)
          (Platform.defaultPort given) ↔
      (input .upstreamPort = "" ∨ platform.trim (input .upstreamPort) ≠ "") ∧
        (input .upstreamPort = "" → url.port = "" →
          Platform.defaultPort url.scheme = Platform.defaultPort given) := by
  obtain ⟨_, _, _, trimmed, _⟩ := target.parts lawful
  by_cases empty : input .upstreamPort = ""
  · by_cases none : url.port = ""
    · simp [empty, none, trim_empty lawful, trim_defaultPort lawful]
    · simp [empty, none, trim_empty lawful, orElse_of_ne none, trimmed]
  · by_cases blank : platform.trim (input .upstreamPort) = ""
    · have present : orElse url.port (Platform.defaultPort given) ≠ "" :=
        orElse_ne (defaultPort_ne given)
      simp [orElse_of_ne empty, empty, blank, Ne.symm present]
    · simp [orElse_of_ne empty, orElse_of_ne blank, empty, blank]

/-- For an input whose target URL is in normal form, the two canonical inputs agree exactly
when everything else is spelled as verified too. -/
theorem values_agree_iff (lawful : platform.Lawful) (target : Target platform targetUrl url)
    (normal : platform.normalizeTargetUrl (input .targetUrl) = .ok targetUrl)
    (same : platform.trim (input .targetUrl) = targetUrl) :
    signedValues platform input url = verifiedValues platform input targetUrl url ↔
      SpelledAsVerified platform input := by
  obtain ⟨_, _, hostTrimmed, _, _⟩ := target.parts lawful
  have host := @trim_orElse_iff platform lawful (input .upstreamHost) _ hostTrimmed
    (target.host lawful)
  have scheme := @scheme_agrees_iff platform input _ _ lawful target
  have port := @port_agrees_iff platform input _ _ lawful target
    (platform.toLowerCase (orElse (platform.trim (input .upstreamScheme)) url.scheme))
  constructor
  · intro values
    have value : ∀ field, signedValues platform input url field =
        verifiedValues platform input targetUrl url field := fun field => congrFun values field
    have ports := port.mp (value .upstreamPort)
    exact
      { method := value .method
        requestKind := (value .requestKind).symm
        targetUrl := by rw [normal, same]
        upstreamHost := host.mp (value .upstreamHost)
        upstreamScheme := scheme.mp (value .upstreamScheme)
        upstreamPort := ports.1
        derivedPort := by
          intro empty other parsed
          rw [same, target.parsed, Option.some.injEq] at parsed
          subst parsed
          exact ports.2 empty }
  · intro spelled
    have derived := spelled.derivedPort
    rw [same] at derived
    funext field
    cases field with
    | method => exact spelled.method
    | requestKind => exact spelled.requestKind.symm
    | targetUrl => exact same
    | upstreamHost => exact host.mpr spelled.upstreamHost
    | upstreamScheme => exact scheme.mpr spelled.upstreamScheme
    | upstreamPort =>
        exact port.mpr ⟨spelled.upstreamPort, fun empty => derived empty url target.parsed⟩
    | _ => rfl

end Spelling

/-- A signed request that passes every check before the signature's. -/
structure Signable (platform : WebPlatform) (settings : AdmissionSettings) (input : SwgFields)
    (now uuid : String) (isLocal : Bool) (time : Nat) : Prop where
  enabled : settings.enableSwgBootstrap = true
  permitted : settings.swgBootstrapLocalOnly = true → isLocal = true
  complete : Complete platform input
  /-- a header has one line -/
  oneLine : ∀ field, field ≠ .signature →
    '\n' ∉ (platform.buildSwgHeaders input now uuid field).toList
  boundaryType : platform.toLowerCase (platform.trim (input .boundaryType)) = "org"
  boundaryId : platform.trim (input .orgId) = platform.trim (input .boundaryId)
  tenantId : platform.trim (input .tenantId) = platform.trim (input .orgId)
  fresh : ∃ timestamp, platform.number (platform.trim (input .timestamp)) = some timestamp ∧
    ¬Stale settings.toHandoffSettings time timestamp
  envelope : ∃ envelope, validateSwgRequestEnvelope platform.toPlatform settings.policy
    (received platform input now uuid) = .ok envelope
  target : ∃ targetUrl, platform.normalizeTargetUrl (input .targetUrl) = .ok targetUrl

/-- The request that carries the signed input. -/
def signedRequest (platform : WebPlatform) (input : SwgFields) (now uuid : String)
    (isLocal : Bool) : HeaderRequest where
  headers := platform.buildSwgHeaders input now uuid
  targetUrl := input .targetUrl
  isLocal := isLocal

section Verification

variable {platform : WebPlatform} {settings : AdmissionSettings} {input : SwgFields}
  {now uuid targetUrl : String} {isLocal : Bool} {time : Nat} {url : ParsedUrl}

theorem trim_received (lawful : platform.Lawful) (complete : Complete platform input)
    {field : SwgField} (carried : field.inHeaders = true) (unsigned : field ≠ .signature) :
    platform.trim (received platform input now uuid field) = platform.trim (input field) := by
  rw [received_eq lawful complete carried unsigned, trim_trim lawful]

theorem requireSwgFields_received (lawful : platform.Lawful) (digests : platform.Digests)
    (complete : Complete platform input) :
    requireSwgFields platform.toPlatform (received platform input now uuid) bootstrapFields =
      .ok () := by
  have none : (bootstrapFields.filter fun field =>
      platform.trim (received platform input now uuid field) = "") = [] := by
    rw [List.filter_eq_nil_iff]
    intro field member blank
    simp only [decide_eq_true_eq] at blank
    by_cases signature : field = .signature
    · rw [signature, received_signature lawful digests, Platform.signSwgRequest, lawful.trim_eq,
        digests.strip] at blank
      exact digests.present _ blank
    · have carried : field.inHeaders = true := by
        revert member
        cases field <;> decide
      rw [trim_received lawful complete carried signature] at blank
      exact complete field member signature blank
  rw [requireSwgFields]
  simp only [none, if_true]

theorem requireOrgBoundaryContext_received (lawful : platform.Lawful)
    (signable : Signable platform settings input now uuid isLocal time) :
    requireOrgBoundaryContext platform.toPlatform (received platform input now uuid) =
      .ok () := by
  have header : ∀ field : SwgField, field.inHeaders = true → field ≠ .signature →
      received platform input now uuid field = platform.trim (input field) :=
    fun field carried unsigned => received_eq lawful signable.complete carried unsigned
  simp (disch := decide) only [requireOrgBoundaryContext, header, trim_trim lawful,
    signable.boundaryType, signable.boundaryId, signable.tenantId, ne_eq, not_true_eq_false,
    if_false]

/-- The server gets as far as the signature, which alone decides. -/
theorem acceptSwgBootstrap_signed (lawful : platform.Lawful) (digests : platform.Digests)
    (signable : Signable platform settings input now uuid isLocal time)
    (normal : platform.normalizeTargetUrl (input .targetUrl) = .ok targetUrl)
    (target : Target platform targetUrl url) :
    ∃ upstream envelope,
      deriveUpstreamContext platform.toPlatform (received platform input now uuid) targetUrl =
          .ok upstream ∧
        validateSwgRequestEnvelope platform.toPlatform settings.policy
          (received platform input now uuid) = .ok envelope ∧
        acceptSwgBootstrap platform settings (signedRequest platform input now uuid isLocal)
            time =
          if platform.verifySwgRequest
              (verifiedInput (received platform input now uuid) upstream envelope targetUrl)
              (received platform input now uuid .signature) = false then
            .error ⟨401, "Invalid SWG signature"⟩
          else
            .ok (targetUrl,
              bootstrapContext (received platform input now uuid) upstream envelope) := by
  obtain ⟨envelope, accepted⟩ := signable.envelope
  obtain ⟨timestamp, number, fresh⟩ := signable.fresh
  obtain ⟨upstream, derived⟩ : ∃ upstream, deriveUpstreamContext platform.toPlatform
      (received platform input now uuid) targetUrl = .ok upstream := by
    simp only [deriveUpstreamContext, target.parsed, Except.ok.injEq, exists_eq']
  refine ⟨upstream, envelope, derived, accepted, ?_⟩
  have present : input .targetUrl ≠ "" := by
    intro empty
    rw [empty, WebPlatform.normalizeTargetUrl, trim_empty lawful] at normal
    cases normal
  have resolved : resolveSwgBootstrapTargetUrl platform
      (signedRequest platform input now uuid isLocal) = .ok targetUrl := by
    simp only [resolveSwgBootstrapTargetUrl, signedRequest, ne_eq, present, not_false_eq_true,
      if_true, WebPlatform.validateTargetUrl, normal]
  have permitted : (settings.swgBootstrapLocalOnly && !isLocal) = false := by
    cases only : settings.swgBootstrapLocalOnly with
    | false => rfl
    | true => simp [signable.permitted only]
  have number : platform.number (received platform input now uuid .timestamp) =
      some timestamp := by
    rw [received_eq lawful signable.complete rfl (by decide), number]
  have verdict : checkSwgHeaders platform settings (received platform input now uuid) targetUrl
      time =
        if platform.verifySwgRequest
            (verifiedInput (received platform input now uuid) upstream envelope targetUrl)
            (received platform input now uuid .signature) = false then
          .error ⟨401, "Invalid SWG signature"⟩
        else
          .ok (bootstrapContext (received platform input now uuid) upstream envelope) := by
    simp only [checkSwgHeaders, requireSwgFields_received lawful digests signable.complete,
      requireOrgBoundaryContext_received lawful signable, number, if_neg fresh, derived, accepted]
    rfl
  have checked : validateSwgBootstrapRequest platform settings
      (signedRequest platform input now uuid isLocal) targetUrl time =
        checkSwgHeaders platform settings (received platform input now uuid) targetUrl time := by
    simp only [validateSwgBootstrapRequest, signable.enabled, signedRequest, permitted,
      Bool.true_eq_false, Bool.false_eq_true, if_false]
    rfl
  rw [acceptSwgBootstrap, resolved]
  change (validateSwgBootstrapRequest platform settings
    (signedRequest platform input now uuid isLocal) targetUrl time >>= fun context =>
      pure (targetUrl, context)) = _
  rw [checked, verdict]
  split
  · rfl
  · rfl

theorem orElse_line {left right : String} (leftLine : '\n' ∉ left.toList)
    (rightLine : '\n' ∉ right.toList) : '\n' ∉ (orElse left right).toList := by
  unfold orElse
  split
  · exact rightLine
  · exact leftLine

/-- No value over which a signature is verified has a newline. -/
theorem verifiedValues_oneLine (lawful : platform.Lawful)
    (signable : Signable platform settings input now uuid isLocal time)
    (target : Target platform targetUrl url) :
    (verifiedValues platform input targetUrl url).OneLine := by
  have header : ∀ field : SwgField, field.inHeaders = true → field ≠ .signature →
      '\n' ∉ (platform.trim (input field)).toList := by
    intro field carried unsigned
    have line := Text.not_mem_strip (signable.oneLine field unsigned)
    rw [← lawful.trim_eq] at line
    rw [← @received_eq platform input now uuid lawful signable.complete field carried unsigned,
      received, Platform.extractSwgHeaders, if_pos carried]
    exact line
  obtain ⟨_, scheme, host, port⟩ := lawful.url_plain _ _ target.parsed
  have schemeLine : '\n' ∉ (platform.toLowerCase
      (orElse (platform.trim (input .upstreamScheme)) url.scheme)).toList :=
    lawful.lower_line _
      (orElse_line (header _ rfl (by decide)) (newline_not_mem_of_plain scheme))
  have defaultLine : ∀ given, '\n' ∉ (Platform.defaultPort given).toList := by
    intro given
    rw [Platform.defaultPort]
    split
    · decide
    · decide
  intro field
  cases field with
  | token => exact List.not_mem_nil
  | signature => exact List.not_mem_nil
  | sessionId => exact List.not_mem_nil
  | method =>
      simp only [verifiedValues]
      decide
  | requestKind => exact lawful.lower_line _ (header .requestKind rfl (by decide))
  | originalMethod => exact lawful.upper_line _ (header .originalMethod rfl (by decide))
  | targetUrl => exact newline_not_mem_of_plain (target.plain lawful).2
  | upstreamHost =>
      exact orElse_line (header .upstreamHost rfl (by decide)) (newline_not_mem_of_plain host)
  | upstreamScheme => exact schemeLine
  | upstreamPort =>
      exact orElse_line
        (orElse_line (header .upstreamPort rfl (by decide)) (newline_not_mem_of_plain port))
        (defaultLine _)
  | _ => exact header _ rfl (by decide)

/-- The signature is accepted exactly when signer and verifier have the same fields, since the
canonical string determines them. -/
theorem accepted_iff_same_fields (lawful : platform.Lawful) (digests : platform.Digests)
    (signable : Signable platform settings input now uuid isLocal time)
    (normal : platform.normalizeTargetUrl (input .targetUrl) = .ok targetUrl)
    (target : Target platform targetUrl url) :
    acceptSwgBootstrap platform settings (signedRequest platform input now uuid isLocal) time ≠
        .error ⟨401, "Invalid SWG signature"⟩ ↔
      platform.normalizeSwgRequestFields (platform.signedInput input now uuid) =
        verifiedValues platform input targetUrl url := by
  obtain ⟨upstream, envelope, derived, accepted, verdict⟩ :=
    acceptSwgBootstrap_signed lawful digests signable normal target
  have verified := verified_eq lawful signable.complete target accepted derived
  have version : platform.trim (input .contractVersion) ≠ "" :=
    signable.complete .contractVersion (by decide) (by decide)
  have verifies : platform.verifySwgRequest
        (verifiedInput (received platform input now uuid) upstream envelope targetUrl)
        (received platform input now uuid .signature) = true ↔
      platform.buildSwgCanonicalString
          (verifiedInput (received platform input now uuid) upstream envelope targetUrl) =
        platform.buildSwgCanonicalString (platform.signedInput input now uuid) := by
    rw [Platform.verifySwgRequest, received_signature lawful digests, decide_eq_true_iff,
      Platform.signSwgRequest, Platform.signSwgRequest, lawful.trim_eq, lawful.trim_eq,
      digests.strip, digests.strip, digests.injective.eq_iff]
  have passes : acceptSwgBootstrap platform settings
      (signedRequest platform input now uuid isLocal) time ≠
        .error ⟨401, "Invalid SWG signature"⟩ ↔
      platform.verifySwgRequest
        (verifiedInput (received platform input now uuid) upstream envelope targetUrl)
        (received platform input now uuid .signature) = true := by
    rw [verdict]
    cases platform.verifySwgRequest
        (verifiedInput (received platform input now uuid) upstream envelope targetUrl)
        (received platform input now uuid .signature) with
    | false => simp
    | true => simp
  rw [passes, verifies]
  constructor
  · intro same
    rw [← verified]
    apply Eq.symm
    apply normalizeSwgRequestFields_injective_lines _ _ _ same
    · rw [verified]
      exact verifiedValues_oneLine lawful signable target
    · rw [verified]
      exact version
    · exact version
  · intro same
    simp only [Platform.buildSwgCanonicalString, verified, same]

/-- The main result: the request that carries a signed input is rejected for its signature
unless the input is spelled as the server spells it. -/
theorem signature_accepted_iff (platform : WebPlatform) (lawful : platform.Lawful)
    (digests : platform.Digests) (settings : AdmissionSettings) (input : SwgFields)
    (now uuid : String) (isLocal : Bool)
    (time : Nat) (signable : Signable platform settings input now uuid isLocal time) :
    acceptSwgBootstrap platform settings (signedRequest platform input now uuid isLocal) time ≠
        .error ⟨401, "Invalid SWG signature"⟩ ↔
      SpelledAsVerified platform input := by
  obtain ⟨targetUrl, normal⟩ := signable.target
  obtain ⟨url, target⟩ := target_of_normalized lawful normal
  rw [accepted_iff_same_fields lawful digests signable normal target]
  by_cases same : platform.trim (input .targetUrl) = targetUrl
  · rw [signed_eq lawful signable.complete target same]
    exact values_agree_iff lawful target normal same
  · constructor
    · intro values
      exact absurd (congrFun values .targetUrl) same
    · intro spelled
      have equal := spelled.targetUrl
      rw [normal, Except.ok.injEq] at equal
      exact absurd equal.symm same

end Verification

/-! ## Two spellings of a target URL -/

section Examples

/-- A platform that knows one web site, with a digest and the plaintext of its tokens. -/
def sitePlatform (hmac : String → String) (plaintext : Option SwgFields) : WebPlatform where
  trim := Text.strip
  toUpperCase := id
  toLowerCase := id
  number text := if text = "10" then some 10 else none
  url text :=
    if text = "https://example.com" ∨ text = "https://example.com/" then
      some ⟨"https", "example.com", ""⟩
    else none
  href text :=
    if text = "https://example.com" ∨ text = "https://example.com/" then
      some "https://example.com/"
    else none
  encipher _ _ := ("iv", "text", "tag")
  decipher _ _ _ := plaintext
  hmac := hmac
  tokenPayload _ := .error "Malformed token"

section Site

variable {hmac : String → String} {plaintext : Option SwgFields}

theorem sitePlatform_href {text serialized : String}
    (known : (sitePlatform hmac plaintext).href text = some serialized) :
    serialized = "https://example.com/" := by
  simp only [sitePlatform, Option.ite_none_right_eq_some, Option.some.injEq] at known
  exact known.2.symm

theorem sitePlatform_url {text : String} {url : ParsedUrl}
    (known : (sitePlatform hmac plaintext).url text = some url) :
    url = ⟨"https", "example.com", ""⟩ := by
  simp only [sitePlatform, Option.ite_none_right_eq_some, Option.some.injEq] at known
  exact known.2.symm

theorem sitePlatform_lawful : (sitePlatform hmac plaintext).Lawful where
  trim_eq _ := rfl
  upper_upper _ := rfl
  lower_lower _ := rfl
  strip_upper _ trimmed := trimmed
  strip_lower _ trimmed := trimmed
  upper_present _ empty := empty
  lower_present _ empty := empty
  upper_line _ line := line
  lower_line _ line := line
  upper_ascii _ _ := rfl
  lower_ascii _ _ := rfl
  href_url text serialized known := by
    rw [sitePlatform_href known]
    refine ⟨⟨"https", "example.com", ""⟩, ?_, rfl⟩
    simp only [sitePlatform, Option.ite_none_right_eq_some, and_true] at known ⊢
    exact known.1
  href_href text serialized known := by
    rw [sitePlatform_href known]
    rfl
  href_plain text serialized _ known _ _ := by
    rw [sitePlatform_href known]
    decide
  url_plain text url known := by
    rw [sitePlatform_url known]
    exact ⟨rfl, by decide, by decide, by decide⟩
  url_web text url known _ := by
    rw [sitePlatform_url known]
    decide
  href_web text serialized url known parsed _ := by
    rw [sitePlatform_href known, sitePlatform_url parsed]
    exact ⟨"example.com/", by decide⟩

end Site

/-- A digest that shows the text. -/
def parens (text : String) : String := "(" ++ text ++ ")"

theorem parens_digests : (sitePlatform parens none).Digests where
  injective left right same := by
    have tail := (String.append_left_inj _).mp same
    exact (String.append_right_inj _).mp tail
  present text empty := by
    have length := congrArg String.length empty
    simp [sitePlatform, parens] at length
  strip text := by
    apply Text.strip_of_ends
    · intro present
      simp [sitePlatform, parens]
      decide
    · intro present
      simp [sitePlatform, parens]
      decide

def siteSettings : AdmissionSettings where
  swgTimestampToleranceMs := 10
  swgReplayTtlMs := 30
  redis := false
  swgBootstrapLocalOnly := false
  policy :=
    { allowedContractVersions := ["v2"]
      allowedRequestKinds := ["http-document", "https-decrypted-document"]
      allowedOriginalMethods := ["GET", "HEAD"]
      allowedProviders := ["in_house"]
      allowedProviderCategories := ["cat-b"]
      fallbackProvider := "menlo" }

/-- The two spellings, with the slash and without it. -/
def siteTarget : Bool → String
  | true => "https://example.com/"
  | false => "https://example.com"

/-- A complete input for one of the spellings. -/
def siteInput (slash : Bool) : SwgFields
  | .timestamp => "10"
  | .transactionId => "tx-1"
  | .contractVersion => "v2"
  | .requestKind => "http-document"
  | .originalMethod => "GET"
  | .targetUrl => siteTarget slash
  | .orgId => "org-1"
  | .boundaryType => "org"
  | .boundaryId => "org-1"
  | .originId => "origin-1"
  | .originType => "network"
  | .tenantId => "org-1"
  | .profileId => "profile-1"
  | .policy => "isolate"
  | .provider => "in_house"
  | .providerCategory => "cat-b"
  | .fallbackProvider => "menlo"
  | .nonce => "nonce-1"
  | .keyId => "key-1"
  | _ => ""

theorem exists_of_isOk {ε α : Type} {result : Except ε α} (accepted : result.isOk = true) :
    ∃ value, result = .ok value := by
  cases result with
  | error failure => cases accepted
  | ok value => exact ⟨value, rfl⟩

theorem siteInput_oneLine (slash : Bool) (field : SwgField) (unsigned : field ≠ .signature) :
    '\n' ∉ ((sitePlatform parens none).buildSwgHeaders (siteInput slash) "10" "uuid" field).toList := by
  cases slash <;> cases field <;> first | contradiction | decide +kernel

/-- Both spellings pass every check before the signature's. -/
theorem siteInput_signable (slash : Bool) :
    Signable (sitePlatform parens none) siteSettings (siteInput slash) "10" "uuid" false 10 where
  enabled := rfl
  permitted := by decide
  complete := by
    unfold Complete
    revert slash
    decide
  oneLine := siteInput_oneLine slash
  boundaryType := by
    revert slash
    decide
  boundaryId := rfl
  tenantId := rfl
  fresh := by
    refine ⟨10, ?_, by norm_num [Stale, siteSettings]⟩
    revert slash
    decide
  envelope := by
    apply exists_of_isOk
    revert slash
    decide
  target := by
    apply exists_of_isOk
    revert slash
    decide

theorem normal_target_is_accepted :
    acceptSwgBootstrap (sitePlatform parens none) siteSettings
      (signedRequest (sitePlatform parens none) (siteInput true) "10" "uuid" false) 10 ≠
        .error ⟨401, "Invalid SWG signature"⟩ :=
  (signature_accepted_iff (sitePlatform parens none) sitePlatform_lawful parens_digests
    siteSettings (siteInput true) "10"
    "uuid" false 10 (siteInput_signable true)).mpr
      { method := by decide
        requestKind := rfl
        targetUrl := by rfl
        upstreamHost := .inl rfl
        upstreamScheme := .inl rfl
        upstreamPort := .inl rfl
        derivedPort := fun _ url parsed _ => by
          rw [sitePlatform_url parsed]
          decide }

/-- The same site without the slash at the end: the signer signs the URL as it is given, the
server verifies the signature over the URL with the slash. -/
theorem bare_target_is_rejected :
    ∃ platform : WebPlatform, ∃ settings input now uuid isLocal time,
      platform.Lawful ∧ platform.Digests ∧ Signable platform settings input now uuid isLocal time ∧
        acceptSwgBootstrap platform settings (signedRequest platform input now uuid isLocal)
          time = .error ⟨401, "Invalid SWG signature"⟩ := by
  refine ⟨sitePlatform parens none, siteSettings, siteInput false, "10", "uuid", false, 10,
    sitePlatform_lawful, parens_digests, siteInput_signable false, ?_⟩
  have normal : (sitePlatform parens none).normalizeTargetUrl (siteInput false .targetUrl) =
      .ok (siteTarget true) := by rfl
  obtain ⟨url, target⟩ := target_of_normalized sitePlatform_lawful normal
  by_contra accepted
  have same := (accepted_iff_same_fields sitePlatform_lawful parens_digests
    (siteInput_signable false) normal
    target).mp accepted
  have spelled : (sitePlatform parens none).trim (siteTarget false) = siteTarget true :=
    congrFun same .targetUrl
  revert spelled
  decide

end Examples

end RemoteBrowser.Swg
