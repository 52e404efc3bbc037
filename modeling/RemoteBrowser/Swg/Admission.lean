import RemoteBrowser.Swg.Agreement

/-!
# Handoff of a bootstrapped session

A bootstrap request that is accepted leaves its context in the session, and the handoff URL of
that session carries the same context in an opaque token.  Whatever the headers and the policy
are, the token is accepted when it is presented: the four normalisations between the headers and
the comparison of the handoff do not change a value that is trimmed, and every value that is
stored is.
-/

namespace RemoteBrowser.Swg

open Async

/-! ## The session that a request creates -/

/-- What `createRemoteSession` stores of the request; the store generates the rest. -/
def bootstrapSession (platform : WebPlatform) (generated : SwgSession) (targetUrl : String)
    (context : SwgFields) : Except HttpError SwgSession := do
  let targetUrl ← platform.validateTargetUrl targetUrl
  return { generated with targetUrl, authMode := "swg", swg := context }

/-- The fields of a context that are never empty. -/
def presentFields : List SwgField :=
  [.transactionId, .orgId, .boundaryType, .boundaryId, .originId, .originType, .tenantId,
    .profileId, .policy, .contractVersion, .requestKind, .originalMethod, .provider,
    .providerCategory, .fallbackProvider, .nonce, .keyId, .upstreamHost, .upstreamScheme,
    .upstreamPort]

/-- What holds of every stored context. -/
structure Settled (platform : WebPlatform) (context : SwgFields) : Prop where
  trimmed : ∀ field, platform.trim (context field) = context field
  present : ∀ field ∈ presentFields, context field ≠ ""
  method : platform.toUpperCase (context .originalMethod) = context .originalMethod
  scheme : platform.toLowerCase (context .upstreamScheme) = context .upstreamScheme
  boundaryType : platform.toLowerCase (context .boundaryType) = "org"
  boundaryId : context .orgId = context .boundaryId
  tenantId : context .tenantId = context .orgId

/-! ## Accepted requests -/

section Accepted

variable {platform : WebPlatform} {settings : AdmissionSettings} {headers upstream : SwgFields}
  {targetUrl : String} {url : ParsedUrl} {envelope : SwgEnvelope} {context : SwgFields}

/-- The checks that accepted headers have passed. -/
theorem checkSwgHeaders_eq_ok {time : Nat}
    (accepted : checkSwgHeaders platform settings headers targetUrl time = .ok context) :
    requireSwgFields platform.toPlatform headers bootstrapFields = .ok () ∧
      requireOrgBoundaryContext platform.toPlatform headers = .ok () ∧
      ∃ upstream envelope,
        deriveUpstreamContext platform.toPlatform headers targetUrl = .ok upstream ∧
          validateSwgRequestEnvelope platform.toPlatform settings.policy headers = .ok envelope ∧
          context = bootstrapContext headers upstream envelope := by
  obtain ⟨_, fields, accepted⟩ := bind_eq_ok accepted
  obtain ⟨_, boundary, accepted⟩ := bind_eq_ok accepted
  refine ⟨fields, boundary, ?_⟩
  split at accepted
  · cases accepted
  · split at accepted
    · cases accepted
    · obtain ⟨upstream, derived, accepted⟩ := bind_eq_ok accepted
      obtain ⟨envelope, valid, accepted⟩ := bind_eq_ok accepted
      split at accepted
      · cases accepted
      · exact ⟨upstream, envelope, derived, valid, (Except.ok.inj accepted).symm⟩

theorem acceptSwgBootstrap_eq_ok (lawful : platform.Lawful) {request : HeaderRequest}
    {time : Nat}
    (accepted : acceptSwgBootstrap platform settings request time = .ok (targetUrl, context)) :
    settings.enableSwgBootstrap = true ∧ (∃ url, Target platform targetUrl url) ∧
      checkSwgHeaders platform settings (platform.extractSwgHeaders request.headers) targetUrl
        time = .ok context := by
  obtain ⟨target, resolved, accepted⟩ := bind_eq_ok accepted
  obtain ⟨fields, valid, accepted⟩ := bind_eq_ok accepted
  obtain ⟨rfl, rfl⟩ := Prod.mk.inj (Except.ok.inj accepted)
  simp only [validateSwgBootstrapRequest] at valid
  split_ifs at valid with disabled
  refine ⟨eq_true_of_ne_false disabled, ?_, valid⟩
  · have normal : ∃ value, platform.normalizeTargetUrl value = .ok target := by
      simp only [resolveSwgBootstrapTargetUrl, WebPlatform.validateTargetUrl] at resolved
      split at resolved
      · split at resolved
        next text ok => exact ⟨_, (Except.ok.inj resolved) ▸ ok⟩
        next => cases resolved
      · split at resolved
        · split at resolved
          next text ok => exact ⟨_, (Except.ok.inj resolved) ▸ ok⟩
          next => cases resolved
        · cases resolved
    obtain ⟨value, normal⟩ := normal
    exact target_of_normalized lawful normal

theorem present_of_requireSwgFields {required : List SwgField}
    (complete : requireSwgFields platform.toPlatform headers required = .ok ()) :
    ∀ field ∈ required, platform.trim (headers field) ≠ "" := by
  simp only [requireSwgFields] at complete
  split at complete
  next none =>
    intro field member blank
    have missing : field ∈ required.filter fun field => platform.trim (headers field) = "" := by
      simp [member, blank]
    rw [none] at missing
    cases missing
  next => cases complete

theorem requireOrgBoundaryContext_eq_ok
    (boundary : requireOrgBoundaryContext platform.toPlatform headers = .ok ()) :
    platform.toLowerCase (platform.trim (headers .boundaryType)) = "org" ∧
      headers .orgId = headers .boundaryId ∧ headers .tenantId = headers .orgId := by
  simp only [requireOrgBoundaryContext] at boundary
  split_ifs at boundary with kind org tenant
  exact ⟨not_not.mp kind, not_not.mp org, not_not.mp tenant⟩

/-! ### Values of the envelope -/

theorem trim_normalizeBootstrapProvider (lawful : platform.Lawful) (value : String) :
    platform.trim (platform.normalizeBootstrapProvider value) =
      platform.normalizeBootstrapProvider value := by
  simp only [Platform.normalizeBootstrapProvider]
  split
  · rw [lawful.trim_eq]
    decide
  · split
    · rw [lawful.trim_eq]
      decide
    · exact trim_lower_trim lawful value

theorem normalizeBootstrapProvider_ne (lawful : platform.Lawful) {value : String}
    (present : platform.trim value ≠ "") : platform.normalizeBootstrapProvider value ≠ "" := by
  simp only [Platform.normalizeBootstrapProvider]
  split
  · decide
  · split
    · decide
    · intro empty
      exact present (lawful.lower_present _ empty)

theorem hyphenated_plain (text : String) :
    ∀ char ∈ (Platform.hyphenated text).toList, Text.isSpace char = false := by
  intro char member
  simp only [Platform.hyphenated, String.toList_ofList, List.mem_map] at member
  obtain ⟨original, _, rfl⟩ := member
  split
  · decide
  next kept =>
    simp only [Bool.or_eq_true, decide_eq_true_eq, not_or] at kept
    simpa using kept.2

theorem trim_normalizeBootstrapCategory (lawful : platform.Lawful) (value : String) :
    platform.trim (platform.normalizeBootstrapCategory value) =
      platform.normalizeBootstrapCategory value := by
  simp only [Platform.normalizeBootstrapCategory]
  split
  · rw [lawful.trim_eq]
    decide
  · split
    · rw [lawful.trim_eq]
      decide
    · exact trim_plain lawful (hyphenated_plain _)

theorem normalizeBootstrapCategory_ne (lawful : platform.Lawful) {value : String}
    (present : platform.trim value ≠ "") : platform.normalizeBootstrapCategory value ≠ "" := by
  simp only [Platform.normalizeBootstrapCategory]
  split
  · decide
  · split
    · decide
    · intro empty
      have letters : (Platform.hyphenated
          (platform.toLowerCase (platform.trim value))).toList = [] := by
        rw [empty]
        rfl
      simp only [Platform.hyphenated, String.toList_ofList, List.map_eq_nil_iff,
        String.toList_eq_nil_iff] at letters
      exact present (lawful.lower_present _ letters)

/-- Every accepted context is settled. -/
theorem settled_of_accepted (lawful : platform.Lawful) (target : Target platform targetUrl url)
    {time : Nat} (trimmed : ∀ field, platform.trim (headers field) = headers field)
    (accepted : checkSwgHeaders platform settings headers targetUrl time = .ok context) :
    Settled platform context := by
  obtain ⟨complete, boundary, upstream, envelope, derived, valid, rfl⟩ :=
    checkSwgHeaders_eq_ok accepted
  have required := present_of_requireSwgFields complete
  have given : ∀ field ∈ bootstrapFields, headers field ≠ "" := by
    intro field member
    rw [← trimmed field]
    exact required field member
  obtain ⟨kind, org, tenant⟩ := requireOrgBoundaryContext_eq_ok boundary
  have envelopeEq := envelope_eq (required .contractVersion (by decide)) valid
  have fallback := orElse_of_ne
    (normalizeBootstrapProvider_ne lawful (required .fallbackProvider (by decide)))
    (policyFallback platform.toPlatform settings.policy)
  have upstreamSettled : ∀ field : SwgField, field.isUpstream = true →
      platform.trim (upstream field) = upstream field ∧ upstream field ≠ "" :=
    fun field => upstream_settled lawful target trimmed derived
  have host := upstreamSettled .upstreamHost rfl
  have scheme := upstreamSettled .upstreamScheme rfl
  have port := upstreamSettled .upstreamPort rfl
  subst envelopeEq
  exact
    { trimmed := by
        intro field
        cases field with
        | token | signature | method | sessionId | targetUrl | timestamp =>
            exact trim_empty lawful
        | contractVersion => exact trim_trim lawful _
        | requestKind => exact trim_lower_trim lawful _
        | originalMethod => exact trim_upper_trim lawful _
        | provider => exact trim_normalizeBootstrapProvider lawful _
        | providerCategory => exact trim_normalizeBootstrapCategory lawful _
        | fallbackProvider =>
            simp only [bootstrapContext, fallback]
            exact trim_normalizeBootstrapProvider lawful _
        | fallbackReason => exact trim_trim lawful _
        | upstreamHost => exact host.1
        | upstreamScheme => exact scheme.1
        | upstreamPort => exact port.1
        | _ => exact trimmed _
      present := by
        intro field member
        cases field with
        | token | signature | method | sessionId | targetUrl | timestamp | fallbackReason =>
            exact absurd member (by decide)
        | contractVersion => exact required _ (by decide)
        | requestKind =>
            intro empty
            exact required .requestKind (by decide) (lawful.lower_present _ empty)
        | originalMethod =>
            intro empty
            exact required .originalMethod (by decide) (lawful.upper_present _ empty)
        | provider => exact normalizeBootstrapProvider_ne lawful (required _ (by decide))
        | providerCategory => exact normalizeBootstrapCategory_ne lawful (required _ (by decide))
        | fallbackProvider =>
            simp only [bootstrapContext, fallback]
            exact normalizeBootstrapProvider_ne lawful (required _ (by decide))
        | upstreamHost => exact host.2
        | upstreamScheme => exact scheme.2
        | upstreamPort => exact port.2
        | _ => exact given _ (by decide)
      method := lawful.upper_upper _
      scheme := by
        have derivedScheme := (upstream_eq target derived).2.1
        simp only [bootstrapContext, SwgFields.withUpstream, SwgField.isUpstream, if_true,
          derivedScheme]
        exact lawful.lower_lower _
      boundaryType := by
        rw [trimmed] at kind
        exact kind
      boundaryId := org
      tenantId := tenant }

end Accepted

/-! ## From the session to the handoff and back -/

section Handoff

variable {platform : WebPlatform} {settings : HandoffSettings} {session : SwgSession}
  {url : ParsedUrl}

theorem isSwgAuthMode_swg (lawful : platform.Lawful) :
    isSwgAuthMode platform.toPlatform "swg" = true := by
  rw [isSwgAuthMode, lawful.lower_ascii "swg" (by decide)]
  decide

/-- The upstream values that are derived again are the stored ones. -/
theorem deriveUpstreamContext_settled {fields context : SwgFields} {targetUrl : String}
    (settled : Settled platform context) (target : Target platform targetUrl url)
    (same : ∀ field : SwgField, field.isUpstream = true → fields field = context field) :
    ∃ upstream, deriveUpstreamContext platform.toPlatform fields targetUrl = .ok upstream ∧
      ∀ field : SwgField, field.isUpstream = true → upstream field = context field := by
  have host := orElse_of_ne (settled.present .upstreamHost (by decide))
  have scheme := orElse_of_ne (settled.present .upstreamScheme (by decide))
  have port := orElse_of_ne (settled.present .upstreamPort (by decide))
  simp only [deriveUpstreamContext, target.parsed, same .upstreamHost rfl,
    same .upstreamScheme rfl, same .upstreamPort rfl, host, scheme, port, settled.scheme]
  refine ⟨_, rfl, ?_⟩
  intro field isUpstream
  cases field with
  | upstreamHost => rfl
  | upstreamScheme => rfl
  | upstreamPort => rfl
  | _ => cases isUpstream

/-- The context that is derived from the session is the stored one. -/
theorem deriveSwgSessionContext_settled (lawful : platform.Lawful)
    (settled : Settled platform session.swg) (target : Target platform session.targetUrl url)
    (authMode : session.authMode = "swg") :
    ∃ derived, deriveSwgSessionContext platform.toPlatform settings session = .ok (some derived) ∧
      ∀ field ∈ comparedFields, derived field = session.swg field := by
  obtain ⟨upstream, derived, same⟩ :=
    deriveUpstreamContext_settled settled target fun field _ => rfl
  have transaction := settled.present .transactionId (by decide)
  have tenant := settled.present .tenantId (by decide)
  have profile := settled.present .profileId (by decide)
  have policy := settled.present .policy (by decide)
  have org := orElse_of_ne (settled.present .orgId (by decide))
  have kind := orElse_of_ne (settled.present .requestKind (by decide))
  have method := orElse_of_ne (settled.present .originalMethod (by decide))
  have fallback := orElse_of_ne (settled.present .fallbackProvider (by decide))
  simp only [deriveSwgSessionContext, authMode, isSwgAuthMode_swg lawful, Bool.true_eq_false,
    if_false, transaction, tenant, profile, policy, or_self, derived]
  refine ⟨_, rfl, ?_⟩
  intro field compared
  cases field with
  | orgId => exact org _
  | requestKind => exact kind _
  | originalMethod => exact method _
  | fallbackProvider => exact fallback _
  | upstreamHost => exact same .upstreamHost rfl
  | upstreamScheme => exact same .upstreamScheme rfl
  | upstreamPort => exact same .upstreamPort rfl
  | token | signature | method | sessionId | targetUrl | timestamp =>
      exact absurd compared (by decide)
  | _ => rfl

/-- Normalising a handoff keeps a settled context. -/
theorem normalizeSwgHandoffFields_settled {input context : SwgFields}
    (settled : Settled platform context)
    (same : ∀ field ∈ comparedFields, input field = context field) :
    ∀ field ∈ comparedFields, platform.normalizeSwgHandoffFields input field = context field := by
  have value : ∀ field ∈ comparedFields, platform.trim (input field) = context field := by
    intro field compared
    rw [same field compared, settled.trimmed]
  intro field compared
  cases field with
  | originalMethod =>
      simp only [Platform.normalizeSwgHandoffFields, Platform.normalizeMethod,
        orElse_empty_right, value _ compared, settled.method]
  | upstreamHost =>
      simp only [Platform.normalizeSwgHandoffFields, same _ compared,
        orElse_of_ne (settled.present .upstreamHost (by decide)), settled.trimmed]
  | upstreamScheme =>
      simp only [Platform.normalizeSwgHandoffFields, same _ compared,
        orElse_of_ne (settled.present .upstreamScheme (by decide)), settled.trimmed]
  | upstreamPort =>
      simp only [Platform.normalizeSwgHandoffFields, same _ compared,
        orElse_of_ne (settled.present .upstreamPort (by decide)), settled.trimmed]
  | token | signature | method | sessionId | targetUrl | timestamp =>
      exact absurd compared (by decide)
  | _ => exact value _ compared

theorem digits_plain (value : Nat) :
    ∀ char ∈ (toString value).toList, Text.isSpace char = false := by
  intro char member
  have digit : char.isDigit = true := by
    apply Nat.isDigit_of_mem_toDigits (b := 10) (by decide) (by decide)
    rw [← Nat.toList_repr]
    exact member
  have bounds : 48 ≤ char.toNat ∧ char.toNat ≤ 57 := by
    simp only [Char.isDigit, Bool.and_eq_true, decide_eq_true_eq] at digit
    exact digit
  simp only [Text.isSpace, List.contains_eq_mem, List.mem_cons, List.not_mem_nil, or_false]
  simp
  omega

/-- A session created by an accepted request, as it is stored. -/
structure Bootstrapped (platform : WebPlatform) (session : SwgSession) : Prop where
  authMode : session.authMode = "swg"
  settled : Settled platform session.swg
  target : ∃ url, Target platform session.targetUrl url
  /-- the generated id -/
  id : session.id ≠ "" ∧ ∀ char ∈ session.id.toList, Text.isSpace char = false

/-- The fields that are read from the token of the session. -/
structure Presented (platform : WebPlatform) (session : SwgSession) (created : Nat)
    (handoff : SwgFields) : Prop where
  compared : ∀ field ∈ comparedFields, handoff field = session.swg field
  sessionId : handoff .sessionId = session.id
  targetUrl : handoff .targetUrl = session.targetUrl
  timestamp : handoff .timestamp = toString created
  method : handoff .method = "GET"

theorem upper_get (lawful : platform.Lawful) :
    platform.toUpperCase (platform.trim "GET") = "GET" := by
  rw [lawful.trim_eq, show Text.strip "GET" = "GET" by decide]
  exact lawful.upper_ascii "GET" (by decide)

/-- Normalising keeps what is presented. -/
theorem Presented.normalize {created : Nat} {handoff : SwgFields} (lawful : platform.Lawful)
    (stored : Bootstrapped platform session) (presented : Presented platform session created handoff) :
    Presented platform session created (platform.normalizeSwgHandoffFields handoff) := by
  obtain ⟨url, target⟩ := stored.target
  exact
    { compared := normalizeSwgHandoffFields_settled stored.settled presented.compared
      sessionId := by
        simp only [Platform.normalizeSwgHandoffFields, presented.sessionId]
        exact trim_plain lawful stored.id.2
      targetUrl := by
        simp only [Platform.normalizeSwgHandoffFields, presented.targetUrl]
        exact target.trimmed lawful
      timestamp := by
        simp only [Platform.normalizeSwgHandoffFields, presented.timestamp]
        exact trim_plain lawful (digits_plain created)
      method := by
        simp only [Platform.normalizeSwgHandoffFields, Platform.normalizeMethod,
          presented.method, orElse_of_ne (show "GET" ≠ "" by decide)]
        exact upper_get lawful }

/-- The normalised input of a token presents the session. -/
theorem presented_handoffInput (lawful : platform.Lawful) (stored : Bootstrapped platform session)
    {derived : SwgFields} (same : ∀ field ∈ comparedFields, derived field = session.swg field)
    (created : Nat) (uuid : String) :
    Presented platform session created (platform.normalizeSwgHandoffFields
      (handoffInput platform.toPlatform session derived created uuid)) := by
  obtain ⟨url, target⟩ := stored.target
  have transaction : orElse (platform.trim (derived .transactionId)) uuid =
      session.swg .transactionId := by
    rw [same _ (by decide), stored.settled.trimmed,
      orElse_of_ne (stored.settled.present .transactionId (by decide))]
  have digits := trim_plain lawful (digits_plain created)
  exact
    { compared := by
        apply normalizeSwgHandoffFields_settled stored.settled
        intro field compared
        cases field with
        | transactionId => exact transaction
        | token | signature | method | sessionId | targetUrl | timestamp =>
            exact absurd compared (by decide)
        | _ => exact same _ compared
      sessionId := trim_plain lawful stored.id.2
      targetUrl := target.trimmed lawful
      timestamp := by
        simp only [Platform.normalizeSwgHandoffFields, handoffInput, digits]
      method := upper_get lawful }

namespace Presented

variable {created : Nat} {handoff : SwgFields} (lawful : platform.Lawful)
  (stored : Bootstrapped platform session) (presented : Presented platform session created handoff)
include lawful stored presented

/-- No field is missing. -/
theorem requireSwgFields_eq :
    requireSwgFields platform.toPlatform handoff handoffFields = .ok () := by
  obtain ⟨url, target⟩ := stored.target
  have present : ∀ field ∈ handoffFields, platform.trim (handoff field) ≠ "" := by
    intro field member
    cases field with
    | timestamp =>
        rw [presented.timestamp, trim_plain lawful (digits_plain created)]
        exact Nat.repr_ne_empty
    | sessionId =>
        rw [presented.sessionId, trim_plain lawful stored.id.2]
        exact stored.id.1
    | targetUrl =>
        rw [presented.targetUrl, target.trimmed lawful]
        exact (target.plain lawful).1
    | token | signature | method | fallbackReason | upstreamHost | upstreamScheme
    | upstreamPort => exact absurd member (by decide)
    | _ =>
        rw [presented.compared _ (by decide), stored.settled.trimmed]
        exact stored.settled.present _ (by decide)
  have none : (handoffFields.filter fun field => platform.trim (handoff field) = "") = [] := by
    rw [List.filter_eq_nil_iff]
    intro field member blank
    exact present field member (by simpa using blank)
  simp only [requireSwgFields, none, if_true]

omit lawful in
/-- There is no error about the boundary. -/
theorem requireOrgBoundaryContext_eq :
    requireOrgBoundaryContext platform.toPlatform handoff = .ok () := by
  simp only [requireOrgBoundaryContext, presented.compared .boundaryType (by decide),
    presented.compared .orgId (by decide), presented.compared .boundaryId (by decide),
    presented.compared .tenantId (by decide), stored.settled.trimmed,
    stored.settled.boundaryType, stored.settled.boundaryId, stored.settled.tenantId, ne_eq,
    not_true_eq_false, if_false]

theorem checkSession_eq (numeral : platform.number (toString created) = some (created : ℚ)) :
    checkSession platform.toPlatform handoff session = .ok (created : ℚ) := by
  simp only [checkSession, stored.authMode, isSwgAuthMode_swg lawful, presented.method,
    orElse_of_ne (show "GET" ≠ "" by decide), upper_get lawful, presented.sessionId,
    presented.targetUrl, presented.timestamp, numeral, Bool.true_eq_false, ne_eq,
    not_true_eq_false, if_false]

/-- No field differs from the stored context. -/
theorem checkContext_eq (token : String) :
    checkContext platform.toPlatform settings (.opaqueToken token) handoff session = .ok () := by
  obtain ⟨url, target⟩ := stored.target
  obtain ⟨upstream, derivedUpstream, sameUpstream⟩ :=
    @deriveUpstreamContext_settled _ _ handoff _ _ stored.settled target fun field isUpstream =>
      presented.compared field (by
        revert isUpstream
        cases field <;> decide)
  obtain ⟨derived, derivedContext, same⟩ :=
    @deriveSwgSessionContext_settled _ settings _ _ lawful stored.settled target stored.authMode
  have none : (comparedFields.filter fun field =>
      ((some derived).elim "" fun stored => stored field) ≠
        handoff.withUpstream upstream field) = [] := by
    rw [List.filter_eq_nil_iff]
    intro field compared
    have equal : ((some derived).elim "" fun stored => stored field) =
        handoff.withUpstream upstream field := by
      rw [Option.elim_some, same field compared, SwgFields.withUpstream]
      split
      next isUpstream => exact (sameUpstream field isUpstream).symm
      next => exact (presented.compared field compared).symm
    exact fun differs => of_decide_eq_true differs equal
  simp only [checkContext, derivedUpstream, derivedContext, bind, Except.bind, none, ne_eq,
    not_true_eq_false, if_false]

end Presented

/-! ### The token -/

/-- A part of a token: the characters of base64url are no dots and no white space. -/
def Encoded (part : String) : Prop :=
  ∀ char ∈ part.toList, char ≠ '.' ∧ Text.isSpace char = false

theorem splitDots_token {iv ciphertext tag : String} (encodedIv : Encoded iv)
    (encodedCiphertext : Encoded ciphertext) (encodedTag : Encoded tag) :
    Platform.splitDots ("v1." ++ iv ++ "." ++ ciphertext ++ "." ++ tag) =
      ["v1", iv, ciphertext, tag] := by
  have joined : "v1." ++ iv ++ "." ++ ciphertext ++ "." ++ tag =
      String.intercalate (Char.toString '.') ["v1", iv, ciphertext, tag] := by
    rw [← String.toList_inj]
    simp
  rw [Platform.splitDots, joined]
  apply @Text.split_join '.' _ (by simp)
  intro part member
  simp only [List.mem_cons, List.not_mem_nil, or_false] at member
  rcases member with rfl | rfl | rfl | rfl
  · decide
  · exact fun dot => (encodedIv '.' dot).1 rfl
  · exact fun dot => (encodedCiphertext '.' dot).1 rfl
  · exact fun dot => (encodedTag '.' dot).1 rfl

theorem token_plain {iv ciphertext tag : String} (encodedIv : Encoded iv)
    (encodedCiphertext : Encoded ciphertext) (encodedTag : Encoded tag) :
    ∀ char ∈ ("v1." ++ iv ++ "." ++ ciphertext ++ "." ++ tag).toList,
      Text.isSpace char = false := by
  intro char member
  simp only [String.toList_append, List.mem_append] at member
  have version : ∀ char ∈ "v1.".toList, Text.isSpace char = false := by decide
  have dot : ∀ char ∈ ".".toList, Text.isSpace char = false := by decide
  rcases member with ((((inVersion | inIv) | inDot) | inText) | inDot) | inTag
  · exact version char inVersion
  · exact (encodedIv char inIv).2
  · exact dot char inDot
  · exact (encodedCiphertext char inText).2
  · exact dot char inDot
  · exact (encodedTag char inTag).2

theorem token_present (iv ciphertext tag : String) :
    "v1." ++ iv ++ "." ++ ciphertext ++ "." ++ tag ≠ "" := by
  intro empty
  have letters := congrArg String.toList empty
  simp at letters

/-- A token that deciphers to its fields is read back, normalised once more. -/
theorem decryptSwgHandoffToken_build (lawful : platform.Lawful) {input : SwgFields} {iv : String}
    {encodedIv ciphertext tag : String}
    (enciphered : platform.encipher iv (platform.normalizeSwgHandoffFields input) =
      (encodedIv, ciphertext, tag))
    (encoded : Encoded encodedIv ∧ Encoded ciphertext ∧ Encoded tag)
    (inverse : platform.decipher encodedIv ciphertext tag =
      some (platform.normalizeSwgHandoffFields input)) :
    platform.decryptSwgHandoffToken (platform.buildOpaqueSwgHandoffToken iv input) =
      .ok (platform.normalizeSwgHandoffFields (platform.normalizeSwgHandoffFields input)) := by
  have plain := token_plain encoded.1 encoded.2.1 encoded.2.2
  simp only [Platform.decryptSwgHandoffToken, Platform.buildOpaqueSwgHandoffToken, enciphered,
    trim_plain lawful plain, if_neg (token_present _ _ _),
    splitDots_token encoded.1 encoded.2.1 encoded.2.2, ne_eq, not_true_eq_false, if_false,
    inverse]

/-! ### Acceptance -/

/-- The query of the handoff URL carries the token alone. -/
def tokenQuery (token : String) : SwgFields
  | .token => token
  | _ => ""

/-- The handoff is presented for the first time, within the tolerance, and while the session is
stored. -/
def FirstPresentation (settings : HandoffSettings) (session : SwgSession) (created : Nat) :
    Event handoff.face → Prop
  | ⟨.getSession id, found⟩ => id = session.id → found = some session
  | ⟨.now, time⟩ => ¬Stale settings time created
  | ⟨.rememberReplay _, isNew⟩ => isNew = .ok true
  | _ => True

theorem validateSwgHandoffRequest_presented (lawful : platform.Lawful)
    (stored : Bootstrapped platform session) {created : Nat} {fields : SwgFields} {token : String}
    (enabled : settings.enableSwgBootstrap = true)
    (numeral : platform.number (toString created) = some (created : ℚ))
    (tokenPlain : token ≠ "" ∧ ∀ char ∈ token.toList, Text.isSpace char = false)
    (decrypted : platform.decryptSwgHandoffToken token = .ok fields)
    (presented : Presented platform session created fields) (cookies : Cookies) :
    (validateSwgHandoffRequest platform.toPlatform settings (tokenQuery token) cookies).Yields
      (FirstPresentation settings session created) (· = .ok session) := by
  have carried : CarriedHandoff.ofQuery platform.toPlatform (tokenQuery token) =
      .opaqueToken token := by
    simp only [CarriedHandoff.ofQuery, Platform.extractSwgHandoffQuery, tokenQuery,
      trim_plain lawful tokenPlain.2, if_neg tokenPlain.1]
  have read : readHandoff platform.toPlatform (.opaqueToken token) = .ok fields := by
    simp only [readHandoff, decrypted, presented.requireSwgFields_eq lawful stored,
      presented.requireOrgBoundaryContext_eq stored]
    rfl
  simp only [validateSwgHandoffRequest, enabled, Bool.true_eq_false, if_false, carried, read]
  intro found isStored
  have same : found = some session := isStored presented.sessionId
  subst same
  simp only [Program.bind, presented.checkSession_eq lawful stored numeral]
  intro time fresh
  have notStale : ¬Stale settings time created := fresh
  simp only [Program.bind, if_neg notStale, presented.checkContext_eq lawful stored token]
  intro isNew first
  have new : isNew = .ok true := first
  subst new
  rfl

theorem bootstrapSession_eq (lawful : platform.Lawful) {generated : SwgSession}
    {targetUrl : String} (target : Target platform targetUrl url) (context : SwgFields) :
    bootstrapSession platform generated targetUrl context =
      .ok { generated with targetUrl, authMode := "swg", swg := context } := by
  simp only [bootstrapSession, WebPlatform.validateTargetUrl,
    target.normalizeTargetUrl_eq lawful]
  rfl

end Handoff

/-- Deciphering inverts the enciphering of these fields, and the parts are encoded. -/
def Inverts (platform : Platform) (iv : String) (fields : SwgFields) : Prop :=
  let parts := platform.encipher iv fields
  Encoded parts.1 ∧ Encoded parts.2.1 ∧ Encoded parts.2.2 ∧
    platform.decipher parts.1 parts.2.1 parts.2.2 = some fields

/-- The values with which the handoff URL is built. -/
def Issued (created : Nat) (iv uuid : String) : Event handoff.face → Prop
  | ⟨.now, time⟩ => time = created
  | ⟨.random, values⟩ => values = (iv, uuid)
  | _ => True

/-- The main result: the session of an accepted bootstrap request has a handoff URL, and its
token is accepted when it is presented first, in time and while the session is stored. -/
theorem bootstrap_and_handoff_agree (platform : WebPlatform) (lawful : platform.Lawful)
    (settings : AdmissionSettings) (request : HeaderRequest) (time : Nat) (targetUrl : String)
    (context : SwgFields)
    (accepted : acceptSwgBootstrap platform settings request time = .ok (targetUrl, context))
    (generated : SwgSession)
    (id : generated.id ≠ "" ∧ ∀ char ∈ generated.id.toList, Text.isSpace char = false) :
    ∃ session derived,
      bootstrapSession platform generated targetUrl context = .ok session ∧
      deriveSwgSessionContext platform.toPlatform settings.toHandoffSettings session =
        .ok (some derived) ∧
      ∀ (created : Nat) (iv uuid : String),
        platform.number (toString created) = some (created : ℚ) →
        Inverts platform.toPlatform iv (platform.normalizeSwgHandoffFields
          (handoffInput platform.toPlatform session derived created uuid)) →
        ∃ token,
          (buildSwgHandoffUrl platform.toPlatform session derived).Yields
            (Issued created iv uuid) (· = .handoff token) ∧
          ∀ stored cookies, stored.id = session.id → stored.targetUrl = session.targetUrl →
            stored.authMode = session.authMode → stored.swg = session.swg →
            (validateSwgHandoffRequest platform.toPlatform settings.toHandoffSettings
              (tokenQuery token) cookies).Yields
                (FirstPresentation settings.toHandoffSettings stored created)
                (· = .ok stored) := by
  obtain ⟨enabled, ⟨url, target⟩, checked⟩ := acceptSwgBootstrap_eq_ok lawful accepted
  have settled : Settled platform context :=
    settled_of_accepted lawful target (trim_extractSwgHeaders lawful _) checked
  let session := { generated with targetUrl, authMode := "swg", swg := context }
  have bootstrapped : Bootstrapped platform session := ⟨rfl, settled, ⟨url, target⟩, id⟩
  obtain ⟨derived, derivedEq, same⟩ := @deriveSwgSessionContext_settled platform
    settings.toHandoffSettings session url lawful settled target rfl
  refine ⟨session, derived, bootstrapSession_eq lawful target context, derivedEq, ?_⟩
  intro created iv uuid numeral inverts
  obtain ⟨encodedIv, encodedText, encodedTag, inverse⟩ := inverts
  have decrypted := decryptSwgHandoffToken_build lawful rfl
    ⟨encodedIv, encodedText, encodedTag⟩ inverse
  have plain := token_plain encodedIv encodedText encodedTag
  refine ⟨platform.buildOpaqueSwgHandoffToken iv
    (handoffInput platform.toPlatform session derived created uuid), ?_, ?_⟩
  · intro now isCreated
    subst isCreated
    intro values areRandom
    subst areRandom
    rfl
  · intro stored cookies sameId sameTarget sameMode sameContext
    have kept : Bootstrapped platform stored := by
      refine ⟨sameMode, ?_, ?_, ?_⟩
      · rw [sameContext]
        exact settled
      · rw [sameTarget]
        exact ⟨url, target⟩
      · rw [sameId]
        exact id
    have presented := (presented_handoffInput lawful bootstrapped same created uuid).normalize
      lawful bootstrapped
    have shown : Presented platform stored created _ :=
      { compared := by
          rw [sameContext]
          exact presented.compared
        sessionId := presented.sessionId.trans sameId.symm
        targetUrl := presented.targetUrl.trans sameTarget.symm
        timestamp := presented.timestamp
        method := presented.method }
    exact validateSwgHandoffRequest_presented lawful kept enabled numeral
      ⟨token_present _ _ _, plain⟩ decrypted shown cookies

/-! ## A handoff of the web site -/

section Examples

/-- The fields of the handoff. -/
def siteHandoff : SwgFields
  | .token => ""
  | .signature => ""
  | .method => "GET"
  | .sessionId => "sess-1"
  | .timestamp => "10"
  | .upstreamHost => "example.com"
  | .upstreamScheme => "https"
  | .upstreamPort => "443"
  | field => siteInput true field

/-- The platform of the web site with one digest and one token. -/
def tokenPlatform : WebPlatform := sitePlatform (fun _ => "digest") (some siteHandoff)

/-- What the store generates. -/
def siteSession : SwgSession where
  id := "sess-1"
  state := "starting"
  expiresAt := 100
  targetUrl := ""
  authMode := ""
  swg _ := ""
  viewerUrl := "/viewer?sessionId=sess-1"
  viewerToken := "token"

/-- The request for the web site, signed at 10 and accepted at 10. -/
def siteAccepted : Except HttpError (String × SwgFields) :=
  acceptSwgBootstrap tokenPlatform siteSettings
    (signedRequest tokenPlatform (siteInput true) "10" "uuid" false) 10

/-- What the token of its session carries. -/
def siteFields : Option SwgFields := do
  let (targetUrl, context) ← siteAccepted.toOption
  let session ← (bootstrapSession tokenPlatform siteSession targetUrl context).toOption
  let derived ← (deriveSwgSessionContext tokenPlatform.toPlatform siteSettings.toHandoffSettings
    session).toOption
  let derived ← derived
  return tokenPlatform.normalizeSwgHandoffFields
    (handoffInput tokenPlatform.toPlatform session derived 10 "uuid")

def allFields : List SwgField :=
  [SwgField.token, .signature, .method, .sessionId, .targetUrl, .timestamp] ++ comparedFields

theorem siteFields_eq (field : SwgField) :
    (siteFields.map fun fields => fields field) = some (siteHandoff field) := by
  have read : (siteFields.map fun fields => allFields.map fields) =
      some (allFields.map siteHandoff) := by
    decide +kernel
  cases carried : siteFields with
  | none =>
      rw [carried] at read
      cases read
  | some fields =>
      rw [carried] at read
      have same := List.map_inj_left.mp (Option.some.inj read)
      refine congrArg some (same field ?_)
      cases field <;> decide

theorem encoded_site : Encoded "iv" ∧ Encoded "text" ∧ Encoded "tag" := by
  unfold Encoded
  decide

theorem site_bootstrap_and_handoff_agree :
    ∃ context session derived token,
      siteAccepted = .ok ("https://example.com/", context) ∧
      bootstrapSession tokenPlatform siteSession "https://example.com/" context = .ok session ∧
      (buildSwgHandoffUrl tokenPlatform.toPlatform session derived).Yields
        (Issued 10 "iv" "uuid") (· = .handoff token) ∧
      ∀ cookies, (validateSwgHandoffRequest tokenPlatform.toPlatform
        siteSettings.toHandoffSettings (tokenQuery token) cookies).Yields
          (FirstPresentation siteSettings.toHandoffSettings session 10) (· = .ok session) := by
  have target : siteAccepted.toOption.map Prod.fst = some "https://example.com/" := by
    decide +kernel
  obtain ⟨⟨targetUrl, context⟩, accepted⟩ : ∃ value, siteAccepted = .ok value :=
    exists_of_isOk (by decide +kernel)
  rw [accepted] at target
  obtain rfl : targetUrl = "https://example.com/" := Option.some.inj target
  obtain ⟨session, derived, created, derivedEq, agree⟩ := bootstrap_and_handoff_agree
    tokenPlatform sitePlatform_lawful siteSettings _ 10 _ context accepted siteSession
    (by decide)
  have carried : siteFields = some (tokenPlatform.normalizeSwgHandoffFields
      (handoffInput tokenPlatform.toPlatform session derived 10 "uuid")) := by
    simp only [siteFields, accepted, Except.toOption, Option.bind_eq_bind, Option.bind_some,
      created, derivedEq, Option.pure_def]
  have plaintext : siteHandoff = tokenPlatform.normalizeSwgHandoffFields
      (handoffInput tokenPlatform.toPlatform session derived 10 "uuid") := by
    funext field
    have read := siteFields_eq field
    rw [carried] at read
    exact (Option.some.inj read).symm
  obtain ⟨token, issued, handoff⟩ := agree 10 "iv" "uuid" rfl
    ⟨encoded_site.1, encoded_site.2.1, encoded_site.2.2, congrArg some plaintext⟩
  exact ⟨context, session, derived, token, accepted, created, issued,
    fun cookies => handoff session cookies rfl rfl rfl rfl⟩

end Examples

end RemoteBrowser.Swg
