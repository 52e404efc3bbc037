import RemoteBrowser.Gateway.Signaling
import RemoteBrowser.Text.Lines
import Mathlib.Data.List.Nodup

/-!
# Launched and pooled workers

A pooled worker takes its signaling address from the gateway assignment first and from the
configuration second; a launched worker does the opposite.  Only the pooled worker of a gateway
session is restricted to relay candidates.  The main result says for which sessions and
configurations the two workers are given the same values.
-/

namespace RemoteBrowser.Gateway

/-! ## Candidate types -/

def validCandidateTypes : List String := ["host", "srflx", "relay"]

/-- `config.allowedIceCandidateTypes`: `toCandidateTypeList` keeps valid types only, each once,
and falls back to a list of that kind when none is left. -/
structure CandidateTypes where
  types : List String
  present : types ≠ []
  valid : ∀ type ∈ types, type ∈ validCandidateTypes
  distinct : types.Nodup

/-- A list without repetition is kept as it is. -/
theorem eraseDups_of_nodup {items : List String} (distinct : items.Nodup) :
    items.eraseDups = items := by
  induction items with
  | nil => rfl
  | cons item rest ih =>
      rw [List.nodup_cons] at distinct
      have kept : rest.filter (fun other => !other == item) = rest := by
        rw [List.filter_eq_self]
        intro other member
        have different : other ≠ item := fun same => distinct.1 (same ▸ member)
        simpa using different
      rw [List.eraseDups_cons, kept, ih distinct.2]

namespace UrlPlatform

variable (platform : UrlPlatform)

/-- `normalizeCandidateTypes` of `shared/session-transport.js`. -/
def normalizeCandidateTypes (values : List String) : List String :=
  let normalized := (values.map fun value => platform.toLowerCase (platform.trim value)).filter
    (· ∈ validCandidateTypes)
  if normalized ≠ [] then normalized.eraseDups else validCandidateTypes

def resolveSessionAllowedCandidateTypes (session : PlacedSession) (configured : List String) :
    List String :=
  if usesGatewaySignaling session then ["relay"] else platform.normalizeCandidateTypes configured

def resolveSessionIceTransportPolicy (session : PlacedSession) (policy : String)
    (configured : List String) : String :=
  if platform.resolveSessionAllowedCandidateTypes session configured = ["relay"] then
    "relay"
  else
    firstText (platform.toLowerCase (platform.trim (firstText policy "all"))) "all"

end UrlPlatform

/-! ## What the two workers are given -/

structure WorkerConfig extends SignalingConfig where
  allowedIceCandidateTypes : CandidateTypes
  viewerIceTransportPolicy : String

/-- The part of a `session-assignment` that concerns signaling. -/
structure SessionAssignment where
  sessionId : String
  signalingUrl : String
  signalingMode : String
  iceTransportPolicy : String
  allowedCandidateTypes : List String
  deriving DecidableEq

/-- The part of a worker's environment that concerns signaling. -/
structure WorkerEnvironment where
  SESSION_ID : String
  SIGNALING_URL : String
  ALLOWED_CANDIDATE_TYPES : String
  deriving DecidableEq

namespace UrlPlatform

variable (platform : UrlPlatform)

def buildSessionAssignmentPayload (config : WorkerConfig) (session : PlacedSession) :
    Option SessionAssignment := do
  let allowedCandidateTypes := platform.resolveSessionAllowedCandidateTypes session
    config.allowedIceCandidateTypes.types
  let signalingUrl ← platform.buildSessionSignalingUrl config.toSignalingConfig session .worker
    config.workerWsUrl
  some
    { sessionId := session.id
      signalingUrl
      signalingMode := if usesGatewaySignaling session then "gateway" else "direct"
      iceTransportPolicy := platform.resolveSessionIceTransportPolicy session
        config.viewerIceTransportPolicy config.allowedIceCandidateTypes.types
      allowedCandidateTypes }

def buildWorkerEnvironment (config : WorkerConfig) (session : PlacedSession) :
    Option WorkerEnvironment := do
  let signalingUrl ← platform.buildWorkerSignalingUrl config.toSignalingConfig session
  some
    { SESSION_ID := session.id
      SIGNALING_URL := signalingUrl
      ALLOWED_CANDIDATE_TYPES := String.intercalate "," config.allowedIceCandidateTypes.types }

/-- The URLs that `buildGatewaySignalingUrl` serializes. -/
def Built (url : Url) : Prop :=
  ∃ baseUrl sessionId role relay cleared query,
    platform.endpoint baseUrl sessionId role = some cleared ∧
      platform.relayParameter relay = some query ∧ url = { cleared with query }

/-- What is documented of the platform: distinct URLs have distinct serializations, the text
of a number is not empty, and neither trimming nor lower-casing changes the names of the
candidate types. -/
structure Lawful : Prop where
  href_injective : Set.InjOn platform.href { url | platform.Built url }
  number_present : ∀ value, platform.number value ≠ ""
  fixed : ∀ type ∈ validCandidateTypes, platform.toLowerCase (platform.trim type) = type

end UrlPlatform

/-! ## Candidate types on both paths -/

section Types

variable {platform : UrlPlatform}

theorem normalizeCandidateTypes_configured (lawful : platform.Lawful)
    (configured : CandidateTypes) :
    platform.normalizeCandidateTypes configured.types = configured.types := by
  have mapped : (configured.types.map fun value =>
      platform.toLowerCase (platform.trim value)) = configured.types := by
    rw [List.map_congr_left (g := id)]
    · exact List.map_id _
    · intro type member
      exact lawful.fixed type (configured.valid type member)
  have kept : configured.types.filter (· ∈ validCandidateTypes) = configured.types := by
    rw [List.filter_eq_self]
    intro type member
    simpa using configured.valid type member
  rw [UrlPlatform.normalizeCandidateTypes, mapped, kept, if_pos configured.present,
    eraseDups_of_nodup configured.distinct]

theorem comma_not_mem_valid {type : String} (valid : type ∈ validCandidateTypes) :
    ',' ∉ type.toList := by
  simp only [validCandidateTypes, List.mem_cons, List.not_mem_nil, or_false] at valid
  rcases valid with rfl | rfl | rfl
  · decide
  · decide
  · decide

/-- The joined types are `relay` only when that is the one type. -/
theorem join_eq_relay_iff (configured : CandidateTypes) :
    String.intercalate "," configured.types = "relay" ↔ configured.types = ["relay"] := by
  constructor
  · intro joined
    have separated : ∀ type ∈ configured.types, ',' ∉ type.toList := fun type member =>
      comma_not_mem_valid (configured.valid type member)
    have relay : ∀ type ∈ ["relay"], ',' ∉ type.toList := by decide
    exact @Text.join_injective ',' _ _ configured.present (by simp) separated relay joined
  · intro single
    rw [single]
    rfl

end Types

/-! ## When the two workers agree -/

section Agreement

variable (platform : UrlPlatform) (config : WorkerConfig) (session : PlacedSession)

/-- The address from which the URL of a launched worker is derived. -/
def launchedAddress (known : String) : String :=
  if platform.trim config.workerWsUrl = "" then
    firstText (platform.trim known) config.workerWsUrl
  else
    platform.trim config.workerWsUrl

/-- The address that a pooled worker's URL starts from, the assigned `publicWsURL` before the
configured addresses, has the same endpoint as the launched worker's: the configured
`workerWsUrl` before `publicWsURL` and `publicWsUrl`. -/
def SameAddress : Prop :=
  let named := (platform.normalizeHeaderValue (session.assigned "publicWsURL")).getD ""
  let known := (Json.textOrEmpty platform.number
    (Json.or (session.assigned "publicWsURL") (session.assigned "publicWsUrl"))).getD ""
  let configured := firstText config.workerWsUrl config.publicWsUrl
  platform.endpoint (firstText named configured) session.id .worker =
    platform.endpoint (launchedAddress platform config known) session.id .worker

/-- The assigned relay mode is no array, of which the two workers read different parts, or one
whose first item has the text of the whole. -/
def SameRelay : Prop :=
  ∀ items, session.assigned "relayMode" = some (.arr items) →
    (Json.arr items).text platform.number = Json.textOrEmpty platform.number items.head? ∧
      (Json.arr items).text platform.number ≠ some ""

variable {platform config session}

/-- The parameters of a URL whose relay label is the given text. -/
def labelled (label : String) : List (String × String) :=
  if label = "" then [] else [("relay", label)]

theorem relayParameter_str (label : String) :
    platform.relayParameter (some (.str label)) = some (labelled label) := by
  by_cases empty : label = ""
  · simp [empty, UrlPlatform.relayParameter, labelled]
  · simp [UrlPlatform.relayParameter, empty, Json.text, labelled]

/-- Both workers label their URL alike unless the relay mode is an array. -/
theorem relayParameter_plain (lawful : platform.Lawful) {mode : Option Json}
    (plain : ∀ items, mode ≠ some (.arr items)) :
    platform.relayParameter (Json.or mode (some (.str ""))) =
      (platform.normalizeHeaderValue mode).map labelled := by
  have absent : platform.relayParameter (some (.str "")) = some [] := relayParameter_str ""
  rcases mode with _ | value
  · exact absent
  cases value with
  | null => exact absent
  | bool value =>
      cases value with
      | false => exact absent
      | true => rfl
  | num value =>
      by_cases zero : value = 0
      · subst zero
        exact absent
      · have label := lawful.number_present value
        simp [Json.or, Json.truthy, zero, UrlPlatform.relayParameter, Json.text,
          UrlPlatform.normalizeHeaderValue, Json.textOrEmpty, labelled, label]
  | str text =>
      have header : platform.normalizeHeaderValue (some (.str text)) = some text :=
        Json.textOrEmpty_str platform.number text
      by_cases empty : text = ""
      · subst empty
        rw [header]
        exact absent
      · rw [Json.or_some_str empty, header, relayParameter_str]
        rfl
  | arr items => exact absurd rfl (plain items)
  | obj fields =>
      by_cases hidden : (fields.lookup "toString").isSome
      · simp [Json.or, Json.truthy, UrlPlatform.relayParameter, Json.text, hidden,
          UrlPlatform.normalizeHeaderValue, Json.textOrEmpty]
      · simp [Json.or, Json.truthy, UrlPlatform.relayParameter, Json.text, hidden,
          UrlPlatform.normalizeHeaderValue, Json.textOrEmpty, labelled]

theorem relayParameter_arr (items : List Json) :
    platform.relayParameter (Json.or (some (.arr items)) (some (.str ""))) =
      ((Json.arr items).text platform.number).map fun text => [("relay", text)] := by
  cases text : (Json.arr items).text platform.number with
  | none => simp [Json.or, Json.truthy, UrlPlatform.relayParameter, text]
  | some text => simp [Json.or, Json.truthy, UrlPlatform.relayParameter, text]

theorem same_relay_iff (lawful : platform.Lawful) {label : String}
    {query : List (String × String)}
    (pooled : platform.normalizeHeaderValue (session.assigned "relayMode") = some label)
    (launched : platform.relayParameter
      (Json.or (session.assigned "relayMode") (some (.str ""))) = some query) :
    query = labelled label ↔ SameRelay platform session := by
  unfold SameRelay
  by_cases array : ∃ items, session.assigned "relayMode" = some (.arr items)
  · obtain ⟨items, mode⟩ := array
    rw [mode, relayParameter_arr, Option.map_eq_some_iff] at launched
    obtain ⟨text, whole, rfl⟩ := launched
    have first : Json.textOrEmpty platform.number items.head? = some label := by
      rw [mode] at pooled
      exact pooled
    simp only [mode, Option.some.injEq, Json.arr.injEq, forall_eq', whole, first, labelled]
    by_cases empty : label = ""
    · simp [empty]
    · simp only [empty, if_false, List.cons.injEq, Prod.mk.injEq, true_and, and_true]
      constructor
      · intro same
        exact ⟨same, fun none => empty (same ▸ Option.some.inj none)⟩
      · intro both
        exact both.1
  · have plain : ∀ items, session.assigned "relayMode" ≠ some (.arr items) := by
      intro items mode
      exact array ⟨items, mode⟩
    rw [relayParameter_plain lawful plain, pooled] at launched
    constructor
    · intro _ items mode
      exact absurd mode (plain items)
    · intro _
      exact (Option.some.inj launched).symm

theorem query_endpoint {baseUrl sessionId : String} {role : Role} {url : Url}
    (built : platform.endpoint baseUrl sessionId role = some url) : url.query = [] := by
  simp only [UrlPlatform.endpoint, Option.bind_eq_bind, Option.bind_eq_some_iff] at built
  obtain ⟨parsed, _, result⟩ := built
  rw [← Option.some.inj result]

/-- The URL of a pooled worker, taken apart. -/
theorem buildSessionSignalingUrl_eq_some (gateway : usesGatewaySignaling session) {result : String}
    (pooled : platform.buildSessionSignalingUrl config.toSignalingConfig session .worker
      config.workerWsUrl = some result) :
    ∃ named label url,
      platform.normalizeHeaderValue (session.assigned "publicWsURL") = some named ∧
        platform.normalizeHeaderValue (session.assigned "relayMode") = some label ∧
        platform.endpoint (firstText named (firstText config.workerWsUrl config.publicWsUrl))
          session.id .worker = some url ∧
        result = platform.href { url with query := labelled label } := by
  simp only [UrlPlatform.buildSessionSignalingUrl, gateway, if_true,
    UrlPlatform.getGatewayWsBaseUrl, UrlPlatform.getGatewayAssignmentValue,
    UrlPlatform.buildGatewaySignalingUrl, relayParameter_str, Option.bind_eq_bind,
    Option.bind_some, Option.bind_eq_some_iff, Option.some.injEq] at pooled
  obtain ⟨address, ⟨named, assigned, rfl⟩, label, mode, url, endpoint, href⟩ := pooled
  have wsKey : decapitalized "publicWsURL" = "publicWsURL" := by decide
  have relayKey : decapitalized "relayMode" = "relayMode" := by decide
  rw [wsKey, Json.or_self] at assigned
  rw [relayKey, Json.or_self] at mode
  exact ⟨named, label, url, assigned, mode, endpoint, href.symm⟩

/-- The URL of a launched worker, taken apart. -/
theorem buildWorkerSignalingUrl_eq_some (gateway : usesGatewaySignaling session) {result : String}
    (launched : platform.buildWorkerSignalingUrl config.toSignalingConfig session =
      some result) :
    ∃ query url,
      platform.relayParameter (Json.or (session.assigned "relayMode") (some (.str ""))) =
          some query ∧
        platform.endpoint (launchedAddress platform config
          ((Json.textOrEmpty platform.number (Json.or (session.assigned "publicWsURL")
            (session.assigned "publicWsUrl"))).getD "")) session.id .worker = some url ∧
        result = platform.href { url with query } := by
  simp only [UrlPlatform.buildWorkerSignalingUrl, gateway, if_true,
    UrlPlatform.buildGatewaySignalingUrl, Option.bind_eq_bind] at launched
  by_cases blank : platform.trim config.workerWsUrl = ""
  · simp only [blank, ne_eq, not_true_eq_false, if_false, Option.bind_eq_some_iff] at launched
    obtain ⟨known, text, url, endpoint, query, relay, href⟩ := launched
    refine ⟨query, url, relay, ?_, (Option.some.inj href).symm⟩
    simpa only [launchedAddress, blank, if_true, text, Option.getD_some] using endpoint
  · simp only [blank, ne_eq, not_false_eq_true, if_true, Option.bind_eq_some_iff] at launched
    obtain ⟨url, endpoint, query, relay, href⟩ := launched
    refine ⟨query, url, relay, ?_, (Option.some.inj href).symm⟩
    simpa only [launchedAddress, blank, if_false] using endpoint

theorem gateway_urls_eq_iff (lawful : platform.Lawful) (gateway : usesGatewaySignaling session)
    {pooledUrl launchedUrl : String}
    (pooled : platform.buildSessionSignalingUrl config.toSignalingConfig session .worker
      config.workerWsUrl = some pooledUrl)
    (launched : platform.buildWorkerSignalingUrl config.toSignalingConfig session =
      some launchedUrl) :
    launchedUrl = pooledUrl ↔
      SameAddress platform config session ∧ SameRelay platform session := by
  obtain ⟨named, label, pooledEnd, assigned, mode, reached, rfl⟩ :=
    buildSessionSignalingUrl_eq_some gateway pooled
  obtain ⟨query, launchedEnd, relay, arrived, rfl⟩ :=
    buildWorkerSignalingUrl_eq_some gateway launched
  have address : SameAddress platform config session ↔ pooledEnd = launchedEnd := by
    rw [SameAddress, assigned, Option.getD_some, reached, arrived, Option.some.injEq]
  have pooledBuilt : platform.Built { pooledEnd with query := labelled label } :=
    ⟨_, _, _, some (.str label), pooledEnd, _, reached, relayParameter_str label, rfl⟩
  have launchedBuilt : platform.Built { launchedEnd with query } :=
    ⟨_, _, _, _, launchedEnd, query, arrived, relay, rfl⟩
  rw [lawful.href_injective.eq_iff launchedBuilt pooledBuilt, address,
    ← same_relay_iff lawful mode relay]
  constructor
  · intro same
    rw [Url.mk.injEq] at same
    obtain ⟨origin, rigid, path, sameQuery, fragment⟩ := same
    have queries : pooledEnd.query = launchedEnd.query := by
      rw [query_endpoint reached, query_endpoint arrived]
    refine ⟨?_, sameQuery⟩
    cases pooledEnd
    cases launchedEnd
    simp_all
  · rintro ⟨rfl, rfl⟩
    rfl

/-- The main result: both workers are given the same signaling URL and the same candidate
types exactly when the session does not use gateway signaling, or only relay candidates are
configured, both addresses have one endpoint and the relay mode is read alike. -/
theorem pooled_and_launched_agree_iff (platform : UrlPlatform) (lawful : platform.Lawful)
    (config : WorkerConfig) (session : PlacedSession) (assignment : SessionAssignment)
    (environment : WorkerEnvironment)
    (pooled : platform.buildSessionAssignmentPayload config session = some assignment)
    (launched : platform.buildWorkerEnvironment config session = some environment) :
    (environment.SIGNALING_URL = assignment.signalingUrl ∧
        environment.ALLOWED_CANDIDATE_TYPES =
          String.intercalate "," assignment.allowedCandidateTypes ∧
        (usesGatewaySignaling session = true →
          environment.ALLOWED_CANDIDATE_TYPES = "relay" ∧
            assignment.allowedCandidateTypes = ["relay"])) ↔
      (usesGatewaySignaling session = true →
        config.allowedIceCandidateTypes.types = ["relay"] ∧
          SameAddress platform config session ∧ SameRelay platform session) := by
  simp only [UrlPlatform.buildSessionAssignmentPayload, UrlPlatform.buildWorkerEnvironment,
    Option.bind_eq_bind, Option.bind_eq_some_iff, Option.some.injEq] at pooled launched
  obtain ⟨pooledUrl, pooled, rfl⟩ := pooled
  obtain ⟨launchedUrl, launched, rfl⟩ := launched
  by_cases gateway : usesGatewaySignaling session = true
  · have types := join_eq_relay_iff config.allowedIceCandidateTypes
    simp only [gateway, UrlPlatform.resolveSessionAllowedCandidateTypes, if_true,
      gateway_urls_eq_iff lawful gateway pooled launched, forall_const, and_true,
      String.intercalate_singleton, types, and_self]
    exact and_comm
  · have direct : launchedUrl = pooledUrl := by
      simp only [UrlPlatform.buildSessionSignalingUrl, UrlPlatform.buildWorkerSignalingUrl,
        gateway, Bool.false_eq_true, if_false, Option.some.injEq] at pooled launched
      rw [← pooled, ← launched]
    simp only [gateway, direct, UrlPlatform.resolveSessionAllowedCandidateTypes,
      Bool.false_eq_true, if_false, normalizeCandidateTypes_configured lawful, false_implies,
      and_self]

/-! ### Two deployments -/

/-- One configured address, whose service has no base path. -/
def sampleUrl : Url where
  origin := "wss://runtime.example.com"
  rigid := false
  pathname := "/ws/worker"
  query := []
  fragment := ""

def samplePlatform : UrlPlatform where
  trim := id
  toLowerCase := id
  number := fun _ => "0"
  encodeURIComponent := fun _ => "sess_1"
  parse := fun text =>
    if text = "wss://runtime.example.com/ws/worker" then some sampleUrl else none
  storedPath := id
  href := fun url =>
    url.origin ++ url.pathname ++
      match url.query with
      | [] => ""
      | (key, value) :: _ => "?" ++ key ++ "=" ++ value

/-- A session that a gateway carries, placed without further addresses. -/
def sampleSession : PlacedSession where
  id := "sess_1"
  sessionPlacement := .obj [("gatewayAssignment", .obj [("gatewayId", .str "gw-1")])]
  transport := .null

def relayTypes : CandidateTypes where
  types := ["relay"]
  present := by decide
  valid := by decide
  distinct := by decide

/-- The default of a deployment that is not local. -/
def defaultTypes : CandidateTypes where
  types := ["srflx", "relay"]
  present := by decide
  valid := by decide
  distinct := by decide

def sampleConfig (types : CandidateTypes) : WorkerConfig where
  publicWsUrl := "wss://runtime.example.com/ws"
  workerWsUrl := "wss://runtime.example.com/ws/worker"
  rbiInternalSharedSecret := "secret"
  allowedIceCandidateTypes := types
  viewerIceTransportPolicy := "all"

theorem relayParameter_cases {relay : Option Json} {query : List (String × String)}
    (parameter : platform.relayParameter relay = some query) :
    query = [] ∨ ∃ text, query = [("relay", text)] := by
  unfold UrlPlatform.relayParameter at parameter
  split at parameter
  · exact .inl (Option.some.inj parameter).symm
  · exact .inl (Option.some.inj parameter).symm
  · exact .inl (Option.some.inj parameter).symm
  · simp only [Option.bind_eq_bind, Option.bind_eq_some_iff, Option.some.injEq] at parameter
    obtain ⟨text, _, rfl⟩ := parameter
    exact .inr ⟨text, rfl⟩

theorem samplePlatform_endpoint {baseUrl sessionId : String} {role : Role} {url : Url}
    (built : samplePlatform.endpoint baseUrl sessionId role = some url) :
    url =
      { sampleUrl with pathname := "/gateway/signaling/sess_1/" ++ role.name } := by
  simp only [UrlPlatform.endpoint, samplePlatform, Option.bind_eq_bind,
    Option.bind_eq_some_iff, Option.some.injEq] at built
  obtain ⟨parsed, found, rfl⟩ := built
  rw [Option.ite_none_right_eq_some, Option.some.injEq] at found
  obtain ⟨_, rfl⟩ := found
  cases role with
  | viewer => rfl
  | worker => rfl

theorem samplePlatform_lawful : samplePlatform.Lawful where
  number_present := by
    intro value
    change "0" ≠ ""
    decide
  fixed := by
    intro type _
    rfl
  href_injective := by
    rintro left ⟨_, _, leftRole, _, _, leftQuery, leftEnd, leftRelay, rfl⟩
      right ⟨_, _, rightRole, _, _, rightQuery, rightEnd, rightRelay, rfl⟩ same
    rw [samplePlatform_endpoint leftEnd, samplePlatform_endpoint rightEnd] at same ⊢
    -- The texts differ in the role or, after it, in the label.
    have leftLabel := relayParameter_cases leftRelay
    have rightLabel := relayParameter_cases rightRelay
    clear leftEnd rightEnd leftRelay rightRelay
    simp only [samplePlatform, sampleUrl, ← String.toList_inj, String.toList_append] at same
    cases leftRole <;> cases rightRole <;>
      rcases leftLabel with rfl | ⟨leftText, rfl⟩ <;>
      rcases rightLabel with rfl | ⟨rightText, rfl⟩ <;>
      simp_all [Role.name, String.toList_inj]

theorem samplePooled (types : CandidateTypes) :
    samplePlatform.buildSessionAssignmentPayload (sampleConfig types) sampleSession =
      some
        { sessionId := "sess_1"
          signalingUrl := "wss://runtime.example.com/gateway/signaling/sess_1/worker"
          signalingMode := "gateway"
          iceTransportPolicy := "relay"
          allowedCandidateTypes := ["relay"] } := by
  rfl

theorem sampleLaunched (types : CandidateTypes) :
    samplePlatform.buildWorkerEnvironment (sampleConfig types) sampleSession =
      some
        { SESSION_ID := "sess_1"
          SIGNALING_URL := "wss://runtime.example.com/gateway/signaling/sess_1/worker"
          ALLOWED_CANDIDATE_TYPES := String.intercalate "," types.types } := by
  rfl

theorem pooled_and_launched_agree_on_relay :
    usesGatewaySignaling sampleSession = true ∧
      String.intercalate "," relayTypes.types = "relay" := by
  have agree := (pooled_and_launched_agree_iff samplePlatform samplePlatform_lawful
    (sampleConfig relayTypes) sampleSession _ _ (samplePooled relayTypes)
    (sampleLaunched relayTypes)).mpr (by
      intro _
      refine ⟨rfl, rfl, ?_⟩
      intro items array
      have absent : sampleSession.assigned "relayMode" = none := rfl
      rw [absent] at array
      cases array)
  exact ⟨by decide, agree.2.1⟩

/-- A gateway session in the default configuration: the pooled worker is restricted to relay
candidates, the launched worker is not. -/
theorem launched_worker_of_gateway_uses_srflx :
    ∃ platform : UrlPlatform, ∃ config session assignment environment,
      platform.Lawful ∧ usesGatewaySignaling session = true ∧
        platform.buildSessionAssignmentPayload config session = some assignment ∧
        platform.buildWorkerEnvironment config session = some environment ∧
        assignment.allowedCandidateTypes = ["relay"] ∧
        environment.ALLOWED_CANDIDATE_TYPES = "srflx,relay" ∧
        environment.ALLOWED_CANDIDATE_TYPES ≠
          String.intercalate "," assignment.allowedCandidateTypes :=
  ⟨samplePlatform, sampleConfig defaultTypes, sampleSession, _, _, samplePlatform_lawful,
    by decide, samplePooled defaultTypes, sampleLaunched defaultTypes, rfl, rfl, by decide⟩

end Agreement

end RemoteBrowser.Gateway
