import RemoteBrowser.SessionAuthority.Bootstrap
import RemoteBrowser.MediaGateway.Responses

/-!
# The authority accepts what the gateway answers

The request that the authority registers a session with, and the checks of the response.  Every
response that a gateway builds for such a request passes the checks, if the tokens of the viewer
and of the worker differ after white space is trimmed.
-/

namespace RemoteBrowser.SessionAuthority

open Async Text
open MediaGateway (ApiError BuiltFor CreateCall OneSlash SessionRequest SessionResponse Url
  buildMediaGatewayURL buildMediaRelayURL buildResponse emptyDeployment firstNonEmpty joinURLPath
  newOpaqueID orElse reject reject_bind_eq_ok relayModeGatewayMediaRelay selectTransport
  trimLeftSlashes trimRightSlashes webSchemes)

/-! ## The request -/

/-- The request that `createBootstrap` registers with the gateway, once the runtime has answered,
for counters of its region and a token of the handoff. -/
def gatewayRequest (cfg : Config) (platform : Platform) (req : EdgeBootstrapRequest)
    (workerIndex gatewayIndex : Nat) (token : String) (runtimeResp : RuntimeSessionResponse) :
    SessionRequest :=
  let region := resolveRegion cfg req
  let worker := workerAssignment cfg region workerIndex
  let gateway := gatewayAssignment cfg region worker.workerID gatewayIndex req
  let draft := ((Draft.start cfg platform req worker gateway token).adoptRuntime
    runtimeResp).identified runtimeResp.sessionID
  buildMediaGatewaySessionRequest req draft.response runtimeResp draft.gateway draft.worker

/-- What passes the authority's checks is the trimmed request. -/
theorem validateRequest_trimmed {platform : Platform} {raw req : EdgeBootstrapRequest}
    (validated : validateRequest platform raw = .ok req) : req = raw.trimmed := by
  unfold validateRequest at validated
  cases required : checkRequired raw.trimmed.required with
  | error failure =>
      simp only [required] at validated
      cases validated
  | ok _ =>
      simp only [required] at validated
      obtain ⟨-, validated⟩ := reject_bind_eq_ok.mp validated
      obtain ⟨-, validated⟩ := reject_bind_eq_ok.mp validated
      obtain ⟨-, validated⟩ := reject_bind_eq_ok.mp validated
      obtain ⟨-, validated⟩ := reject_bind_eq_ok.mp validated
      obtain ⟨-, validated⟩ := reject_bind_eq_ok.mp validated
      obtain ⟨-, validated⟩ := reject_bind_eq_ok.mp validated
      obtain ⟨-, validated⟩ := reject_bind_eq_ok.mp validated
      obtain ⟨-, validated⟩ := reject_bind_eq_ok.mp validated
      cases validated
      rfl

section Request

variable (cfg : Config) (platform : Platform) (req : EdgeBootstrapRequest)
  (workerIndex gatewayIndex : Nat) (token : String) (runtimeResp : RuntimeSessionResponse)

/-- A text with such a beginning is not blank. -/
theorem not_blank_of_head {text : String} {first : Char} {rest : List Char}
    (spelled : text.toList = first :: rest) (solid : isUnicodeSpace first = false) :
    trimSpace text ≠ "" := by
  intro blank
  have chars := congrArg String.toList blank
  rw [trimSpace, spelled, List.dropWhile_cons_of_neg (by simp [solid]),
    String.toList_ofList] at chars
  have spaces := List.rdropWhile_eq_nil_iff.mp chars first List.mem_cons_self
  rw [solid] at spaces
  cases spaces

/-- The authority names a gateway of its region, whatever the runtime answers. -/
theorem gatewayRequest_gatewayID :
    trimSpace (gatewayRequest cfg platform req workerIndex gatewayIndex token
      runtimeResp).gatewayAssignment.gatewayID ≠ "" := by
  have own : ∀ region more : String, trimSpace ("gateway-" ++ region ++ "-" ++ more) ≠ "" := by
    intro region more
    have spelled : ("gateway-" ++ region ++ "-" ++ more).toList =
        'g' :: ("ateway-".toList ++ region.toList ++ "-".toList ++ more.toList) := by
      simp only [String.toList_append]
      rfl
    exact not_blank_of_head spelled (by decide)
  have kept : ∀ value other : String, trimSpace value ≠ "" → trimSpace (orElse value other) ≠ "" := by
    intro value other filled
    unfold orElse
    split
    · next empty =>
        rw [empty] at filled
        exact absurd rfl filled
    · exact filled
  unfold gatewayRequest buildMediaGatewaySessionRequest Draft.identified Draft.adoptRuntime
    mergeGatewayAssignment
  dsimp only
  split
  · exact own _ _
  · exact kept _ _ (own _ _)

end Request

/-! ## The checks of the response -/

section Checks

variable {platform : Platform}

theorem refuse_bind {fails : Bool} {message : String} {next : Unit → Except ApiError Unit}
    (passes : fails = false) (continues : next () = .ok ()) :
    (refuse fails message >>= next) = .ok () :=
  reject_bind_eq_ok.mpr ⟨passes, continues⟩

variable (laws : platform.toPlatform.UrlLaws)

include laws in
/-- A URL that the gateway has printed passes the checks of its form. -/
theorem reaches_isAbsoluteURL {schemes : List String} (web : schemes ⊆ webSchemes)
    {path printed : String} (reaches : platform.toPlatform.Reaches schemes path printed) :
    trimSpace printed ≠ "" ∧ isAbsoluteURLWithScheme platform printed schemes = true := by
  obtain ⟨trimmed, target, absolute, -⟩ := reaches
  refine ⟨MediaGateway.Platform.IsAbsolute.not_blank laws ⟨target, absolute⟩, ?_⟩
  have named : target.scheme ≠ "" := by
    intro empty
    have known := web absolute.scheme
    rw [empty] at known
    exact absurd known (by decide)
  unfold isAbsoluteURLWithScheme
  rw [trimmed, absolute.parsed]
  simpa [absolute.scheme, absolute.host] using named

/-- The path of such a URL ends in the session and the role. -/
theorem reaches_isRoleBound {schemes : List String} {base printed sessionID role : String}
    (reaches : platform.toPlatform.Reaches schemes
      (joinURLPath base ("/gateway/webrtc/" ++ sessionID ++ "/" ++ role)) printed)
    (last : role.toList.getLast? ≠ some '/') (named : role ≠ "") :
    isRoleBoundGatewayWebRTCEndpoint platform printed sessionID role = true := by
  obtain ⟨trimmed, target, absolute, reached⟩ := reaches
  have slash := ((MediaGateway.webrtcRoute_oneSlash.append sessionID).append "/").append role
  have present : role.toList ≠ [] := fun none => named (String.toList_eq_nil_iff.mp none)
  unfold isRoleBoundGatewayWebRTCEndpoint
  rw [trimmed, absolute.parsed]
  dsimp only
  generalize "/gateway/webrtc/" ++ sessionID ++ "/" = front at *
  rw [MediaGateway.joinURLPath_eq slash] at reached
  have spelled : target.path.toList =
      (trimRightSlashes base).toList ++ (front.toList ++ role.toList) := by
    rw [reached, String.toList_append, String.toList_append]
  have ending : target.path.toList.getLast? ≠ some '/' := by
    rw [spelled, ← List.append_assoc, List.getLast?_append_of_ne_nil _ present]
    exact last
  rw [MediaGateway.trimRightSlashes_of_getLast ending, endsWith, List.isSuffixOf_iff_suffix,
    spelled, String.toList_append]
  exact List.suffix_append _ _

/-- The tokens that a session is registered with are not blank, and differ after white space is
trimmed. -/
structure RoleBound (req : SessionRequest) : Prop where
  viewer : trimSpace req.viewerToken ≠ ""
  worker : trimSpace req.workerToken ≠ ""
  distinct : trimSpace req.viewerToken ≠ trimSpace req.workerToken

/-- Where media is relayed, the tokens that the checks let pass are told apart. -/
theorem distinct_of_validated {gatewayReq : SessionRequest} {resp : SessionResponse}
    (relayed : resp.workerBridge.relayMode = relayModeGatewayMediaRelay)
    (validated : validateMediaGatewaySessionResponse platform gatewayReq resp = .ok ()) :
    trimSpace gatewayReq.viewerToken ≠ trimSpace gatewayReq.workerToken := by
  have filled : trimSpace relayModeGatewayMediaRelay ≠ "" := by decide
  unfold validateMediaGatewaySessionResponse refuse at validated
  simp only [reject_bind_eq_ok, relayed, MediaGateway.firstNonEmpty_cons filled,
    ne_eq, not_true, if_false] at validated
  obtain ⟨-, -, -, -, -, -, -, -, -, validated⟩ := validated
  unfold validateMediaRelay refuse at validated
  simp only [reject_bind_eq_ok] at validated
  exact of_decide_eq_false validated.2.2.1

section Built

variable {cfg : MediaGateway.Config} (own : cfg.HasAbsoluteURLs platform.toPlatform)
  {raw built : SessionRequest} (accepted : MediaGateway.Accepted platform.toPlatform cfg raw built)

include laws own accepted

/-- Where media is relayed, the checks of its URLs and capabilities pass as well. -/
theorem validateMediaRelay_buildResponse {gatewayReq : SessionRequest}
    (tokens : RoleBound gatewayReq) (draws : MediaGateway.Draws)
    (relayed : MediaGateway.relayModeFor cfg built = relayModeGatewayMediaRelay) :
    validateMediaRelay platform gatewayReq
      (buildResponse platform.toPlatform cfg built draws) = .ok () := by
  have http : ["http", "https"] ⊆ webSchemes := by decide
  have ws : ["ws", "wss"] ⊆ webSchemes := by decide
  obtain ⟨⟨base, baseAbsolute⟩, -⟩ := MediaGateway.publicBaseURLFor_absolute laws own accepted
  obtain ⟨⟨wsBase, wsAbsolute⟩, -⟩ := MediaGateway.publicWsURLFor_absolute laws own accepted
  obtain ⟨⟨workerBase, workerAbsolute⟩, -⟩ :=
    MediaGateway.workerBaseURLFor_absolute laws own accepted
  obtain ⟨⟨workerWs, workerWsAbsolute⟩, -⟩ :=
    MediaGateway.workerWsURLFor_absolute laws own accepted
  have relay := reaches_isAbsoluteURL laws ws (MediaGateway.buildMediaRelayURL_reaches laws ws
    wsAbsolute built.sessionID "viewer"
    (selectTransport cfg built.preferredTransport))
  have workerRelay := reaches_isAbsoluteURL laws ws (MediaGateway.buildMediaRelayURL_reaches laws
    ws workerWsAbsolute built.sessionID "worker"
    (selectTransport cfg built.preferredTransport))
  have entry := MediaGateway.buildMediaGatewayURL_reaches laws http baseAbsolute built.sessionID
    "viewer"
  have workerEntry := MediaGateway.buildMediaGatewayURL_reaches laws http workerAbsolute
    built.sessionID "worker"
  have gateway := reaches_isAbsoluteURL laws http entry
  have workerGateway := reaches_isAbsoluteURL laws http workerEntry
  have viewerBound := reaches_isRoleBound entry (by decide) (by decide)
  have workerBound := reaches_isRoleBound workerEntry (by decide) (by decide)
  have session := (MediaGateway.buildResponse_identity platform.toPlatform cfg built draws).1
  obtain ⟨relayURL, gatewayURL, workerRelayURL, workerGatewayURL⟩ :=
    MediaGateway.buildResponse_relayed platform.toPlatform cfg built draws relayed
  obtain ⟨plane, protocol, workerProtocol, termination⟩ :=
    MediaGateway.buildResponse_capability platform.toPlatform cfg built draws relayed
  rw [← relayURL] at relay
  rw [← workerRelayURL] at workerRelay
  rw [← gatewayURL] at gateway viewerBound
  rw [← workerGatewayURL] at workerGateway workerBound
  generalize buildResponse platform.toPlatform cfg built draws = resp at *
  rw [← session] at viewerBound workerBound
  unfold validateMediaRelay
  refine refuse_bind (decide_eq_false tokens.viewer) ?_
  refine refuse_bind (decide_eq_false tokens.worker) ?_
  refine refuse_bind (decide_eq_false tokens.distinct) ?_
  refine refuse_bind (decide_eq_false relay.1) ?_
  refine refuse_bind (by rw [relay.2]; rfl) ?_
  refine refuse_bind (decide_eq_false workerRelay.1) ?_
  refine refuse_bind (by rw [workerRelay.2]; rfl) ?_
  refine refuse_bind (by rw [termination]; rfl) ?_
  refine refuse_bind (decide_eq_false gateway.1) ?_
  refine refuse_bind (by rw [gateway.2]; rfl) ?_
  refine refuse_bind (by rw [viewerBound]; rfl) ?_
  refine refuse_bind (decide_eq_false workerGateway.1) ?_
  refine refuse_bind (by rw [workerGateway.2]; rfl) ?_
  refine refuse_bind (by rw [workerBound]; rfl) ?_
  refine refuse_bind (by rw [plane]; rfl) ?_
  refine refuse_bind (by rw [protocol]; rfl) ?_
  refine refuse_bind (by rw [workerProtocol]; rfl) ?_
  rw [termination]
  rfl

/-- What the gateway builds for an accepted request passes the checks, for every request for the
same session with such tokens. -/
theorem validate_buildResponse {gatewayReq : SessionRequest}
    (session : built.sessionID = gatewayReq.sessionID)
    (gateway : trimSpace built.gatewayAssignment.gatewayID ≠ "")
    (worker : trimSpace built.workerAssignment.workerID ≠ "") {draws : MediaGateway.Draws}
    (bridge : trimSpace draws.bridgeID ≠ "") (tokens : RoleBound gatewayReq) :
    validateMediaGatewaySessionResponse platform gatewayReq
      (buildResponse platform.toPlatform cfg built draws) = .ok () := by
  have http : ["http", "https"] ⊆ webSchemes := by decide
  have ws : ["ws", "wss"] ⊆ webSchemes := by decide
  obtain ⟨⟨base, baseAbsolute⟩, -⟩ := MediaGateway.publicBaseURLFor_absolute laws own accepted
  obtain ⟨⟨wsBase, wsAbsolute⟩, -⟩ := MediaGateway.publicWsURLFor_absolute laws own accepted
  have viewer := reaches_isAbsoluteURL laws http (MediaGateway.buildViewerURL_reaches laws http
    baseAbsolute built.sessionID (selectTransport cfg built.preferredTransport)
    draws.viewerEntryToken)
  have signaling := reaches_isAbsoluteURL laws ws (MediaGateway.buildSignalingURL_reaches laws ws
    wsAbsolute built.sessionID (selectTransport cfg built.preferredTransport))
  have viewerURL := MediaGateway.buildResponse_viewerURL platform.toPlatform cfg built draws
  have signalingURL := MediaGateway.buildResponse_signalingURL platform.toPlatform cfg built draws
  have relayMode := MediaGateway.buildResponse_relayMode platform.toPlatform cfg built draws
  obtain ⟨sameSession, sameGateway, sameWorker, sameBridge⟩ :=
    MediaGateway.buildResponse_identity platform.toPlatform cfg built draws
  have relayed := validateMediaRelay_buildResponse laws own accepted tokens draws
  rw [← viewerURL] at viewer
  rw [← signalingURL] at signaling
  generalize buildResponse platform.toPlatform cfg built draws = resp at *
  rw [← sameGateway] at gateway
  rw [← sameWorker] at worker
  rw [← sameBridge] at bridge
  unfold validateMediaGatewaySessionResponse
  refine refuse_bind (decide_eq_false (sameSession ▸ accepted.sessionID)) ?_
  refine refuse_bind (decide_eq_false (not_not.mpr (sameSession.trans session))) ?_
  refine refuse_bind (decide_eq_false gateway) ?_
  refine refuse_bind (decide_eq_false worker) ?_
  refine refuse_bind (decide_eq_false viewer.1) ?_
  refine refuse_bind (by rw [viewer.2]; rfl) ?_
  refine refuse_bind (decide_eq_false signaling.1) ?_
  refine refuse_bind (by rw [signaling.2]; rfl) ?_
  refine refuse_bind (decide_eq_false bridge) ?_
  rw [relayMode, MediaGateway.firstNonEmpty_cons
    (MediaGateway.relayModeFor_not_blank cfg built)]
  dsimp only
  split
  · rfl
  · next mode => exact relayed (not_not.mp mode)

end Built

end Checks

/-! ## Successes of the gateway -/

/-- Whatever a gateway answers the registration of a session of this runtime response with,
passes the authority's checks: in every run of gateways with absolute URLs that share a store. -/
def AcceptsSuccesses (platform : Platform) (runtimeResp : RuntimeSessionResponse) : Prop :=
  ∀ (cfg : Config) (raw req : EdgeBootstrapRequest), validateRequest platform raw = .ok req →
  ∀ (workerIndex gatewayIndex : Nat) (token : String) (gateways : Nat → MediaGateway.Config),
    (∀ gateway, (gateways gateway).HasAbsoluteURLs platform.toPlatform) →
  ∀ (sessionID : String) (start : MediaGateway.Deployment),
    start.IsBuilt gateways platform.toPlatform →
  ∀ final : Async.Config (MediaGateway.creation gateways platform.toPlatform sessionID),
    Run anyAction ⟨start, []⟩ final → ∀ thread ∈ final.threads,
    thread.job.request =
      gatewayRequest cfg platform req workerIndex gatewayIndex token runtimeResp →
  ∀ status response, MediaGateway.Answered thread (.ok (status, response)) →
    validateMediaGatewaySessionResponse platform thread.job.request response = .ok ()

/-- The authority accepts every success of the gateway for a session whose tokens differ after
white space is trimmed. -/
theorem authority_accepts_gateway_success (platform : Platform)
    (laws : platform.toPlatform.UrlLaws) (runtimeResp : RuntimeSessionResponse)
    (trimmed : trimSpace runtimeResp.sessionID = runtimeResp.sessionID)
    (viewer : trimSpace (firstNonEmpty [runtimeResp.viewerSignalingToken,
      runtimeResp.viewerToken]) ≠ "")
    (worker : trimSpace runtimeResp.workerToken ≠ "")
    (distinct : trimSpace (firstNonEmpty [runtimeResp.viewerSignalingToken,
      runtimeResp.viewerToken]) ≠ trimSpace runtimeResp.workerToken) :
    AcceptsSuccesses platform runtimeResp := by
  intro cfg raw req _ workerIndex gatewayIndex token gateways own sessionID start built final run
    thread member asked status response answered
  obtain ⟨accepted, asks, gateway, sent, request, entryToken, bytes, validated, rfl, session,
    assigned, sameWorker⟩ := MediaGateway.built_of_answered built run member answered
  have checked := MediaGateway.validateRequest_accepted asks
  have builtFor := MediaGateway.validateRequest_accepted validated
  have gatewayID := checked.gatewayID_not_blank (asked ▸ gatewayRequest_gatewayID cfg platform req
    workerIndex gatewayIndex token runtimeResp)
  have workerID := checked.workerID_not_blank
  rw [← assigned] at gatewayID
  rw [← sameWorker] at workerID
  have sameSession : request.sessionID = thread.job.request.sessionID := by
    have kept : accepted.sessionID = trimSpace thread.job.request.sessionID := by
      rw [checked.completed]
      rfl
    rw [session, kept, asked]
    exact trimmed
  have bridge : trimSpace (newOpaqueID "bridge_" bytes) ≠ "" := by
    have spelled : (newOpaqueID "bridge_" bytes).toList = 'b' :: ("ridge_".toList ++
        (List.range 16).map fun place => MediaGateway.hexDigit (bytes / 16 ^ (15 - place))) := by
      simp only [newOpaqueID, String.toList_append, String.toList_ofList]
      rfl
    exact not_blank_of_head spelled (by decide)
  have tokens : RoleBound thread.job.request := by
    rw [asked]
    exact ⟨viewer, worker, distinct⟩
  exact validate_buildResponse laws (own gateway) builtFor sameSession gatewayID workerID bridge
    tokens

/-! ## Sample registrations -/

/-- An authority whose URLs are parsed and printed as in the sample. -/
def spelledPlatform : Platform where
  toPlatform := MediaGateway.spelledPlatform
  parseRequestURI := fun _ => none

def registeringConfig : Config := { sampleConfig with hasGatewayClient := true }

/-- What the runtime answers, with the tokens of the viewer's entrance, the viewer and the worker. -/
def runtimeAnswer (signaling viewer worker : String) : RuntimeSessionResponse :=
  { sessionID := "rbi-1"
    viewerSignalingToken := signaling
    viewerToken := viewer
    workerToken := worker }

def registered (runtimeResp : RuntimeSessionResponse) : SessionRequest :=
  gatewayRequest registeringConfig spelledPlatform (sampleRequest "tenant-a").trimmed 1 1 "hnd_1"
    runtimeResp

theorem sampleRequest_valid :
    validateRequest spelledPlatform (sampleRequest "tenant-a") =
      .ok (sampleRequest "tenant-a").trimmed := by
  have accepted : (validateRequest spelledPlatform (sampleRequest "tenant-a")).isOk = true := by
    decide +kernel
  cases validated : validateRequest spelledPlatform (sampleRequest "tenant-a") with
  | error failure =>
      rw [validated] at accepted
      cases accepted
  | ok req => rw [validateRequest_trimmed validated]

theorem emptyDeployment_isBuilt (cfg : Nat → MediaGateway.Config) (platform : MediaGateway.Platform) :
    emptyDeployment.IsBuilt cfg platform := by
  constructor
  case maps =>
    intro gateway id record found
    cases found
  case store =>
    intro record found
    cases found

abbrev sampleRegistration : System :=
  MediaGateway.creation (fun _ => MediaGateway.defaultConfig) MediaGateway.spelledPlatform "rbi-1"

/-- One call that is served by the first gateway. -/
def registration (runtimeResp : RuntimeSessionResponse) : List (Action sampleRegistration) :=
  .start ⟨0, registered runtimeResp⟩ :: Action.resumes 0 4 MediaGateway.usualChoice

/-- The call has succeeded, for a session whose media is relayed. -/
def succeedsRelayed (config : Async.Config sampleRegistration) : Bool :=
  config.threads[0]?.any fun thread => thread.past.any fun
    | ⟨.answer (.ok (_, response)), _⟩ =>
        response.workerBridge.relayMode = relayModeGatewayMediaRelay
    | _ => false

/-- The call is for this request. -/
theorem exists_registration (runtimeResp : RuntimeSessionResponse)
    (passes : (Async.Config.schedule (fun _ _ => true) ⟨emptyDeployment, []⟩
      (registration runtimeResp)).any succeedsRelayed = true) :
    ∃ (final : Async.Config sampleRegistration) (thread : Thread sampleRegistration)
      (status : Nat) (response : SessionResponse),
      Run anyAction ⟨emptyDeployment, []⟩ final ∧ thread ∈ final.threads ∧
      thread.job.request = registered runtimeResp ∧
      MediaGateway.Answered thread (.ok (status, response)) ∧
      response.workerBridge.relayMode = relayModeGatewayMediaRelay := by
  obtain ⟨final, run, seen⟩ := Run.exists_of_listed _ _ _ passes
  obtain ⟨thread, found, passes⟩ := (Option.any_eq_true ..).mp seen
  obtain ⟨event, answered, passes⟩ := List.any_eq_true.mp passes
  have member := List.mem_of_getElem? found
  have asked : thread.job.request = registered runtimeResp := by
    have starts : ∀ (config : Async.Config sampleRegistration) job,
        .start job ∈ registration runtimeResp → job.request = registered runtimeResp := by
      intro config job listed
      rcases List.mem_cons.mp listed with same | resumed
      · cases same
        rfl
      · have resumes := List.eq_of_mem_replicate resumed
        cases resumes
    exact run.jobs starts thread member
  split at passes
  · next status response reply =>
      exact ⟨final, thread, status, response, run.mono fun _ _ _ => trivial, member, asked,
        answered, of_decide_eq_true passes⟩
  · cases passes

theorem sample_registration_is_accepted :
    ∃ (final : Async.Config sampleRegistration) (thread : Thread sampleRegistration)
      (status : Nat) (response : SessionResponse),
      Run anyAction ⟨emptyDeployment, []⟩ final ∧ thread ∈ final.threads ∧
      MediaGateway.Answered thread (.ok (status, response)) ∧
      validateMediaGatewaySessionResponse spelledPlatform thread.job.request response =
        .ok () := by
  obtain ⟨final, thread, status, response, run, member, asked, answered, -⟩ :=
    exists_registration (runtimeAnswer "signaling-1" "viewer-1" "worker-1") (by decide +kernel)
  refine ⟨final, thread, status, response, run, member, answered, ?_⟩
  exact authority_accepts_gateway_success spelledPlatform MediaGateway.spelledPlatform_laws
    (runtimeAnswer "signaling-1" "viewer-1" "worker-1") (by rfl) (by decide)
    (by decide) (by decide) registeringConfig _ _ sampleRequest_valid 1 1 "hnd_1"
    _ (fun _ => MediaGateway.defaultConfig_hasAbsoluteURLs) "rbi-1" _ (emptyDeployment_isBuilt _ _) final run
    thread member asked status response answered

/-- The gateway trims the tokens and does not compare them. -/
theorem tokens_that_differ_in_white_space_are_refused :
    ¬∀ (platform : Platform), platform.toPlatform.UrlLaws →
      ∀ runtimeResp : RuntimeSessionResponse,
        runtimeResp.sessionID ≠ "" → trimSpace runtimeResp.sessionID = runtimeResp.sessionID →
        (∀ token ∈ [runtimeResp.viewerSignalingToken, runtimeResp.viewerToken,
          runtimeResp.workerToken], trimSpace token ≠ "") →
        [runtimeResp.viewerSignalingToken, runtimeResp.viewerToken,
          runtimeResp.workerToken].Nodup →
        AcceptsSuccesses platform runtimeResp := by
  intro always
  have accepts := always spelledPlatform MediaGateway.spelledPlatform_laws
    (runtimeAnswer "t" "u" "t ") (by decide) (by rfl) (by decide)
    (by decide)
  obtain ⟨final, thread, status, response, run, member, asked, answered, relayed⟩ :=
    exists_registration (runtimeAnswer "t" "u" "t ") (by decide +kernel)
  have passes := accepts registeringConfig _ _ sampleRequest_valid 1 1 "hnd_1"
    (fun _ => MediaGateway.defaultConfig) (fun _ => MediaGateway.defaultConfig_hasAbsoluteURLs) "rbi-1"
    emptyDeployment (emptyDeployment_isBuilt _ _) final run thread member asked
    status response answered
  have distinct := distinct_of_validated relayed passes
  rw [asked] at distinct
  exact distinct (by rfl)

end RemoteBrowser.SessionAuthority
