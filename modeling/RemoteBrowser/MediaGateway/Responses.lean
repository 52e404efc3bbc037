import RemoteBrowser.MediaGateway.Creation
import RemoteBrowser.MediaGateway.Urls

/-!
# Responses of the gateway

What the checks of a request establish, which base URLs the response is built from, and that every
response which a call is answered with was built for an equivalent request.
-/

namespace RemoteBrowser.MediaGateway

open Async Json Text

/-! ## Requests that pass the checks -/

theorem reject_bind_eq_ok {α : Type} {fails : Bool} {status : Nat} {message : String}
    {next : Unit → Except ApiError α} {result : α} :
    (reject fails status message >>= next) = .ok result ↔
      fails = false ∧ next () = .ok result := by
  cases fails with
  | false => exact ⟨fun passed => ⟨rfl, passed⟩, And.right⟩
  | true =>
      constructor
      · intro passed
        cases passed
      · rintro ⟨impossible, -⟩
        cases impossible

/-- Nothing, or an absolute URL that does not expose the worker. -/
def Platform.IsPublicEndpoint (platform : Platform) (schemes : List String)
    (workerID raw : String) : Prop :=
  raw = "" ∨ platform.Serves schemes raw ∧
    publicEndpointExposesWorker platform raw workerID = false

theorem checkPublicEndpoint_bind_eq_ok {α : Type} {platform : Platform} {raw field : String}
    {schemes : List String} {replaced : Option String} {workerID : String}
    {next : Unit → Except ApiError α} {result : α}
    (passed : (checkPublicEndpoint platform raw field schemes replaced workerID >>= next) =
      .ok result) :
    platform.IsPublicEndpoint schemes workerID raw ∧ next () = .ok result := by
  unfold checkPublicEndpoint at passed
  split at passed
  · next empty => exact ⟨.inl empty, passed⟩
  · split at passed
    · cases passed
    · next url parsed =>
        split at passed
        · cases passed
        · next hidden =>
            refine ⟨.inr ⟨⟨url, ?_⟩, Bool.eq_false_iff.mpr hidden⟩, passed⟩
            unfold parseAbsolutePublicURL at parsed
            split at parsed
            · cases parsed
            · next found =>
                split at parsed
                · cases parsed
                · next present =>
                    split at parsed
                    · next known =>
                        cases parsed
                        exact ⟨found, List.contains_iff_mem.mp known,
                          fun empty => present (.inr empty)⟩
                    · cases parsed

/-- What the gateway has made sure of when it accepts a request. -/
structure Accepted (platform : Platform) (cfg : Config) (raw req : SessionRequest) : Prop where
  completed : req = raw.trimmed.completed cfg
  sessionID : req.sessionID ≠ ""
  workerID : req.workerAssignment.workerID ≠ ""
  publicBaseURL : platform.IsPublicEndpoint ["http", "https"] req.workerAssignment.workerID
    req.publicBaseURL
  assignedBaseURL : platform.IsPublicEndpoint ["http", "https"] req.workerAssignment.workerID
    req.gatewayAssignment.publicBaseURL
  publicWsURL : platform.IsPublicEndpoint ["ws", "wss"] req.workerAssignment.workerID
    req.publicWsURL
  assignedWsURL : platform.IsPublicEndpoint ["ws", "wss"] req.workerAssignment.workerID
    req.gatewayAssignment.publicWsURL

theorem validateRequest_accepted {platform : Platform} {cfg : Config} {raw req : SessionRequest}
    (validated : validateRequest platform cfg raw = .ok req) : Accepted platform cfg raw req := by
  unfold validateRequest at validated
  obtain ⟨session, validated⟩ := reject_bind_eq_ok.mp validated
  obtain ⟨-, validated⟩ := reject_bind_eq_ok.mp validated
  obtain ⟨-, validated⟩ := reject_bind_eq_ok.mp validated
  obtain ⟨-, validated⟩ := reject_bind_eq_ok.mp validated
  obtain ⟨worker, validated⟩ := reject_bind_eq_ok.mp validated
  obtain ⟨-, validated⟩ := reject_bind_eq_ok.mp validated
  obtain ⟨-, validated⟩ := reject_bind_eq_ok.mp validated
  obtain ⟨-, validated⟩ := reject_bind_eq_ok.mp validated
  obtain ⟨-, validated⟩ := reject_bind_eq_ok.mp validated
  obtain ⟨-, validated⟩ := reject_bind_eq_ok.mp validated
  obtain ⟨-, validated⟩ := reject_bind_eq_ok.mp validated
  obtain ⟨publicBase, validated⟩ := checkPublicEndpoint_bind_eq_ok validated
  obtain ⟨assignedBase, validated⟩ := checkPublicEndpoint_bind_eq_ok validated
  obtain ⟨publicWs, validated⟩ := checkPublicEndpoint_bind_eq_ok validated
  obtain ⟨assignedWs, validated⟩ := checkPublicEndpoint_bind_eq_ok validated
  cases validated
  exact ⟨rfl, of_decide_eq_false session, of_decide_eq_false worker, publicBase, assignedBase,
    publicWs, assignedWs⟩

theorem Accepted.workerID_not_blank {platform : Platform} {cfg : Config}
    {raw req : SessionRequest} (accepted : Accepted platform cfg raw req) :
    trimSpace req.workerAssignment.workerID ≠ "" := by
  have trimmed : req.workerAssignment.workerID = trimSpace raw.workerAssignment.workerID := by
    rw [accepted.completed]
    rfl
  rw [trimmed, trimSpace_trimSpace, ← trimmed]
  exact accepted.workerID

/-- The gateway keeps an id of the gateway that is not blank. -/
theorem Accepted.gatewayID_not_blank {platform : Platform} {cfg : Config}
    {raw req : SessionRequest} (accepted : Accepted platform cfg raw req)
    (filled : trimSpace raw.gatewayAssignment.gatewayID ≠ "") :
    trimSpace req.gatewayAssignment.gatewayID ≠ "" := by
  have kept : req.gatewayAssignment.gatewayID = trimSpace raw.gatewayAssignment.gatewayID := by
    rw [accepted.completed]
    exact if_neg filled
  rw [kept, trimSpace_trimSpace]
  exact filled

/-! ## The base URLs -/

/-- The first value that is not blank is one of the values that are not. -/
theorem firstNonEmpty_of_forall {holds : String → Prop} {values : List String}
    (each : ∀ value ∈ values, trimSpace value = "" ∨ holds value)
    (present : ∃ value ∈ values, trimSpace value ≠ "") :
    holds (firstNonEmpty values) ∧ trimSpace (firstNonEmpty values) ≠ "" := by
  obtain ⟨value, member, filled⟩ := present
  cases found : values.find? fun value => trimSpace value ≠ "" with
  | none =>
      have blank := List.find?_eq_none.mp found value member
      simp [filled] at blank
  | some first =>
      have kept : firstNonEmpty values = first := by rw [firstNonEmpty, found, Option.getD_some]
      have filled : trimSpace first ≠ "" := by simpa using List.find?_some found
      rw [kept]
      exact ⟨(each first (List.mem_of_find?_eq_some found)).resolve_left filled, filled⟩

theorem firstNonEmpty_cons {value : String} (filled : trimSpace value ≠ "")
    (rest : List String) : firstNonEmpty (value :: rest) = value := by
  rw [firstNonEmpty, List.find?_cons_of_pos (by simpa using filled), Option.getD_some]

/-- The gateway's own URLs are absolute; all but the first may be left out. -/
structure Config.HasAbsoluteURLs (platform : Platform) (cfg : Config) : Prop where
  publicBaseURL : platform.Serves ["http", "https"] cfg.publicBaseURL
  publicWsURL : trimSpace cfg.publicWsURL = "" ∨
    platform.Serves ["ws", "wss"] cfg.publicWsURL
  workerBaseURL : trimSpace cfg.workerBaseURL = "" ∨
    platform.Serves ["http", "https"] cfg.workerBaseURL
  workerWsURL : trimSpace cfg.workerWsURL = "" ∨
    platform.Serves ["ws", "wss"] cfg.workerWsURL

def publicBaseURLFor (cfg : Config) (req : SessionRequest) : String :=
  firstNonEmpty [req.publicBaseURL, req.gatewayAssignment.publicBaseURL, cfg.publicBaseURL]

def publicWsURLFor (platform : Platform) (cfg : Config) (req : SessionRequest) : String :=
  firstNonEmpty [req.publicWsURL, req.gatewayAssignment.publicWsURL, cfg.publicWsURL,
    deriveWSURL platform (publicBaseURLFor cfg req)]

def workerBaseURLFor (cfg : Config) (req : SessionRequest) : String :=
  firstNonEmpty [cfg.workerBaseURL, publicBaseURLFor cfg req]

def workerWsURLFor (platform : Platform) (cfg : Config) (req : SessionRequest) : String :=
  firstNonEmpty [cfg.workerWsURL, publicWsURLFor platform cfg req]

section Bases

variable {platform : Platform} {cfg : Config} {raw req : SessionRequest}

theorem Platform.IsPublicEndpoint.blank_or_absolute {schemes : List String}
    {workerID raw : String} (endpoint : platform.IsPublicEndpoint schemes workerID raw) :
    trimSpace raw = "" ∨ platform.Serves schemes raw := by
  rcases endpoint with empty | ⟨absolute, -⟩
  · rw [empty]
    exact .inl rfl
  · exact .inr absolute

variable (laws : platform.UrlLaws) (own : cfg.HasAbsoluteURLs platform)
  (accepted : Accepted platform cfg raw req)

include laws in
theorem Platform.IsAbsolute.not_blank {schemes : List String} {raw : String}
    (absolute : platform.Serves schemes raw) : trimSpace raw ≠ "" := by
  obtain ⟨url, absolute⟩ := absolute
  exact fun blank => absolute.host (laws.hostless raw url absolute.parsed blank)

include laws own accepted

theorem publicBaseURLFor_absolute :
    platform.Serves ["http", "https"] (publicBaseURLFor cfg req) ∧
      trimSpace (publicBaseURLFor cfg req) ≠ "" := by
  unfold publicBaseURLFor
  apply firstNonEmpty_of_forall
  · simp only [List.forall_mem_cons]
    exact ⟨accepted.publicBaseURL.blank_or_absolute, accepted.assignedBaseURL.blank_or_absolute,
      .inr own.publicBaseURL, by simp⟩
  · exact ⟨cfg.publicBaseURL, by simp, Platform.IsAbsolute.not_blank laws own.publicBaseURL⟩

theorem publicWsURLFor_absolute :
    platform.Serves ["ws", "wss"] (publicWsURLFor platform cfg req) ∧
      trimSpace (publicWsURLFor platform cfg req) ≠ "" := by
  obtain ⟨⟨base, absolute⟩, -⟩ := publicBaseURLFor_absolute laws own accepted
  obtain ⟨target, derived, -⟩ := (deriveWSURL_reaches laws absolute).absolute
  unfold publicWsURLFor
  apply firstNonEmpty_of_forall
  · simp only [List.forall_mem_cons]
    exact ⟨accepted.publicWsURL.blank_or_absolute, accepted.assignedWsURL.blank_or_absolute,
      own.publicWsURL, .inr ⟨target, derived⟩, by simp⟩
  · exact ⟨_, by simp, Platform.IsAbsolute.not_blank laws ⟨target, derived⟩⟩

theorem workerBaseURLFor_absolute :
    platform.Serves ["http", "https"] (workerBaseURLFor cfg req) ∧
      trimSpace (workerBaseURLFor cfg req) ≠ "" := by
  obtain ⟨absolute, filled⟩ := publicBaseURLFor_absolute laws own accepted
  unfold workerBaseURLFor
  apply firstNonEmpty_of_forall
  · simp only [List.forall_mem_cons]
    exact ⟨own.workerBaseURL, .inr absolute, by simp⟩
  · exact ⟨_, by simp, filled⟩

theorem workerWsURLFor_absolute :
    platform.Serves ["ws", "wss"] (workerWsURLFor platform cfg req) ∧
      trimSpace (workerWsURLFor platform cfg req) ≠ "" := by
  obtain ⟨absolute, filled⟩ := publicWsURLFor_absolute laws own accepted
  unfold workerWsURLFor
  apply firstNonEmpty_of_forall
  · simp only [List.forall_mem_cons]
    exact ⟨own.workerWsURL, .inr absolute, by simp⟩
  · exact ⟨_, by simp, filled⟩

end Bases

/-- Flat web sockets or not, the sample gateway's URLs are absolute. -/
theorem hasAbsoluteURLs_of_webSockets {cfg : Config} {url : Url}
    (base : cfg.publicBaseURL = "https://gateway.example.com")
    (workerBase : cfg.workerBaseURL = "https://gateway.example.com")
    (workerWs : cfg.workerWsURL = cfg.publicWsURL)
    (ws : spelledPlatform.IsAbsolute ["ws", "wss"] cfg.publicWsURL url) :
    cfg.HasAbsoluteURLs spelledPlatform := by
  have http : spelledPlatform.IsAbsolute ["http", "https"] "https://gateway.example.com"
      ⟨"https", "gateway.example.com", "", "", "", ""⟩ :=
    ⟨by rfl, by decide, by decide⟩
  constructor
  · exact ⟨_, by rw [base]; exact http⟩
  · exact .inr ⟨_, ws⟩
  · exact .inr ⟨_, by rw [workerBase]; exact http⟩
  · exact .inr ⟨_, by rw [workerWs]; exact ws⟩

theorem defaultConfig_hasAbsoluteURLs : defaultConfig.HasAbsoluteURLs spelledPlatform := by
  have ws : spelledPlatform.IsAbsolute ["ws", "wss"] "wss://gateway.example.com/ws"
      ⟨"wss", "gateway.example.com", "/ws", "", "", ""⟩ :=
    ⟨by rfl, by decide, by decide⟩
  exact hasAbsoluteURLs_of_webSockets rfl rfl rfl ws

/-! ## The URLs of a response -/

def relayModeFor (cfg : Config) (req : SessionRequest) : String :=
  let wanted := firstNonEmpty [req.gatewayAssignment.relayMode, cfg.relayMode]
  if isSupportedRelayMode cfg wanted then wanted else relayModeGatewayRelay

theorem relayModeFor_not_blank (cfg : Config) (req : SessionRequest) :
    trimSpace (relayModeFor cfg req) ≠ "" := by
  unfold relayModeFor
  dsimp only
  split
  · next supported =>
      intro blank
      unfold isSupportedRelayMode at supported
      rw [blank] at supported
      revert supported
      simp [relayModeGatewayRelay, relayModeGatewayMediaRelay]
  · decide

section Fields

variable (platform : Platform) (cfg : Config) (req : SessionRequest) (draws : Draws)

theorem buildResponse_identity :
    let resp := buildResponse platform cfg req draws
    resp.sessionID = req.sessionID ∧
      resp.gatewayAssignment.gatewayID = req.gatewayAssignment.gatewayID ∧
      resp.workerAssignment = req.workerAssignment ∧
      resp.workerBridge.bridgeID = draws.bridgeID := by
  simp only [buildResponse, and_self]

theorem buildResponse_relayMode :
    (buildResponse platform cfg req draws).workerBridge.relayMode = relayModeFor cfg req := by
  simp only [buildResponse, relayModeFor]

theorem buildResponse_viewerURL : (buildResponse platform cfg req draws).transport.viewerURL =
    buildViewerURL platform (publicBaseURLFor cfg req) req.sessionID
      (selectTransport cfg req.preferredTransport) draws.viewerEntryToken := rfl

theorem buildResponse_signalingURL :
    (buildResponse platform cfg req draws).transport.signalingURL =
      buildSignalingURL platform (publicWsURLFor platform cfg req) req.sessionID
        (selectTransport cfg req.preferredTransport) := rfl

/-- Media is relayed through the gateway exactly in this mode. -/
theorem buildResponse_relayed (relayed : relayModeFor cfg req = relayModeGatewayMediaRelay) :
    let resp := buildResponse platform cfg req draws
    let transport := selectTransport cfg req.preferredTransport
    resp.transport.mediaRelayURL = buildMediaRelayURL platform
        (publicWsURLFor platform cfg req) req.sessionID "viewer" transport ∧
      resp.transport.mediaGatewayURL = buildMediaGatewayURL platform
        (publicBaseURLFor cfg req) req.sessionID "viewer" ∧
      resp.workerBridge.mediaRelayURL = buildMediaRelayURL platform
        (workerWsURLFor platform cfg req) req.sessionID "worker" transport ∧
      resp.workerBridge.mediaGatewayURL = buildMediaGatewayURL platform
        (workerBaseURLFor cfg req) req.sessionID "worker" := by
  unfold relayModeFor at relayed
  simp only [buildResponse, relayed, if_true]
  exact ⟨rfl, rfl, rfl, rfl⟩

/-- In this mode the gateway offers what the relay of media needs. -/
theorem buildResponse_capability (relayed : relayModeFor cfg req = relayModeGatewayMediaRelay) :
    let resp := buildResponse platform cfg req draws
    resp.transport.mediaPlaneMode = mediaPlaneModeGatewayWebRTCRelay ∧
      resp.transport.protocol = mediaTerminationProtocolWebRTCSRTP ∧
      resp.workerBridge.protocol = mediaTerminationProtocolWebRTCSRTP ∧
      resp.transport.mediaTermination =
        some (mediaTerminationCapabilityForRelayMode relayModeGatewayMediaRelay) := by
  unfold relayModeFor at relayed
  simp only [buildResponse, relayed, mediaPlaneModeForRelayMode, protocolForRelayMode, if_true,
    and_self]

/-- In every other mode no URL for media is handed out. -/
theorem buildResponse_unrelayed (direct : relayModeFor cfg req ≠ relayModeGatewayMediaRelay) :
    let resp := buildResponse platform cfg req draws
    resp.transport.mediaRelayURL = "" ∧ resp.transport.mediaGatewayURL = "" ∧
      resp.workerBridge.mediaRelayURL = "" ∧ resp.workerBridge.mediaGatewayURL = "" := by
  unfold relayModeFor at direct
  simp only [buildResponse, if_neg direct, and_self]

end Fields

/-! ## Where a response comes from -/

section Origins

variable {cfg : Nat → Config} {platform : Platform} {sessionID : String}

/-- One of the gateways has built the response, for an accepted request with the same session and
assignments. -/
def BuiltFor (cfg : Nat → Config) (platform : Platform) (req : SessionRequest)
    (response : SessionResponse) : Prop :=
  ∃ gateway raw built entryToken bytes,
    validateRequest platform (cfg gateway) raw = .ok built ∧
    response = buildResponse platform (cfg gateway) built
      ⟨entryToken, newOpaqueID "bridge_" bytes⟩ ∧
    built.sessionID = req.sessionID ∧ built.gatewayAssignment = req.gatewayAssignment ∧
    built.workerAssignment = req.workerAssignment

def SessionRecord.IsBuilt (cfg : Nat → Config) (platform : Platform) (record : SessionRecord) :
    Prop :=
  BuiltFor cfg platform record.request record.response

/-- The gateways have built whatever they and the store hold. -/
structure Deployment.IsBuilt (cfg : Nat → Config) (platform : Platform) (state : Deployment) :
    Prop where
  maps : ∀ gateway id record, (state.services gateway).sessions.lookup id = some record →
    record.IsBuilt cfg platform
  store : ∀ record, state.stored = some record → record.IsBuilt cfg platform

theorem SessionRecord.IsBuilt.reload {record loaded : SessionRecord}
    (built : record.IsBuilt cfg platform) (read : record.reload = some loaded) :
    loaded.IsBuilt cfg platform := by
  by_cases shallow : (saveSession record).depth ≤ maxNestingDepth
  · rw [loadSession_saveSession record shallow] at read
    cases read
    exact built
  · rw [reload_eq_none shallow] at read
    cases read

/-- Equivalent requests have the same session and assignments. -/
theorem SessionRecord.IsBuilt.replay {record : SessionRecord} {req : SessionRequest}
    (built : record.IsBuilt cfg platform) {status : Nat} {response : SessionResponse}
    (replayed : replayAnswer record req = .ok (status, response)) :
    BuiltFor cfg platform req response := by
  unfold replayAnswer at replayed
  split at replayed
  · next equivalent =>
      cases replayed
      simp only [requestsEquivalentForReplay, normalizeReplayComparableRequest,
        SessionRequest.deepEqual, Bool.and_eq_true, beq_iff_eq] at equivalent
      obtain ⟨⟨sameRest, sameGateway⟩, sameWorker⟩ := equivalent
      obtain ⟨gateway, raw, request, entryToken, bytes, validated, answered, session, assigned,
        worker⟩ := built
      refine ⟨gateway, raw, request, entryToken, bytes, validated, answered, ?_,
        assigned.trans sameGateway, worker.trans sameWorker⟩
      rw [session]
      grind
  · cases replayed

/-- The call's request is accepted as this one. -/
def CreateCall.Asks (cfg : Nat → Config) (platform : Platform) (call : CreateCall)
    (req : SessionRequest) : Prop :=
  validateRequest platform (cfg call.gateway) call.request = .ok req

/-- A success is answered with a response that was built for the call's request. -/
def Ending.Fits (cfg : Nat → Config) (platform : Platform) (call : CreateCall) (how : Ending) :
    Prop :=
  ∀ status response, how.result = .ok (status, response) →
    ∃ req, call.Asks cfg platform req ∧ BuiltFor cfg platform req response

/-- What the call looks for is what it was asked for, and what it answers was built for it. -/
def Stage.Fits (cfg : Nat → Config) (platform : Platform) (call : CreateCall) : Stage → Prop
  | .fresh req => call.Asks cfg platform req
  | .missing req => call.Asks cfg platform req
  | .creating record => call.Asks cfg platform record.request ∧ record.IsBuilt cfg platform
  | .failed _ => True
  | .ending how => how.Fits cfg platform call
  | .answered how => how.Fits cfg platform call

theorem Ending.fits_ofStored {call : CreateCall} {req : SessionRequest} {record : SessionRecord}
    (asks : call.Asks cfg platform req) (built : record.IsBuilt cfg platform) :
    (Ending.ofStored (replayAnswer record req)).Fits cfg platform call := by
  intro status response replayed
  rw [Ending.result_ofStored] at replayed
  exact ⟨req, asks, built.replay replayed⟩

theorem Ending.fits_found {call : CreateCall} {req : SessionRequest} {record : SessionRecord}
    (asks : call.Asks cfg platform req) (built : record.IsBuilt cfg platform) :
    (Ending.found (replayAnswer record req)).Fits cfg platform call :=
  fun _ _ replayed => ⟨req, asks, built.replay replayed⟩

theorem Ending.fits_refused {call : CreateCall} (failure : ApiError) :
    (Ending.refused failure).Fits cfg platform call := by
  intro status response impossible
  cases impossible

theorem Deployment.IsBuilt.setSessions {state : Deployment}
    (built : state.IsBuilt cfg platform) {gateway : Nat}
    {sessions : AList fun _ : String => SessionRecord}
    (each : ∀ id record, sessions.lookup id = some record → record.IsBuilt cfg platform) :
    (state.setSessions gateway sessions).IsBuilt cfg platform := by
  constructor
  case maps =>
    intro other id record found
    rw [Deployment.setSessions_sessions] at found
    split at found
    · exact each id record found
    · exact built.maps other id record found
  case store => exact built.store

/-- What an operation of a call does to a deployment and to the call's stage. -/
theorem fits_step {call : CreateCall} {stage : Stage} {state : Deployment}
    (built : state.IsBuilt cfg platform) (fits : stage.Fits cfg platform call)
    {op : CreateOp} (allows : stage.Allows call.gateway op) (choice : CreateChoice) :
    let outcome := createExec cfg platform sessionID choice op state
    outcome.1.IsBuilt cfg platform ∧ (stage.after op outcome.2).Fits cfg platform call := by
  cases stage with
  | fresh req =>
      cases allows
      refine ⟨built, ?_⟩
      simp only [createExec]
      cases found : (if choice.succeeds then state.stored.bind SessionRecord.reload else none)
      case none => exact fits
      case some record =>
        split at found
        case isFalse => cases found
        case isTrue =>
          obtain ⟨own, stored, read⟩ := Option.bind_eq_some_iff.mp found
          exact Ending.fits_ofStored fits ((built.store own stored).reload read)
  | missing req =>
      cases allows
      rcases Deployment.admission_cases cfg platform state choice call.gateway req with
        ⟨record, found, answered, same⟩ | ⟨failure, -, refused, same⟩ | ⟨-, -, created, inserted⟩
      · refine ⟨?_, ?_⟩
        · simp only [createExec, same, Deployment.setSessions_self]
          exact built
        · simp only [createExec, answered]
          exact Ending.fits_found fits (built.maps call.gateway _ record found)
      · refine ⟨?_, ?_⟩
        · simp only [createExec, same, Deployment.setSessions_self]
          exact built
        · simp only [createExec, refused]
          exact Ending.fits_refused failure
      · have own : (Service.newRecord (cfg call.gateway) platform
            { state.services call.gateway with now := choice.now } req
            choice.draws).IsBuilt cfg platform :=
          ⟨call.gateway, call.request, req, _, _, fits, rfl, rfl, rfl, rfl⟩
        refine ⟨?_, ?_⟩
        · refine built.setSessions fun id record found => ?_
          rw [inserted] at found
          by_cases here : id = req.sessionID
          · subst here
            rw [AList.lookup_insert] at found
            cases found
            exact own
          · rw [AList.lookup_insert_ne here] at found
            exact built.maps call.gateway id record found
        · simp only [createExec, created]
          exact ⟨fits, own⟩
  | creating record =>
      cases allows
      simp only [createExec]
      split
      · refine ⟨⟨built.maps, ?_⟩, ?_⟩
        · intro other saved
          cases saved
          exact fits.2
        · intro status response succeeded
          cases succeeded
          exact ⟨record.request, fits.1, fits.2⟩
      · exact ⟨built, trivial⟩
  | failed record =>
      cases allows
      refine ⟨built.setSessions fun id record found => ?_, fun status response impossible => ?_⟩
      · by_cases here : id = sessionID
        · subst here
          rw [AList.lookup_erase] at found
          cases found
        · rw [AList.lookup_erase_ne here] at found
          exact built.maps call.gateway id record found
      · cases impossible
  | ending how =>
      cases allows
      exact ⟨built, fits⟩
  | answered how => exact allows.elim

/-- Everything in the deployment was built, and every call keeps to its request. -/
theorem fits_inductive :
    Inductive (S := creation cfg platform sessionID)
      (fun config _ => ∀ thread ∈ config.threads,
        thread.Obeys createCourse (CreateCall.opening cfg platform) Course.Ended)
      (Deployment.IsBuilt cfg platform)
      (fun _ thread => ∀ course, courseOf thread = some course →
        course.gateway = thread.job.gateway ∧ course.stage.Fits cfg platform thread.job) := by
  constructor
  case start =>
    intro config call _ _ _ course opened
    cases opened
    refine ⟨rfl, ?_⟩
    simp only [Thread.new]
    split
    · exact Ending.fits_refused _
    · next validated => exact validated
  case resume =>
    intro config index choice thread op next holds obeying found suspended
    have member := List.mem_of_getElem? found
    obtain ⟨⟨gateway, stage⟩, known⟩ : ∃ course, courseOf thread = some course :=
      Option.isSome_iff_exists.mp (Monitor.isSome_after (fun _ _ _ => rfl) rfl thread.past)
    obtain ⟨same, fits⟩ := holds.threads thread member _ known
    cases same
    have stepped := @fits_step _ _ sessionID _ _ _ holds.state fits _
      ((obeying thread member).allows known suspended) choice
    refine ⟨stepped.1, fun course advanced => ?_, fun other thread found _ =>
      holds.threads thread (List.mem_of_getElem? found)⟩
    rw [courseOf_advance known] at advanced
    cases advanced
    exact ⟨rfl, stepped.2⟩

/-- In every run, a success is answered with a response that was built for the request of its
call. -/
theorem built_of_answered {start : Deployment} (built : start.IsBuilt cfg platform)
    {final : Async.Config (creation cfg platform sessionID)}
    {allowed : Async.Config (creation cfg platform sessionID) →
      Action (creation cfg platform sessionID) → Prop} (run : Run allowed ⟨start, []⟩ final)
    {thread : Thread (creation cfg platform sessionID)} (member : thread ∈ final.threads)
    {status : Nat} {response : SessionResponse} (answered : Answered thread (.ok (status, response))) :
    ∃ req, thread.job.Asks cfg platform req ∧ BuiltFor cfg platform req response := by
  have obeying : ∀ config : Async.Config (creation cfg platform sessionID),
      Run allowed ⟨start, []⟩ config → ∀ thread ∈ config.threads,
        thread.Obeys createCourse (CreateCall.opening cfg platform) Course.Ended :=
    fun config reached => reached.obeys (createSession_follows cfg platform) (by simp)
  have fits := (fits_inductive.run ((run.assuming obeying).mono fun _ _ allowed => allowed.2)
    ⟨built, by simp⟩).threads thread member
  obtain ⟨index, found⟩ := List.mem_iff_getElem?.mp member
  obtain ⟨gateway, how, located, succeeded⟩ := answered_of_run run found answered
  rw [courseAt_of_getElem? found] at located
  exact (fits _ located).2 status response succeeded

end Origins

end RemoteBrowser.MediaGateway
