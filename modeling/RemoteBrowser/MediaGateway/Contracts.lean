import RemoteBrowser.Json.Value
import RemoteBrowser.Text.Whitespace

/-!
# Sessions of the media gateway

The records that the session authority and the media gateway exchange, the checks that a request
passes before a session is created, and the response that is built for it.  URLs are parsed and
printed by the platform.
-/

namespace RemoteBrowser.MediaGateway

open Text

/-! ## Contracts -/

structure GatewayAssignment where
  sessionID : String := ""
  gatewayID : String := ""
  region : String := ""
  workerID : String := ""
  relayMode : String := ""
  publicBaseURL : String := ""
  publicWsURL : String := ""
  deriving DecidableEq

structure WorkerAssignment where
  sessionID : String := ""
  workerID : String := ""
  region : String := ""
  runtimeClass : String := ""
  nodePool : String := ""
  availabilityZone : String := ""
  deriving DecidableEq

/-- A `map[string]any`, which may be nil. -/
abbrev OptionalMap := Option Json.Fields

structure SessionRequest where
  sessionID : String := ""
  tenantID : String := ""
  profileID : String := ""
  targetURL : String := ""
  viewerEntryMode : String := ""
  preferredTransport : String := ""
  generation : Int := 0
  viewerToken : String := ""
  workerToken : String := ""
  client : OptionalMap := none
  experiments : OptionalMap := none
  publicBaseURL : String := ""
  publicWsURL : String := ""
  gatewayAssignment : GatewayAssignment := {}
  workerAssignment : WorkerAssignment := {}

structure MediaTerminationCapability where
  mode : String
  mediaPlaneMode : String
  protocol : String
  relayMode : String
  relayModeAcceptanceState : String
  gatewayTerminatesSignaling : Bool
  gatewayTerminatesMedia : Bool
  workerAddressExposure : String
  directWorkerExposureAllowed : Bool
  wave2AcceptanceComplete : Bool
  implementationStatus : String
  implementationStatusDetail : String
  deriving DecidableEq

structure GatewayTransport where
  preferred : String
  supported : List String
  viewerURL : String
  signalingURL : String
  mediaRelayURL : String
  mediaGatewayURL : String
  mediaPlaneMode : String
  protocol : String
  inputPointerName : String
  inputControlName : String
  mediaTermination : Option MediaTerminationCapability
  deriving DecidableEq

structure WorkerBridge where
  bridgeID : String
  relayMode : String
  mediaRelayURL : String
  mediaGatewayURL : String
  mediaDirection : String
  protocol : String
  inputPointerName : String
  inputControlName : String
  deriving DecidableEq

structure SessionResponse where
  sessionID : String
  viewerEntryMode : String
  gatewayAssignment : GatewayAssignment
  workerAssignment : WorkerAssignment
  transport : GatewayTransport
  workerBridge : WorkerBridge
  deriving DecidableEq

/-- What the service keeps of a session.  The admission decision and the snapshots of the relay
states, which only the summary and the session route print, are left out. -/
structure SessionRecord where
  request : SessionRequest
  response : SessionResponse
  viewerEntryToken : String
  /-- In nanoseconds. -/
  createdAt : Int

structure ApiError where
  status : Nat
  message : String
  deriving DecidableEq

/-! ## Configuration -/

/-- A parsed URL; `rest` holds the parts that the gateway neither reads nor changes. -/
structure Url where
  scheme : String
  host : String
  path : String
  rawPath : String
  rawQuery : String
  rest : String
  deriving DecidableEq

/-- The functions of Go's standard library on which the requests' checks rest. -/
structure Platform where
  urlParse : String → Option Url
  urlString : Url → String
  hostname : Url → String
  escapedPath : Url → String
  /-- `query := parsed.Query()`, with `Set` for each pair, then `Encode`. -/
  withQuery : Url → List (String × String) → String
  isIP : String → Bool
  toLower : String → String

structure Config where
  region : String
  gatewayID : String
  publicBaseURL : String
  publicWsURL : String
  workerBaseURL : String
  workerWsURL : String
  supportedTransports : List String
  preferredTransport : String
  relayMode : String
  enableMediaRelay : Bool
  maxActiveSessions : Int
  maxActiveSessionsPerTenant : Int
  maxActiveSessionsPerWorker : Int
  pendingSessionActiveTTL : Int

def relayModeGatewayRelay := "gateway-relay"
def relayModeGatewayMediaRelay := "gateway-media-relay"
def relayModeAcceptanceStateAccepted := "accepted"
def mediaTerminationModeSignalingRelay := "signaling-relay-only"
def mediaTerminationModeGatewayRelay := "gateway-media-relay"
def mediaPlaneModeGatewayWebRTCRelay := "gateway-webrtc-relay"
def mediaTerminationProtocolWebRTCSRTP := "webrtc-srtp"
def mediaTerminationStatusIncomplete := "incomplete"
def mediaTerminationStatusImplemented := "implemented"
def workerAddressExposureGatewayOnly := "gateway-only"
def inputPointerChannelName := "input-pointer"
def inputControlChannelName := "input-control"

/-- Two minutes, in nanoseconds. -/
def defaultPendingSessionActiveTTL : Int := 2 * 60 * 1000000000

/-! ## Checks of a request -/

section Validation

variable (platform : Platform) (cfg : Config)

def isSupportedRelayMode (relayMode : String) : Bool :=
  if trimSpace relayMode = relayModeGatewayRelay then true
  else if trimSpace relayMode = relayModeGatewayMediaRelay then cfg.enableMediaRelay
  else false

/-- `strings.Contains`. -/
def containsText (text part : String) : Bool :=
  text.toList.tails.any fun rest => part.toList.isPrefixOf rest

def parseAbsolutePublicURL (raw field : String) (allowedSchemes : List String) :
    Except ApiError Url :=
  match platform.urlParse raw with
  | none => .error ⟨400, field ++ " must be an absolute URL"⟩
  | some parsed =>
      if parsed.scheme = "" ∨ parsed.host = "" then
        .error ⟨400, field ++ " must be an absolute URL"⟩
      else if allowedSchemes.contains parsed.scheme then .ok parsed
      else .error ⟨400, field ++ " has an unsupported URL scheme"⟩

def publicEndpointExposesWorker (raw workerID : String) : Bool :=
  match platform.urlParse raw with
  | none => false
  | some parsed =>
      let host := platform.toLower (platform.hostname parsed)
      if host = "" then false
      else
        let worker := platform.toLower (trimSpace workerID)
        let endpointIdentity := host ++ " " ++ platform.toLower (platform.escapedPath parsed)
        if worker ≠ "" ∧ containsText endpointIdentity worker then true else platform.isIP host

/-- One of the four public endpoints of a request; `replaced` is the message that stands in for
the parser's. -/
def checkPublicEndpoint (raw field : String) (schemes : List String) (replaced : Option String)
    (workerID : String) : Except ApiError Unit :=
  if raw = "" then .ok ()
  else
    match parseAbsolutePublicURL platform raw field schemes with
    | .error failure => .error (replaced.elim failure fun message => ⟨400, message⟩)
    | .ok _ =>
        if publicEndpointExposesWorker platform raw workerID then
          .error ⟨400, "direct worker public endpoint exposure is not allowed"⟩
        else .ok ()

/-- The request with white space trimmed from every text that is compared. -/
def SessionRequest.trimmed (req : SessionRequest) : SessionRequest :=
  { req with
    sessionID := trimSpace req.sessionID
    tenantID := trimSpace req.tenantID
    profileID := trimSpace req.profileID
    targetURL := trimSpace req.targetURL
    viewerEntryMode := trimSpace req.viewerEntryMode
    preferredTransport := trimSpace req.preferredTransport
    viewerToken := trimSpace req.viewerToken
    workerToken := trimSpace req.workerToken
    publicBaseURL := trimSpace req.publicBaseURL
    publicWsURL := trimSpace req.publicWsURL
    gatewayAssignment :=
      { sessionID := trimSpace req.gatewayAssignment.sessionID
        gatewayID := trimSpace req.gatewayAssignment.gatewayID
        region := trimSpace req.gatewayAssignment.region
        workerID := trimSpace req.gatewayAssignment.workerID
        relayMode := trimSpace req.gatewayAssignment.relayMode
        publicBaseURL := trimSpace req.gatewayAssignment.publicBaseURL
        publicWsURL := trimSpace req.gatewayAssignment.publicWsURL }
    workerAssignment :=
      { req.workerAssignment with
        sessionID := trimSpace req.workerAssignment.sessionID
        workerID := trimSpace req.workerAssignment.workerID
        region := trimSpace req.workerAssignment.region } }

/-- `value`, or `fallback` where it is empty. -/
def orElse (value fallback : String) : String := if value = "" then fallback else value

/-- The defaults of a request whose required fields are present. -/
def SessionRequest.completed (req : SessionRequest) : SessionRequest :=
  let gatewayRegion := orElse req.gatewayAssignment.region cfg.region
  { req with
    generation := if req.generation ≤ 0 then 1 else req.generation
    gatewayAssignment :=
      { req.gatewayAssignment with
        sessionID := orElse req.gatewayAssignment.sessionID req.sessionID
        region := gatewayRegion
        gatewayID := orElse req.gatewayAssignment.gatewayID cfg.gatewayID
        workerID := orElse req.gatewayAssignment.workerID req.workerAssignment.workerID }
    workerAssignment :=
      { req.workerAssignment with
        sessionID := orElse req.workerAssignment.sessionID req.sessionID
        region := orElse req.workerAssignment.region gatewayRegion } }

def targetIsWeb (targetURL : String) : Bool :=
  match platform.urlParse targetURL with
  | none => false
  | some url => url.scheme = "http" ∨ url.scheme = "https"

/-- The failure, where the check fails. -/
def reject (fails : Bool) (status : Nat) (message : String) : Except ApiError Unit :=
  if fails then .error ⟨status, message⟩ else .ok ()

def validateRequest (raw : SessionRequest) : Except ApiError SessionRequest := do
  let trimmed := raw.trimmed
  reject (trimmed.sessionID = "") 400 "sessionId is required"
  reject (trimmed.tenantID = "") 400 "tenantId is required"
  reject (trimmed.viewerToken = "") 400 "viewerToken is required"
  reject (trimmed.workerToken = "") 400 "workerToken is required"
  reject (trimmed.workerAssignment.workerID = "") 400 "workerAssignment.workerId is required"
  reject (trimmed.targetURL ≠ "" ∧ !targetIsWeb platform trimmed.targetURL) 400
    "targetUrl must be an absolute http or https URL"
  let req := trimmed.completed cfg
  reject (req.gatewayAssignment.sessionID ≠ req.sessionID ∨
      req.workerAssignment.sessionID ≠ req.sessionID) 400
    "assignment session ids must match sessionId"
  reject (req.gatewayAssignment.region ≠ cfg.region) 409
    "gateway assignment region does not match this gateway"
  reject (req.gatewayAssignment.gatewayID ≠ cfg.gatewayID) 409
    "gateway assignment targets a different gateway"
  reject (req.gatewayAssignment.workerID ≠ req.workerAssignment.workerID) 400
    "gatewayAssignment.workerId must match workerAssignment.workerId"
  reject (req.gatewayAssignment.relayMode ≠ "" ∧
      !isSupportedRelayMode cfg req.gatewayAssignment.relayMode) 400
    ("relayMode must be gateway-relay, or gateway-media-relay when " ++
      "MEDIA_GATEWAY_ENABLE_MEDIA_RELAY=true")
  let workerID := req.workerAssignment.workerID
  checkPublicEndpoint platform req.publicBaseURL "publicBaseUrl" ["http", "https"] none workerID
  checkPublicEndpoint platform req.gatewayAssignment.publicBaseURL
    "gatewayAssignment.publicBaseUrl" ["http", "https"]
    (some "publicBaseUrl must be an absolute URL") workerID
  checkPublicEndpoint platform req.publicWsURL "publicWsUrl" ["ws", "wss"]
    (some "publicWsUrl must be an absolute ws or wss URL") workerID
  checkPublicEndpoint platform req.gatewayAssignment.publicWsURL
    "gatewayAssignment.publicWsUrl" ["ws", "wss"]
    (some "publicWsUrl must be an absolute ws or wss URL") workerID
  return req

/-- What is said about the client is not checked. -/
theorem validateRequest_client (raw : SessionRequest) (client : OptionalMap) :
    validateRequest platform cfg { raw with client := client } =
      (fun req => { req with client := client }) <$> validateRequest platform cfg raw := by
  simp only [validateRequest, map_bind, map_pure]
  rfl

end Validation

/-! ## The response -/

section Response

variable (platform : Platform) (cfg : Config)

def firstNonEmpty (values : List String) : String :=
  (values.find? fun value => trimSpace value ≠ "").getD ""

/-- `strings.TrimRight(text, "/")`. -/
def trimRightSlashes (text : String) : String :=
  String.ofList (text.toList.rdropWhile (· = '/'))

/-- `strings.TrimLeft(text, "/")`. -/
def trimLeftSlashes (text : String) : String :=
  String.ofList (text.toList.dropWhile (· = '/'))

def joinURLPath (basePath next : String) : String :=
  let base := trimRightSlashes basePath
  let rooted := "/" ++ trimLeftSlashes next
  if base = "" then rooted else base ++ rooted

def deriveWSURL (baseURL : String) : String :=
  match platform.urlParse baseURL with
  | none => ""
  | some parsed =>
      let scheme :=
        if parsed.scheme = "https" then "wss"
        else if parsed.scheme = "http" then "ws"
        else parsed.scheme
      platform.urlString
        { parsed with scheme := scheme, path := joinURLPath parsed.path "/ws", rawQuery := "" }

def buildViewerURL (baseURL sessionID transport viewerEntryToken : String) : String :=
  match platform.urlParse baseURL with
  | none => baseURL
  | some parsed =>
      let moved := { parsed with path := joinURLPath parsed.path ("/gateway/viewer/" ++ sessionID) }
      let query := [("transport", transport)] ++
        if viewerEntryToken = "" then [] else [("entryToken", viewerEntryToken)]
      platform.urlString { moved with rawQuery := platform.withQuery moved query }

def gatewayWebSocketPath (basePath gatewayPath : String) : String :=
  let cleaned := trimRightSlashes (trimSpace basePath)
  if cleaned = "" ∨ cleaned = "/ws" then gatewayPath else joinURLPath cleaned gatewayPath

def buildSignalingURL (baseURL sessionID transport : String) : String :=
  match platform.urlParse baseURL with
  | none => baseURL
  | some parsed =>
      let gatewayPath := "/gateway/signaling/" ++ sessionID ++ "/viewer"
      let moved := { parsed with path := gatewayWebSocketPath parsed.path gatewayPath }
      platform.urlString
        { moved with rawQuery := platform.withQuery moved [("transport", transport)] }

def buildMediaRelayURL (baseURL sessionID role transport : String) : String :=
  match platform.urlParse baseURL with
  | none => baseURL
  | some parsed =>
      let gatewayPath := "/gateway/media/" ++ sessionID ++ "/" ++ role
      let moved := { parsed with path := joinURLPath parsed.path gatewayPath }
      platform.urlString
        { moved with rawQuery := platform.withQuery moved [("transport", transport)] }

def buildMediaGatewayURL (baseURL sessionID role : String) : String :=
  match platform.urlParse baseURL with
  | none => baseURL
  | some parsed =>
      let gatewayPath := "/gateway/webrtc/" ++ sessionID ++ "/" ++ role
      platform.urlString
        { parsed with path := joinURLPath parsed.path gatewayPath, rawQuery := "" }

def selectTransport (requested : String) : String :=
  let wanted := trimSpace requested
  if wanted ≠ "" ∧ cfg.supportedTransports.contains wanted then wanted
  else if cfg.supportedTransports.contains cfg.preferredTransport then cfg.preferredTransport
  -- `NewService` makes sure that the list has a first element.
  else cfg.supportedTransports.headD ""

def defaultMediaTerminationCapability : MediaTerminationCapability where
  mode := mediaTerminationModeSignalingRelay
  mediaPlaneMode := "direct-webrtc"
  protocol := "webrtc"
  relayMode := relayModeGatewayRelay
  relayModeAcceptanceState := relayModeAcceptanceStateAccepted
  gatewayTerminatesSignaling := true
  gatewayTerminatesMedia := false
  workerAddressExposure := workerAddressExposureGatewayOnly
  directWorkerExposureAllowed := false
  wave2AcceptanceComplete := false
  implementationStatus := mediaTerminationStatusIncomplete
  implementationStatusDetail :=
    "gateway owns viewer entry and signaling relay mode; " ++
      "full SFU media termination is still incomplete"

def mediaTerminationCapabilityForRelayMode (relayMode : String) : MediaTerminationCapability :=
  if relayMode ≠ relayModeGatewayMediaRelay then defaultMediaTerminationCapability
  else
    { mode := mediaTerminationModeGatewayRelay
      mediaPlaneMode := mediaPlaneModeGatewayWebRTCRelay
      protocol := mediaTerminationProtocolWebRTCSRTP
      relayMode := relayModeGatewayMediaRelay
      relayModeAcceptanceState := relayModeAcceptanceStateAccepted
      gatewayTerminatesSignaling := true
      gatewayTerminatesMedia := true
      workerAddressExposure := workerAddressExposureGatewayOnly
      directWorkerExposureAllowed := false
      wave2AcceptanceComplete := true
      implementationStatus := mediaTerminationStatusImplemented
      implementationStatusDetail :=
        "gateway exposes role-bound WebRTC/SRTP media endpoints and keeps the legacy " ++
          "websocket relay only as rollback/control canary" }

def mediaPlaneModeForRelayMode (relayMode : String) : String :=
  if relayMode = relayModeGatewayMediaRelay then mediaPlaneModeGatewayWebRTCRelay
  else "direct-webrtc"

def protocolForRelayMode (relayMode : String) : String :=
  if relayMode = relayModeGatewayMediaRelay then mediaTerminationProtocolWebRTCSRTP
  else "webrtc"

def mediaDirectionForRelayMode (relayMode : String) : String :=
  if relayMode = relayModeGatewayMediaRelay then "worker-to-gateway" else "worker-to-viewer"

/-- The two texts that `newOpaqueID` draws for a response. -/
structure Draws where
  viewerEntryToken : String
  bridgeID : String
  deriving DecidableEq

def buildResponse (req : SessionRequest) (draws : Draws) : SessionResponse :=
  let publicBaseURL :=
    firstNonEmpty [req.publicBaseURL, req.gatewayAssignment.publicBaseURL, cfg.publicBaseURL]
  let publicWsURL :=
    firstNonEmpty [req.publicWsURL, req.gatewayAssignment.publicWsURL, cfg.publicWsURL,
      deriveWSURL platform publicBaseURL]
  let workerBaseURL := firstNonEmpty [cfg.workerBaseURL, publicBaseURL]
  let workerWsURL := firstNonEmpty [cfg.workerWsURL, publicWsURL]
  let preferredTransport := selectTransport cfg req.preferredTransport
  let wanted := firstNonEmpty [req.gatewayAssignment.relayMode, cfg.relayMode]
  let relayMode := if isSupportedRelayMode cfg wanted then wanted else relayModeGatewayRelay
  let whenRelayed (url : String) := if relayMode = relayModeGatewayMediaRelay then url else ""
  { sessionID := req.sessionID
    viewerEntryMode := firstNonEmpty [req.viewerEntryMode, "swg-handoff"]
    gatewayAssignment :=
      { req.gatewayAssignment with
        publicBaseURL := publicBaseURL
        publicWsURL := publicWsURL
        relayMode := relayMode }
    workerAssignment := req.workerAssignment
    transport :=
      { preferred := preferredTransport
        supported := cfg.supportedTransports
        viewerURL := buildViewerURL platform publicBaseURL req.sessionID preferredTransport
          draws.viewerEntryToken
        signalingURL := buildSignalingURL platform publicWsURL req.sessionID preferredTransport
        mediaRelayURL := whenRelayed
          (buildMediaRelayURL platform publicWsURL req.sessionID "viewer" preferredTransport)
        mediaGatewayURL := whenRelayed
          (buildMediaGatewayURL platform publicBaseURL req.sessionID "viewer")
        mediaPlaneMode := mediaPlaneModeForRelayMode relayMode
        protocol := protocolForRelayMode relayMode
        inputPointerName := inputPointerChannelName
        inputControlName := inputControlChannelName
        mediaTermination := some (mediaTerminationCapabilityForRelayMode relayMode) }
    workerBridge :=
      { bridgeID := draws.bridgeID
        relayMode := relayMode
        mediaRelayURL := whenRelayed
          (buildMediaRelayURL platform workerWsURL req.sessionID "worker" preferredTransport)
        mediaGatewayURL := whenRelayed
          (buildMediaGatewayURL platform workerBaseURL req.sessionID "worker")
        mediaDirection := mediaDirectionForRelayMode relayMode
        protocol := protocolForRelayMode relayMode
        inputPointerName := inputPointerChannelName
        inputControlName := inputControlChannelName } }

end Response

/-! ## A sample deployment -/

/-- URLs of the form `scheme://host/path`, without the escapes of the real parser. -/
def plainPlatform : Platform where
  urlParse := fun raw =>
    match raw.toList.splitOn '/' with
    | scheme :: [] :: host :: segments =>
        if scheme.getLast? = some ':' then
          some
            { scheme := String.ofList scheme.dropLast
              host := String.ofList host
              path := String.join (segments.map fun segment => "/" ++ String.ofList segment)
              rawPath := ""
              rawQuery := ""
              rest := "" }
        else none
    | _ => none
  urlString := fun url =>
    url.scheme ++ "://" ++ url.host ++ url.path ++
      if url.rawQuery = "" then "" else "?" ++ url.rawQuery
  hostname := fun url => url.host
  escapedPath := fun url => url.path
  withQuery := fun _ pairs =>
    "&".intercalate (pairs.reverse.map fun pair => pair.1 ++ "=" ++ pair.2)
  isIP := fun _ => false
  toLower := fun text => text.toLower

/-- The defaults of `LoadConfigFromEnv`: only the sessions of a worker are limited. -/
def defaultConfig : Config where
  region := "us-east-1"
  gatewayID := "gateway-us-east-1-01"
  publicBaseURL := "https://gateway.example.com"
  publicWsURL := "wss://gateway.example.com/ws"
  workerBaseURL := "https://gateway.example.com"
  workerWsURL := "wss://gateway.example.com/ws"
  supportedTransports := ["webtransport", "webrtc", "websocket"]
  preferredTransport := "webtransport"
  relayMode := relayModeGatewayMediaRelay
  enableMediaRelay := true
  maxActiveSessions := 0
  maxActiveSessionsPerTenant := 0
  maxActiveSessionsPerWorker := 1
  pendingSessionActiveTTL := defaultPendingSessionActiveTTL

/-- A request with only the fields that are required. -/
def plainRequest (sessionID workerID : String) : SessionRequest where
  sessionID := sessionID
  tenantID := "tenant-a"
  viewerToken := "viewer-" ++ sessionID
  workerToken := "worker-" ++ sessionID
  workerAssignment := { workerID := workerID }

end RemoteBrowser.MediaGateway
