import RemoteBrowser.MediaGateway.Contracts

/-!
# Bootstrap requests of the session authority

What the secure web gateway asks of the session authority, the checks that a request passes, the
placement of its session, and what the authority makes of the answers of the runtime and of the
media gateway.
-/

namespace RemoteBrowser.SessionAuthority

open Text
open MediaGateway (ApiError OptionalMap SessionRequest SessionResponse Url firstNonEmpty
  joinURLPath orElse reject targetIsWeb trimRightSlashes)

/-! ## Contracts -/

structure Viewport where
  width : Int
  height : Int
  deviceScaleFactor : ℚ
  deriving DecidableEq

structure EdgeBootstrapRequest where
  transactionID : String := ""
  targetURL : String := ""
  orgID : String := ""
  boundaryType : String := ""
  boundaryID : String := ""
  originID : String := ""
  originType : String := ""
  tenantID : String := ""
  profileID : String := ""
  policy : String := ""
  contractVersion : String := ""
  requestKind : String := ""
  originalMethod : String := ""
  provider : String := ""
  providerCategory : String := ""
  fallbackProvider : String := ""
  fallbackReason : String := ""
  nonce : String := ""
  keyID : String := ""
  upstreamHost : String := ""
  upstreamScheme : String := ""
  upstreamPort : String := ""
  viewport : Option Viewport := none
  experiments : OptionalMap := none
  client : OptionalMap := none
  publicBaseURL : String := ""
  publicWsURL : String := ""

structure EdgeBootstrapResponse where
  sessionID : String := ""
  handoffURL : String := ""
  viewerEntry : String := ""
  gatewayRegion : String := ""
  gatewayAssignment : Option MediaGateway.GatewayAssignment := none
  workerAssignment : Option MediaGateway.WorkerAssignment := none
  transport : Option MediaGateway.GatewayTransport := none
  workerBridge : Option MediaGateway.WorkerBridge := none
  deriving DecidableEq

/-- The answer of the runtime to the creation or the update of a session.  Its viewer URL, which
the authority does not read, is left out. -/
structure RuntimeSessionResponse where
  sessionID : String := ""
  handoffURL : String := ""
  viewerEntry : String := ""
  viewerSignalingToken : String := ""
  viewerToken : String := ""
  workerToken : String := ""
  generation : Int := 0
  gatewayAssignment : Option MediaGateway.GatewayAssignment := none
  workerAssignment : Option MediaGateway.WorkerAssignment := none
  transport : Option MediaGateway.GatewayTransport := none
  workerBridge : Option MediaGateway.WorkerBridge := none
  deriving DecidableEq

structure SessionRecord where
  request : EdgeBootstrapRequest
  response : EdgeBootstrapResponse
  createdAt : Int
  source : String

/-! ## Configuration -/

/-- The functions of Go's standard library on which the authority rests. -/
structure Platform extends MediaGateway.Platform where
  parseRequestURI : String → Option Url

/-- The settings, after `NewServiceWithClients` has filled in the defaults. -/
structure Config where
  defaultRegion : String
  regions : List String
  tenantRegions : List (String × String)
  gatewaysPerRegion : Nat
  workersPerRegion : Nat
  zoneSuffixes : List String
  handoffBaseURL : String
  gatewayPublicBaseURL : String
  gatewayPublicWsURL : String
  viewerEntryMode : String
  relayMode : String
  runtimeClass : String
  nodePool : String
  hasRuntimeClient : Bool
  hasGatewayClient : Bool

/-! ## Checks of a request -/

namespace EdgeBootstrapRequest

/-- The request with white space trimmed from every text. -/
def trimmed (req : EdgeBootstrapRequest) : EdgeBootstrapRequest :=
  { req with
    transactionID := trimSpace req.transactionID
    targetURL := trimSpace req.targetURL
    orgID := trimSpace req.orgID
    boundaryType := trimSpace req.boundaryType
    boundaryID := trimSpace req.boundaryID
    originID := trimSpace req.originID
    originType := trimSpace req.originType
    tenantID := trimSpace req.tenantID
    profileID := trimSpace req.profileID
    policy := trimSpace req.policy
    contractVersion := trimSpace req.contractVersion
    requestKind := trimSpace req.requestKind
    originalMethod := trimSpace req.originalMethod
    provider := trimSpace req.provider
    providerCategory := trimSpace req.providerCategory
    fallbackProvider := trimSpace req.fallbackProvider
    fallbackReason := trimSpace req.fallbackReason
    nonce := trimSpace req.nonce
    keyID := trimSpace req.keyID
    upstreamHost := trimSpace req.upstreamHost
    upstreamScheme := trimSpace req.upstreamScheme
    upstreamPort := trimSpace req.upstreamPort
    publicBaseURL := trimSpace req.publicBaseURL
    publicWsURL := trimSpace req.publicWsURL }

/-- The required texts, with their names, in the order in which they are checked. -/
def required (req : EdgeBootstrapRequest) : List (String × String) :=
  [(req.transactionID, "transactionId"), (req.targetURL, "targetUrl"), (req.orgID, "orgId"),
    (req.boundaryType, "boundaryType"), (req.boundaryID, "boundaryId"),
    (req.originID, "originId"), (req.originType, "originType"), (req.tenantID, "tenantId"),
    (req.profileID, "profileId"), (req.policy, "policy"),
    (req.contractVersion, "contractVersion"), (req.requestKind, "requestKind"),
    (req.originalMethod, "originalMethod"), (req.provider, "provider"),
    (req.providerCategory, "providerCategory"), (req.fallbackProvider, "fallbackProvider"),
    (req.nonce, "nonce"), (req.keyID, "keyId"), (req.upstreamHost, "upstreamHost"),
    (req.upstreamScheme, "upstreamScheme"), (req.upstreamPort, "upstreamPort")]

end EdgeBootstrapRequest

/-- The first required text that is empty. -/
def checkRequired : List (String × String) → Except ApiError Unit
  | [] => .ok ()
  | (value, field) :: rest =>
      if value = "" then .error ⟨400, field ++ " is required"⟩ else checkRequired rest

section Validation

variable (platform : Platform)

def publicWsIsWs (publicWsURL : String) : Bool :=
  match platform.parseRequestURI publicWsURL with
  | none => false
  | some url => url.scheme = "ws" ∨ url.scheme = "wss"

def validateRequest (raw : EdgeBootstrapRequest) : Except ApiError EdgeBootstrapRequest := do
  let req := raw.trimmed
  checkRequired req.required
  reject (platform.toLower req.boundaryType ≠ "org") 422 "boundaryType must be org"
  reject (req.orgID ≠ req.boundaryID) 422 "orgId must match boundaryId"
  reject (req.tenantID ≠ req.orgID) 422 "tenantId must match orgId"
  reject (!targetIsWeb platform.toPlatform req.targetURL) 400
    "targetUrl must be an absolute http or https URL"
  reject (req.viewport.any fun viewport => viewport.width < 0 ∨ viewport.height < 0) 400
    "viewport dimensions must be positive"
  reject (req.viewport.any fun viewport => viewport.deviceScaleFactor < 0) 400
    "viewport.deviceScaleFactor must be positive"
  reject (req.publicBaseURL ≠ "" ∧ (platform.parseRequestURI req.publicBaseURL).isNone) 400
    "publicBaseUrl must be an absolute URL"
  reject (req.publicWsURL ≠ "" ∧ !publicWsIsWs platform req.publicWsURL) 400
    "publicWsUrl must be an absolute ws or wss URL"
  return req

end Validation

/-! ## Placement -/

/-- `hashString`: FNV-1a over the bytes of the text. -/
def hashString (value : String) : UInt32 :=
  value.toUTF8.toList.foldl (fun hash byte => (hash ^^^ byte.toUInt32) * 16777619) 2166136261

/-- A number with at least so many decimal digits. -/
def zeroPadded (width number : Nat) : String :=
  let digits := toString number
  String.ofList (List.replicate (width - digits.length) '0') ++ digits

section Placement

variable (platform : Platform) (cfg : Config)

def resolveRegion (req : EdgeBootstrapRequest) : String :=
  let chosen := (cfg.tenantRegions.lookup req.tenantID).getD ""
  if chosen ≠ "" then chosen
  else if cfg.regions = [] then cfg.defaultRegion
  else
    let seed := req.tenantID ++ "|" ++ req.profileID ++ "|" ++ req.upstreamHost
    cfg.regions.getD ((hashString seed).toNat % cfg.regions.length) ""

/-- The assignment that a gateway counter of the region leads to. -/
def gatewayAssignment (region workerID : String) (index : Nat) (req : EdgeBootstrapRequest) :
    MediaGateway.GatewayAssignment where
  gatewayID :=
    "gateway-" ++ region ++ "-" ++ zeroPadded 2 ((index - 1) % cfg.gatewaysPerRegion + 1)
  region := region
  workerID := workerID
  relayMode := cfg.relayMode
  publicBaseURL := firstNonEmpty [req.publicBaseURL, cfg.gatewayPublicBaseURL]
  publicWsURL := firstNonEmpty [req.publicWsURL, cfg.gatewayPublicWsURL]

/-- The assignment that a worker counter of the region leads to. -/
def workerAssignment (region : String) (index : Nat) : MediaGateway.WorkerAssignment where
  workerID :=
    "worker-" ++ region ++ "-" ++ zeroPadded 3 ((index - 1) % cfg.workersPerRegion + 1)
  region := region
  runtimeClass := cfg.runtimeClass
  nodePool := cfg.nodePool
  availabilityZone := region ++ cfg.zoneSuffixes.getD ((index - 1) % cfg.zoneSuffixes.length) ""

def buildHandoffURL (req : EdgeBootstrapRequest) (token : String) : String :=
  let baseURL := firstNonEmpty [req.publicBaseURL, cfg.handoffBaseURL]
  match platform.urlParse baseURL with
  | none => baseURL
  | some parsed =>
      let moved := { parsed with path := joinURLPath parsed.path "/swg/handoff" }
      platform.urlString { moved with rawQuery := platform.withQuery moved [("token", token)] }

end Placement

/-! ## The answers of the runtime and of the gateway -/

def mergeGatewayAssignment (gateway : MediaGateway.GatewayAssignment)
    (runtime : Option MediaGateway.GatewayAssignment) : MediaGateway.GatewayAssignment :=
  match runtime with
  | none => gateway
  | some runtime =>
      { sessionID := orElse gateway.sessionID runtime.sessionID
        gatewayID := orElse gateway.gatewayID runtime.gatewayID
        region := orElse gateway.region runtime.region
        workerID := orElse gateway.workerID runtime.workerID
        relayMode := orElse gateway.relayMode runtime.relayMode
        publicBaseURL := orElse gateway.publicBaseURL runtime.publicBaseURL
        publicWsURL := orElse gateway.publicWsURL runtime.publicWsURL }

def mergeWorkerAssignment (gateway : MediaGateway.WorkerAssignment)
    (runtime : Option MediaGateway.WorkerAssignment) : MediaGateway.WorkerAssignment :=
  match runtime with
  | none => gateway
  | some runtime =>
      { sessionID := orElse gateway.sessionID runtime.sessionID
        workerID := orElse gateway.workerID runtime.workerID
        region := orElse gateway.region runtime.region
        runtimeClass := orElse gateway.runtimeClass runtime.runtimeClass
        nodePool := orElse gateway.nodePool runtime.nodePool
        availabilityZone := orElse gateway.availabilityZone runtime.availabilityZone }

def mergeGatewayTransport (gateway : MediaGateway.GatewayTransport)
    (runtime : Option MediaGateway.GatewayTransport) : MediaGateway.GatewayTransport :=
  match runtime with
  | none => gateway
  | some runtime =>
      { gateway with
        preferred := orElse gateway.preferred runtime.preferred
        supported := if gateway.supported = [] then runtime.supported else gateway.supported
        viewerURL := orElse gateway.viewerURL runtime.viewerURL
        signalingURL := orElse gateway.signalingURL runtime.signalingURL
        mediaRelayURL := orElse gateway.mediaRelayURL runtime.mediaRelayURL
        mediaTermination := gateway.mediaTermination.orElse fun _ => runtime.mediaTermination }

def mergeWorkerBridge (gateway : MediaGateway.WorkerBridge)
    (runtime : Option MediaGateway.WorkerBridge) : MediaGateway.WorkerBridge :=
  match runtime with
  | none => gateway
  | some runtime =>
      { gateway with
        bridgeID := orElse gateway.bridgeID runtime.bridgeID
        relayMode := orElse gateway.relayMode runtime.relayMode
        mediaRelayURL := orElse gateway.mediaRelayURL runtime.mediaRelayURL }

def buildMediaGatewaySessionRequest (req : EdgeBootstrapRequest) (resp : EdgeBootstrapResponse)
    (runtimeResp : RuntimeSessionResponse) (gatewayAssignment : MediaGateway.GatewayAssignment)
    (workerAssignment : MediaGateway.WorkerAssignment) : SessionRequest where
  sessionID := resp.sessionID
  tenantID := req.tenantID
  profileID := req.profileID
  targetURL := req.targetURL
  viewerEntryMode := firstNonEmpty [resp.viewerEntry, runtimeResp.viewerEntry]
  generation := if 0 < runtimeResp.generation then runtimeResp.generation else 1
  viewerToken := firstNonEmpty [runtimeResp.viewerSignalingToken, runtimeResp.viewerToken]
  workerToken := runtimeResp.workerToken
  client := some (req.client.getD [])
  experiments := some (req.experiments.getD [])
  publicBaseURL := firstNonEmpty [req.publicBaseURL, gatewayAssignment.publicBaseURL]
  publicWsURL := firstNonEmpty [req.publicWsURL, gatewayAssignment.publicWsURL]
  gatewayAssignment := gatewayAssignment
  workerAssignment := workerAssignment

section Acceptance

variable (platform : Platform)

def isAbsoluteURLWithScheme (raw : String) (allowedSchemes : List String) : Bool :=
  match platform.urlParse (trimSpace raw) with
  | none => false
  | some parsed =>
      parsed.scheme ≠ "" ∧ parsed.host ≠ "" ∧ allowedSchemes.contains parsed.scheme

/-- `strings.HasSuffix`. -/
def endsWith (text suffix : String) : Bool := suffix.toList.isSuffixOf text.toList

def isRoleBoundGatewayWebRTCEndpoint (raw sessionID role : String) : Bool :=
  match platform.urlParse (trimSpace raw) with
  | none => false
  | some parsed =>
      endsWith (trimRightSlashes parsed.path) ("/gateway/webrtc/" ++ sessionID ++ "/" ++ role)

/-- Failure 502 with the message, where the check fails. -/
def refuse (fails : Bool) (message : String) : Except ApiError Unit := reject fails 502 message

/-- The checks of `validateMediaGatewaySessionResponse` for sessions whose media is relayed. -/
def validateMediaRelay (req : SessionRequest) (resp : SessionResponse) : Except ApiError Unit := do
  refuse (trimSpace req.viewerToken = "")
    "media gateway request missing viewerToken for gateway-media-relay"
  refuse (trimSpace req.workerToken = "")
    "media gateway request missing workerToken for gateway-media-relay"
  refuse (trimSpace req.viewerToken = trimSpace req.workerToken)
    "media gateway request viewerToken and workerToken must be role-bound"
  refuse (trimSpace resp.transport.mediaRelayURL = "")
    "media gateway response missing transport.mediaRelayUrl"
  refuse (!isAbsoluteURLWithScheme platform resp.transport.mediaRelayURL ["ws", "wss"])
    "media gateway response transport.mediaRelayUrl is invalid"
  refuse (trimSpace resp.workerBridge.mediaRelayURL = "")
    "media gateway response missing workerBridge.mediaRelayUrl"
  refuse (!isAbsoluteURLWithScheme platform resp.workerBridge.mediaRelayURL ["ws", "wss"])
    "media gateway response workerBridge.mediaRelayUrl is invalid"
  refuse resp.transport.mediaTermination.isNone
    "media gateway response missing transport.mediaTermination"
  refuse (trimSpace resp.transport.mediaGatewayURL = "")
    "media gateway response missing transport.mediaGatewayUrl"
  refuse (!isAbsoluteURLWithScheme platform resp.transport.mediaGatewayURL ["http", "https"])
    "media gateway response transport.mediaGatewayUrl is invalid"
  refuse (!isRoleBoundGatewayWebRTCEndpoint platform resp.transport.mediaGatewayURL
      resp.sessionID "viewer")
    "media gateway response transport.mediaGatewayUrl is not viewer role-bound"
  refuse (trimSpace resp.workerBridge.mediaGatewayURL = "")
    "media gateway response missing workerBridge.mediaGatewayUrl"
  refuse (!isAbsoluteURLWithScheme platform resp.workerBridge.mediaGatewayURL ["http", "https"])
    "media gateway response workerBridge.mediaGatewayUrl is invalid"
  refuse (!isRoleBoundGatewayWebRTCEndpoint platform resp.workerBridge.mediaGatewayURL
      resp.sessionID "worker")
    "media gateway response workerBridge.mediaGatewayUrl is not worker role-bound"
  refuse (trimSpace resp.transport.mediaPlaneMode ≠ MediaGateway.mediaPlaneModeGatewayWebRTCRelay)
    "media gateway response requires gateway-webrtc-relay mediaPlaneMode"
  refuse (trimSpace resp.transport.protocol ≠ MediaGateway.mediaTerminationProtocolWebRTCSRTP)
    "media gateway response requires webrtc-srtp transport protocol"
  refuse (trimSpace resp.workerBridge.protocol ≠ MediaGateway.mediaTerminationProtocolWebRTCSRTP)
    "media gateway response requires webrtc-srtp workerBridge protocol"
  let termination := resp.transport.mediaTermination
  refuse (termination.any fun termination =>
      termination.relayMode ≠ MediaGateway.relayModeGatewayMediaRelay ∨
        !termination.gatewayTerminatesMedia)
    "media gateway response missing gateway-media-relay capability"
  refuse (termination.any fun termination =>
      trimSpace termination.mediaPlaneMode ≠ MediaGateway.mediaPlaneModeGatewayWebRTCRelay)
    ("media gateway response mediaTermination requires gateway-webrtc-relay " ++
      "mediaPlaneMode")
  refuse (termination.any fun termination =>
      trimSpace termination.protocol ≠ MediaGateway.mediaTerminationProtocolWebRTCSRTP)
    "media gateway response mediaTermination requires webrtc-srtp protocol"

def validateMediaGatewaySessionResponse (req : SessionRequest) (resp : SessionResponse) :
    Except ApiError Unit := do
  refuse (resp.sessionID = "") "media gateway response missing sessionId"
  refuse (resp.sessionID ≠ req.sessionID)
    "media gateway response sessionId does not match request"
  refuse (trimSpace resp.gatewayAssignment.gatewayID = "")
    "media gateway response missing gatewayAssignment.gatewayId"
  refuse (trimSpace resp.workerAssignment.workerID = "")
    "media gateway response missing workerAssignment.workerId"
  refuse (trimSpace resp.transport.viewerURL = "")
    "media gateway response missing transport.viewerUrl"
  refuse (!isAbsoluteURLWithScheme platform resp.transport.viewerURL ["http", "https"])
    "media gateway response transport.viewerUrl is invalid"
  refuse (trimSpace resp.transport.signalingURL = "")
    "media gateway response missing transport.signalingUrl"
  refuse (!isAbsoluteURLWithScheme platform resp.transport.signalingURL ["ws", "wss"])
    "media gateway response transport.signalingUrl is invalid"
  refuse (trimSpace resp.workerBridge.bridgeID = "")
    "media gateway response missing workerBridge.bridgeId"
  let relayMode := firstNonEmpty [resp.workerBridge.relayMode, resp.gatewayAssignment.relayMode,
    req.gatewayAssignment.relayMode]
  if relayMode ≠ MediaGateway.relayModeGatewayMediaRelay then .ok ()
  else validateMediaRelay platform req resp

end Acceptance

end RemoteBrowser.SessionAuthority
