import RemoteBrowser.Json.Value
import Mathlib.Data.List.DropRight

/-!
# Signaling addresses of placed sessions

A session that a gateway carries has a `gatewayAssignment` in its placement, a JSON object
written by the Go services.  From it and from the configuration the control plane derives the
address at which a worker signals and the kinds of ICE candidates the worker may use.  A worker
of the warm pool learns both from `buildSessionAssignmentPayload`, a launched worker from the
environment that `buildWorkerEnvironment` sets up.

The URL parser, the serializer and the functions on texts are those of the platform.
-/

namespace RemoteBrowser.Gateway

/-! ## URLs -/

structure Url where
  /-- scheme, credentials, host and port -/
  origin : String
  /-- the path is no list of segments, and the setter of `pathname` ignores it -/
  rigid : Bool
  pathname : String
  query : List (String × String)
  fragment : String
  deriving DecidableEq

/-- Built-in functions of the platform. -/
structure UrlPlatform where
  trim : String → String
  toLowerCase : String → String
  /-- the text of a number -/
  number : ℚ → String
  encodeURIComponent : String → String
  /-- `new URL` of a text, unless it throws -/
  parse : String → Option Url
  /-- what the setter of `pathname` stores -/
  storedPath : String → String
  /-- `toString` of a URL -/
  href : Url → String

def stripTrailing (path : String) : String :=
  String.ofList (path.toList.rdropWhile (· == '/'))

def stripLeading (path : String) : String :=
  String.ofList (path.toList.dropWhile (· == '/'))

/-- `left || right` of two texts. -/
def firstText (left right : String) : String := if left = "" then right else left

def joinPath (start suffix : String) : String :=
  let left := stripTrailing start
  let right := stripLeading suffix
  if left = "" then
    firstText (stripTrailing ("/" ++ right)) "/"
  else
    firstText (stripTrailing (left ++ "/" ++ right)) "/"

/-- The segments of a path that are not empty. -/
def segments (path : String) : List String :=
  ((path.toList.splitOn '/').map String.ofList).filter (· ≠ "")

def deriveServiceBasePath (pathname : String) : String :=
  let parts := segments (stripTrailing pathname)
  let kept :=
    if parts.getLast? = some "worker" ∧ parts.dropLast.getLast? = some "ws" then
      parts.dropLast.dropLast
    else if parts.getLast? ∈ [some "ws", some "viewer", some "viewer.html"] then
      parts.dropLast
    else
      parts
  if kept = [] then "" else "/" ++ String.intercalate "/" kept

inductive Role where
  | viewer | worker
  deriving DecidableEq

def Role.name : Role → String
  | .viewer => "viewer"
  | .worker => "worker"

/-! ## Sessions and their assignments -/

/-- What the functions below read of a stored session. -/
structure PlacedSession where
  id : String
  sessionPlacement : Json
  transport : Json

/-- `session?.sessionPlacement?.gatewayAssignment?.[key]`. -/
def PlacedSession.assigned (session : PlacedSession) (key : String) : Option Json :=
  (session.sessionPlacement.member "gatewayAssignment").bind (Json.member key)

/-- A session without a placement is taken for one itself; it has no assignment either. -/
def usesGatewaySignaling (session : PlacedSession) : Bool :=
  (session.assigned "gatewayId").any Json.truthy ||
    (session.assigned "publicWsURL").any Json.truthy ||
    (session.assigned "publicWsUrl").any Json.truthy

/-- The key with its first letter in lower case. -/
def decapitalized (key : String) : String :=
  match key.toList with
  | [] => ""
  | first :: rest => String.ofList (first.toLower :: rest)

structure SignalingConfig where
  publicWsUrl : String
  workerWsUrl : String
  rbiInternalSharedSecret : String

namespace UrlPlatform

variable (platform : UrlPlatform)

/-- `normalizeHeaderValue` of `app/server.js`: of an array it takes the first item. -/
def normalizeHeaderValue : Option Json → Option String
  | some (.arr items) => Json.textOrEmpty platform.number items.head?
  | value => Json.textOrEmpty platform.number value

def getGatewayAssignmentValue (session : PlacedSession) (key : String) : Option String :=
  platform.normalizeHeaderValue
    (Json.or (session.assigned key) (session.assigned (decapitalized key)))

def getGatewayWsBaseUrl (config : SignalingConfig) (session : PlacedSession)
    (fallbackWsUrl : String) : Option String := do
  let assigned ← platform.getGatewayAssignmentValue session "publicWsURL"
  some (firstText assigned (firstText fallbackWsUrl config.publicWsUrl))

/-! ## Signaling URLs -/

def setPathname (url : Url) (path : String) : Url :=
  if url.rigid then url else { url with pathname := platform.storedPath path }

/-- The URL that `buildGatewaySignalingUrl` has built before it adds parameters. -/
def endpoint (baseUrl sessionId : String) (role : Role) : Option Url := do
  let parsed ← platform.parse baseUrl
  let path := joinPath (deriveServiceBasePath parsed.pathname)
    ("gateway/signaling/" ++ platform.encodeURIComponent sessionId ++ "/" ++ role.name)
  some { platform.setPathname parsed path with query := [], fragment := "" }

/-- The parameter `relay`, which `undefined`, `null` and the empty text leave unset. -/
def relayParameter : Option Json → Option (List (String × String))
  | none => some []
  | some .null => some []
  | some (.str "") => some []
  | some value => do
      let text ← value.text platform.number
      some [("relay", text)]

def buildGatewaySignalingUrl (baseUrl sessionId : String) (role : Role)
    (relay : Option Json) : Option String := do
  let url ← platform.endpoint baseUrl sessionId role
  let query ← platform.relayParameter relay
  some (platform.href { url with query })

/-- `buildSessionSignalingUrl` of `app/server.js`. -/
def buildSessionSignalingUrl (config : SignalingConfig) (session : PlacedSession) (role : Role)
    (fallbackWsUrl : String) : Option String :=
  if usesGatewaySignaling session then do
    let transportSignalingUrl ←
      match role with
      | .viewer => platform.normalizeHeaderValue (session.transport.member "signalingUrl")
      | .worker => some ""
    if transportSignalingUrl = "" then
      let baseUrl ← platform.getGatewayWsBaseUrl config session fallbackWsUrl
      let relay ← platform.getGatewayAssignmentValue session "relayMode"
      platform.buildGatewaySignalingUrl baseUrl session.id role (some (.str relay))
    else
      some transportSignalingUrl
  else
    match role with
    | .worker => some config.workerWsUrl
    | .viewer => some fallbackWsUrl

/-- `buildWorkerSignalingUrl` of `app/worker-runtime.js`. -/
def buildWorkerSignalingUrl (config : SignalingConfig) (session : PlacedSession) :
    Option String :=
  if usesGatewaySignaling session then do
    let relay := Json.or (session.assigned "relayMode") (some (.str ""))
    let workerBaseUrl := platform.trim config.workerWsUrl
    if workerBaseUrl ≠ "" then
      platform.buildGatewaySignalingUrl workerBaseUrl session.id .worker relay
    else
      let assigned ← Json.textOrEmpty platform.number
        (Json.or (session.assigned "publicWsURL") (session.assigned "publicWsUrl"))
      let baseUrl := firstText (platform.trim assigned) config.workerWsUrl
      platform.buildGatewaySignalingUrl baseUrl session.id .worker relay
  else
    some config.workerWsUrl

end UrlPlatform

end RemoteBrowser.Gateway
