import RemoteBrowser.Async.Monitor
import RemoteBrowser.ControlPlane.Handlers
import RemoteBrowser.Redis.Keyspace
import Mathlib.Algebra.Order.Ring.Rat

/-!
# Handoff of a gateway session to its viewer

`GET /viewer` sends a browser without the viewer cookie of a gateway session to
`GET /swg/handoff`, which sets that cookie.  A handoff is an opaque token, enciphered by this
server, or a query signed by the gateway.  It is accepted while its timestamp is fresh, and
once: the replay key is remembered in Redis or, without Redis, in a map of the process.

The functions of JavaScript on texts, the URL parser and the cryptography are parameters
about which nothing is assumed.  Cookies are those that `parseCookies` reads.
-/

namespace RemoteBrowser.Swg

open Async

/-! ## Fields -/

/-- The names under which a query, a handoff and the stored context keep their values. -/
inductive SwgField where
  | token | signature | method | contractVersion | requestKind | originalMethod | sessionId
  | targetUrl | timestamp | transactionId | orgId | boundaryType | boundaryId | originId
  | originType | tenantId | profileId | policy | provider | providerCategory
  | fallbackProvider | fallbackReason | nonce | keyId | upstreamHost | upstreamScheme
  | upstreamPort
  deriving DecidableEq

/-- The text of a name. -/
def SwgField.name : SwgField → String
  | .token => "token"
  | .signature => "signature"
  | .method => "method"
  | .contractVersion => "contractVersion"
  | .requestKind => "requestKind"
  | .originalMethod => "originalMethod"
  | .sessionId => "sessionId"
  | .targetUrl => "targetUrl"
  | .timestamp => "timestamp"
  | .transactionId => "transactionId"
  | .orgId => "orgId"
  | .boundaryType => "boundaryType"
  | .boundaryId => "boundaryId"
  | .originId => "originId"
  | .originType => "originType"
  | .tenantId => "tenantId"
  | .profileId => "profileId"
  | .policy => "policy"
  | .provider => "provider"
  | .providerCategory => "providerCategory"
  | .fallbackProvider => "fallbackProvider"
  | .fallbackReason => "fallbackReason"
  | .nonce => "nonce"
  | .keyId => "keyId"
  | .upstreamHost => "upstreamHost"
  | .upstreamScheme => "upstreamScheme"
  | .upstreamPort => "upstreamPort"

/-- A value for every name; what is absent is the empty text. -/
abbrev SwgFields := SwgField → String

/-- `left || right` of two texts. -/
def orElse (left right : String) : String := if left = "" then right else left

/-! ## What the platform provides -/

structure ParsedUrl where
  /-- `protocol` without its colon -/
  scheme : String
  hostname : String
  port : String
  deriving DecidableEq

/-- The payload of a signed session token. -/
structure SignedPayload where
  role : String
  sessionId : String
  exp : Option Nat
  deriving DecidableEq

/-- Built-in functions on texts, and the cryptography under the configured secrets. -/
structure Platform where
  trim : String → String
  toUpperCase : String → String
  toLowerCase : String → String
  /-- `Number` of a text, when it is finite -/
  number : String → Option ℚ
  /-- `new URL` of a text, unless it throws -/
  url : String → Option ParsedUrl
  /-- enciphering with an initialization vector: the encoded vector, ciphertext and tag -/
  encipher : String → SwgFields → String × String × String
  /-- deciphering the encoded parts and parsing the plaintext, unless it throws -/
  decipher : String → String → String → Option SwgFields
  /-- the HMAC of a text under `swgSharedSecret`, in hexadecimal -/
  hmac : String → String
  /-- the payload of a token signed under `tokenSecret`, or the text of the error -/
  tokenPayload : String → Except String SignedPayload

/-- The configuration values that the routes read. -/
structure HandoffSettings where
  enableSwgBootstrap : Bool := true
  swgTimestampToleranceMs : Nat
  swgReplayTtlMs : Nat
  swgReplayKeyPrefix : String := "swg:replay"
  rbiFallbackProvider : String := "menlo"
  /-- the session store is backed by Redis -/
  redis : Bool

/-! ## `shared/swg-handoff.js` -/

namespace Platform

variable (platform : Platform)

def normalizeMethod (value fallback : String) : String :=
  platform.toUpperCase (platform.trim (orElse value fallback))

/-- The default port of a scheme. -/
def defaultPort (scheme : String) : String := if scheme = "https" then "443" else "80"

/-- `deriveUpstreamDefaults`: empty texts when there is no valid URL. -/
def deriveUpstreamDefaults (input : SwgFields) : String × String × String :=
  let targetUrl := platform.trim (input .targetUrl)
  if targetUrl = "" then ("", "", "")
  else match platform.url targetUrl with
    | none => ("", "", "")
    | some parsed =>
        let scheme := platform.toLowerCase parsed.scheme
        (parsed.hostname, scheme, orElse parsed.port (defaultPort scheme))

def normalizeSwgHandoffFields (input : SwgFields) : SwgFields
  | .token => ""
  | .signature => ""
  | .method => platform.normalizeMethod (input .method) "GET"
  | .originalMethod => platform.normalizeMethod (input .originalMethod) ""
  | .upstreamHost =>
      platform.trim (orElse (input .upstreamHost) (platform.deriveUpstreamDefaults input).1)
  | .upstreamScheme =>
      platform.trim (orElse (input .upstreamScheme) (platform.deriveUpstreamDefaults input).2.1)
  | .upstreamPort =>
      platform.trim (orElse (input .upstreamPort) (platform.deriveUpstreamDefaults input).2.2)
  | field => platform.trim (input field)

/-- The order of the lines of the canonical string. -/
def canonicalOrder : List SwgField :=
  [.method, .contractVersion, .requestKind, .originalMethod, .sessionId, .targetUrl,
    .timestamp, .transactionId, .orgId, .boundaryType, .boundaryId, .originId, .originType,
    .tenantId, .profileId, .policy, .provider, .providerCategory, .fallbackProvider,
    .fallbackReason, .nonce, .keyId, .upstreamHost, .upstreamScheme, .upstreamPort]

def buildSwgHandoffCanonicalString (input : SwgFields) : String :=
  let fields := platform.normalizeSwgHandoffFields input
  "\n".intercalate (canonicalOrder.map fun field => field.name ++ ":" ++ fields field)

def signSwgHandoffRequest (input : SwgFields) : String :=
  platform.hmac (platform.buildSwgHandoffCanonicalString input)

/-- `verifySwgHandoffRequest`, which compares the trimmed texts. -/
def verifySwgHandoffRequest (input : SwgFields) (signature : String) : Bool :=
  platform.trim (platform.signSwgHandoffRequest input) = platform.trim signature

def buildOpaqueSwgHandoffToken (iv : String) (input : SwgFields) : String :=
  let parts := platform.encipher iv (platform.normalizeSwgHandoffFields input)
  "v1." ++ parts.1 ++ "." ++ parts.2.1 ++ "." ++ parts.2.2

/-- `value.split(".")` -/
def splitDots (value : String) : List String := (value.toList.splitOn '.').map String.ofList

def decryptSwgHandoffToken (token : String) : Except String SwgFields :=
  let value := platform.trim token
  if value = "" then .error "SWG handoff token is required"
  else match splitDots value with
    | [version, encodedIv, encodedCiphertext, encodedTag] =>
        if version ≠ "v1" then
          .error ("Unsupported SWG handoff token version: " ++ version)
        else match platform.decipher encodedIv encodedCiphertext encodedTag with
          | none => .error "Invalid SWG handoff token"
          | some fields => .ok (platform.normalizeSwgHandoffFields fields)
    | _ => .error "Invalid SWG handoff token format"

/-- `extractSwgHandoffQuery`; a query has no `method`. -/
def extractSwgHandoffQuery (query : SwgFields) : SwgFields
  | .method => ""
  | field => platform.trim (query field)

end Platform

/-! ## Sessions and responses -/

/-- What the routes use of a session. -/
structure SwgSession where
  id : String
  state : String
  expiresAt : Nat
  targetUrl : String
  /-- `client.authMode` -/
  authMode : String
  /-- `client.swg` -/
  swg : SwgFields
  /-- `transport.viewerUrl` -/
  viewerUrl : String
  viewerToken : String

/-- Where a redirect leads. -/
inductive Location where
  /-- `/swg/handoff` with an opaque token -/
  | handoff (token : String)
  /-- `/viewer` for a session -/
  | viewer (sessionId : String)
  /-- the URL in the transport of the session -/
  | transport (url : String)
  deriving DecidableEq

inductive HandoffResponse where
  | error (failure : HttpError)
  | redirect (location : Location) (setCookie : List (String × String))
  | viewerPage
  deriving DecidableEq

def viewerCookieName (sessionId : String) : String := "rbi_viewer_" ++ sessionId

/-- `buildViewerCookieHeaders`, as names and values. -/
def buildViewerCookieHeaders (session : SwgSession) : List (String × String) :=
  [(viewerCookieName session.id, session.viewerToken),
    ("rbi_active_viewer_session", session.id)]

/-- The cookies of a request; an absent cookie is the empty text. -/
abbrev Cookies := String → String

def getViewerCookieToken (cookies : Cookies) (sessionId : String) : String :=
  cookies (viewerCookieName sessionId)

/-- Whether `exp` is set and has passed. -/
def SignedPayload.expired (now : Nat) (payload : SignedPayload) : Bool :=
  match payload.exp with
  | some (time + 1) => decide (time + 1 < now)
  | _ => false

/-- `verifySessionToken` for the viewer cookie, with the text of its error. -/
def Platform.validateSessionToken (platform : Platform) (now : Nat) (cookies : Cookies)
    (session : SwgSession) : Except String Unit :=
  let token := getViewerCookieToken cookies session.id
  if token = "" then .error "Missing token"
  else if session.id = "" then .error "Session not found"
  else if session.viewerToken ≠ "" ∧ token = session.viewerToken then .ok ()
  else match platform.tokenPayload token with
    | .error text => .error text
    | .ok payload =>
        if payload.expired now then .error "Token expired"
        else if payload.role ≠ "viewer" ∨ payload.sessionId ≠ session.id then
          .error "Invalid session token"
        else .ok ()

def Platform.hasValidViewerCookieForSession (platform : Platform) (now : Nat)
    (cookies : Cookies) (session : SwgSession) : Bool :=
  match platform.validateSessionToken now cookies session with
  | .ok () => true
  | .error _ => false

/-! ## Operations -/

inductive HandoffOp where
  /-- `sessionStore.get` -/
  | getSession (id : String)
  /-- `Date.now()` -/
  | now
  /-- `rememberReplay` -/
  | rememberReplay (key : String)
  /-- `crypto.randomBytes` and `crypto.randomUUID` -/
  | random
  /-- `sessionStore.markViewerSeen` -/
  | markViewerSeen (id : String)
  /-- the response to the client -/
  | respond (response : HandoffResponse)
  /-- the rest of the control plane stores or removes a session -/
  | putSession (id : String) (session : Option SwgSession)
  /-- time passes -/
  | elapse (ms : Nat)

@[reducible] def HandoffOp.Reply : HandoffOp → Type
  | .getSession _ => Option SwgSession
  | .now => Nat
  | .rememberReplay _ => Except HttpError Bool
  | .random => String × String
  | .markViewerSeen _ => Unit
  | .respond _ => Unit
  | .putSession _ _ => Unit
  | .elapse _ => Unit

abbrev handoff.face : Interface := ⟨HandoffOp, HandoffOp.Reply⟩

/-- The sessions, both replay memories, and the time. -/
structure HandoffState where
  sessions : String → Option SwgSession
  /-- `swgReplayMemory` -/
  swgReplayMemory : String → Option Nat
  /-- the replay keys in Redis -/
  redis : String → Option (Redis.Entry Unit)
  clock : Nat

def HandoffState.initial : HandoffState := ⟨fun _ => none, fun _ => none, fun _ => none, 0⟩

namespace HandoffState

/-- `rememberReplay` with `SET NX PX`, which Redis refuses for a time of zero. -/
def rememberInRedis (settings : HandoffSettings) (key : String) (state : HandoffState) :
    HandoffState × Except HttpError Bool :=
  let redisKey := settings.swgReplayKeyPrefix ++ ":" ++ key
  if settings.swgReplayTtlMs = 0 then
    (state, .error ⟨500, "ERR invalid expire time in 'set' command"⟩)
  else match Redis.Entry.read state.clock (state.redis redisKey) with
    | some () => (state, .ok false)
    | none =>
        let entry := ⟨(), some (state.clock + settings.swgReplayTtlMs)⟩
        ({ state with redis := Function.update state.redis redisKey (some entry) }, .ok true)

/-- The entries that the loop of `rememberReplay` keeps. -/
def unforgotten (settings : HandoffSettings) (state : HandoffState) (key : String) :
    Option Nat :=
  (state.swgReplayMemory key).filter fun seenAt =>
    ¬seenAt + settings.swgReplayTtlMs < state.clock

/-- `rememberReplay` with the map of the process. -/
def rememberInMemory (settings : HandoffSettings) (key : String) (state : HandoffState) :
    HandoffState × Except HttpError Bool :=
  let kept := state.unforgotten settings
  if (kept key).isSome then ({ state with swgReplayMemory := kept }, .ok false)
  else
    ({ state with swgReplayMemory := Function.update kept key (some state.clock) }, .ok true)

/-- The effect of one operation and its reply.  The choice is what the random generator
returns. -/
@[grind =] def exec (settings : HandoffSettings) (random : String × String) :
    (op : HandoffOp) → HandoffState → HandoffState × op.Reply
  | .getSession id, state => (state, state.sessions id)
  | .now, state => (state, state.clock)
  | .rememberReplay key, state =>
      if settings.redis then state.rememberInRedis settings key
      else state.rememberInMemory settings key
  | .random, state => (state, random)
  | .markViewerSeen _, state => (state, ())
  | .respond _, state => (state, ())
  | .putSession id session, state =>
      ({ state with sessions := Function.update state.sessions id session }, ())
  | .elapse ms, state => ({ state with clock := state.clock + ms }, ())

end HandoffState

abbrev SwgHandler := Program handoff.face

/-- Await an operation. -/
def awaitSwg (op : HandoffOp) : SwgHandler op.Reply := @Program.call handoff.face op

/-! ## Checks -/

section Checks

variable (platform : Platform) (settings : HandoffSettings)

/-- `requireSwgFields` -/
def requireSwgFields (fields : SwgFields) (required : List SwgField) : Except HttpError Unit :=
  let missing := required.filter fun field => platform.trim (fields field) = ""
  if missing = [] then .ok ()
  else .error ⟨400, "Missing SWG fields: " ++ ", ".intercalate (missing.map SwgField.name)⟩

/-- `requireOrgBoundaryContext` -/
def requireOrgBoundaryContext (fields : SwgFields) : Except HttpError Unit :=
  if platform.toLowerCase (platform.trim (fields .boundaryType)) ≠ "org" then
    .error ⟨422, "Unsupported SWG boundary type"⟩
  else if fields .orgId ≠ fields .boundaryId then .error ⟨422, "SWG org boundary mismatch"⟩
  else if fields .tenantId ≠ fields .orgId then .error ⟨422, "SWG tenant boundary mismatch"⟩
  else .ok ()

/-- `isSwgAuthMode` -/
def isSwgAuthMode (value : String) : Bool := platform.toLowerCase value = "swg"

/-- What the handler of an exception answers to an error without a status. -/
def internalError (text : String) : HttpError := ⟨500, text⟩

/-- Checks that all succeed. -/
theorem bind_eq_ok {ε α β : Type} {first : Except ε α} {next : α → Except ε β} {result : β}
    (ok : (first >>= next) = .ok result) :
    ∃ value, first = .ok value ∧ next value = .ok result := by
  cases first with
  | error failure => cases ok
  | ok value => exact ⟨value, rfl, ok⟩

/-- `deriveUpstreamContext`: host, scheme and port. -/
def deriveUpstreamContext (fields : SwgFields) (targetUrl : String) :
    Except HttpError SwgFields :=
  match platform.url targetUrl with
  | none => .error (internalError "Invalid URL")
  | some url =>
      let scheme := platform.toLowerCase (orElse (fields .upstreamScheme) url.scheme)
      .ok fun
        | .upstreamHost => orElse (fields .upstreamHost) url.hostname
        | .upstreamScheme => scheme
        | .upstreamPort =>
            orElse (orElse (fields .upstreamPort) url.port) (Platform.defaultPort scheme)
        | _ => ""

/-- The names in an upstream context. -/
def SwgField.isUpstream : SwgField → Bool
  | .upstreamHost => true
  | .upstreamScheme => true
  | .upstreamPort => true
  | _ => false

/-- `{ ...fields, ...upstream }` -/
def SwgFields.withUpstream (fields upstream : SwgFields) : SwgFields := fun field =>
  if field.isUpstream then upstream field else fields field

/-- `deriveSwgSessionContext` -/
def deriveSwgSessionContext (session : SwgSession) : Except HttpError (Option SwgFields) :=
  let swg := session.swg
  if isSwgAuthMode platform session.authMode = false then .ok none
  else if swg .transactionId = "" ∨ swg .tenantId = "" ∨ swg .profileId = "" ∨
      swg .policy = "" then .ok none
  else do
    let upstream ← deriveUpstreamContext platform swg session.targetUrl
    let stored : SwgFields := fun
      | .orgId => orElse (swg .orgId) (swg .tenantId)
      | .requestKind => orElse (swg .requestKind) "http-document"
      | .originalMethod => orElse (swg .originalMethod) "GET"
      | .fallbackProvider => orElse (swg .fallbackProvider) settings.rbiFallbackProvider
      | .token => ""
      | .signature => ""
      | .method => ""
      | .sessionId => ""
      | .targetUrl => ""
      | .timestamp => ""
      | field => swg field
    return some (stored.withUpstream upstream)

/-- The fields that every handoff must have. -/
def handoffFields : List SwgField :=
  [.timestamp, .transactionId, .sessionId, .targetUrl, .contractVersion, .requestKind,
    .originalMethod, .orgId, .boundaryType, .boundaryId, .originId, .originType, .tenantId,
    .profileId, .policy, .provider, .providerCategory, .fallbackProvider, .nonce, .keyId]

/-- A handoff as it is carried by a query. -/
inductive CarriedHandoff where
  | opaqueToken (token : String)
  | legacy (fields : SwgFields)

/-- The handoff in a query. -/
def CarriedHandoff.ofQuery (query : SwgFields) : CarriedHandoff :=
  let extracted := platform.extractSwgHandoffQuery query
  if extracted .token = "" then .legacy extracted else .opaqueToken (extracted .token)

/-- The first part of `validateSwgHandoffRequest`, up to the lookup of the session. -/
def readHandoff : CarriedHandoff → Except HttpError SwgFields
  | .opaqueToken token =>
      match platform.decryptSwgHandoffToken token with
      | .error _ => .error ⟨401, "Invalid SWG handoff token"⟩
      | .ok handoff => do
          requireSwgFields platform handoff handoffFields
          requireOrgBoundaryContext platform handoff
          return handoff
  | .legacy handoff => do
      requireSwgFields platform handoff (.signature :: handoffFields)
      requireOrgBoundaryContext platform handoff
      return handoff

/-- The checks of the handoff against the session; the result is the timestamp. -/
def checkSession (handoff : SwgFields) (session : SwgSession) : Except HttpError ℚ :=
  if isSwgAuthMode platform session.authMode = false then
    .error ⟨403, "Session is not eligible for SWG handoff"⟩
  else if platform.toUpperCase (platform.trim (orElse (handoff .method) "GET")) ≠ "GET" then
    .error ⟨400, "Invalid SWG handoff method"⟩
  else if handoff .sessionId ≠ session.id then .error ⟨400, "SWG handoff session mismatch"⟩
  else if handoff .targetUrl ≠ session.targetUrl then
    .error ⟨400, "SWG handoff target mismatch"⟩
  else match platform.number (handoff .timestamp) with
    | none => .error ⟨400, "Invalid SWG handoff timestamp"⟩
    | some timestamp => .ok timestamp

/-- `Math.abs(Date.now() - timestamp) > config.swgTimestampToleranceMs` -/
def Stale (now : Nat) (timestamp : ℚ) : Prop :=
  (settings.swgTimestampToleranceMs : ℚ) < now - timestamp ∨
    (settings.swgTimestampToleranceMs : ℚ) < timestamp - now

instance (now : Nat) (timestamp : ℚ) : Decidable (Stale settings now timestamp) :=
  inferInstanceAs (Decidable (_ ∨ _))

/-- The fields that are compared with the stored context. -/
def comparedFields : List SwgField :=
  [.transactionId, .orgId, .boundaryType, .boundaryId, .originId, .originType, .tenantId,
    .profileId, .policy, .contractVersion, .requestKind, .originalMethod, .provider,
    .providerCategory, .fallbackProvider, .fallbackReason, .nonce, .keyId, .upstreamHost,
    .upstreamScheme, .upstreamPort]

/-- The input of the signature of a legacy handoff. -/
def canonicalInput (handoff upstream : SwgFields) (session : SwgSession) : SwgFields
  | .method => "GET"
  | .sessionId => session.id
  | .targetUrl => session.targetUrl
  | field => handoff.withUpstream upstream field

/-- The comparison with the stored context and the check of a legacy signature. -/
def checkContext (carried : CarriedHandoff) (handoff : SwgFields) (session : SwgSession) :
    Except HttpError Unit := do
  let upstream ← deriveUpstreamContext platform handoff session.targetUrl
  let storedSwg ← deriveSwgSessionContext platform settings session
  let presented := handoff.withUpstream upstream
  let mismatches := comparedFields.filter fun field =>
    (storedSwg.elim "" fun stored => stored field) ≠ presented field
  if mismatches ≠ [] then
    .error ⟨400, "SWG handoff context mismatch: " ++
      ", ".intercalate (mismatches.map SwgField.name)⟩
  else match carried with
    | .opaqueToken _ => .ok ()
    | .legacy _ =>
        if platform.verifySwgHandoffRequest (canonicalInput handoff upstream session)
            (handoff .signature) then .ok ()
        else .error ⟨401, "Invalid SWG handoff signature"⟩

end Checks

/-- The key under which a handoff is remembered. -/
def replayKey (handoff : SwgFields) : String :=
  "handoff:" ++ handoff .sessionId ++ ":" ++ handoff .transactionId ++ ":" ++
    handoff .timestamp ++ ":" ++ handoff .nonce

/-! ## Routes -/

section Routes

variable (platform : Platform) (settings : HandoffSettings)

/-- The end of `validateSwgHandoffRequest`: is the handoff new, or the viewer known? -/
def admitOnce (handoff : SwgFields) (session : SwgSession) (cookies : Cookies) :
    SwgHandler (Except HttpError SwgSession) := do
  match ← awaitSwg (.rememberReplay (replayKey handoff)) with
  | .error failure => return .error failure
  | .ok true => return .ok session
  | .ok false =>
      let now ← awaitSwg .now
      if platform.hasValidViewerCookieForSession now cookies session then return .ok session
      else return .error ⟨409, "Replayed SWG handoff"⟩

/-- `validateSwgHandoffRequest` -/
def validateSwgHandoffRequest (query : SwgFields) (cookies : Cookies) :
    SwgHandler (Except HttpError SwgSession) := do
  if settings.enableSwgBootstrap = false then
    return .error ⟨404, "SWG handoff is disabled"⟩
  else
    let carried := CarriedHandoff.ofQuery platform query
    match readHandoff platform carried with
    | .error failure => return .error failure
    | .ok handoff =>
        match ← awaitSwg (.getSession (handoff .sessionId)) with
        | none => return .error ⟨404, "Session not found"⟩
        | some session =>
            match checkSession platform handoff session with
            | .error failure => return .error failure
            | .ok timestamp =>
                let now ← awaitSwg .now
                if Stale settings now timestamp then
                  return .error ⟨401, "Stale SWG handoff"⟩
                else
                  match checkContext platform settings carried handoff session with
                  | .error failure => return .error failure
                  | .ok () => admitOnce platform handoff session cookies

/-- `GET /swg/handoff` -/
def getSwgHandoff (query : SwgFields) (cookies : Cookies) : SwgHandler Unit := do
  match ← validateSwgHandoffRequest platform settings query cookies with
  | .error failure => awaitSwg (.respond (.error failure))
  | .ok session =>
      let location := if session.viewerUrl = "" then Location.viewer session.id
        else Location.transport session.viewerUrl
      awaitSwg (.respond (.redirect location (buildViewerCookieHeaders session)))

/-- `shouldRedirectSwgViewerEntry` -/
def shouldRedirectSwgViewerEntry (cookies : Cookies) (session : SwgSession) : Bool :=
  isSwgAuthMode platform session.authMode && decide (getViewerCookieToken cookies session.id = "")

/-- The input of `buildSwgHandoffQuery` for a session. -/
def handoffInput (session : SwgSession) (context : SwgFields) (now : Nat) (uuid : String) :
    SwgFields
  | .method => ""
  | .sessionId => session.id
  | .targetUrl => session.targetUrl
  | .timestamp => platform.trim (toString now)
  | .transactionId => orElse (platform.trim (context .transactionId)) uuid
  | field => context field

/-- `buildSwgHandoffUrl`, as the token in the query of the URL. -/
def buildSwgHandoffUrl (session : SwgSession) (context : SwgFields) : SwgHandler Location := do
  let now ← awaitSwg .now
  let (iv, uuid) ← awaitSwg .random
  return .handoff (platform.buildOpaqueSwgHandoffToken iv
    (handoffInput platform session context now uuid))

/-- `validateViewerAccess` and what follows it in the route. -/
def showViewer (sessionId : String) (session : SwgSession) (cookies : Cookies) :
    SwgHandler Unit := do
  if session.state = "terminated" then
    awaitSwg (.respond (.error ⟨410, "Session is terminated"⟩))
  else
    let now ← awaitSwg .now
    if session.expiresAt < now then
      awaitSwg (.respond (.error ⟨410, "Session has expired"⟩))
    else
      match platform.validateSessionToken now cookies session with
      | .error text => awaitSwg (.respond (.error (internalError text)))
      | .ok () =>
          awaitSwg (.markViewerSeen sessionId)
          awaitSwg (.respond .viewerPage)

/-- `GET /viewer`; no `sessionId` in the query is the empty text. -/
def getViewer (sessionId : String) (cookies : Cookies) : SwgHandler Unit := do
  if sessionId = "" then awaitSwg (.respond .viewerPage)
  else
    match ← awaitSwg (.getSession sessionId) with
    | none => awaitSwg (.respond .viewerPage)
    | some session =>
        if shouldRedirectSwgViewerEntry platform cookies session then
          match deriveSwgSessionContext platform settings session with
          | .error failure => awaitSwg (.respond (.error failure))
          | .ok (some context) =>
              let location ← buildSwgHandoffUrl platform session context
              awaitSwg (.respond (.redirect location []))
          | .ok none => showViewer platform sessionId session cookies
        else showViewer platform sessionId session cookies

end Routes

/-! ## The system -/

inductive HandoffJob where
  /-- `GET` or `HEAD` of `/swg/handoff` -/
  | swgHandoff (query : SwgFields) (cookies : Cookies)
  /-- `GET` or `HEAD` of `/viewer` -/
  | viewer (sessionId : String) (cookies : Cookies)
  | putSession (id : String) (session : Option SwgSession)
  | elapse (ms : Nat)

def HandoffJob.body (platform : Platform) (settings : HandoffSettings) :
    HandoffJob → SwgHandler Unit
  | .swgHandoff query cookies => getSwgHandoff platform settings query cookies
  | .viewer sessionId cookies => getViewer platform settings sessionId cookies
  | .putSession id session => awaitSwg (.putSession id session)
  | .elapse ms => awaitSwg (.elapse ms)

/-- All interleavings of requests to both routes. -/
@[reducible] def handoff (platform : Platform) (settings : HandoffSettings) : System where
  face := handoff.face
  State := HandoffState
  Choice := String × String
  Job := HandoffJob
  exec := HandoffState.exec settings
  body := HandoffJob.body platform settings
  canStart := fun _ _ => true

end RemoteBrowser.Swg
