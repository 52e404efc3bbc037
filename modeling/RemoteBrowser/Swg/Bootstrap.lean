import RemoteBrowser.Async.Monitor
import RemoteBrowser.ControlPlane.Handlers

/-!
# Bootstrap requests of a secure web gateway

`POST /api/swg/sessions` creates a session for a transaction of the gateway, once for
each transaction identifier.  The identifier's record in Redis says that a request is
creating the session, that the session is ready, with the response, or that the
creation failed; the other requests of the transaction poll the record.

The requests here have passed `validateSwgBootstrapRequest`.  Every Redis command, the
creation itself and the response are one operation.  Records do not expire; their
timestamps and the error text of a failed record, which nothing reads, are left out, and
so is the body that is handed on to the creation.
-/

namespace RemoteBrowser.Swg

open Async

/-! ## Data -/

/-- What the route uses of the context of a validated request. -/
structure SwgContext where
  transactionId : String
  requestFingerprint : String
  tenantId : String := ""
  profileId : String := ""
  policy : String := ""
  upstreamHost : String := ""
  upstreamScheme : String := ""
  upstreamPort : String := ""
  deriving DecidableEq

/-- A request, and whether it wants a redirect as its response. -/
structure BootstrapRequest where
  context : SwgContext
  wantsRedirect : Bool := false
  deriving DecidableEq

/-- What the creation of a session returns. -/
structure SessionPayload where
  sessionId : String
  handoffUrl : String := ""
  viewerUrl : String := ""
  viewerEntryMode : String := ""
  deriving DecidableEq

/-- The response of a bootstrap. -/
structure BootstrapResponse where
  sessionId : String
  handoffUrl : String
  viewerUrl : String
  viewerEntryMode : String
  viewerCookie : Option String
  transactionId : String
  tenantId : String
  profileId : String
  policy : String
  upstreamHost : String
  upstreamScheme : String
  upstreamPort : String
  deriving DecidableEq

/-- The response payload of the route. -/
def BootstrapResponse.build (context : SwgContext) (payload : SessionPayload)
    (viewerCookie : Option String) : BootstrapResponse where
  sessionId := payload.sessionId
  handoffUrl := if payload.handoffUrl = "" then payload.viewerUrl else payload.handoffUrl
  viewerUrl := payload.viewerUrl
  viewerEntryMode := payload.viewerEntryMode
  viewerCookie := viewerCookie
  transactionId := context.transactionId
  tenantId := context.tenantId
  profileId := context.profileId
  policy := context.policy
  upstreamHost := context.upstreamHost
  upstreamScheme := context.upstreamScheme
  upstreamPort := context.upstreamPort

inductive RecordState where
  | creating
  | ready
  | failed
  deriving DecidableEq

/-- The idempotency record of a transaction. -/
structure IdempotencyRecord where
  state : RecordState
  fingerprint : String
  response : Option BootstrapResponse := none
  statusCode : Option Nat := none
  deriving DecidableEq

/-- What a request is answered with: the response of its own creation, the stored
response of another one, or an error. -/
inductive Answer where
  | created (status : Nat) (response : BootstrapResponse)
  | replayed (status : Nat) (response : BootstrapResponse)
  | failed (failure : HttpError)
  deriving DecidableEq

/-! ## Operations -/

inductive BootstrapOp where
  /-- `redisClient.set(key, record, { NX: nx })` -/
  | setRecord (key : String) (record : IdempotencyRecord) (nx : Bool)
  | getRecord (key : String)
  | deleteRecord (key : String)
  /-- `Date.now()` -/
  | now
  /-- the delay between two polls -/
  | sleep
  /-- `createRemoteSession` or `delegateSwgBootstrapToSessionAuthority` -/
  | createSession (context : SwgContext)
  /-- `sessionStore.get` of the new session, for its viewer cookie -/
  | viewerCookie (sessionId : String)
  /-- the response to the client -/
  | respond (answer : Answer)
  /-- time passes -/
  | elapse (ms : Nat)
  deriving DecidableEq

@[reducible] def BootstrapOp.Reply : BootstrapOp → Type
  | .setRecord _ _ _ => Bool
  | .getRecord _ => Option IdempotencyRecord
  | .deleteRecord _ => Unit
  | .now => Nat
  | .sleep => Unit
  | .createSession _ => Except HttpError SessionPayload
  | .viewerCookie _ => Option String
  | .respond _ => Unit
  | .elapse _ => Unit

abbrev bootstrap.face : Interface := ⟨BootstrapOp, BootstrapOp.Reply⟩

/-- The records by key, and the time. -/
structure BootstrapState where
  records : String → Option IdempotencyRecord
  clock : Nat

def BootstrapState.initial : BootstrapState := ⟨fun _ => none, 0⟩

/-- What the environment decides: the result of the creation and of the session
lookup. -/
structure BootstrapOutcome where
  created : Except HttpError SessionPayload
  viewerCookie : Option String := none

namespace BootstrapState

/-- The effect of one operation and its reply. -/
@[grind =] def exec (outcome : BootstrapOutcome) :
    (op : BootstrapOp) → BootstrapState → BootstrapState × op.Reply
  | .setRecord key record nx, state =>
      if nx = true ∧ (state.records key).isSome then (state, false)
      else ({ state with records := Function.update state.records key (some record) }, true)
  | .getRecord key, state => (state, state.records key)
  | .deleteRecord key, state =>
      ({ state with records := Function.update state.records key none }, ())
  | .now, state => (state, state.clock)
  | .sleep, state => (state, ())
  | .createSession _, state => (state, outcome.created)
  | .viewerCookie _, state => (state, outcome.viewerCookie)
  | .respond _, state => (state, ())
  | .elapse ms, state => ({ state with clock := state.clock + ms }, ())

end BootstrapState

/-! ## The route -/

abbrev BootstrapHandler := Program bootstrap.face

/-- Await an operation. -/
def await (op : BootstrapOp) : BootstrapHandler op.Reply := @Program.call bootstrap.face op

/-- The configuration values that the route reads.  `pollRounds` bounds the unrolling of
the polling loop. -/
structure BootstrapSettings where
  idempotencyWaitMs : Nat := 0
  pollRounds : Nat := 1
  deriving DecidableEq

def swgBootstrapIdempotencyKey (transactionId : String) : String :=
  "transaction:" ++ transactionId

/-- The result of `beginSwgBootstrapIdempotency`. -/
inductive Idempotency where
  | acquired
  | existing (response : BootstrapResponse) (statusCode : Nat)
  deriving DecidableEq

def reusedTransaction : HttpError :=
  ⟨409, "SWG transaction id was reused with different bootstrap input"⟩

def transactionInProgress : HttpError :=
  ⟨409, "SWG bootstrap transaction is already in progress"⟩

/-- The record of a request that creates the session. -/
def creatingRecord (context : SwgContext) : IdempotencyRecord :=
  ⟨.creating, context.requestFingerprint, none, none⟩

/-- The loop of `beginSwgBootstrapIdempotency`. -/
def pollIdempotency (context : SwgContext) (key : String) (deadline : Nat) :
    Nat → BootstrapHandler (Except HttpError Idempotency)
  | 0 => .stalled
  | rounds + 1 => do
      match ← await (.getRecord key) with
      | none =>
          if ← await (.setRecord key (creatingRecord context) true) then
            return .ok .acquired
          else pollIdempotency context key deadline rounds
      | some existing =>
          if existing.fingerprint ≠ context.requestFingerprint then
            return .error reusedTransaction
          else
            match existing.state, existing.response with
            | .ready, some response =>
                return .ok (.existing response (existing.statusCode.getD 200))
            | .failed, _ =>
                await (.deleteRecord key)
                if ← await (.setRecord key (creatingRecord context) true) then
                  return .ok .acquired
                else pollIdempotency context key deadline rounds
            | _, _ =>
                let now ← await .now
                if deadline ≤ now then return .error transactionInProgress
                else
                  await .sleep
                  pollIdempotency context key deadline rounds

def beginSwgBootstrapIdempotency (settings : BootstrapSettings) (context : SwgContext) :
    BootstrapHandler (Except HttpError Idempotency) := do
  let key := swgBootstrapIdempotencyKey context.transactionId
  let now ← await .now
  if ← await (.setRecord key (creatingRecord context) true) then return .ok .acquired
  else pollIdempotency context key (now + settings.idempotencyWaitMs) settings.pollRounds

def completeSwgBootstrapIdempotency (key fingerprint : String) (response : BootstrapResponse)
    (statusCode : Nat) : BootstrapHandler Unit := do
  let _ ← await (.setRecord key ⟨.ready, fingerprint, some response, some statusCode⟩ false)
  return ()

def failSwgBootstrapIdempotency (key fingerprint : String) : BootstrapHandler Unit := do
  let _ ← await (.setRecord key ⟨.failed, fingerprint, none, none⟩ false)
  return ()

/-- What the request that acquired the record does. -/
def createForTransaction (request : BootstrapRequest) : BootstrapHandler Unit := do
  let context := request.context
  let key := swgBootstrapIdempotencyKey context.transactionId
  match ← await (.createSession context) with
  | .error failure =>
      failSwgBootstrapIdempotency key context.requestFingerprint
      await (.respond (.failed failure))
  | .ok payload =>
      let cookie ← if payload.sessionId ≠ "" then await (.viewerCookie payload.sessionId)
        else pure none
      let response := BootstrapResponse.build context payload cookie
      completeSwgBootstrapIdempotency key context.requestFingerprint response 200
      await (.respond (.created (if request.wantsRedirect then 303 else 201) response))

/-- `POST /api/swg/sessions`. -/
def postSwgSessions (settings : BootstrapSettings) (request : BootstrapRequest) :
    BootstrapHandler Unit := do
  match ← beginSwgBootstrapIdempotency settings request.context with
  | .error failure => await (.respond (.failed failure))
  | .ok (.existing response statusCode) =>
      await (.respond (.replayed (if request.wantsRedirect then 303 else statusCode) response))
  | .ok .acquired => createForTransaction request

/-! ## The system -/

inductive BootstrapJob where
  | post (request : BootstrapRequest)
  | elapse (ms : Nat)
  deriving DecidableEq

def BootstrapJob.body (settings : BootstrapSettings) : BootstrapJob → BootstrapHandler Unit
  | .post request => postSwgSessions settings request
  | .elapse ms => await (.elapse ms)

/-- All interleavings of the Redis commands of all bootstrap requests. -/
@[reducible] def bootstrap (settings : BootstrapSettings) : System where
  face := bootstrap.face
  State := BootstrapState
  Choice := BootstrapOutcome
  Job := BootstrapJob
  exec := BootstrapState.exec
  body := BootstrapJob.body settings
  canStart := fun _ _ => true

end RemoteBrowser.Swg
