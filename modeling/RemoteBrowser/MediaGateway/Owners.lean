import RemoteBrowser.Async.Monitor
import RemoteBrowser.MediaGateway.Hub
import RemoteBrowser.MediaGateway.Replay

/-!
# Gateways that share a session store

Several media gateways keep their sessions, their signaling state and their WebRTC relays in their
own memory, and write each session with its owner to a store that they share.  A request for a
session of another gateway is forwarded to that one.  In every run, a session is worked on only
where it was created, and no request is forwarded twice.
-/

namespace RemoteBrowser.MediaGateway.Owners

open Async Program

/-! ## Owners -/

structure GatewayInstance where
  id : String
  baseURL : String
  deriving DecidableEq

/-- The gateways, numbered, with their common configuration; `equalFold` is `strings.EqualFold`. -/
structure Fleet where
  instance' : ℕ → GatewayInstance
  equalFold : String → String → Bool
  platform : Platform
  cfg : Config

variable (fleet : Fleet)

def isLocalGatewayOwner (index : ℕ) (owner : GatewayInstance) : Bool :=
  let own := fleet.instance' index
  (owner.id ≠ "" && own.id ≠ "" && owner.id = own.id) ||
    (owner.baseURL ≠ "" && own.baseURL ≠ "" &&
      fleet.equalFold (trimRightSlashes owner.baseURL) (trimRightSlashes own.baseURL)) ||
    (owner.id = "" && owner.baseURL = "")

def shouldProxyToOwner (index : ℕ) (owner : GatewayInstance) : Bool :=
  owner.baseURL ≠ "" && !isLocalGatewayOwner fleet index owner

/-! ## State and operations -/

/-- The memories of the gateways by their number, and the store. -/
structure Gateways where
  sessions : ℕ → String → Option SessionRecord
  terminated : ℕ → String → Bool
  webrtcRelays : ℕ → String → Bool
  store : String → Option (SessionRecord × GatewayInstance)

def Gateways.initial : Gateways :=
  ⟨fun _ _ => none, fun _ _ => false, fun _ _ => false, fun _ => none⟩

inductive Entry where
  | found (record : SessionRecord)
  | refused (failure : ApiError)
  | entered

/-- Critical sections of the gateway with the given number, and calls. -/
inductive Op where
  /-- the critical section of `createSession`, with the record of the session if it is new -/
  | enterSession (index : ℕ) (record : SessionRecord)
  | dropSession (index : ℕ) (id : String)
  /-- false if the store does not answer -/
  | saveSession (index : ℕ) (record : SessionRecord)
  | getSession (index : ℕ) (id : String)
  | getStoredSession (id : String)
  | deleteStoredSession (id : String)
  | ensureLocalSessionRecord (index : ℕ) (record : SessionRecord)
  /-- the request to the owner; the number of the gateway that it reaches, if any -/
  | forward (baseURL : String)
  | isSignalSessionTerminated (index : ℕ) (id : String)
  | getOrCreatePionRelaySession (index : ℕ) (record : SessionRecord)
  | callRelay (index : ℕ) (id : String)
  /-- the three terminations of `handleTerminateSession` -/
  | terminateSession (index : ℕ) (id : String)
  | respond (status : Nat) (message : String)
  /-- the gateway starts again, with nothing in its memory -/
  | restart (index : ℕ)

@[reducible] def Op.Reply : Op → Type
  | .enterSession _ _ => Entry
  | .saveSession _ _ => Bool
  | .getSession _ _ => Option SessionRecord
  | .getStoredSession _ => Option (SessionRecord × GatewayInstance)
  | .forward _ => Option ℕ
  | .isSignalSessionTerminated _ _ => Bool
  | .getOrCreatePionRelaySession _ _ => Bool
  | _ => Unit

abbrev face : Interface := ⟨Op, Op.Reply⟩

abbrev Handler := Program face

def await (op : Op) : Handler op.Reply := @Program.call face op

/-- Whether a call does what it is for, whether a new session is admitted, and where a request
arrives. -/
structure Choice where
  succeeds : Bool := true
  refusal : Option ApiError := none
  reached : Option ℕ := none

def put {α : Type} (table : ℕ → String → α) (index : ℕ) (id : String) (value : α) :
    ℕ → String → α :=
  Function.update table index (Function.update (table index) id value)

def exec (choice : Choice) : (op : Op) → Gateways → Gateways × op.Reply
  | .enterSession index record, state =>
      match state.sessions index record.request.sessionID with
      | some existing => (state, .found existing)
      | none =>
          match choice.refusal with
          | some failure => (state, .refused failure)
          | none =>
              ({ state with
                  sessions := put state.sessions index record.request.sessionID (some record) },
                .entered)
  | .dropSession index id, state =>
      ({ state with sessions := put state.sessions index id none }, ())
  | .saveSession index record, state =>
      if record.request.sessionID ≠ "" && choice.succeeds then
        ({ state with
            store := Function.update state.store record.request.sessionID
              (some (record, fleet.instance' index)) }, true)
      else (state, false)
  | .getSession index id, state => (state, state.sessions index id)
  | .getStoredSession id, state => (state, if choice.succeeds then state.store id else none)
  | .deleteStoredSession id, state =>
      (if choice.succeeds then { state with store := Function.update state.store id none }
        else state, ())
  | .ensureLocalSessionRecord index record, state =>
      (if (state.sessions index record.request.sessionID).isNone then
          { state with
            sessions := put state.sessions index record.request.sessionID (some record) }
        else state, ())
  | .forward _, state => (state, choice.reached)
  | .isSignalSessionTerminated index id, state => (state, state.terminated index id)
  | .getOrCreatePionRelaySession index record, state =>
      let id := record.response.sessionID
      if state.webrtcRelays index id || choice.succeeds then
        ({ state with webrtcRelays := put state.webrtcRelays index id true }, true)
      else (state, false)
  | .terminateSession index id, state =>
      ({ state with
          terminated := put state.terminated index id true
          webrtcRelays := put state.webrtcRelays index id false }, ())
  | .restart index, state =>
      ({ state with
          sessions := Function.update state.sessions index fun _ => none
          terminated := Function.update state.terminated index fun _ => false
          webrtcRelays := Function.update state.webrtcRelays index fun _ => false }, ())
  | .callRelay _ _, state => (state, ())
  | .respond _ _, state => (state, ())

/-! ## Handlers -/

def respond (status : Nat) (message : String) : Handler Unit := await (.respond status message)

def replay (record : SessionRecord) (req : SessionRequest) : Handler Unit :=
  match replayAnswer record req with
  | .ok (status, _) => respond status ""
  | .error failure => respond failure.status failure.message

/-- `CreateSession` of a normalised request. -/
def createSession (index : ℕ) (req : SessionRequest) (draws : Draws) (now : ℤ) : Handler Unit := do
  match ← await (.getStoredSession req.sessionID) with
  | some (record, _) => replay record req
  | none =>
      let record : SessionRecord :=
        { request := req
          response := buildResponse fleet.platform fleet.cfg req draws
          viewerEntryToken := draws.viewerEntryToken
          createdAt := now }
      match ← await (.enterSession index record) with
      | .found existing => replay existing req
      | .refused failure => respond failure.status failure.message
      | .entered =>
          if ← await (.saveSession index record) then respond 201 ""
          else
            await (.dropSession index req.sessionID)
            respond 502 "gateway session store unavailable"

def getSessionWithOwner (index : ℕ) (id : String) :
    Handler (Option (SessionRecord × GatewayInstance)) := do
  match ← await (.getSession index id) with
  | some record => return some (record, fleet.instance' index)
  | none =>
      match ← await (.getStoredSession id) with
      | none => return none
      | some (record, owner) =>
          if isLocalGatewayOwner fleet index owner then
            if record.request.sessionID ≠ "" then
              await (.ensureLocalSessionRecord index record)
              return some (record, fleet.instance' index)
            else return some (record, fleet.instance' index)
          else return some (record, owner)

/-- A request for a session: it is answered here, or given to the owner. -/
def serveAt (work : ℕ → SessionRecord → Handler Unit)
    (proxyOwnerRequest : GatewayInstance → Handler Unit) (id : String) (index : ℕ) :
    Handler Unit := do
  match ← getSessionWithOwner fleet index id with
  | none => respond 404 "session not found"
  | some (record, owner) =>
      if shouldProxyToOwner fleet index owner then proxyOwnerRequest owner else work index record

/-- `proxyOwnerRequest` for a request that has been forwarded. -/
def refuseLoop (_ : GatewayInstance) : Handler Unit :=
  respond 502 "gateway owner routing loop detected"

/-- A request with or without the header that says that it was forwarded. -/
def serve (work : ℕ → SessionRecord → Handler Unit) (forwarded : Bool) (id : String)
    (index : ℕ) : Handler Unit :=
  if forwarded then serveAt fleet work refuseLoop id index
  else
    serveAt fleet work (fun owner => do
      match ← await (.forward owner.baseURL) with
      | none => respond 502 "gateway owner unavailable"
      | some target => serveAt fleet work refuseLoop id target) id index

/-- The checks that `handleWebRTCRelay` makes at the owner before it looks at the session's
state. -/
def relayRefusal (wanted : RelayRequest) (record : SessionRecord) : Option (Nat × String) :=
  if !usesGatewayMediaRelay record then
    some (400, "session is not using gateway webrtc relay")
  else
    match validateGatewayWebRTCContract record.response with
    | .error failure => some (400, failure)
    | .ok _ =>
        if expectedToken record wanted.role = "" ∨
            wanted.token ≠ expectedToken record wanted.role then
          some (401, "invalid session token")
        else
          match wanted.action with
          | .offer false => some (415, "unsupported-codec")
          | _ => none

/-- What `handleWebRTCRelay` does at the owner. -/
def relayAt (id : String) (wanted : RelayRequest) (index : ℕ) (record : SessionRecord) :
    Handler Unit := do
  match relayRefusal wanted record with
  | some (status, message) => respond status message
  | none =>
      if ← await (.isSignalSessionTerminated index id) then respond 410 "session is terminated"
      else if ← await (.getOrCreatePionRelaySession index record) then
        await (.callRelay index id)
        respond 200 ""
      else respond 500 "failed to initialize webrtc relay"

/-- What `handleTerminateSession` does at the owner. -/
def terminateAt (id : String) (index : ℕ) (_ : SessionRecord) : Handler Unit := do
  await (.terminateSession index id)
  await (.deleteStoredSession id)
  respond 200 ""

inductive Job where
  | create (index : ℕ) (req : SessionRequest) (draws : Draws) (now : ℤ)
  | relay (index : ℕ) (forwarded : Bool) (id : String) (wanted : RelayRequest)
  | terminate (index : ℕ) (forwarded : Bool) (id : String)
  | restart (index : ℕ)

def Job.body (fleet : Fleet) : Job → Handler Unit
  | .create index req draws now => createSession fleet index req draws now
  | .relay index forwarded id wanted => serve fleet (relayAt id wanted) forwarded id index
  | .terminate index forwarded id => serve fleet (terminateAt id) forwarded id index
  | .restart index => await (.restart index)

/-- All interleavings of the requests at all gateways. -/
@[reducible] def gateways (fleet : Fleet) : System where
  face := face
  State := Gateways
  Choice := Choice
  Job := Job
  exec := exec fleet
  body := Job.body fleet
  canStart := fun _ _ => true

/-! ## What handlers do where -/

/-- The session that the operation works on, and the gateway that does.  Entering a session is how
work on it begins. -/
def Op.worksOn : Op → Option (ℕ × String)
  | .dropSession index id => some (index, id)
  | .saveSession index record => some (index, record.request.sessionID)
  | .ensureLocalSessionRecord index record => some (index, record.request.sessionID)
  | .isSignalSessionTerminated index id => some (index, id)
  | .getOrCreatePionRelaySession index record => some (index, record.response.sessionID)
  | .callRelay index id => some (index, id)
  | .terminateSession index id => some (index, id)
  | _ => none

def Op.isForward : Op → Bool
  | .forward _ => true
  | _ => false

/-- Nothing was forwarded so far. -/
def Unforwarded (past : List (Event face)) : Prop :=
  ∀ event ∈ past, event.1.isForward = false

/-- The handler has found the session in the memory of the gateway, or in the store and not with
an owner to forward to. -/
def Holds (index : ℕ) (id : String) (record : SessionRecord) (past : List (Event face)) : Prop :=
  (⟨.getSession index id, some record⟩ : Event face) ∈ past ∨
    ∃ owner, (⟨.getStoredSession id, some (record, owner)⟩ : Event face) ∈ past ∧
      shouldProxyToOwner fleet index owner = false

/-- The handler has found the owner of the session. -/
def Knows (index : ℕ) (id : String) (owner : GatewayInstance) (past : List (Event face)) : Prop :=
  ∃ record, ((⟨.getSession index id, some record⟩ : Event face) ∈ past ∧
      owner = fleet.instance' index) ∨
    ∃ stored, (⟨.getStoredSession id, some (record, stored)⟩ : Event face) ∈ past ∧
      (owner = stored ∨
        isLocalGatewayOwner fleet index stored = true ∧ owner = fleet.instance' index)

def Job.sessionID : Job → String
  | .create _ req _ _ => req.sessionID
  | .relay _ _ id _ => id
  | .terminate _ _ id => id
  | .restart _ => ""

/-- The job creates the session at the gateway. -/
def Job.CreatesAt (index : ℕ) (job : Job) : Prop :=
  ∃ req draws now, job = .create index req draws now

/-- Both parts of the record are for the session. -/
structure IsFor (id : String) (record : SessionRecord) : Prop where
  request : record.request.sessionID = id
  response : record.response.sessionID = id

/-- The handler has entered the session in the memory of the gateway, which did not know it. -/
def Entered (index : ℕ) (id : String) (past : List (Event face)) : Prop :=
  ∃ record, IsFor id record ∧ (⟨.enterSession index record, .entered⟩ : Event face) ∈ past

/-- The rule that handlers keep to. -/
def Job.rule (fleet : Fleet) (job : Job) (past : List (Event face)) : Op → Prop
  | .enterSession index record => job.CreatesAt index ∧ IsFor job.sessionID record
  | .saveSession index record =>
      job.CreatesAt index ∧ IsFor job.sessionID record ∧ Entered index job.sessionID past
  | .dropSession index id =>
      job.CreatesAt index ∧ id = job.sessionID ∧ Entered index job.sessionID past
  | .ensureLocalSessionRecord index record => Holds fleet index job.sessionID record past
  | .isSignalSessionTerminated index id =>
      id = job.sessionID ∧ ∃ record, Holds fleet index id record past
  | .getOrCreatePionRelaySession index record => Holds fleet index job.sessionID record past
  | .callRelay index id => id = job.sessionID ∧ ∃ record, Holds fleet index id record past
  | .terminateSession index id => id = job.sessionID ∧ ∃ record, Holds fleet index id record past
  | .forward baseURL =>
      Unforwarded past ∧ ∃ index owner, Knows fleet index job.sessionID owner past ∧
        baseURL = owner.baseURL
  | _ => True

section Bodies

variable {fleet : Fleet} {job : Job} {index : ℕ} {id : String} {record : SessionRecord}
  {owner : GatewayInstance} {past after : List (Event face)}

theorem Holds.cons (holds : Holds fleet index id record past) (event : Event face) :
    Holds fleet index id record (event :: past) := by
  rcases holds with found | ⟨owner, found, own⟩
  · exact .inl (.tail event found)
  · exact .inr ⟨owner, .tail event found, own⟩

theorem Knows.cons (knows : Knows fleet index id owner past) (event : Event face) :
    Knows fleet index id owner (event :: past) := by
  obtain ⟨record, ⟨found, same⟩ | ⟨stored, found, same⟩⟩ := knows
  · exact ⟨record, .inl ⟨.tail event found, same⟩⟩
  · exact ⟨record, .inr ⟨stored, .tail event found, same⟩⟩

theorem Entered.cons (entered : Entered index id past) (event : Event face) :
    Entered index id (event :: past) := by
  obtain ⟨record, own, happened⟩ := entered
  exact ⟨record, own, .tail event happened⟩

theorem Unforwarded.cons (quiet : Unforwarded past) {event : Event face}
    (other : event.1.isForward = false) : Unforwarded (event :: past) := by
  intro earlier member
  rcases List.mem_cons.mp member with rfl | old
  · exact other
  · exact quiet earlier old

theorem replay_follows (req : SessionRequest) :
    (replay record req).Follows (.history (job.rule fleet)) (fun _ _ => True) past := by
  unfold replay
  split
  · exact follows_history trivial fun _ => trivial
  · exact follows_history trivial fun _ => trivial

theorem createSession_follows (req : SessionRequest) (draws : Draws) (now : ℤ) :
    (createSession fleet index req draws now).Follows
      (.history (Job.rule fleet (.create index req draws now))) (fun _ _ => True) past := by
  have creates : Job.CreatesAt index (.create index req draws now) := ⟨req, draws, now, rfl⟩
  refine follows_history trivial fun stored => ?_
  dsimp only [Program.bind]
  cases stored with
  | some found => exact replay_follows req
  | none =>
      refine follows_history ⟨creates, rfl, rfl⟩ fun entry => ?_
      dsimp only [Program.bind]
      cases entry with
      | found existing => exact replay_follows req
      | refused failure => exact follows_history trivial fun _ => trivial
      | entered =>
          refine follows_history ⟨creates, ⟨rfl, rfl⟩, _, ⟨rfl, rfl⟩, .head _⟩ fun saved => ?_
          dsimp only [Program.bind]
          split
          case isTrue => exact follows_history trivial fun _ => trivial
          case isFalse =>
            refine follows_history ⟨creates, rfl, _, ⟨rfl, rfl⟩, .tail _ (.head _)⟩ fun _ => ?_
            exact follows_history trivial fun _ => trivial

theorem relayAt_follows (wanted : RelayRequest) (same : id = job.sessionID)
    (holds : Holds fleet index id record past) :
    (relayAt id wanted index record).Follows (.history (job.rule fleet)) (fun _ _ => True)
      past := by
  subst same
  unfold relayAt
  cases relayRefusal wanted record with
  | some refusal => exact follows_history trivial fun _ => trivial
  | none =>
      refine follows_history ⟨rfl, record, holds⟩ fun ended => ?_
      dsimp only [Program.bind]
      split
      case isTrue => exact follows_history trivial fun _ => trivial
      case isFalse =>
        refine follows_history (holds.cons _) fun created => ?_
        dsimp only [Program.bind]
        split
        case isTrue =>
          refine follows_history ⟨rfl, record, (holds.cons _).cons _⟩ fun _ => ?_
          exact follows_history trivial fun _ => trivial
        case isFalse => exact follows_history trivial fun _ => trivial

theorem terminateAt_follows (same : id = job.sessionID)
    (holds : Holds fleet index id record past) :
    (terminateAt id index record).Follows (.history (job.rule fleet)) (fun _ _ => True) past := by
  refine follows_history ⟨same, record, holds⟩ fun _ => ?_
  refine follows_history trivial fun _ => ?_
  exact follows_history trivial fun _ => trivial

/-- What a handler has learnt when its search for a session has returned. -/
structure Learnt (fleet : Fleet) (index : ℕ) (id : String) (record : SessionRecord)
    (owner : GatewayInstance) (past : List (Event face)) : Prop where
  knows : Knows fleet index id owner past
  holds : shouldProxyToOwner fleet index owner = false → Holds fleet index id record past

/-- The search for a session forwards nothing. -/
theorem getSessionWithOwner_follows (same : id = job.sessionID) :
    (getSessionWithOwner fleet index id).Follows (.history (job.rule fleet))
      (fun found after => (Unforwarded past → Unforwarded after) ∧ ∀ record owner,
        found = some (record, owner) → Learnt fleet index id record owner after) past := by
  refine follows_history trivial fun stored => ?_
  dsimp only [Program.bind]
  cases stored with
  | some record =>
      constructor
      · exact fun quiet => Unforwarded.cons quiet rfl
      · intro found owner same
        cases same
        exact ⟨⟨record, .inl ⟨.head _, rfl⟩⟩, fun _ => .inl (.head _)⟩
  | none =>
      refine follows_history trivial fun stored => ?_
      have quiet : Unforwarded past → Unforwarded
          (⟨.getStoredSession id, stored⟩ :: ⟨.getSession index id, none⟩ :: past) :=
        fun quiet => Unforwarded.cons (Unforwarded.cons quiet rfl) rfl
      dsimp only [Program.bind]
      cases stored with
      | none =>
          refine ⟨quiet, ?_⟩
          intro record owner found
          cases found
      | some found =>
          obtain ⟨record, owner⟩ := found
          dsimp only
          split
          case isFalse =>
            refine ⟨quiet, ?_⟩
            intro other holder found
            cases found
            exact ⟨⟨record, .inr ⟨owner, .head _, .inl rfl⟩⟩,
              fun kept => .inr ⟨owner, .head _, kept⟩⟩
          case isTrue own =>
            have kept : shouldProxyToOwner fleet index owner = false := by
              simp [shouldProxyToOwner, own]
            have learnt : Learnt fleet index id record (fleet.instance' index)
                (⟨.getStoredSession id, some (record, owner)⟩ :: ⟨.getSession index id, none⟩ ::
                  past) :=
              ⟨⟨record, .inr ⟨owner, .head _, .inr ⟨own, rfl⟩⟩⟩,
                fun _ => .inr ⟨owner, .head _, kept⟩⟩
            split
            case isFalse =>
              refine ⟨quiet, ?_⟩
              intro other holder found
              cases found
              exact learnt
            case isTrue =>
              have holds : Holds fleet index id record
                  (⟨.getStoredSession id, some (record, owner)⟩ ::
                    ⟨.getSession index id, none⟩ :: past) :=
                .inr ⟨owner, .head _, kept⟩
              refine follows_history (same ▸ holds) fun _ => ?_
              refine ⟨fun unforwarded => Unforwarded.cons (quiet unforwarded) rfl, ?_⟩
              intro other holder found
              cases found
              exact ⟨learnt.knows.cons _, fun _ => holds.cons _⟩

theorem serveAt_follows {work : ℕ → SessionRecord → Handler Unit}
    {proxyOwnerRequest : GatewayInstance → Handler Unit} (same : id = job.sessionID)
    (works : ∀ record past, Holds fleet index id record past →
      (work index record).Follows (.history (job.rule fleet)) (fun _ _ => True) past)
    (proxies : ∀ owner after, (Unforwarded past → Unforwarded after) →
      Knows fleet index id owner after →
      (proxyOwnerRequest owner).Follows (.history (job.rule fleet)) (fun _ _ => True) after) :
    (serveAt fleet work proxyOwnerRequest id index).Follows (.history (job.rule fleet))
      (fun _ _ => True) past := by
  refine (getSessionWithOwner_follows same).bind fun found after known => ?_
  cases found with
  | none => exact follows_history trivial fun _ => trivial
  | some found =>
      obtain ⟨record, owner⟩ := found
      have learnt := known.2 record owner rfl
      dsimp only
      split
      case isTrue => exact proxies owner after known.1 learnt.knows
      case isFalse kept => exact works record after (learnt.holds (by simpa using kept))

theorem serve_follows {work : ℕ → SessionRecord → Handler Unit} (forwarded : Bool)
    (same : id = job.sessionID)
    (works : ∀ index record past, Holds fleet index id record past →
      (work index record).Follows (.history (job.rule fleet)) (fun _ _ => True) past) :
    (serve fleet work forwarded id index).Follows (.history (job.rule fleet)) (fun _ _ => True)
      [] := by
  have refuses (owner : GatewayInstance) (after : List (Event face)) :
      (refuseLoop owner).Follows (.history (job.rule fleet)) (fun _ _ => True) after :=
    follows_history trivial fun _ => trivial
  have quiet : Unforwarded [] := by
    intro event member
    cases member
  unfold serve
  split
  case isTrue => exact serveAt_follows same (works index) fun owner after _ _ => refuses owner after
  case isFalse =>
    refine serveAt_follows same (works index) fun owner after unforwarded knows => ?_
    refine follows_history ⟨unforwarded quiet, index, owner, same ▸ knows, rfl⟩ fun reached => ?_
    dsimp only [Program.bind]
    cases reached with
    | none => exact follows_history trivial fun _ => trivial
    | some target =>
        exact serveAt_follows same (works target) fun owner after _ _ => refuses owner after

theorem Job.body_follows (job : Job) :
    (job.body fleet).Follows (.history (job.rule fleet)) (fun _ _ => True) [] := by
  cases job with
  | create index req draws now => exact createSession_follows req draws now
  | relay index forwarded id wanted =>
      exact serve_follows forwarded rfl fun _ _ _ holds => relayAt_follows wanted rfl holds
  | terminate index forwarded id =>
      exact serve_follows forwarded rfl fun _ _ _ holds => terminateAt_follows rfl holds
  | restart index => exact follows_history trivial fun _ => trivial

end Bodies

/-! ## Homes -/

section Homes

variable {fleet : Fleet} {home : ℕ → String → Prop}

/-- The owner of the session is one of the gateways, and a home of the session. -/
def OwnedAtHome (fleet : Fleet) (home : ℕ → String → Prop) (id : String)
    (owner : GatewayInstance) : Prop :=
  ∃ index, owner = fleet.instance' index ∧ home index id

/-- Gateways remember sessions only at their homes, and the store names these. -/
structure Housed (fleet : Fleet) (home : ℕ → String → Prop) (state : Gateways) : Prop where
  sessions : ∀ index id record, state.sessions index id = some record →
    IsFor id record ∧ home index id
  terminated : ∀ index id, state.terminated index id = true → home index id
  relays : ∀ index id, state.webrtcRelays index id = true → home index id
  store : ∀ id record owner, state.store id = some (record, owner) →
    IsFor id record ∧ OwnedAtHome fleet home id owner

/-- The reply tells the truth about homes. -/
def Tells (fleet : Fleet) (home : ℕ → String → Prop) : (op : Op) → op.Reply → Prop
  | .getSession index id, reply => ∀ record, reply = some record → IsFor id record ∧ home index id
  | .getStoredSession id, reply => ∀ record owner, reply = some (record, owner) →
      IsFor id record ∧ OwnedAtHome fleet home id owner
  | _, _ => True

/-- The operation, with its reply, works at a home of its session; a gateway that enters one
becomes its home. -/
def Op.AtHome (home : ℕ → String → Prop) : (op : Op) → op.Reply → Prop
  | .enterSession index record, reply =>
      ∃ id, IsFor id record ∧ (reply = .entered → home index id)
  | .saveSession index record, _ => ∃ id, IsFor id record ∧ home index id
  | .ensureLocalSessionRecord index record, _ => ∃ id, IsFor id record ∧ home index id
  | .getOrCreatePionRelaySession index record, _ => ∃ id, IsFor id record ∧ home index id
  | .terminateSession index id, _ => home index id
  | _, _ => True

theorem put_apply {α : Type} (table : ℕ → String → α) (index : ℕ) (id : String) (value : α)
    (place : ℕ) (other : String) :
    put table index id value place other =
      if place = index ∧ other = id then value else table place other := by
  unfold put
  by_cases same : place = index
  · subst same
    simp [Function.update_apply]
  · simp [same]

theorem Housed.initial : Housed fleet home .initial := by
  constructor <;> intros <;> simp_all [Gateways.initial]

variable {state : Gateways}

theorem Housed.put_session (housed : Housed fleet home state) {index : ℕ} {id key : String}
    {record : SessionRecord} (own : IsFor id record) (here : home index id)
    (same : key = record.request.sessionID) :
    Housed fleet home { state with sessions := put state.sessions index key (some record) } := by
  refine { housed with sessions := ?_ }
  intro place other found remembered
  simp only [put_apply] at remembered
  split at remembered
  case isTrue position =>
    cases remembered
    rw [position.1, position.2, same, own.request]
    exact ⟨own, here⟩
  case isFalse => exact housed.sessions place other found remembered

theorem Housed.drop_session (housed : Housed fleet home state) (index : ℕ) (id : String) :
    Housed fleet home { state with sessions := put state.sessions index id none } := by
  refine { housed with sessions := ?_ }
  intro place other found remembered
  simp only [put_apply] at remembered
  split at remembered
  case isTrue => cases remembered
  case isFalse => exact housed.sessions place other found remembered

theorem Housed.save (housed : Housed fleet home state) {index : ℕ} {id : String}
    {record : SessionRecord} (own : IsFor id record) (here : home index id) :
    Housed fleet home
      { state with
        store := Function.update state.store record.request.sessionID
          (some (record, fleet.instance' index)) } := by
  refine { housed with store := ?_ }
  intro other found owner stored
  simp only [own.request, Function.update_apply] at stored
  split at stored
  case isTrue same =>
    cases stored
    exact ⟨same ▸ own, index, rfl, same ▸ here⟩
  case isFalse => exact housed.store other found owner stored

theorem Housed.unsave (housed : Housed fleet home state) (id : String) :
    Housed fleet home { state with store := Function.update state.store id none } := by
  refine { housed with store := ?_ }
  intro other found owner stored
  simp only [Function.update_apply] at stored
  split at stored
  case isTrue => cases stored
  case isFalse => exact housed.store other found owner stored

theorem Housed.open_relay (housed : Housed fleet home state) {index : ℕ} {id : String}
    (here : home index id) :
    Housed fleet home { state with webrtcRelays := put state.webrtcRelays index id true } := by
  refine { housed with relays := ?_ }
  intro place other running
  simp only [put_apply] at running
  split at running
  case isTrue position => exact position.1 ▸ position.2 ▸ here
  case isFalse => exact housed.relays place other running

theorem Housed.terminate (housed : Housed fleet home state) {index : ℕ} {id : String}
    (here : home index id) :
    Housed fleet home
      { state with
        terminated := put state.terminated index id true
        webrtcRelays := put state.webrtcRelays index id false } := by
  refine { housed with terminated := ?_, relays := ?_ }
  case refine_1 =>
    intro place other ended
    simp only [put_apply] at ended
    split at ended
    case isTrue position => exact position.1 ▸ position.2 ▸ here
    case isFalse => exact housed.terminated place other ended
  case refine_2 =>
    intro place other running
    simp only [put_apply] at running
    split at running
    case isTrue => cases running
    case isFalse => exact housed.relays place other running

theorem Housed.restart (housed : Housed fleet home state) (index : ℕ) :
    Housed fleet home
      { state with
        sessions := Function.update state.sessions index fun _ => none
        terminated := Function.update state.terminated index fun _ => false
        webrtcRelays := Function.update state.webrtcRelays index fun _ => false } := by
  constructor
  case sessions =>
    intro place id record remembered
    by_cases same : place = index
    · simp [same] at remembered
    · exact housed.sessions place id record (by simpa [same] using remembered)
  case terminated =>
    intro place id ended
    by_cases same : place = index
    · simp [same] at ended
    · exact housed.terminated place id (by simpa [same] using ended)
  case relays =>
    intro place id running
    by_cases same : place = index
    · simp [same] at running
    · exact housed.relays place id (by simpa [same] using running)
  case store => exact housed.store

/-- Operations at home keep the sessions at home, and say where that is. -/
theorem Housed.exec (housed : Housed fleet home state) (choice : Choice) {op : Op}
    (here : op.AtHome home (exec fleet choice op state).2) :
    Housed fleet home (exec fleet choice op state).1 ∧
      Tells fleet home op (exec fleet choice op state).2 := by
  cases op with
  | enterSession index record =>
      obtain ⟨id, own, here⟩ := here
      refine ⟨?_, trivial⟩
      simp only [Owners.exec] at here ⊢
      cases known : state.sessions index record.request.sessionID with
      | some existing => exact housed
      | none =>
          cases refused : choice.refusal with
          | some failure => exact housed
          | none =>
              simp only [known, refused] at here
              exact housed.put_session own (here trivial) rfl
  | dropSession index id => exact ⟨housed.drop_session index id, trivial⟩
  | saveSession index record =>
      obtain ⟨id, own, here⟩ := here
      refine ⟨?_, trivial⟩
      simp only [Owners.exec]
      split
      case isTrue => exact housed.save own here
      case isFalse => exact housed
  | getSession index id => exact ⟨housed, housed.sessions index id⟩
  | getStoredSession id =>
      refine ⟨housed, ?_⟩
      intro record owner found
      simp only [Owners.exec] at found
      split at found
      case isTrue => exact housed.store id record owner found
      case isFalse => cases found
  | deleteStoredSession id =>
      refine ⟨?_, trivial⟩
      simp only [Owners.exec]
      split
      case isTrue => exact housed.unsave id
      case isFalse => exact housed
  | ensureLocalSessionRecord index record =>
      obtain ⟨id, own, here⟩ := here
      refine ⟨?_, trivial⟩
      simp only [Owners.exec]
      split
      case isTrue => exact housed.put_session own here rfl
      case isFalse => exact housed
  | forward baseURL => exact ⟨housed, trivial⟩
  | isSignalSessionTerminated index id => exact ⟨housed, trivial⟩
  | getOrCreatePionRelaySession index record =>
      obtain ⟨id, own, here⟩ := here
      refine ⟨?_, trivial⟩
      simp only [Owners.exec, own.response]
      split
      case isTrue => exact housed.open_relay here
      case isFalse => exact housed
  | callRelay index id => exact ⟨housed, trivial⟩
  | terminateSession index id => exact ⟨housed.terminate here, trivial⟩
  | respond status message => exact ⟨housed, trivial⟩
  | restart index => exact ⟨housed.restart index, trivial⟩

/-! ## Runs -/

/-- Gateways do not take each other for themselves, and can be reached. -/
structure Fleet.Distinct (fleet : Fleet) : Prop where
  separate : ∀ index other,
    isLocalGatewayOwner fleet index (fleet.instance' other) = true → index = other
  reachable : ∀ index, (fleet.instance' index).baseURL ≠ ""

variable {job : Job} {index : ℕ} {id : String} {record : SessionRecord}
  {owner : GatewayInstance} {past : List (Event face)}

theorem OwnedAtHome.of_local (distinct : fleet.Distinct) (owned : OwnedAtHome fleet home id owner)
    (own : isLocalGatewayOwner fleet index owner = true) : home index id := by
  obtain ⟨other, rfl, here⟩ := owned
  exact distinct.separate index other own ▸ here

theorem Holds.at_home (distinct : fleet.Distinct)
    (told : ∀ event ∈ past, Tells fleet home event.1 event.2)
    (holds : Holds fleet index id record past) : IsFor id record ∧ home index id := by
  rcases holds with found | ⟨owner, found, kept⟩
  · exact told _ found record rfl
  · obtain ⟨own, owned⟩ := told _ found record owner rfl
    refine ⟨own, owned.of_local distinct ?_⟩
    obtain ⟨other, rfl, _⟩ := owned
    simpa [shouldProxyToOwner, distinct.reachable other] using kept

theorem Knows.at_home (distinct : fleet.Distinct)
    (told : ∀ event ∈ past, Tells fleet home event.1 event.2)
    (knows : Knows fleet index id owner past) : OwnedAtHome fleet home id owner := by
  obtain ⟨record, ⟨found, rfl⟩ | ⟨stored, found, same⟩⟩ := knows
  · exact ⟨index, rfl, (told _ found record rfl).2⟩
  · have owned := (told _ found record stored rfl).2
    rcases same with rfl | ⟨own, rfl⟩
    · exact owned
    · exact ⟨index, rfl, owned.of_local distinct own⟩

/-- The operations that a handler's rule permits are at home, if the handler enters sessions at
their homes. -/
theorem Op.AtHome.of_rule (distinct : fleet.Distinct)
    (told : ∀ event ∈ past, Tells fleet home event.1 event.2) {op : Op} {reply : op.Reply}
    (created : ∀ index id, job.CreatesAt index → Entered index id (⟨op, reply⟩ :: past) →
      home index id)
    (rule : job.rule fleet past op) : op.AtHome home reply := by
  cases op with
  | enterSession index record =>
      refine ⟨job.sessionID, rule.2, ?_⟩
      intro entered
      subst entered
      exact created index _ rule.1 ⟨record, rule.2, .head _⟩
  | saveSession index record =>
      exact ⟨job.sessionID, rule.2.1, created index _ rule.1 (rule.2.2.cons _)⟩
  | ensureLocalSessionRecord index record => exact ⟨job.sessionID, Holds.at_home distinct told rule⟩
  | getOrCreatePionRelaySession index record =>
      exact ⟨job.sessionID, Holds.at_home distinct told rule⟩
  | terminateSession index id =>
      obtain ⟨_, record, holds⟩ := rule
      exact (Holds.at_home distinct told holds).2
  | _ => trivial

/-- A handler works on its own session only, and at a home of it. -/
theorem Job.works_at_home (distinct : fleet.Distinct)
    (told : ∀ event ∈ past, Tells fleet home event.1 event.2)
    (created : ∀ index id, job.CreatesAt index → Entered index id past → home index id) {op : Op}
    (rule : job.rule fleet past op) (works : op.worksOn = some (index, id)) :
    id = job.sessionID ∧ home index id := by
  cases op with
  | saveSession place record =>
      cases works
      rw [rule.2.1.request]
      exact ⟨rfl, created _ _ rule.1 rule.2.2⟩
  | dropSession place other =>
      cases works
      exact ⟨rule.2.1, rule.2.1 ▸ created _ _ rule.1 rule.2.2⟩
  | ensureLocalSessionRecord place record =>
      cases works
      obtain ⟨own, here⟩ := Holds.at_home distinct told rule
      rw [own.request]
      exact ⟨rfl, here⟩
  | getOrCreatePionRelaySession place record =>
      cases works
      obtain ⟨own, here⟩ := Holds.at_home distinct told rule
      rw [own.response]
      exact ⟨rfl, here⟩
  | isSignalSessionTerminated place other =>
      cases works
      obtain ⟨same, record, holds⟩ := rule
      exact ⟨same, (Holds.at_home distinct told holds).2⟩
  | callRelay place other =>
      cases works
      obtain ⟨same, record, holds⟩ := rule
      exact ⟨same, (Holds.at_home distinct told holds).2⟩
  | terminateSession place other =>
      cases works
      obtain ⟨same, record, holds⟩ := rule
      exact ⟨same, (Holds.at_home distinct told holds).2⟩
  | _ => cases works

/-- The gateway has created the session: a request to create it has entered it there. -/
def CreatedAt (config : Async.Config (gateways fleet)) (index : ℕ) (id : String) : Prop :=
  ∃ thread ∈ config.threads, thread.job.CreatesAt index ∧ Entered index id thread.past

/-- Created sessions stay created. -/
theorem CreatedAt.step {before after : Async.Config (gateways fleet)}
    {action : Action (gateways fleet)} (stepped : before.step action = some after)
    (created : CreatedAt before index id) : CreatedAt after index id := by
  refine Config.exists_thread_step stepped ?_ created
  intro thread op next reply _ created
  exact ⟨created.1, created.2.cons ⟨op, reply⟩⟩

/-- Sessions are created at their homes only. -/
def CreatesAtHome (home : ℕ → String → Prop) (config : Async.Config (gateways fleet)) : Prop :=
  ∀ index id, CreatedAt config index id → home index id

/-- If sessions are created at their homes only, then they live there only, and all replies are
true. -/
theorem housed_inductive (distinct : fleet.Distinct) :
    Inductive (S := gateways fleet)
      (Throughout (CreatesAtHome home) fun config _ =>
        ∀ thread ∈ config.threads, thread.Keeps (Job.rule fleet))
      (Housed fleet home)
      fun _ thread => ∀ event ∈ thread.past, Tells fleet home event.1 event.2 := by
  constructor
  case start =>
    intro config job _ _ _ event member
    cases member
  case resume =>
    intro config place choice thread op next holds permitted found suspended
    have member := List.mem_of_getElem? found
    have told := holds.threads thread member
    have stepped : config.step (.resume place choice) = some ⟨(exec fleet choice op config.state).1,
        config.threads.set place (thread.advance op (exec fleet choice op config.state).2
          (next (exec fleet choice op config.state).2))⟩ := by
      simp only [Config.step, found, suspended]
    have created (index : ℕ) (id : String) (creates : thread.job.CreatesAt index)
        (entered : Entered index id
          (⟨op, (exec fleet choice op config.state).2⟩ :: thread.past)) : home index id :=
      permitted.2.2 _ stepped index id
        ⟨_, List.mem_set (List.getElem?_eq_some_iff.mp found).1 _, creates, entered⟩
    have here := Op.AtHome.of_rule distinct told created
      ((permitted.1 thread member).allows suspended)
    obtain ⟨housed, true⟩ := holds.state.exec choice here
    refine ⟨housed, ?_, fun _ other found _ => holds.threads other (List.mem_of_getElem? found)⟩
    intro event member
    rcases List.mem_cons.mp member with rfl | old
    · exact true
    · exact told event old

/-- A handler that keeps the rule forwards its request at most once. -/
theorem countP_forward_le
    (followed : ∀ op reply past', (⟨op, reply⟩ :: past' : List (Event face)) <:+ past →
      job.rule fleet past' op) :
    past.countP (·.1.isForward) ≤ 1 := by
  induction past with
  | nil => simp
  | cons event past ih =>
      have earlier := ih fun op reply past' suffix =>
        followed op reply past' (suffix.trans (List.suffix_cons event past))
      cases forwards : event.1.isForward with
      | false => simpa [forwards] using earlier
      | true =>
          have quiet : Unforwarded past := by
            have rule := followed event.1 event.2 past (List.suffix_refl _)
            generalize event.1 = op at rule forwards
            cases op with
            | forward baseURL => exact rule.1
            | _ => cases forwards
          have none : past.countP (·.1.isForward) = 0 :=
            List.countP_eq_zero.mpr fun other member => by simp [quiet other member]
          simp [forwards, none]

end Homes

variable {fleet : Fleet} {final : Async.Config (gateways fleet)}

/-- In every run sessions live only where the run has created them. -/
theorem housed_of_run (distinct : fleet.Distinct)
    (run : Run anyAction ⟨Gateways.initial, []⟩ final) :
    final.Satisfies (Housed fleet (CreatedAt final))
      fun _ thread => ∀ event ∈ thread.past, Tells fleet (CreatedAt final) event.1 event.2 := by
  have kept := run.assuming fun config =>
    @Run.keeps _ _ (Job.rule fleet) Job.body_follows Gateways.initial config
  -- What is created at the end are the homes of the whole run.
  have home := (kept.inherited (CreatesAtHome (CreatedAt final))
    (fun before after action stepped homely index id created =>
      homely index id (created.step stepped)) fun _ _ created => created).2
  refine (housed_inductive distinct).run (home.mono ?_) ⟨.initial, by simp⟩
  intro config action permitted
  exact ⟨permitted.1.2, permitted.2⟩

/-- In every run a gateway has records, relays and terminations only of sessions that it has
created.  A request enters a session only to create its own at its gateway; it works on its own
session only, and on gateways that have created it; and it is forwarded at most once, to such a
gateway. -/
theorem sessions_stay_where_created (distinct : fleet.Distinct)
    (run : Run anyAction ⟨Gateways.initial, []⟩ final) :
    (∀ index id, final.state.sessions index id ≠ none ∨ final.state.terminated index id = true ∨
        final.state.webrtcRelays index id = true → CreatedAt final index id) ∧
      ∀ thread ∈ final.threads,
        (∀ index record reply, (⟨.enterSession index record, reply⟩ : Event face) ∈ thread.past →
          thread.job.CreatesAt index ∧ IsFor thread.job.sessionID record) ∧
        (∀ event ∈ thread.past, ∀ index id, event.1.worksOn = some (index, id) →
          id = thread.job.sessionID ∧ CreatedAt final index id) ∧
        (∀ baseURL reply, (⟨.forward baseURL, reply⟩ : Event face) ∈ thread.past →
          ∃ index, baseURL = (fleet.instance' index).baseURL ∧
            CreatedAt final index thread.job.sessionID) ∧
        thread.past.countP (·.1.isForward) ≤ 1 := by
  have satisfied := housed_of_run distinct run
  constructor
  case left =>
    intro index id present
    have housed := satisfied.state
    rcases present with remembered | ended | running
    · obtain ⟨record, remembered⟩ := Option.ne_none_iff_exists'.mp remembered
      exact (housed.sessions index id record remembered).2
    · exact housed.terminated index id ended
    · exact housed.relays index id running
  case right =>
    intro thread member
    have keeps : thread.Keeps (Job.rule fleet) := run.keeps Job.body_follows thread member
    have told := satisfied.threads thread member
    refine ⟨?_, ?_, ?_, countP_forward_le keeps.followed⟩
    · intro index record reply happened
      obtain ⟨past, _, rule⟩ := keeps.of_mem happened
      exact rule
    · intro event happened index id works
      obtain ⟨past, suffix, rule⟩ := keeps.of_mem happened
      refine Job.works_at_home distinct (fun event earlier => told event (suffix.subset earlier))
        ?_ rule works
      intro index id creates entered
      obtain ⟨record, own, happened⟩ := entered
      exact ⟨thread, member, creates, record, own, suffix.subset happened⟩
    · intro baseURL reply happened
      obtain ⟨past, suffix, _, place, owner, knows, rfl⟩ := keeps.of_mem happened
      obtain ⟨index, rfl, here⟩ := Knows.at_home distinct
        (fun event earlier => told event (suffix.subset earlier)) knows
      exact ⟨index, rfl, here⟩

/-! ## A sample run -/

def unaryName (start : String) (index : ℕ) : String :=
  String.ofList (start.toList ++ List.replicate (index + 1) '1')

theorem unaryName_injective (start : String) : Function.Injective (unaryName start) := by
  intro left right same
  have lists := String.ofList_injective same
  simpa using congrArg List.length (List.append_cancel_left lists)

theorem unaryName_ne_empty (start : String) (index : ℕ) : unaryName start index ≠ "" := by
  intro empty
  have lists := congrArg String.toList empty
  simp [unaryName] at lists

theorem trimRightSlashes_unaryName (start : String) (index : ℕ) :
    trimRightSlashes (unaryName start index) = unaryName start index := by
  have kept : (start.toList ++ List.replicate (index + 1) '1').rdropWhile (· = '/') =
      start.toList ++ List.replicate (index + 1) '1' := by
    rw [List.rdropWhile_eq_self_iff]
    intro present
    rw [List.getLast_append_of_ne_nil _ (by simp), List.getLast_replicate]
    decide
  rw [trimRightSlashes, unaryName, String.toList_ofList, kept]

def sampleFleet : Fleet where
  instance' := fun index => ⟨unaryName "gateway-" index, unaryName "http://gateway-" index⟩
  equalFold := fun left right => left = right
  platform := plainPlatform
  cfg := defaultConfig

theorem sampleFleet_distinct : sampleFleet.Distinct := by
  constructor
  case separate =>
    intro index other own
    rcases Bool.or_eq_true_iff.mp own with own | unnamed
    · rcases Bool.or_eq_true_iff.mp own with same | same
      · simp only [sampleFleet, Bool.and_eq_true] at same
        exact (unaryName_injective _ (of_decide_eq_true same.2)).symm
      · simp only [sampleFleet, trimRightSlashes_unaryName, Bool.and_eq_true] at same
        exact (unaryName_injective _ (of_decide_eq_true same.2)).symm
    · simp only [sampleFleet, Bool.and_eq_true] at unnamed
      exact absurd (of_decide_eq_true unnamed.1) (unaryName_ne_empty _ other)
  case reachable => exact unaryName_ne_empty _

def wellDone : Choice := {}

def reachesFirst : Choice := { reached := some 0 }

/-- The first gateway creates a session and restarts, and then the second one is asked to end it. -/
def forwardedRequests : List (Action (gateways sampleFleet)) :=
  .start (Job.create 0 (plainRequest "rbi-1" "worker-a") ⟨"entry_1", "bridge_1"⟩ 0) ::
    Action.resumes 0 4 wellDone ++
  .start (Job.restart 0) :: Action.resumes 1 1 wellDone ++
  .start (Job.terminate 1 false "rbi-1") ::
    Action.resumes 2 2 wellDone ++ .resume 2 reachesFirst :: Action.resumes 2 6 wellDone

theorem forwarded_requests_reach_the_creator :
    ∃ final : Async.Config (gateways sampleFleet), Run anyAction ⟨Gateways.initial, []⟩ final ∧
      final.state.terminated 0 "rbi-1" = true ∧ CreatedAt final 0 "rbi-1" ∧
      (∃ thread ∈ final.threads, thread.past.countP (·.1.isForward) = 1) ∧
      ∀ thread ∈ final.threads, thread.past.countP (·.1.isForward) ≤ 1 := by
  obtain ⟨final, run, seen⟩ := Run.exists_of_actions
    (⟨Gateways.initial, []⟩ : Async.Config (gateways sampleFleet)) forwardedRequests
    (fun final => final.state.terminated 0 "rbi-1" &&
      final.threads.any fun thread => thread.past.countP (·.1.isForward) == 1)
    (by decide +kernel)
  obtain ⟨ended, forwarded⟩ := Bool.and_eq_true_iff.mp seen
  obtain ⟨thread, member, once⟩ := List.any_eq_true.mp forwarded
  obtain ⟨places, handlers⟩ := sessions_stay_where_created sampleFleet_distinct run
  refine ⟨final, run, ended, places 0 "rbi-1" (.inr (.inl ended)), ?_, ?_⟩
  · exact ⟨thread, member, beq_iff_eq.mp once⟩
  · exact fun thread member => (handlers thread member).2.2.2

end RemoteBrowser.MediaGateway.Owners
