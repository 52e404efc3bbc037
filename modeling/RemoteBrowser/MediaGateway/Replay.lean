import RemoteBrowser.MediaGateway.Contracts
import RemoteBrowser.Json.Marshal

/-!
# Replays of a session's creation

A second request for a session is answered with the first one's response if the two requests are
equivalent.  The first request is compared as the service remembers it, or as it comes back from
the shared store, where it has been written as JSON and read again.
-/

namespace RemoteBrowser.MediaGateway

open Json

/-! ## Comparison of requests -/

/-- A nil map and an empty one are the same. -/
def normalizeOptionalMap : OptionalMap → OptionalMap
  | some [] => none
  | value => value

def normalizeReplayComparableRequest (req : SessionRequest) : SessionRequest :=
  { req with
    client := normalizeOptionalMap req.client
    experiments := normalizeOptionalMap req.experiments }

/-- `reflect.DeepEqual` on maps. -/
def mapsDeepEqual : OptionalMap → OptionalMap → Bool
  | none, none => true
  | some left, some right => deepEqual (obj left) (obj right)
  | _, _ => false

/-- `reflect.DeepEqual` on requests. -/
def SessionRequest.deepEqual (left right : SessionRequest) : Bool :=
  left.sessionID == right.sessionID && left.tenantID == right.tenantID &&
  left.profileID == right.profileID && left.targetURL == right.targetURL &&
  left.viewerEntryMode == right.viewerEntryMode &&
  left.preferredTransport == right.preferredTransport && left.generation == right.generation &&
  left.viewerToken == right.viewerToken && left.workerToken == right.workerToken &&
  mapsDeepEqual left.client right.client && mapsDeepEqual left.experiments right.experiments &&
  left.publicBaseURL == right.publicBaseURL && left.publicWsURL == right.publicWsURL &&
  left.gatewayAssignment == right.gatewayAssignment &&
  left.workerAssignment == right.workerAssignment

def requestsEquivalentForReplay (left right : SessionRequest) : Bool :=
  (normalizeReplayComparableRequest left).deepEqual (normalizeReplayComparableRequest right)

/-! ## The stored form -/

/-- Read what a pointer points to. -/
def readPointer {α : Type} (read : Fields → Option α) : Option Fields → Option (Option α)
  | none => some none
  | some fields => (read fields).map some

def GatewayAssignment.slots (value : GatewayAssignment) : List (String × Option Json) :=
  [("sessionId", some (str value.sessionID)),
    ("gatewayId", some (str value.gatewayID)),
    ("region", some (str value.region)),
    ("workerId", omitEmpty value.workerID),
    ("relayMode", omitEmpty value.relayMode),
    ("publicBaseUrl", omitEmpty value.publicBaseURL),
    ("publicWsUrl", omitEmpty value.publicWsURL)]

def GatewayAssignment.unmarshal (fields : Fields) : Option GatewayAssignment := do
  return {
    sessionID := ← readString (fields.lookup "sessionId")
    gatewayID := ← readString (fields.lookup "gatewayId")
    region := ← readString (fields.lookup "region")
    workerID := ← readString (fields.lookup "workerId")
    relayMode := ← readString (fields.lookup "relayMode")
    publicBaseURL := ← readString (fields.lookup "publicBaseUrl")
    publicWsURL := ← readString (fields.lookup "publicWsUrl") }

theorem GatewayAssignment.unmarshal_present (value : GatewayAssignment) :
    unmarshal (present value.slots) = some value := by
  have distinct : (value.slots.map Prod.fst).Nodup := by simp [slots]
  simp only [unmarshal, lookup_present distinct]
  simp [slots, List.lookup_cons]

def WorkerAssignment.slots (value : WorkerAssignment) : List (String × Option Json) :=
  [("sessionId", some (str value.sessionID)),
    ("workerId", some (str value.workerID)),
    ("region", omitEmpty value.region),
    ("runtimeClass", omitEmpty value.runtimeClass),
    ("nodePool", omitEmpty value.nodePool),
    ("availabilityZone", omitEmpty value.availabilityZone)]

def WorkerAssignment.unmarshal (fields : Fields) : Option WorkerAssignment := do
  return {
    sessionID := ← readString (fields.lookup "sessionId")
    workerID := ← readString (fields.lookup "workerId")
    region := ← readString (fields.lookup "region")
    runtimeClass := ← readString (fields.lookup "runtimeClass")
    nodePool := ← readString (fields.lookup "nodePool")
    availabilityZone := ← readString (fields.lookup "availabilityZone") }

theorem WorkerAssignment.unmarshal_present (value : WorkerAssignment) :
    unmarshal (present value.slots) = some value := by
  have distinct : (value.slots.map Prod.fst).Nodup := by simp [slots]
  simp only [unmarshal, lookup_present distinct]
  simp [slots, List.lookup_cons]

def SessionRequest.slots (value : SessionRequest) : List (String × Option Json) :=
  [("sessionId", some (str value.sessionID)),
    ("tenantId", some (str value.tenantID)),
    ("profileId", omitEmpty value.profileID),
    ("targetUrl", omitEmpty value.targetURL),
    ("viewerEntryMode", omitEmpty value.viewerEntryMode),
    ("preferredTransport", omitEmpty value.preferredTransport),
    ("generation", omitZero value.generation),
    ("viewerToken", omitEmpty value.viewerToken),
    ("workerToken", omitEmpty value.workerToken),
    ("client", omitEmptyMap value.client),
    ("experiments", omitEmptyMap value.experiments),
    ("publicBaseUrl", omitEmpty value.publicBaseURL),
    ("publicWsUrl", omitEmpty value.publicWsURL),
    ("gatewayAssignment", some (obj (present value.gatewayAssignment.slots))),
    ("workerAssignment", some (obj (present value.workerAssignment.slots)))]

def SessionRequest.unmarshal (fields : Fields) : Option SessionRequest := do
  return {
    sessionID := ← readString (fields.lookup "sessionId")
    tenantID := ← readString (fields.lookup "tenantId")
    profileID := ← readString (fields.lookup "profileId")
    targetURL := ← readString (fields.lookup "targetUrl")
    viewerEntryMode := ← readString (fields.lookup "viewerEntryMode")
    preferredTransport := ← readString (fields.lookup "preferredTransport")
    generation := ← readInt (fields.lookup "generation")
    viewerToken := ← readString (fields.lookup "viewerToken")
    workerToken := ← readString (fields.lookup "workerToken")
    client := ← readMap (fields.lookup "client")
    experiments := ← readMap (fields.lookup "experiments")
    publicBaseURL := ← readString (fields.lookup "publicBaseUrl")
    publicWsURL := ← readString (fields.lookup "publicWsUrl")
    gatewayAssignment := ← (readStruct (fields.lookup "gatewayAssignment")).bind
      GatewayAssignment.unmarshal
    workerAssignment := ← (readStruct (fields.lookup "workerAssignment")).bind
      WorkerAssignment.unmarshal }

theorem SessionRequest.unmarshal_present (value : SessionRequest) :
    unmarshal (present value.slots) = 
      some { value with
        client := remarshalled value.client
        experiments := remarshalled value.experiments } := by
  have distinct : (value.slots.map Prod.fst).Nodup := by simp [slots]
  simp only [unmarshal, lookup_present distinct]
  simp [slots, List.lookup_cons,
    GatewayAssignment.unmarshal_present, WorkerAssignment.unmarshal_present]

def MediaTerminationCapability.slots (value : MediaTerminationCapability) :
    List (String × Option Json) :=
  [("mode", some (str value.mode)),
    ("mediaPlaneMode", omitEmpty value.mediaPlaneMode),
    ("protocol", omitEmpty value.protocol),
    ("relayMode", some (str value.relayMode)),
    ("relayModeAcceptanceState", some (str value.relayModeAcceptanceState)),
    ("gatewayTerminatesSignaling", some (bool value.gatewayTerminatesSignaling)),
    ("gatewayTerminatesMedia", some (bool value.gatewayTerminatesMedia)),
    ("workerAddressExposure", some (str value.workerAddressExposure)),
    ("directWorkerExposureAllowed", some (bool value.directWorkerExposureAllowed)),
    ("wave2AcceptanceComplete", some (bool value.wave2AcceptanceComplete)),
    ("implementationStatus", some (str value.implementationStatus)),
    ("implementationStatusDetail", omitEmpty value.implementationStatusDetail)]

def MediaTerminationCapability.unmarshal (fields : Fields) : Option MediaTerminationCapability := do
  return {
    mode := ← readString (fields.lookup "mode")
    mediaPlaneMode := ← readString (fields.lookup "mediaPlaneMode")
    protocol := ← readString (fields.lookup "protocol")
    relayMode := ← readString (fields.lookup "relayMode")
    relayModeAcceptanceState := ← readString (fields.lookup "relayModeAcceptanceState")
    gatewayTerminatesSignaling := ← readBool (fields.lookup "gatewayTerminatesSignaling")
    gatewayTerminatesMedia := ← readBool (fields.lookup "gatewayTerminatesMedia")
    workerAddressExposure := ← readString (fields.lookup "workerAddressExposure")
    directWorkerExposureAllowed := ← readBool (fields.lookup "directWorkerExposureAllowed")
    wave2AcceptanceComplete := ← readBool (fields.lookup "wave2AcceptanceComplete")
    implementationStatus := ← readString (fields.lookup "implementationStatus")
    implementationStatusDetail := ← readString (fields.lookup "implementationStatusDetail") }

theorem MediaTerminationCapability.unmarshal_present (value : MediaTerminationCapability) :
    unmarshal (present value.slots) = some value := by
  have distinct : (value.slots.map Prod.fst).Nodup := by simp [slots]
  simp only [unmarshal, lookup_present distinct]
  simp [slots, List.lookup_cons]

def GatewayTransport.slots (value : GatewayTransport) : List (String × Option Json) :=
  [("preferred", some (str value.preferred)),
    ("supported", some (arr (value.supported.map str))),
    ("viewerUrl", some (str value.viewerURL)),
    ("signalingUrl", omitEmpty value.signalingURL),
    ("mediaRelayUrl", omitEmpty value.mediaRelayURL),
    ("mediaGatewayUrl", omitEmpty value.mediaGatewayURL),
    ("mediaPlaneMode", omitEmpty value.mediaPlaneMode),
    ("protocol", omitEmpty value.protocol),
    ("inputPointerName", omitEmpty value.inputPointerName),
    ("inputControlName", omitEmpty value.inputControlName),
    ("mediaTermination", value.mediaTermination.map fun inner => obj (present inner.slots))]

def GatewayTransport.unmarshal (fields : Fields) : Option GatewayTransport := do
  return {
    preferred := ← readString (fields.lookup "preferred")
    supported := ← readStrings (fields.lookup "supported")
    viewerURL := ← readString (fields.lookup "viewerUrl")
    signalingURL := ← readString (fields.lookup "signalingUrl")
    mediaRelayURL := ← readString (fields.lookup "mediaRelayUrl")
    mediaGatewayURL := ← readString (fields.lookup "mediaGatewayUrl")
    mediaPlaneMode := ← readString (fields.lookup "mediaPlaneMode")
    protocol := ← readString (fields.lookup "protocol")
    inputPointerName := ← readString (fields.lookup "inputPointerName")
    inputControlName := ← readString (fields.lookup "inputControlName")
    mediaTermination := ← (readMap (fields.lookup "mediaTermination")).bind
      (readPointer MediaTerminationCapability.unmarshal) }

theorem readPointer_present (value : Option MediaTerminationCapability) :
    (readMap (value.map fun inner => obj (present inner.slots))).bind
      (readPointer MediaTerminationCapability.unmarshal) = some value := by
  cases value with
  | none => rfl
  | some inner => simp [readMap, readPointer, MediaTerminationCapability.unmarshal_present]

theorem GatewayTransport.unmarshal_present (value : GatewayTransport) :
    unmarshal (present value.slots) = some value := by
  have distinct : (value.slots.map Prod.fst).Nodup := by simp [slots]
  simp only [unmarshal, lookup_present distinct]
  simp [slots, List.lookup_cons, readPointer_present]

def WorkerBridge.slots (value : WorkerBridge) : List (String × Option Json) :=
  [("bridgeId", some (str value.bridgeID)),
    ("relayMode", some (str value.relayMode)),
    ("mediaRelayUrl", omitEmpty value.mediaRelayURL),
    ("mediaGatewayUrl", omitEmpty value.mediaGatewayURL),
    ("mediaDirection", omitEmpty value.mediaDirection),
    ("protocol", omitEmpty value.protocol),
    ("inputPointerName", omitEmpty value.inputPointerName),
    ("inputControlName", omitEmpty value.inputControlName)]

def WorkerBridge.unmarshal (fields : Fields) : Option WorkerBridge := do
  return {
    bridgeID := ← readString (fields.lookup "bridgeId")
    relayMode := ← readString (fields.lookup "relayMode")
    mediaRelayURL := ← readString (fields.lookup "mediaRelayUrl")
    mediaGatewayURL := ← readString (fields.lookup "mediaGatewayUrl")
    mediaDirection := ← readString (fields.lookup "mediaDirection")
    protocol := ← readString (fields.lookup "protocol")
    inputPointerName := ← readString (fields.lookup "inputPointerName")
    inputControlName := ← readString (fields.lookup "inputControlName") }

theorem WorkerBridge.unmarshal_present (value : WorkerBridge) :
    unmarshal (present value.slots) = some value := by
  have distinct : (value.slots.map Prod.fst).Nodup := by simp [slots]
  simp only [unmarshal, lookup_present distinct]
  simp [slots, List.lookup_cons]

def SessionResponse.slots (value : SessionResponse) : List (String × Option Json) :=
  [("sessionId", some (str value.sessionID)),
    ("viewerEntryMode", omitEmpty value.viewerEntryMode),
    ("gatewayAssignment", some (obj (present value.gatewayAssignment.slots))),
    ("workerAssignment", some (obj (present value.workerAssignment.slots))),
    ("transport", some (obj (present value.transport.slots))),
    ("workerBridge", some (obj (present value.workerBridge.slots)))]

def SessionResponse.unmarshal (fields : Fields) : Option SessionResponse := do
  return {
    sessionID := ← readString (fields.lookup "sessionId")
    viewerEntryMode := ← readString (fields.lookup "viewerEntryMode")
    gatewayAssignment := ← (readStruct (fields.lookup "gatewayAssignment")).bind
      GatewayAssignment.unmarshal
    workerAssignment := ← (readStruct (fields.lookup "workerAssignment")).bind
      WorkerAssignment.unmarshal
    transport := ← (readStruct (fields.lookup "transport")).bind GatewayTransport.unmarshal
    workerBridge := ← (readStruct (fields.lookup "workerBridge")).bind WorkerBridge.unmarshal }

theorem SessionResponse.unmarshal_present (value : SessionResponse) :
    unmarshal (present value.slots) = some value := by
  have distinct : (value.slots.map Prod.fst).Nodup := by simp [slots]
  simp only [unmarshal, lookup_present distinct]
  simp [slots, List.lookup_cons,
    GatewayAssignment.unmarshal_present, WorkerAssignment.unmarshal_present,
    GatewayTransport.unmarshal_present, WorkerBridge.unmarshal_present]

/-- What `SaveSession` writes.  The admission decision, the times and the owner beside the record
always read back and are left out. -/
def SessionRecord.slots (value : SessionRecord) : List (String × Option Json) :=
  [("request", some (obj (present value.request.slots))),
    ("response", some (obj (present value.response.slots))),
    ("viewerEntryToken", omitEmpty value.viewerEntryToken)]

def SessionRecord.unmarshal (createdAt : Int) (fields : Fields) : Option SessionRecord := do
  return {
    request := ← (readStruct (fields.lookup "request")).bind SessionRequest.unmarshal
    response := ← (readStruct (fields.lookup "response")).bind SessionResponse.unmarshal
    viewerEntryToken := ← readString (fields.lookup "viewerEntryToken")
    createdAt := createdAt }

theorem SessionRecord.unmarshal_present (value : SessionRecord) :
    unmarshal value.createdAt (present value.slots) =
      some { value with
        request := { value.request with
          client := remarshalled value.request.client
          experiments := remarshalled value.request.experiments } } := by
  have distinct : (value.slots.map Prod.fst).Nodup := by simp [slots]
  simp only [unmarshal, lookup_present distinct]
  simp [slots, List.lookup_cons, SessionRequest.unmarshal_present,
    SessionResponse.unmarshal_present]

def saveSession (record : SessionRecord) : Json :=
  obj (present [("record", some (obj (present record.slots)))])

/-- What `GetSession` returns of the text that was written for a record. -/
def loadSession (text : Json) (createdAt : Int) : Option SessionRecord := do
  let stored ← readStruct (← Json.unmarshal text)
  (readStruct (stored.lookup "record")).bind (SessionRecord.unmarshal createdAt)

/-- The record as an instance finds it that has to look it up in the shared store. -/
def SessionRecord.reload (record : SessionRecord) : Option SessionRecord :=
  loadSession (saveSession record) record.createdAt

/-- How deep the request nests when it is written. -/
def SessionRequest.depth (req : SessionRequest) : Nat := (obj (present req.slots)).depth

theorem SessionResponse.depth_le (value : SessionResponse) :
    (obj (present value.slots)).depth ≤ 3 := by
  have bridge : (obj (present value.workerBridge.slots)).depth = 1 := by
    simp [depth, fieldsDepth_present, slotsDepth, WorkerBridge.slots]
  have transport : (obj (present value.transport.slots)).depth ≤ 2 := by
    cases ended : value.transport.mediaTermination with
    | none =>
        simp [depth, fieldsDepth_present, slotsDepth, GatewayTransport.slots, ended,
          itemsDepth_map_str]
    | some inner =>
        simp [depth, fieldsDepth_present, slotsDepth, GatewayTransport.slots, ended,
          itemsDepth_map_str, MediaTerminationCapability.slots]
  have worker : (obj (present value.workerAssignment.slots)).depth = 1 := by
    simp [depth, fieldsDepth_present, slotsDepth, WorkerAssignment.slots]
  have gateway : (obj (present value.gatewayAssignment.slots)).depth = 1 := by
    simp [depth, fieldsDepth_present, slotsDepth, GatewayAssignment.slots]
  rw [depth, fieldsDepth_present]
  simp only [slotsDepth, slots, Option.elim_some, elim_omitEmpty_depth, bridge, worker, gateway,
    depth_str]
  omega

/-- The store's text nests two levels deeper than the request. -/
theorem saveSession_depth (record : SessionRecord) :
    (saveSession record).depth =
      max record.request.depth (obj (present record.response.slots)).depth + 2 := by
  simp only [saveSession, depth, fieldsDepth_present, slotsDepth, SessionRecord.slots,
    Option.elim_some, elim_omitEmpty_depth, SessionRequest.depth]
  omega

theorem loadSession_saveSession (record : SessionRecord)
    (shallow : (saveSession record).depth ≤ maxNestingDepth) :
    record.reload = some { record with
      request := { record.request with
        client := remarshalled record.request.client
        experiments := remarshalled record.request.experiments } } := by
  have distinct : ([("record", some (obj (present record.slots)))].map Prod.fst).Nodup := by simp
  rw [SessionRecord.reload, loadSession, Json.unmarshal, if_pos shallow]
  simp only [saveSession, Option.bind_eq_bind, Option.bind_some, readStruct_obj,
    lookup_present distinct]
  simp [SessionRecord.unmarshal_present]

theorem reload_eq_none {record : SessionRecord}
    (deep : ¬(saveSession record).depth ≤ maxNestingDepth) : record.reload = none := by
  rw [SessionRecord.reload, loadSession, Json.unmarshal, if_neg deep]
  rfl

/-- A record can be read back exactly if its request nests at most two levels less than a text
may. -/
theorem saveSession_depth_le_iff (record : SessionRecord) :
    (saveSession record).depth ≤ maxNestingDepth ↔ record.request.depth + 2 ≤ maxNestingDepth := by
  have response := record.response.depth_le
  rw [saveSession_depth, maxNestingDepth]
  omega

/-! ## Answers -/

theorem mapsDeepEqual_remarshalled (left right : OptionalMap) :
    mapsDeepEqual (normalizeOptionalMap (remarshalled left)) right =
      mapsDeepEqual (normalizeOptionalMap left) right := by
  match left with
  | none => rfl
  | some [] => rfl
  | some (entry :: rest) =>
      have listed : marshalFields (entry :: rest) ≠ [] := by simp [marshalFields_eq_nil]
      have kept : normalizeOptionalMap (some (marshalFields (entry :: rest))) =
          some (marshalFields (entry :: rest)) := by
        unfold normalizeOptionalMap
        split
        · next same => exact absurd (Option.some.inj same) listed
        · rfl
      have written : remarshalled (some (entry :: rest)) =
          some (marshalFields (entry :: rest)) := rfl
      rw [written, kept]
      cases right with
      | none => rfl
      | some right => exact deepEqual_marshalAny (obj (entry :: rest)) (obj right)

/-- A request is compared with another as it is compared after it was written and read. -/
theorem requestsEquivalentForReplay_remarshalled (left right : SessionRequest) :
    requestsEquivalentForReplay { left with
      client := remarshalled left.client
      experiments := remarshalled left.experiments } right =
        requestsEquivalentForReplay left right := by
  simp only [requestsEquivalentForReplay, normalizeReplayComparableRequest,
    SessionRequest.deepEqual, mapsDeepEqual_remarshalled]

/-- How `CreateSession` answers a request for a session of which it has found a record. -/
def replayAnswer (record : SessionRecord) (req : SessionRequest) :
    Except ApiError (Nat × SessionResponse) :=
  if requestsEquivalentForReplay record.request req then .ok (200, record.response)
  else .error ⟨409, "sessionId replay does not match existing gateway session"⟩

/-- The store gives the record back, and every request compares with it and is answered as it is
where the record is in memory. -/
def ReplaysAlike (record : SessionRecord) : Prop :=
  ∃ loaded, record.reload = some loaded ∧ ∀ req,
    requestsEquivalentForReplay loaded.request req =
        requestsEquivalentForReplay record.request req ∧
      replayAnswer loaded req = replayAnswer record req

/-- Replays are answered alike from the store and from memory exactly if the request nests so
deep at most that the store's text can be read. -/
theorem replays_alike_iff_shallow (record : SessionRecord) :
    ReplaysAlike record ↔ record.request.depth + 2 ≤ maxNestingDepth := by
  rw [← saveSession_depth_le_iff]
  constructor
  · rintro ⟨loaded, found, -⟩
    by_contra deep
    rw [reload_eq_none deep] at found
    cases found
  · intro shallow
    refine ⟨_, loadSession_saveSession record shallow, fun req => ?_⟩
    have same := requestsEquivalentForReplay_remarshalled record.request req
    exact ⟨same, by simp only [replayAnswer, same]⟩

/-- An array in an array, and so on. -/
def nestedArrays : Nat → Json
  | 0 => null
  | levels + 1 => arr [nestedArrays levels]

theorem depth_nestedArrays (levels : Nat) : (nestedArrays levels).depth = levels := by
  induction levels with
  | zero => rfl
  | succ levels ih =>
      rw [nestedArrays, depth, itemsDepth, ih]
      simp [itemsDepth, Nat.add_comm]

theorem marshalAny_nestedArrays (levels : Nat) :
    marshalAny (nestedArrays levels) = nestedArrays levels := by
  induction levels with
  | zero => rfl
  | succ levels ih => simp [nestedArrays, marshalAny, marshalItems, ih]

/-- The body of a request with some hints about the client. -/
def hintedBody (hints : Json) : Fields :=
  [("sessionId", str "rbi-1"), ("tenantId", str "tenant-a"), ("viewerToken", str "viewer-rbi-1"),
    ("workerToken", str "worker-rbi-1"), ("client", obj [("hints", hints)]),
    ("workerAssignment", obj [("workerId", str "worker-a")])]

def hintedRequest (hints : Json) : SessionRequest :=
  { plainRequest "rbi-1" "worker-a" with client := some [("hints", hints)] }

theorem validateRequest_hinted (hints : Json) :
    ∃ req, validateRequest plainPlatform defaultConfig (hintedRequest hints) = .ok req ∧
      req.client = some [("hints", hints)] := by
  have plain : (validateRequest plainPlatform defaultConfig
      (plainRequest "rbi-1" "worker-a")).isOk = true := by
    decide +kernel
  rw [hintedRequest, validateRequest_client]
  cases accepted : validateRequest plainPlatform defaultConfig (plainRequest "rbi-1" "worker-a") with
  | error failure =>
      rw [accepted] at plain
      cases plain
  | ok req => exact ⟨_, rfl, rfl⟩

theorem depth_of_client {req : SessionRequest} {hints : Json}
    (client : req.client = some [("hints", hints)]) :
    (marshalAny hints).depth + 2 ≤ req.depth := by
  have written : omitEmptyMap req.client = some (obj [("hints", marshalAny hints)]) := by
    rw [client]
    rfl
  have slot : ("client", some (obj [("hints", marshalAny hints)])) ∈ req.slots := by
    simp [SessionRequest.slots, written]
  have nested := depth_le_slotsDepth slot
  rw [SessionRequest.depth, depth, fieldsDepth_present]
  simp only [depth, fieldsDepth] at nested
  omega

/-- The session that a request creates is not found in the store if its hints nest too deep. -/
theorem hinted_not_replayed {req : SessionRequest} {hints : Json}
    (client : req.client = some [("hints", hints)]) (deep : 9997 ≤ (marshalAny hints).depth)
    (draws : Draws) (createdAt : Int) :
    ¬ReplaysAlike
      { request := req
        response := buildResponse plainPlatform defaultConfig req draws
        viewerEntryToken := draws.viewerEntryToken
        createdAt := createdAt } := by
  intro alike
  have shallow := (replays_alike_iff_shallow _).mp alike
  have deeper := depth_of_client client
  simp only [maxNestingDepth] at shallow
  omega

theorem unmarshal_hintedBody {hints : Json} (readable : hints.depth ≤ 9998) :
    Json.unmarshal (obj (hintedBody hints)) = some (obj (hintedBody hints)) := by
  refine if_pos ?_
  simp only [hintedBody, depth, fieldsDepth, maxNestingDepth]
  omega

/-- A body whose text is nested as deeply as can be read is accepted, but the session that it
creates is not found in the store. -/
theorem deep_request_is_not_replayed_from_store : ∃ raw req,
    Json.unmarshal (obj (hintedBody (nestedArrays 9998))) =
      some (obj (hintedBody (nestedArrays 9998))) ∧
    SessionRequest.unmarshal (hintedBody (nestedArrays 9998)) = some raw ∧
    validateRequest plainPlatform defaultConfig raw = .ok req ∧
    ∀ draws createdAt, ¬ReplaysAlike
      { request := req
        response := buildResponse plainPlatform defaultConfig req draws
        viewerEntryToken := draws.viewerEntryToken
        createdAt := createdAt } := by
  have read (hints : Json) :
      SessionRequest.unmarshal (hintedBody hints) = some (hintedRequest hints) := rfl
  obtain ⟨req, accepted, client⟩ := validateRequest_hinted (nestedArrays 9998)
  refine ⟨_, req, ?_, read _, accepted, hinted_not_replayed client ?_⟩
  · exact unmarshal_hintedBody (depth_nestedArrays 9998).le
  · rw [marshalAny_nestedArrays, depth_nestedArrays]
    omega

end RemoteBrowser.MediaGateway
