import RemoteBrowser.Gateway.Workers

/-!
# Assignments that the Go services write

`contracts.GatewayAssignment` is marshalled under the names of its struct tags.  The control
plane looks its addresses up under `publicBaseURL` and `publicWsURL`, names that no tag has, so
that it finds neither: the gateway of a terminated session is not notified, and the pooled
worker's signaling URL is built on a configured address.
-/

namespace RemoteBrowser.Gateway

/-- `contracts.GatewayAssignment` of `services/internal/contracts/types.go`. -/
structure GatewayAssignment where
  sessionID : String
  gatewayID : String
  region : String
  workerID : String
  relayMode : String
  publicBaseURL : String
  publicWsURL : String
  deriving DecidableEq

/-- A member with `omitempty`. -/
def omitEmpty (tag value : String) : Json.Fields :=
  if value = "" then [] else [(tag, .str value)]

/-- What `json.Marshal` writes. -/
def GatewayAssignment.marshal (assignment : GatewayAssignment) : Json :=
  .obj
    ([("sessionId", .str assignment.sessionID), ("gatewayId", .str assignment.gatewayID),
        ("region", .str assignment.region)] ++
      omitEmpty "workerId" assignment.workerID ++ omitEmpty "relayMode" assignment.relayMode ++
      omitEmpty "publicBaseUrl" assignment.publicBaseURL ++
      omitEmpty "publicWsUrl" assignment.publicWsURL)

/-! ## Notification of the gateway -/

structure Request where
  method : String
  url : String
  internalSecret : String
  reason : String
  deriving DecidableEq

namespace UrlPlatform

variable (platform : UrlPlatform)

def appendBaseUrlPath (baseUrl suffix : String) : Option String := do
  let parsed ← platform.parse baseUrl
  let path := stripTrailing parsed.pathname ++ "/" ++ stripLeading suffix
  some (platform.href { platform.setPathname parsed path with query := [], fragment := "" })

/-- The path at which a gateway is told that a session has ended. -/
def terminatePath (session : PlacedSession) : String :=
  "/v1/sessions/" ++ platform.encodeURIComponent session.id ++ "/terminate"

/-- The requests that the call sends, unless it throws. -/
def notifyGatewaySessionTermination (config : SignalingConfig) (session : PlacedSession)
    (reason : String) : Option (List Request) := do
  let gatewayBaseUrl ← platform.getGatewayAssignmentValue session "publicBaseURL"
  if gatewayBaseUrl = "" ∨ config.rbiInternalSharedSecret = "" then
    some []
  else
    let url ← platform.appendBaseUrlPath gatewayBaseUrl (platform.terminatePath session)
    some
      [{ method := "POST", url, internalSecret := config.rbiInternalSharedSecret, reason }]

/-- The requests that `terminateSession` sends to a gateway once the session is terminated. -/
def terminationRequests (config : SignalingConfig) (session : PlacedSession) (reason : String) :
    Option (List Request) :=
  if usesGatewaySignaling session then
    platform.notifyGatewaySessionTermination config session reason
  else
    some []

end UrlPlatform

/-! ## What the control plane reads -/

section Reading

variable {assignment : GatewayAssignment} {session : PlacedSession}

theorem lookup_omitEmpty_of_ne {tag key : String} (different : key ≠ tag) (value : String) :
    (omitEmpty tag value).lookup key = none := by
  have other : (key == tag) = false := by simpa using different
  unfold omitEmpty
  split
  · rfl
  · simp [List.lookup_cons, other]

/-- A name without a tag is absent from every assignment. -/
theorem member_marshal_of_not_tag {key : String}
    (untagged : key ∉ ["sessionId", "gatewayId", "region", "workerId", "relayMode",
      "publicBaseUrl", "publicWsUrl"]) :
    assignment.marshal.member key = none := by
  simp only [List.mem_cons, List.not_mem_nil, or_false, not_or] at untagged
  obtain ⟨session, gateway, region, worker, relay, base, ws⟩ := untagged
  simp only [GatewayAssignment.marshal, Json.member, List.lookup_append,
    lookup_omitEmpty_of_ne worker, lookup_omitEmpty_of_ne relay, lookup_omitEmpty_of_ne base,
    lookup_omitEmpty_of_ne ws, Option.or_none]
  simp [List.lookup_cons, beq_eq_false_iff_ne.mpr session, beq_eq_false_iff_ne.mpr gateway,
    beq_eq_false_iff_ne.mpr region]

theorem member_marshal_publicWsUrl (present : assignment.publicWsURL ≠ "") :
    assignment.marshal.member "publicWsUrl" = some (.str assignment.publicWsURL) := by
  simp only [GatewayAssignment.marshal, Json.member, List.lookup_append,
    lookup_omitEmpty_of_ne (show "publicWsUrl" ≠ "workerId" by decide),
    lookup_omitEmpty_of_ne (show "publicWsUrl" ≠ "relayMode" by decide),
    lookup_omitEmpty_of_ne (show "publicWsUrl" ≠ "publicBaseUrl" by decide), Option.or_none]
  simp [List.lookup_cons, omitEmpty, present]

variable {platform : UrlPlatform}

/-- The two addresses are looked up under names that have no tag. -/
theorem getGatewayAssignmentValue_untagged {key : String}
    (placed : session.sessionPlacement.member "gatewayAssignment" = some assignment.marshal)
    (capital : key = "publicBaseURL" ∨ key = "publicWsURL") :
    platform.getGatewayAssignmentValue session key = some "" := by
  have untagged : key ∉ ["sessionId", "gatewayId", "region", "workerId", "relayMode",
      "publicBaseUrl", "publicWsUrl"] := by
    rcases capital with rfl | rfl
    · decide
    · decide
  have sameKey : decapitalized key = key := by
    rcases capital with rfl | rfl
    · decide
    · decide
  rw [UrlPlatform.getGatewayAssignmentValue, sameKey, Json.or_self, PlacedSession.assigned,
    placed, Option.bind_some, member_marshal_of_not_tag untagged]
  rfl

theorem usesGatewaySignaling_marshal (present : assignment.publicWsURL ≠ "")
    (placed : session.sessionPlacement.member "gatewayAssignment" = some assignment.marshal) :
    usesGatewaySignaling session = true := by
  simp [usesGatewaySignaling, PlacedSession.assigned, placed, member_marshal_publicWsUrl present,
    Json.truthy, present]

end Reading

/-- The control plane reads what the Go services wrote: both addresses are found, the gateway
is notified of the end of the session, and the worker signals through the gateway. -/
def ReadsAssignment (platform : UrlPlatform) (config : SignalingConfig)
    (session : PlacedSession) (assignment : GatewayAssignment) : Prop :=
  platform.getGatewayAssignmentValue session "publicBaseURL" = some assignment.publicBaseURL ∧
    platform.getGatewayAssignmentValue session "publicWsURL" = some assignment.publicWsURL ∧
    (config.rbiInternalSharedSecret ≠ "" → ∀ reason, ∃ requests request,
      platform.terminationRequests config session reason = some requests ∧
        request ∈ requests ∧ request.method = "POST" ∧
        platform.appendBaseUrlPath assignment.publicBaseURL (platform.terminatePath session) =
          some request.url) ∧
    platform.buildSessionSignalingUrl config session .worker config.workerWsUrl =
      platform.buildGatewaySignalingUrl assignment.publicWsURL session.id .worker
        (some (.str assignment.relayMode))

/-- No assignment is read: the session is known to be a gateway's, but neither address is
found, and the gateway is never notified of its end. -/
theorem gateway_assignment_is_never_read (platform : UrlPlatform) (config : SignalingConfig)
    (session : PlacedSession) (assignment : GatewayAssignment)
    (placed : session.sessionPlacement.member "gatewayAssignment" = some assignment.marshal)
    (basePresent : assignment.publicBaseURL ≠ "") (wsPresent : assignment.publicWsURL ≠ "") :
    usesGatewaySignaling session = true ∧
      platform.getGatewayAssignmentValue session "publicBaseURL" ≠
        some assignment.publicBaseURL ∧
      platform.getGatewayAssignmentValue session "publicWsURL" ≠ some assignment.publicWsURL ∧
      (∀ reason, platform.terminationRequests config session reason = some []) ∧
      ¬ ReadsAssignment platform config session assignment := by
  have gateway := usesGatewaySignaling_marshal wsPresent placed
  have base : platform.getGatewayAssignmentValue session "publicBaseURL" = some "" :=
    getGatewayAssignmentValue_untagged placed (.inl rfl)
  have ws : platform.getGatewayAssignmentValue session "publicWsURL" = some "" :=
    getGatewayAssignmentValue_untagged placed (.inr rfl)
  have baseMissed : platform.getGatewayAssignmentValue session "publicBaseURL" ≠
      some assignment.publicBaseURL := by
    rw [base]
    intro same
    exact basePresent (Option.some.inj same).symm
  refine ⟨gateway, baseMissed, ?_, ?_, fun reads => baseMissed reads.1⟩
  · rw [ws]
    intro same
    exact wsPresent (Option.some.inj same).symm
  · intro reason
    simp [UrlPlatform.terminationRequests, gateway, UrlPlatform.notifyGatewaySessionTermination,
      base]

def sampleAssignment : GatewayAssignment where
  sessionID := "sess_1"
  gatewayID := "gw-1"
  region := "us-east-1"
  workerID := ""
  relayMode := "gateway-relay"
  publicBaseURL := "https://gateway.example.com"
  publicWsURL := "wss://gateway.example.com/ws"

def assignedSession : PlacedSession where
  id := "sess_1"
  sessionPlacement := .obj [("gatewayAssignment", sampleAssignment.marshal)]
  transport := .null

theorem sample_assignment_is_never_read :
    samplePlatform.terminationRequests (sampleConfig relayTypes).toSignalingConfig
      assignedSession "viewer closed" = some [] :=
  (gateway_assignment_is_never_read samplePlatform (sampleConfig relayTypes).toSignalingConfig
    assignedSession sampleAssignment rfl (by decide) (by decide)).2.2.2.1 "viewer closed"

theorem control_plane_misses_assignment :
    ∃ platform : UrlPlatform, ∃ config session assignment,
      session.sessionPlacement.member "gatewayAssignment" =
          some (GatewayAssignment.marshal assignment) ∧
        assignment.publicBaseURL ≠ "" ∧ assignment.publicWsURL ≠ "" ∧
        config.rbiInternalSharedSecret ≠ "" ∧
        ¬ ReadsAssignment platform config session assignment := by
  refine ⟨samplePlatform, (sampleConfig relayTypes).toSignalingConfig, assignedSession,
    sampleAssignment, rfl, by decide, by decide, by decide, ?_⟩
  intro reads
  have found := reads.1
  have missed : samplePlatform.getGatewayAssignmentValue assignedSession "publicBaseURL" =
      some "" := rfl
  rw [missed] at found
  exact absurd found (by decide)

end RemoteBrowser.Gateway
