import Mathlib.Data.List.Basic
import RemoteBrowser.Gateway.Signaling
import RemoteBrowser.Text.UriComponent

/-!
# WebSocket upgrades

The listeners of `app/server.js` for `upgrade` and `connection` read the request target outside
of any `try`, so whatever throws there ends the process.  `new URL` throws for some targets, and
`parseGatewaySignalingPath` throws if the session id in the path is not a spelled text.
-/

namespace RemoteBrowser.ControlPlane

open Text

/-! ## The listeners -/

inductive Thrown where
  /-- by `new URL` -/
  | invalidUrl
  /-- by `decodeURIComponent` -/
  | malformedUri
  deriving DecidableEq

structure GatewaySignalRoute where
  sessionId : List Char
  role : Gateway.Role
  deriving DecidableEq

/-- `/(viewer|worker)\/?$/` after a slash. -/
def matchSignalingRole (tail : List Char) : Option Gateway.Role :=
  if tail ∈ ["/viewer".toList, "/viewer/".toList] then some .viewer
  else if tail ∈ ["/worker".toList, "/worker/".toList] then some .worker
  else none

/-- The groups that `/^\/gateway\/signaling\/([^/]+)\/(viewer|worker)\/?$/` matches. -/
def matchSignalingPath (pathname : List Char) : Option (List Char × Gateway.Role) :=
  match pathname.dropPrefix? "/gateway/signaling/".toList with
  | none => none
  | some rest =>
      let segment := rest.takeWhile (· ≠ '/')
      let tail := rest.dropWhile (· ≠ '/')
      if segment = [] then none
      else (matchSignalingRole tail).map (segment, ·)

def parseGatewaySignalingPath (pathname : List Char) :
    Except Thrown (Option GatewaySignalRoute) :=
  match matchSignalingPath pathname with
  | none => .ok none
  | some (segment, role) =>
      match decodeURIComponent segment with
      | none => .error .malformedUri
      | some sessionId => .ok (some ⟨sessionId, role⟩)

/-- What the listeners read of the platform and the configuration. -/
structure UpgradeServer where
  /-- the path of `new URL(target, config.publicBaseUrl)`, unless it throws -/
  requestPath : String → Option (List Char)
  poolRegistrationPaths : List (List Char)

/-- What else decides about a request. -/
structure UpgradeRequest where
  target : String
  /-- `enforceSameOrigin` does not throw -/
  sameOrigin : Bool
  /-- `handleUpgrade` completes the handshake -/
  completes : Bool
  deriving DecidableEq

inductive UpgradeOutcome where
  /-- `socket.destroy()` -/
  | destroyed
  /-- refused by `handleUpgrade` -/
  | aborted
  | connected (route : Option GatewaySignalRoute)
  deriving DecidableEq

namespace UpgradeServer

variable (server : UpgradeServer)

/-- `new URL(req.url, config.publicBaseUrl).pathname`. -/
def pathname (target : String) : Except Thrown (List Char) :=
  match server.requestPath target with
  | none => .error .invalidUrl
  | some path => .ok path

/-- The listener for `connection`, which ends with the registration of its handlers. -/
def connectionListener (target : String) : Except Thrown (Option GatewaySignalRoute) := do
  let requestPath ← server.pathname target
  parseGatewaySignalingPath requestPath

/-- The listener for `upgrade`. -/
def upgradeListener (req : UpgradeRequest) : Except Thrown UpgradeOutcome := do
  let requestPath ← server.pathname req.target
  let isViewerSocket := requestPath == "/ws".toList
  let isWorkerSocket := requestPath == "/ws/worker".toList
  let isPoolSocket := server.poolRegistrationPaths.contains requestPath
  let gatewaySignalRoute ← parseGatewaySignalingPath requestPath
  if !isViewerSocket && !isWorkerSocket && !isPoolSocket && gatewaySignalRoute.isNone then
    return .destroyed
  if isViewerSocket && !req.sameOrigin then
    return .destroyed
  if req.completes then
    let route ← server.connectionListener req.target
    return .connected route
  return .aborted

end UpgradeServer

/-! ## Paths of signaling sockets -/

/-- The path addresses the role's signaling socket of the session that the segment spells. -/
def IsSignalingPath (pathname segment : List Char) (role : Gateway.Role) : Prop :=
  segment ≠ [] ∧ '/' ∉ segment ∧
    ∃ slash ∈ ["", "/"],
      pathname = "/gateway/signaling/".toList ++ (segment ++ ("/" ++ role.name ++ slash).toList)

/-- A segment ends at the first slash. -/
theorem takeWhile_segment {segment : List Char} (plain : '/' ∉ segment) (rest : List Char) :
    (segment ++ '/' :: rest).takeWhile (· ≠ '/') = segment ∧
      (segment ++ '/' :: rest).dropWhile (· ≠ '/') = '/' :: rest := by
  have keeps : ∀ char ∈ segment, decide (char ≠ '/') = true := by
    intro char member
    apply decide_eq_true
    rintro rfl
    exact plain member
  constructor
  case left => rw [List.takeWhile_append_of_pos keeps]; simp
  case right => rw [List.dropWhile_append_of_pos keeps]; simp

theorem matchSignalingRole_eq_some_iff {tail : List Char} {role : Gateway.Role} :
    matchSignalingRole tail = some role ↔
      ∃ slash ∈ ["", "/"], tail = ("/" ++ role.name ++ slash).toList := by
  constructor
  case mp =>
    intro found
    unfold matchSignalingRole at found
    split at found
    case isTrue viewer =>
      cases found
      simpa [Gateway.Role.name] using viewer
    case isFalse =>
      split at found
      case isTrue worker =>
        cases found
        simpa [Gateway.Role.name] using worker
      case isFalse => cases found
  case mpr =>
    rintro ⟨slash, listed, rfl⟩
    simp only [List.mem_cons, List.not_mem_nil, or_false] at listed
    cases role <;> rcases listed with rfl | rfl <;> decide

theorem matchSignalingPath_eq_some_iff {pathname segment : List Char} {role : Gateway.Role} :
    matchSignalingPath pathname = some (segment, role) ↔
      IsSignalingPath pathname segment role := by
  constructor
  case mp =>
    intro found
    unfold matchSignalingPath at found
    split at found
    · cases found
    · rename_i rest stripped
      obtain ⟨start, whole, same⟩ := List.dropPrefix?_eq_some_iff.mp stripped
      rw [eq_of_beq same] at whole
      dsimp only at found
      split at found
      · cases found
      · rename_i named
        obtain ⟨matched, tail, pair⟩ := Option.map_eq_some_iff.mp found
        cases pair
        obtain ⟨slash, listed, ends⟩ := matchSignalingRole_eq_some_iff.mp tail
        refine ⟨named, ?_, slash, listed, ?_⟩
        · intro inside
          have keeps := List.mem_takeWhile_imp inside
          simp at keeps
        · rw [whole, ← ends, List.takeWhile_append_dropWhile]
  case mpr =>
    rintro ⟨named, plain, slash, listed, rfl⟩
    have tail : ("/" ++ role.name ++ slash).toList = '/' :: (role.name ++ slash).toList := by
      simp
    have stripped := List.dropPrefix?_append_of_beq
      (segment ++ ("/" ++ role.name ++ slash).toList)
      (beq_self_eq_true "/gateway/signaling/".toList)
    obtain ⟨front, back⟩ := takeWhile_segment plain (role.name ++ slash).toList
    have matched : matchSignalingRole ("/" ++ role.name ++ slash).toList = some role :=
      matchSignalingRole_eq_some_iff.mpr ⟨slash, listed, rfl⟩
    unfold matchSignalingPath
    rw [stripped]
    dsimp only
    rw [tail, front, back, if_neg named, ← tail, matched]
    rfl

/-! ## Throws -/

/-- The request target has a URL, whose path addresses no signaling socket of a session id that
is not spelled. -/
def UpgradeServer.Reads (server : UpgradeServer) (target : String) : Prop :=
  ∃ path, server.requestPath target = some path ∧
    ∀ segment role, IsSignalingPath path segment role → IsSpelled segment

theorem parseGatewaySignalingPath_isOk_iff {pathname : List Char} :
    (parseGatewaySignalingPath pathname).isOk = true ↔
      ∀ segment role, IsSignalingPath pathname segment role → IsSpelled segment := by
  simp only [← matchSignalingPath_eq_some_iff, ← decodeURIComponent_isSome_iff]
  unfold parseGatewaySignalingPath
  cases matched : matchSignalingPath pathname with
  | none => simp [Except.isOk, Except.toBool]
  | some route =>
      obtain ⟨segment, role⟩ := route
      cases decoded : decodeURIComponent segment <;>
        simp [decoded, Except.isOk, Except.toBool]

namespace UpgradeServer

variable {server : UpgradeServer}

theorem connectionListener_isOk_iff {target : String} :
    (server.connectionListener target).isOk = true ↔ server.Reads target := by
  unfold connectionListener pathname Reads
  cases found : server.requestPath target with
  | none =>
      constructor
      case mp =>
        intro returns
        cases returns
      case mpr =>
        rintro ⟨path, resolved, -⟩
        cases resolved
  | some path =>
      simp only [Option.some.injEq, exists_eq_left', ← parseGatewaySignalingPath_isOk_iff]
      rfl

/-- The listener for `upgrade` throws where the one for `connection` does, and nowhere else. -/
theorem upgradeListener_isOk (req : UpgradeRequest) :
    (server.upgradeListener req).isOk = (server.connectionListener req.target).isOk := by
  unfold upgradeListener connectionListener
  cases resolved : server.pathname req.target with
  | error thrown => rfl
  | ok path =>
      simp only [bind, Except.bind]
      cases parsed : parseGatewaySignalingPath path with
      | error thrown => rfl
      | ok route =>
          dsimp only
          split
          · rfl
          · split
            · rfl
            · split <;> rfl

end UpgradeServer

/-- Neither listener throws for a request exactly if its target is read. -/
theorem listeners_return_iff (server : UpgradeServer) (req : UpgradeRequest) :
    (server.upgradeListener req).isOk = true ∧
        (server.connectionListener req.target).isOk = true ↔
      server.Reads req.target := by
  rw [UpgradeServer.upgradeListener_isOk, and_self]
  exact UpgradeServer.connectionListener_isOk_iff

/-- A server that takes the target up to its query for the path, as `new URL` does with targets
that begin with a single slash and need no normalization. -/
def plainServer : UpgradeServer where
  requestPath target := some (target.toList.takeWhile (· ≠ '?'))
  poolRegistrationPaths := ["/ws/worker".toList]

/-- A percent sign that escapes nothing makes both listeners throw. -/
theorem percent_sign_is_thrown :
    ¬ ∀ (server : UpgradeServer) (req : UpgradeRequest),
      (server.upgradeListener req).isOk = true ∧
        (server.connectionListener req.target).isOk = true := by
  intro returns
  have both := returns plainServer ⟨"/gateway/signaling/%/viewer", true, true⟩
  revert both
  decide +kernel

end RemoteBrowser.ControlPlane
