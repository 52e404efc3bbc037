import RemoteBrowser.Swg.Handoff
import RemoteBrowser.Json.Reencoding
import RemoteBrowser.Text.Whitespace

/-!
# Refreshing a session

`POST /api/sessions/:id/refresh` replaces a session by a new one for the same target.  The client
of the new session is the stored client with the members of the request body's client spread over
it.  `authMode` and `swg` are members like all others there, so the body can replace the identity
of an SWG session.  `POST /api/swg/sessions` writes these two after the members of the body.

Of the new session only the client is modelled.
-/

namespace RemoteBrowser.Swg

open Json

/-! ## Clients -/

inductive StoreBackend where
  | memory | redis
  deriving DecidableEq

/-- What an update makes of a stored value: the Redis script encodes it anew. -/
def StoreBackend.reencode : StoreBackend → Json → Json
  | .memory, value => value
  | .redis, value => value.recode

/-- What the route reads of a stored session.  `createRemoteSession` updates every session
before it returns it, so the client has been encoded anew. -/
structure RefreshableSession (backend : StoreBackend) where
  id : String
  state : String
  createdAt : Nat
  expiresAt : Nat
  /-- 0 when no viewer has connected -/
  viewerConnectedAt : Nat
  client : Json
  stored : backend.reencode client = client

structure RefreshRequest where
  /-- the `Origin` header is absent or the public one -/
  sameOrigin : Bool
  /-- `validateSessionToken` of the viewer's cookie -/
  token : Except HttpError Unit
  body : Except HttpError Json
  now : Nat
  /-- the validation of the other fields and the launch of the worker -/
  creation : Except HttpError Unit
  /-- the generated id and the lifetime of the new session -/
  replacementId : String
  sessionTtlMs : Nat

section Route

variable (number : ℚ → String) (toLowerCase : String → String)
  (viewerRefreshMinSessionAgeMs : Nat) {backend : StoreBackend}

def validateViewerAccess (session : Option (RefreshableSession backend))
    (request : RefreshRequest) : Except HttpError (RefreshableSession backend) :=
  match session with
  | none => .error ⟨404, "Session not found"⟩
  | some session =>
      if session.state = "terminated" then .error ⟨410, "Session is terminated"⟩
      else if session.expiresAt < request.now then .error ⟨410, "Session has expired"⟩
      else do
        request.token
        return session

end Route

/-! ## Members of the merged client -/

section Accepted

variable {number : ℚ → String} {toLowerCase : String → String}
  {viewerRefreshMinSessionAgeMs : Nat} {backend : StoreBackend}
  {session replacement : RefreshableSession backend} {request : RefreshRequest}

theorem validateViewerAccess_eq_ok {found : Option (RefreshableSession backend)}
    (valid : validateViewerAccess found request = .ok session) : found = some session := by
  cases found with
  | none => cases valid
  | some stored =>
      simp only [validateViewerAccess] at valid
      split_ifs at valid
      obtain ⟨_, _, valid⟩ := bind_eq_ok valid
      exact congrArg some (Except.ok.inj valid)

end Accepted

section Examples

end Examples

end RemoteBrowser.Swg
