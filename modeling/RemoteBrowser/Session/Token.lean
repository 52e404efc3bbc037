import RemoteBrowser.Session.Record

/-!
# Session tokens

`verifyToken` of `app/token.js` and `verifySessionToken` of
`app/session-token.js`, with the texts of their errors.  A presented token is
accepted either because it equals the stored token of the role or because its
signed payload names the role, the session and, for workers, the generation.
-/

namespace RemoteBrowser

/-- How a token was accepted. -/
inductive TokenSource where
  | storedSessionToken
  | signedToken
  deriving DecidableEq

/-- `makeViewerToken`. -/
def makeViewerToken (sessionId : SessionId) (expiresAt : Nat) : Token :=
  .sign ⟨.viewer, sessionId, none, some expiresAt⟩

/-- `makeWorkerToken`. -/
def makeWorkerToken (sessionId : SessionId) (expiresAt generation : Nat) : Token :=
  .sign ⟨.worker, sessionId, some generation, some expiresAt⟩

/-- Whether a payload's `exp` is set and has passed. -/
def TokenPayload.expired (now : Nat) (payload : TokenPayload) : Bool :=
  match payload.exp with
  | some (time + 1) => decide (time + 1 < now)
  | _ => false

/-- `verifyToken`. -/
def verifyToken (now : Nat) : Token → Except String TokenPayload
  | .signed payload _ =>
      if payload.expired now then .error "Token expired" else .ok payload
  | .unsigned text =>
      match text.splitOn "." with
      | body :: signature :: _ =>
          if body = "" ∨ signature = "" then .error "Malformed token"
          else .error "Invalid token signature"
      | _ => .error "Malformed token"

/-- The worker branch of `verifySessionToken`: a payload without a generation is
good for the first generation only. -/
def TokenPayload.matchesGeneration (payload : TokenPayload) (session : Session) : Bool :=
  match payload.generation with
  | none => session.generationOrOne = 1
  | some generation => generation = session.generationOrOne

/-- `verifySessionToken`. -/
def verifySessionToken (now : Nat) (token : Token) (session : Session) (role : Role) :
    Except String TokenSource :=
  if token = .empty then .error "Missing token"
  else if token = session.storedToken role then .ok .storedSessionToken
  else
    match verifyToken now token with
    | .error text => .error text
    | .ok payload =>
        if payload.role ≠ role ∨ payload.sessionId ≠ session.id then
          .error "Invalid session token"
        else if role = .worker ∧ payload.matchesGeneration session = false then
          .error "Stale worker token"
        else .ok .signedToken

/-- An accepted worker token of generation `generation` is the stored one or was
presented to a session of exactly that generation. -/
theorem verifySessionToken_worker_ok {now : Nat} {payload : TokenPayload}
    {trailing : String} {session : Session} {source : TokenSource} {generation : Nat}
    (minted : payload.generation = some generation)
    (accepted : verifySessionToken now (.signed payload trailing) session .worker =
      .ok source) :
    session.workerToken = .signed payload trailing ∨ session.generation = generation := by
  unfold verifySessionToken at accepted
  rw [if_neg (by simp [Token.empty])] at accepted
  split at accepted
  · next stored => exact .inl stored.symm
  · right
    simp only [verifyToken] at accepted
    split at accepted
    · simp at accepted
    · next verified =>
        split at verified
        · simp at verified
        · cases verified
          split at accepted
          · simp at accepted
          · split at accepted
            · simp at accepted
            · next fresh =>
                simpa [TokenPayload.matchesGeneration, minted, eq_comm] using fresh

end RemoteBrowser
