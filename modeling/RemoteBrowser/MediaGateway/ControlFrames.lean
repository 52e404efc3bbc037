import RemoteBrowser.MediaGateway.Frames

/-!
# Control frames

A close frame carries a code and a reason, a pong what the ping carried.  The payload of a control
frame may have 125 bytes.  The reasons that the handlers choose are short; the reason of a
termination is whatever its caller gave.
-/

namespace RemoteBrowser.MediaGateway

open Async Text Wire

/-! ## What is written -/

/-- A frame by which the peers manage the connection. -/
structure ControlFrame where
  opcode : UInt8
  payload : List UInt8
  deriving DecidableEq

def buildClosePayload (code : Nat) (reason : String) : List UInt8 :=
  if code = 0 then []
  else if reason = "" then bigEndianBytes 2 code
  else bigEndianBytes 2 code ++ utf8 reason.toList

/-- The frame that `CloseWithReason` writes; `CloseNow` writes none. -/
def HubOp.controlFrame (op : HubOp) : Option ControlFrame :=
  op.closing.bind fun (code, reason) =>
    if code = 0 then none else some ⟨wsOpcodeClose, buildClosePayload code reason⟩

/-- What `ReadText` does with a frame. -/
inductive TextAction where
  | returns (payload : List UInt8)
  | answers (frame : ControlFrame)
  | continues
  | fails
  deriving DecidableEq

def textAction (opcode : UInt8) (payload : List UInt8) : TextAction :=
  if opcode = wsOpcodeText then .returns payload
  else if opcode = wsOpcodePing then .answers ⟨wsOpcodePong, payload⟩
  else if opcode = wsOpcodePong then .continues
  else .fails

/-- A two-byte code, and a text. -/
def IsClosePayload (payload : List UInt8) : Prop :=
  ∃ (code : Nat) (reason : String), payload = bigEndianBytes 2 code ++ utf8 reason.toList

structure ControlFrame.WellFormed (frame : ControlFrame) : Prop where
  short : frame.payload.length ≤ 125
  close : frame.opcode = wsOpcodeClose → IsClosePayload frame.payload

/-! ## The end of a WebRTC relay -/

/-- The states in which a peer of the relay has come to its end. -/
inductive TerminalState where
  | disconnected
  | failed
  | closed
  deriving DecidableEq

def TerminalState.text : TerminalState → String
  | disconnected => "disconnected"
  | failed => "failed"
  | closed => "closed"

/-- Why a WebRTC relay closes by itself, or is closed. -/
inductive RelayEnd where
  | peer (role : Role) (state : TerminalState)
  | ice (role : Role) (state : TerminalState)
  | videoCodec (mimeType : String)
  | audioCodec (mimeType : String)
  | rtpRead (failure : String)
  | requested (reason : String)

/-- The argument of `close`. -/
def RelayEnd.text : RelayEnd → String
  | peer role state => roleName role ++ " peer " ++ state.text
  | ice role state => roleName role ++ " ice " ++ state.text
  | videoCodec mimeType => "unsupported worker video codec: " ++ mimeType
  | audioCodec mimeType => "unsupported worker audio codec: " ++ mimeType
  | rtpRead failure => "worker rtp read failed: " ++ failure
  | requested reason => reason

def RelayEnd.reason (ended : RelayEnd) : String :=
  if trimSpace ended.text = "" then "webrtc relay closed" else trimSpace ended.text

def cleanupWebRTCRelaySession (sessionID reason : String) : HubHandler Unit := do
  dismiss sessionID reason (← HubOp.await .terminateSignalSession)
  dismiss sessionID reason (← HubOp.await .terminateMediaRelaySession)
  HubOp.await .deleteStoredSession
  let _ ← HubOp.await (.notify ⟨"media-terminated", "", reason, 0⟩)

/-! ## Where control frames come from -/

/-- What makes the gateway write control frames: a socket or a request that it serves, the end of
a WebRTC relay, or a frame that it reads. -/
inductive Cause where
  | served (job : HubJob)
  | relayEnded (ended : RelayEnd)
  | received (opcode : UInt8) (payload : List UInt8)

/-- The handler may write the frame, in the course of some run. -/
def CanWrite (program : HubHandler Unit) (frame : ControlFrame) : Prop :=
  program.CanIssue (fun _ => False) fun op : HubOp => op.controlFrame = some frame

def Cause.Writes (codec : Codec) (sessionID : String) (frame : ControlFrame) : Cause → Prop
  | served job => CanWrite ((gatewayHub codec sessionID).body job) frame
  | relayEnded ended => CanWrite (cleanupWebRTCRelaySession sessionID ended.reason) frame
  | received opcode payload => textAction opcode payload = .answers frame

/-- With the two bytes of the code, the reason fits into a frame. -/
def IsShortReason (reason : String) : Prop := (utf8 reason.toList).length ≤ 123

instance (reason : String) : Decidable (IsShortReason reason) := Nat.decLe _ _

/-- Reasons that come from a caller are short, and so are pings. -/
def Cause.Fits : Cause → Prop
  | served (.terminate (some body)) => IsShortReason (terminationReason body)
  | served _ => True
  | relayEnded ended => IsShortReason ended.reason
  | received opcode payload => opcode = wsOpcodePing → payload.length ≤ 125

/-! ## Which frames are well formed -/

theorem isClosePayload_buildClosePayload {code : Nat} (some : code ≠ 0) (reason : String) :
    buildClosePayload code reason = bigEndianBytes 2 code ++ utf8 reason.toList := by
  unfold buildClosePayload
  rw [if_neg some]
  split
  case isTrue none =>
    subst none
    simp
  case isFalse => rfl

theorem wellFormed_close_iff {code : Nat} (some : code ≠ 0) (reason : String) :
    (ControlFrame.mk wsOpcodeClose (buildClosePayload code reason)).WellFormed ↔
      IsShortReason reason := by
  have payload := isClosePayload_buildClosePayload some reason
  have length : (buildClosePayload code reason).length = 2 + (utf8 reason.toList).length := by
    rw [payload, List.length_append, length_bigEndianBytes]
  unfold IsShortReason
  constructor
  · intro wellFormed
    have short := wellFormed.short
    dsimp only at short
    omega
  · intro short
    constructor
    · dsimp only
      omega
    · exact fun _ => ⟨code, reason, payload⟩

/-- A handler that closes sockets only with short reasons writes well-formed frames. -/
theorem wellFormed_of_issues {families : List Family} {closings : List (Nat × String)}
    {program : HubHandler Unit} (issues : program.Issues (HubOp.Among families closings))
    (short : ∀ closing ∈ closings, IsShortReason closing.2) {frame : ControlFrame}
    (writes : CanWrite program frame) : frame.WellFormed := by
  by_contra malformed
  refine issues.not_canIssue (fun op among written => ?_) writes
  obtain ⟨⟨code, reason⟩, closing, written⟩ := Option.bind_eq_some_iff.mp written
  dsimp only at written
  split at written
  case isTrue => cases written
  case isFalse some =>
    cases written
    exact malformed ((wellFormed_close_iff some reason).mpr
      (short _ (among.closing _ closing)))

theorem internalClosings_short : ∀ closing ∈ internalClosings, IsShortReason closing.2 := by
  decide +kernel

theorem cleanup_issues (sessionID reason : String) :
    (cleanupWebRTCRelaySession sessionID reason).Issues
      (HubOp.Among [.terminate, .common] [(1000, reason)]) := by
  have dismisses (connections : List Connection) :
      (dismiss sessionID reason connections).Issues
        (HubOp.Among [.terminate, .common] [(1000, reason)]) :=
    issues_widen (dismiss_issues sessionID (.head _) connections) (.tail _ (.head _))
  constructor
  · exact silent (.head _) rfl
  · intro signals
    refine (dismisses signals).bind fun _ => ⟨silent (.head _) rfl, fun media => ?_⟩
    refine (dismisses media).bind fun _ => ⟨silent (.head _) rfl, fun _ => ?_⟩
    exact ⟨silent (.tail _ (.head _)) rfl, fun _ => trivial⟩

/-- A termination closes a signaling connection first. -/
theorem canWrite_dismissal (sessionID reason : String) (rest : HubHandler Unit) :
    CanWrite (dismiss sessionID reason [⟨0, 0⟩] >>= fun _ => rest)
      ⟨wsOpcodeClose, buildClosePayload 1000 reason⟩ :=
  .inr ⟨id, (), .inl rfl⟩

theorem canWrite_terminate (sessionID body : String) :
    CanWrite (handleTerminateSession sessionID (some body))
      ⟨wsOpcodeClose, buildClosePayload 1000 (terminationReason body)⟩ :=
  .inr ⟨id, some sampleRecord, .inr ⟨id, [⟨0, 0⟩], canWrite_dismissal _ _ _⟩⟩

theorem canWrite_cleanup (sessionID reason : String) :
    CanWrite (cleanupWebRTCRelaySession sessionID reason)
      ⟨wsOpcodeClose, buildClosePayload 1000 reason⟩ :=
  .inr ⟨id, [⟨0, 0⟩], canWrite_dismissal _ _ _⟩

/-- All control frames are well formed exactly where the reasons and pings that come from outside
are short. -/
theorem control_frames_well_formed_iff (codec : Codec) (sessionID : String) (cause : Cause) :
    (∀ frame, cause.Writes codec sessionID frame → frame.WellFormed) ↔ cause.Fits := by
  cases cause with
  | served job =>
      cases job with
      | signal role budget =>
          exact iff_of_true (fun _ => wellFormed_of_issues
            (runSignalConnection_issues codec sessionID role budget) internalClosings_short) trivial
      | media role budget =>
          exact iff_of_true (fun _ => wellFormed_of_issues
            (runMediaRelayConnection_issues codec sessionID role budget) internalClosings_short)
            trivial
      | webrtc request =>
          exact iff_of_true (fun _ => wellFormed_of_issues (handleWebRTCRelay_issues request)
            (by simp)) trivial
      | terminate body =>
          have issues := handleTerminateSession_issues sessionID body
          cases body with
          | none => exact iff_of_true (fun _ => wellFormed_of_issues issues (by simp)) trivial
          | some body =>
              constructor
              · intro each
                exact (wellFormed_close_iff (by decide) _).mp
                  (each _ (canWrite_terminate sessionID body))
              · intro short frame
                exact wellFormed_of_issues issues (List.forall_mem_singleton.mpr short)
  | relayEnded ended =>
      constructor
      · intro each
        exact (wellFormed_close_iff (by decide) _).mp (each _ (canWrite_cleanup sessionID _))
      · intro short frame
        exact wellFormed_of_issues (cleanup_issues sessionID ended.reason)
          (List.forall_mem_singleton.mpr short)
  | received opcode payload =>
      constructor
      · rintro each rfl
        exact (each ⟨wsOpcodePong, payload⟩ rfl).short
      · intro short frame written
        simp only [Cause.Writes, textAction] at written
        split at written
        · cases written
        · split at written
          · next ping =>
              cases written
              have other : wsOpcodePong ≠ wsOpcodeClose := by decide
              exact ⟨short ping, fun same => absurd same other⟩
          · split at written
            · cases written
            · cases written

/-- A caller can give a reason of 124 bytes. -/
theorem long_reason_is_malformed :
    ¬∀ (codec : Codec) (sessionID body : String) (frame : ControlFrame),
      Cause.Writes codec sessionID frame (.served (.terminate (some body))) →
        frame.WellFormed := by
  intro always
  let body := String.ofList (List.replicate 124 'a')
  have wellFormed := always sampleCodec "rbi-1" body _ (canWrite_terminate "rbi-1" body)
  have short := (wellFormed_close_iff (by decide) _).mp wellFormed
  revert short
  decide +kernel

end RemoteBrowser.MediaGateway
