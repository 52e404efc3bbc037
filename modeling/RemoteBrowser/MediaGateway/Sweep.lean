import RemoteBrowser.MediaGateway.Sections
import RemoteBrowser.Async.Monitor

/-!
# What a termination leaves behind

A termination marks the signaling state, clears the media state if there is one and closes the
WebRTC relay if there is one.  Only the signaling state stays behind in any case, so what happens
to the media and the relay afterwards depends on whether others still come.
-/

namespace RemoteBrowser.MediaGateway

open Async

/-! ## Relay states -/

/-- There is no state, or it is empty. -/
def IsQuiet (state : Option RelayState) : Prop := ∀ current, state = some current → current.Empty

/-- A state that is terminated is empty. -/
def IsSealed (state : Option RelayState) : Prop :=
  ∀ current, state = some current → current.terminated = true → current.Empty

theorem IsQuiet.sealed {state : Option RelayState} (quiet : IsQuiet state) : IsSealed state :=
  fun current found _ => quiet current found

theorem isQuiet_none : IsQuiet none := by
  intro current found
  cases found

theorem isQuiet_some {current : RelayState} (empty : current.Empty) : IsQuiet (some current) := by
  intro other found
  cases found
  exact empty

theorem isSealed_of_open {current : RelayState} (opened : current.terminated = false) :
    IsSealed (some current) := by
  intro other found terminated
  cases found
  rw [opened] at terminated
  cases terminated

theorem IsQuiet.note {state : Option RelayState} (quiet : IsQuiet state) :
    IsQuiet (some (noteState state)) := by
  cases state with
  | none => exact isQuiet_some RelayState.empty_default
  | some current => exact quiet

theorem IsSealed.note {state : Option RelayState} (sealed : IsSealed state) :
    IsSealed (some (noteState state)) := by
  cases state with
  | none => exact (isQuiet_some RelayState.empty_default).sealed
  | some current => exact sealed

theorem IsSealed.register {state : Option RelayState} (sealed : IsSealed state) (role : Role)
    (conn : Connection) : IsSealed (some (registerConnection state role conn).1) := by
  cases state with
  | none => exact isSealed_of_open rfl
  | some current =>
      cases terminated : current.terminated with
      | true =>
          simp only [registerConnection, Option.getD_some, terminated, if_true]
          exact sealed
      | false =>
          refine isSealed_of_open ?_
          rw [registerConnection_terminated, Option.any_some, terminated]

/-- Nobody registers with a terminated state. -/
theorem registerConnection_of_terminated {state : Option RelayState}
    (terminated : state.any (·.terminated) = true) (role : Role) (conn : Connection) :
    some (registerConnection state role conn).1 = state := by
  cases state with
  | none => cases terminated
  | some current =>
      rw [Option.any_some] at terminated
      simp [registerConnection, terminated]

theorem release_empty {current : RelayState} (empty : current.Empty) (role : Role) (id : Nat) :
    (release current role id).1 = current := by
  rw [release, (empty role).1]

theorem IsQuiet.unregisterMedia {state : Option RelayState} (quiet : IsQuiet state) (role : Role)
    (id : Nat) : IsQuiet (unregisterMediaConnection state role id).1 := by
  cases state with
  | none => exact isQuiet_none
  | some current =>
      simp only [unregisterMediaConnection, release_empty (quiet current rfl)]
      exact quiet

theorem IsSealed.unregisterMedia {state : Option RelayState} (sealed : IsSealed state)
    (role : Role) (id : Nat) : IsSealed (unregisterMediaConnection state role id).1 := by
  cases state with
  | none => exact isQuiet_none.sealed
  | some current =>
      cases terminated : current.terminated with
      | true =>
          simp only [unregisterMediaConnection, release_empty (sealed current rfl terminated)]
          exact sealed
      | false =>
          refine isSealed_of_open ?_
          rw [release_terminated, terminated]

theorem IsSealed.unregisterSignal {state : Option RelayState} (sealed : IsSealed state)
    (role : Role) (id : Nat) : IsSealed (unregisterSignalConnection state role id).1 := by
  cases state with
  | none => exact isQuiet_none.sealed
  | some current =>
      cases terminated : current.terminated with
      | true =>
          simp only [unregisterSignalConnection, terminated, if_true]
          exact sealed
      | false =>
          simp only [unregisterSignalConnection, terminated, Bool.false_eq_true, if_false]
          refine isSealed_of_open ?_
          rw [release_terminated, terminated]

theorem IsSealed.enqueueSignal {state : Option RelayState} (sealed : IsSealed state)
    (role : Role) (payload : Payload) :
    IsSealed (some (enqueueSignal state role payload)) := by
  cases state with
  | none => exact isSealed_of_open rfl
  | some current =>
      cases terminated : current.terminated with
      | true =>
          simp only [MediaGateway.enqueueSignal, Option.getD_some, terminated, if_true]
          exact sealed
      | false =>
          refine isSealed_of_open ?_
          rw [enqueueSignal_terminated, Option.any_some, terminated]

theorem isQuiet_terminateSignal (state : Option RelayState) :
    IsQuiet (some (terminateSignalSession state)) :=
  isQuiet_some fun _ => ⟨rfl, rfl⟩

theorem IsSealed.terminateMedia {state : Option RelayState} (sealed : IsSealed state) :
    IsQuiet (terminateMediaRelaySession state) := by
  cases state with
  | none => exact isQuiet_none
  | some current =>
      rw [terminateMediaRelaySession, Option.map_some]
      split
      · next terminated => exact isQuiet_some (sealed current rfl terminated)
      · exact isQuiet_some fun _ => ⟨rfl, rfl⟩

/-! ## Timely schedules -/

section Runs

variable {codec : Codec} {sessionID : String}

/-- Some handler has completed such an operation. -/
def hasPassed (test : HubOp → Bool) (config : Async.Config (gatewayHub codec sessionID)) : Bool :=
  config.threads.any fun thread => thread.past.any fun event => test event.1

def isMediaSweep : HubOp → Bool
  | .terminateMediaRelaySession => true
  | _ => false

def isRelayLookup : HubOp → Bool
  | .lookUpRelay => true
  | _ => false

/-- Nobody comes too late: once a termination has looked at the media state, no frame is queued
and nobody registers with a state that is not terminated; once it has looked for a relay, none is
created. -/
def isTimely (config : Async.Config (gatewayHub codec sessionID)) :
    Action (gatewayHub codec sessionID) → Bool
  | .start _ => true
  | .resume index (choice : HubChoice) =>
      match config.awaits index with
      | some (.registerMediaConnection _ _) =>
          config.state.mediaRelays.any (·.terminated) || !hasPassed isMediaSweep config
      | some (.enqueueMedia _ _) =>
          !config.state.mediaRelays.any (·.terminated) && !hasPassed isMediaSweep config
      | some .getOrCreatePionRelaySession =>
          config.state.webrtcRelay.isSome || !choice.succeeds || !hasPassed isRelayLookup config
      | _ => true

theorem not_mem_of_hasPassed {test : HubOp → Bool}
    {config : Async.Config (gatewayHub codec sessionID)} (never : hasPassed test config = false)
    {thread : Thread (gatewayHub codec sessionID)} (member : thread ∈ config.threads)
    {event : Event hubFace} (passed : event ∈ thread.past) : test event.1 = false := by
  have none := List.any_eq_false.mp never thread member
  rw [Bool.not_eq_true] at none
  simpa using List.any_eq_false.mp none event passed

/-! ## The invariant -/

/-- The handler has gone through all parts of a termination. -/
def HasSwept (past : List (Event hubFace)) : Prop :=
  (∃ reply, ⟨.terminateSignalSession, reply⟩ ∈ past) ∧
  (∃ reply, ⟨.terminateMediaRelaySession, reply⟩ ∈ past) ∧
  (⟨.lookUpRelay, false⟩ ∈ past ∨ ∃ first, ⟨.closeRelay, first⟩ ∈ past)

theorem HasSwept.mono {past longer : List (Event hubFace)} (swept : HasSwept past)
    (extends' : past <:+ longer) : HasSwept longer := by
  obtain ⟨⟨signals, first⟩, ⟨media, second⟩, third⟩ := swept
  exact ⟨⟨signals, extends'.subset first⟩, ⟨media, extends'.subset second⟩,
    third.imp (fun member => extends'.subset member)
      fun ⟨first, member⟩ => ⟨first, extends'.subset member⟩⟩

/-- What a handler issues after what: it closes a relay that it has found, and reports a
termination that it has gone through. -/
def sweepRule (past : List (Event hubFace)) : HubOp → Prop
  | .closeRelay => ⟨.lookUpRelay, true⟩ ∈ past
  | .respond (.terminated _) => HasSwept past
  | _ => True

theorem sweepRule_of_family {op : HubOp} (other : op.family ≠ .terminate)
    (past : List (Event hubFace)) : sweepRule past op := by
  cases op with
  | respond answer =>
      cases answer with
      | terminated reason => exact absurd rfl other
      | _ => trivial
  | closeRelay => exact absurd rfl other
  | _ => trivial

/-- Both the state and the sections that a handler has passed tell what is left. -/
structure Cleared (hub : Hub) (past : List (Event hubFace)) : Prop where
  signals : ∀ reply, ⟨.terminateSignalSession, reply⟩ ∈ past →
    hub.signals.any (·.terminated) = true
  media : ∀ reply, ⟨.terminateMediaRelaySession, reply⟩ ∈ past → IsQuiet hub.mediaRelays
  missed : ⟨.lookUpRelay, false⟩ ∈ past → hub.webrtcRelay = none
  found : ⟨.lookUpRelay, true⟩ ∈ past → hub.webrtcRelay.isSome = true
  closed : ∀ first, ⟨.closeRelay, first⟩ ∈ past → hub.webrtcRelay.any (·.terminated) = true
  reported : ∀ reason, ⟨.respond (.terminated reason), ()⟩ ∈ past → HasSwept past

/-- States that are terminated are empty. -/
structure Hub.Sealed (hub : Hub) : Prop where
  signals : IsSealed hub.signals
  media : IsSealed hub.mediaRelays

/-! ## Effects of the operations -/

theorem hubExec_relay_isSome (choice : HubChoice) (op : HubOp) {hub : Hub}
    (present : hub.webrtcRelay.isSome = true) :
    (hubExec choice op hub).1.webrtcRelay.isSome = true := by
  cases op with
  | writePending ws payload | writeDirect ws payload | writeFrame ws payload =>
      simp only [hubExec, Hub.write]
      split <;> exact present
  | getOrCreatePionRelaySession =>
      simp only [hubExec]
      split
      · rfl
      · exact present
  | closeRelay =>
      simp only [hubExec, Option.isSome_map]
      exact present
  | deleteStoredSession =>
      simp only [hubExec]
      split <;> exact present
  | _ => exact present

theorem hubExec_relay_terminated (choice : HubChoice) (op : HubOp) {hub : Hub}
    (terminated : hub.webrtcRelay.any (·.terminated) = true) :
    (hubExec choice op hub).1.webrtcRelay.any (·.terminated) = true := by
  cases op with
  | writePending ws payload | writeDirect ws payload | writeFrame ws payload =>
      simp only [hubExec, Hub.write]
      split <;> exact terminated
  | getOrCreatePionRelaySession =>
      cases found : hub.webrtcRelay with
      | none =>
          rw [found] at terminated
          cases terminated
      | some relay =>
          rw [found] at terminated
          simpa [hubExec, found, getOrCreatePionRelaySession] using terminated
  | closeRelay =>
      cases found : hub.webrtcRelay with
      | none =>
          rw [found] at terminated
          cases terminated
      | some relay => simp [hubExec, found]
  | deleteStoredSession =>
      simp only [hubExec]
      split <;> exact terminated
  | _ => exact terminated

/-- The frame is queued only where the media state is not terminated. -/
def HubOp.SparesTerminated (hub : Hub) : HubOp → Prop
  | .enqueueMedia _ _ => hub.mediaRelays.any (·.terminated) = false
  | _ => True

theorem Hub.Sealed.exec {hub : Hub} (sealed : hub.Sealed) (choice : HubChoice) {op : HubOp}
    (spares : op.SparesTerminated hub) : (hubExec choice op hub).1.Sealed := by
  obtain ⟨signals, media⟩ := sealed
  cases op with
  | registerSignalConnection role conn => exact ⟨signals.register role conn, media⟩
  | unregisterSignalConnection role id => exact ⟨signals.unregisterSignal role id, media⟩
  | enqueueSignal role payload => exact ⟨signals.enqueueSignal role payload, media⟩
  | noteSignal => exact ⟨signals.note, media⟩
  | terminateSignalSession => exact ⟨(isQuiet_terminateSignal hub.signals).sealed, media⟩
  | registerMediaConnection role conn => exact ⟨signals, media.register role conn⟩
  | unregisterMediaConnection role id => exact ⟨signals, media.unregisterMedia role id⟩
  | enqueueMedia role payload =>
      refine ⟨signals, isSealed_of_open ?_⟩
      rw [enqueueMedia_terminated]
      exact spares
  | noteMedia => exact ⟨signals, media.note⟩
  | terminateMediaRelaySession => exact ⟨signals, media.terminateMedia.sealed⟩
  | writePending ws payload | writeDirect ws payload | writeFrame ws payload =>
      simp only [hubExec, Hub.write]
      split <;> exact ⟨signals, media⟩
  | getOrCreatePionRelaySession =>
      simp only [hubExec]
      split <;> exact ⟨signals, media⟩
  | deleteStoredSession =>
      simp only [hubExec]
      split <;> exact ⟨signals, media⟩
  | _ => exact ⟨signals, media⟩

/-- Nothing that the operation does shows in an empty media state. -/
def HubOp.SparesMedia (hub : Hub) : HubOp → Prop
  | .registerMediaConnection _ _ => hub.mediaRelays.any (·.terminated) = true
  | .enqueueMedia _ _ => False
  | _ => True

theorem hubExec_media_quiet {hub : Hub} (quiet : IsQuiet hub.mediaRelays) (choice : HubChoice)
    {op : HubOp} (spares : op.SparesMedia hub) :
    IsQuiet (hubExec choice op hub).1.mediaRelays := by
  cases op with
  | registerMediaConnection role conn =>
      simp only [hubExec, registerConnection_of_terminated spares]
      exact quiet
  | unregisterMediaConnection role id => exact quiet.unregisterMedia role id
  | enqueueMedia role payload => exact spares.elim
  | noteMedia => exact quiet.note
  | terminateMediaRelaySession => exact quiet.sealed.terminateMedia
  | writePending ws payload | writeDirect ws payload | writeFrame ws payload =>
      simp only [hubExec, Hub.write]
      split <;> exact quiet
  | getOrCreatePionRelaySession =>
      simp only [hubExec]
      split <;> exact quiet
  | deleteStoredSession =>
      simp only [hubExec]
      split <;> exact quiet
  | _ => exact quiet

theorem hubExec_relay_none {hub : Hub} (absent : hub.webrtcRelay = none) (choice : HubChoice)
    {op : HubOp} (spares : op = .getOrCreatePionRelaySession → choice.succeeds = false) :
    (hubExec choice op hub).1.webrtcRelay = none := by
  cases op with
  | getOrCreatePionRelaySession => simp [hubExec, absent, spares rfl]
  | closeRelay => simp [hubExec, absent]
  | writePending ws payload | writeDirect ws payload | writeFrame ws payload =>
      simp only [hubExec, Hub.write]
      split <;> exact absent
  | deleteStoredSession =>
      simp only [hubExec]
      split <;> exact absent
  | _ => exact absent

/-- What a handler has cleared stays so. -/
theorem Cleared.keep {hub : Hub} {past : List (Event hubFace)} (cleared : Cleared hub past)
    (choice : HubChoice) {op : HubOp}
    (sparesMedia : ∀ reply, ⟨.terminateMediaRelaySession, reply⟩ ∈ past → op.SparesMedia hub)
    (sparesRelay : ⟨.lookUpRelay, false⟩ ∈ past → op = .getOrCreatePionRelaySession →
      choice.succeeds = false) : Cleared (hubExec choice op hub).1 past where
  signals reply passed := hubExec_signals_terminated choice op (cleared.signals reply passed)
  media reply passed :=
    hubExec_media_quiet (cleared.media reply passed) choice (sparesMedia reply passed)
  missed passed := hubExec_relay_none (cleared.missed passed) choice (sparesRelay passed)
  found passed := hubExec_relay_isSome choice op (cleared.found passed)
  closed first passed := hubExec_relay_terminated choice op (cleared.closed first passed)
  reported := cleared.reported

/-- What a handler clears with an operation that the rule permits. -/
theorem Cleared.extend {hub : Hub} {past : List (Event hubFace)} {choice : HubChoice} {op : HubOp}
    (sealed : hub.Sealed) (before : Cleared hub past)
    (after : Cleared (hubExec choice op hub).1 past) (permitted : sweepRule past op) :
    Cleared (hubExec choice op hub).1 (⟨op, (hubExec choice op hub).2⟩ :: past) where
  signals reply passed := by
    rcases List.mem_cons.mp passed with now | earlier
    · cases now
      rfl
    · exact after.signals reply earlier
  media reply passed := by
    rcases List.mem_cons.mp passed with now | earlier
    · cases now
      exact sealed.media.terminateMedia
    · exact after.media reply earlier
  missed passed := by
    rcases List.mem_cons.mp passed with now | earlier
    · obtain ⟨rfl, replied⟩ := Sigma.mk.inj now
      exact Option.not_isSome_iff_eq_none.mp (by simpa [hubExec] using replied)
    · exact after.missed earlier
  found passed := by
    rcases List.mem_cons.mp passed with now | earlier
    · obtain ⟨rfl, replied⟩ := Sigma.mk.inj now
      exact (eq_of_heq replied).symm
    · exact after.found earlier
  closed first passed := by
    rcases List.mem_cons.mp passed with now | earlier
    · obtain ⟨rfl, -⟩ := Sigma.mk.inj now
      obtain ⟨relay, present⟩ := Option.isSome_iff_exists.mp (before.found permitted)
      simp [hubExec, present]
    · exact after.closed first earlier
  reported reason passed := by
    rcases List.mem_cons.mp passed with now | earlier
    · obtain ⟨rfl, -⟩ := Sigma.mk.inj now
      exact HasSwept.mono permitted (List.suffix_cons _ past)
    · exact (after.reported reason earlier).mono (List.suffix_cons _ past)

/-! ## All handlers -/

theorem sweepRule_of_common (closings : List (Nat × String)) (op : HubOp)
    (common : HubOp.Among [.common] closings op) (past : List (Event hubFace)) :
    sweepRule past op := by
  refine sweepRule_of_family ?_ past
  rw [List.mem_singleton.mp common.family]
  decide

theorem dismiss_follows (reason : String) (connections : List Connection)
    (past : List (Event hubFace)) :
    (dismiss sessionID reason connections).Follows (.history sweepRule)
      (fun _ after => past <:+ after) past :=
  (dismiss_issues sessionID (.head []) connections).follows_history
    (sweepRule_of_common _) past

/-- Closing the relay that was found, and sweeping once more if that was the first time. -/
theorem closeRelaySession_follows (reason : String) {past : List (Event hubFace)}
    (found : ⟨.lookUpRelay, true⟩ ∈ past) :
    (closeRelaySession sessionID reason).Follows (.history sweepRule)
      (fun _ after => past <:+ after ∧ ∃ first, ⟨.closeRelay, first⟩ ∈ after) past := by
  refine Program.follows_history found ?_
  rintro (- | -)
  · exact ⟨List.suffix_cons _ past, false, .head _⟩
  · refine Program.follows_history trivial fun signals => ?_
    refine (dismiss_follows reason signals _).bind fun _ past₁ since₁ => ?_
    refine Program.follows_history trivial fun media => ?_
    refine (dismiss_follows reason media _).bind fun _ past₂ since₂ => ?_
    refine Program.follows_history trivial fun _ => ?_
    have since : (⟨.closeRelay, true⟩ :: past : List (Event hubFace)) <:+ past₂ :=
      ((List.suffix_cons _ _).trans since₁).trans ((List.suffix_cons _ _).trans since₂)
    exact ⟨(List.suffix_cons _ past).trans (since.trans (List.suffix_cons _ _)), true,
      .tail _ (since.subset (.head _))⟩

theorem handleTerminateSession_follows (body : Option String) :
    (handleTerminateSession sessionID body).Follows (.history sweepRule) (fun _ _ => True) [] := by
  have answers (answer : HttpAnswer) (past : List (Event hubFace))
      (permitted : sweepRule past (.respond answer)) :
      (HubOp.await (.respond answer)).Follows (.history sweepRule) (fun _ _ => True) past :=
    Program.follows_history permitted fun _ => trivial
  cases body with
  | none => exact answers _ _ trivial
  | some body =>
      refine (getSessionWithOwner_issues.follows_history (sweepRule_of_common []) []).bind ?_
      rintro (- | ⟨record, - | -⟩) past -
      · exact answers _ _ trivial
      · exact answers _ _ trivial
      · refine Program.follows_history trivial fun signals => ?_
        refine (dismiss_follows _ signals _).bind fun _ past₁ since₁ => ?_
        refine Program.follows_history trivial fun media => ?_
        refine (dismiss_follows _ media _).bind fun _ past₂ since₂ => ?_
        have first : ⟨.terminateSignalSession, signals⟩ ∈ past₂ :=
          since₂.subset (.tail _ (since₁.subset (.head _)))
        have second : ⟨.terminateMediaRelaySession, media⟩ ∈ past₂ := since₂.subset (.head _)
        refine Program.follows_history trivial ?_
        rintro (- | -)
        · refine Program.follows_history trivial fun _ => answers _ _ ?_
          exact ⟨⟨signals, .tail _ (.tail _ first)⟩, ⟨media, .tail _ (.tail _ second)⟩,
            .inl (.tail _ (.head _))⟩
        · refine (closeRelaySession_follows _ (.head _)).bind fun _ past₃ since₃ => ?_
          obtain ⟨since₃, alive, closed⟩ := since₃
          refine Program.follows_history trivial fun _ => answers _ _ ?_
          exact ⟨⟨signals, .tail _ (since₃.subset (.tail _ first))⟩,
            ⟨media, .tail _ (since₃.subset (.tail _ second))⟩, .inr ⟨alive, .tail _ closed⟩⟩

theorem gatewayHub_follows (job : HubJob) :
    ((gatewayHub codec sessionID).body job).Follows (.history sweepRule) (fun _ _ => True) [] := by
  have free {families : List Family} {closings : List (Nat × String)}
      (without : .terminate ∉ families) :
      ∀ op, HubOp.Among families closings op → ∀ past, sweepRule past op :=
    fun op among past => sweepRule_of_family (fun same => without (same ▸ among.family)) past
  cases job with
  | signal role budget =>
      exact (runSignalConnection_issues codec sessionID role budget).follows
        (free (by decide)) []
  | media role budget =>
      exact (runMediaRelayConnection_issues codec sessionID role budget).follows
        (free (by decide)) []
  | webrtc request => exact (handleWebRTCRelay_issues request).follows (free (by decide)) []
  | terminate body => exact handleTerminateSession_follows body

/-- What the condition says of the operation of one handler and the sections that another one
has passed. -/
theorem spares_of_isTimely {config : Async.Config (gatewayHub codec sessionID)} {index : Nat}
    {choice : HubChoice} {op : HubOp} (timely : isTimely config (.resume index choice) = true)
    (awaited : config.awaits index = some op) :
    op.SparesTerminated config.state ∧ ∀ thread ∈ config.threads,
      (∀ reply, ⟨.terminateMediaRelaySession, reply⟩ ∈ thread.past →
        op.SparesMedia config.state) ∧
      (config.state.webrtcRelay = none → ⟨.lookUpRelay, false⟩ ∈ thread.past →
        op = .getOrCreatePionRelaySession → choice.succeeds = false) := by
  simp only [isTimely, awaited] at timely
  refine ⟨?_, fun thread member => ⟨?_, ?_⟩⟩
  · cases op with
    | enqueueMedia role payload =>
        simp only [Bool.and_eq_true, Bool.not_eq_true'] at timely
        exact timely.1
    | _ => trivial
  · intro reply passed
    cases op with
    | registerMediaConnection role conn =>
        simp only [Bool.or_eq_true, Bool.not_eq_true'] at timely
        refine timely.resolve_right fun never => ?_
        cases not_mem_of_hasPassed never member passed
    | enqueueMedia role payload =>
        simp only [Bool.and_eq_true, Bool.not_eq_true'] at timely
        cases not_mem_of_hasPassed timely.2 member passed
    | _ => trivial
  · rintro absent passed rfl
    simp only [absent, Option.isSome_none, Bool.false_or, Bool.or_eq_true,
      Bool.not_eq_true'] at timely
    refine timely.resolve_right fun never => ?_
    cases not_mem_of_hasPassed never member passed

theorem cleared_inductive :
    Inductive (fun (config : Async.Config (gatewayHub codec sessionID)) action =>
        isTimely config action = true ∧ ∀ thread ∈ config.threads,
          thread.Obeys (.history sweepRule) (fun _ => some []) fun _ => True)
      Hub.Sealed fun hub thread => Cleared hub thread.past := by
  refine ⟨?_, ?_⟩
  · intro config job _ _ _
    constructor <;> simp
  · intro config index choice thread op next holds permitted found suspended
    obtain ⟨timely, obeys⟩ := permitted
    obtain ⟨sparesTerminated, spares⟩ :=
      spares_of_isTimely timely (Config.awaits_eq_some found suspended)
    have keeps : ∀ other ∈ config.threads,
        Cleared (hubExec choice op config.state).1 other.past := by
      intro other member
      have cleared := holds.threads other member
      obtain ⟨media, relay⟩ := spares other member
      exact cleared.keep choice media fun passed => relay (cleared.missed passed) passed
    have member := List.mem_of_getElem? found
    have rule : sweepRule thread.past op :=
      (obeys thread member).allows (Monitor.after_history sweepRule thread.past) suspended
    refine ⟨holds.state.exec choice sparesTerminated, ?_, fun other thread located _ =>
      keeps thread (List.mem_of_getElem? located)⟩
    exact Cleared.extend holds.state (holds.threads thread member) (keeps thread member) rule

end Runs

/-! ## Termination -/

/-- Nobody is registered, nothing is pending and no relay is open. -/
structure Hub.NothingLive (hub : Hub) : Prop where
  signals : IsQuiet hub.signals
  media : IsQuiet hub.mediaRelays
  relay : ∀ relay, hub.webrtcRelay = some relay → relay.terminated = true

/-- The handler has reported a termination. -/
def HasTerminated {codec : Codec} {sessionID : String}
    (thread : Thread (gatewayHub codec sessionID)) : Prop :=
  ∃ reason, ⟨.respond (.terminated reason), ()⟩ ∈ thread.past

/-- In every run in which nobody comes too late, nothing is live once a termination has been
reported. -/
theorem termination_leaves_nothing_live (codec : Codec) (sessionID : String)
    (session stored : Option SessionRecord)
    (final : Async.Config (gatewayHub codec sessionID))
    (run : Run (fun config action => isTimely config action = true)
      ⟨Hub.opening session stored, []⟩ final)
    (reported : ∃ thread ∈ final.threads, HasTerminated thread) : final.state.NothingLive := by
  have bodies : ∀ (job : HubJob) (current : List (Event hubFace)), some [] = some current →
      ((gatewayHub codec sessionID).body job).Follows (.history sweepRule) (fun _ _ => True)
        current := by
    intro job current opened
    cases opened
    exact gatewayHub_follows job
  have obeying : ∀ config, Run (fun config action => isTimely config action = true)
      ⟨Hub.opening session stored, []⟩ config → ∀ thread ∈ config.threads,
        thread.Obeys (.history sweepRule) (fun _ => some []) fun _ => True :=
    fun config reached => reached.obeys bodies (by simp)
  have holds := cleared_inductive.run (run.assuming obeying)
    ⟨⟨isQuiet_none.sealed, isQuiet_none.sealed⟩, by simp⟩
  obtain ⟨thread, member, reason, answered⟩ := reported
  have cleared := holds.threads thread member
  obtain ⟨⟨first, signals⟩, ⟨second, media⟩, relay⟩ := cleared.reported reason answered
  refine ⟨?_, cleared.media second media, ?_⟩
  · intro current found
    have terminated := cleared.signals first signals
    rw [found] at terminated
    exact holds.state.signals current found terminated
  · intro current found
    rcases relay with missed | closed
    · cases (cleared.missed missed).symm.trans found
    · obtain ⟨alive, closed⟩ := closed
      have terminated := cleared.closed alive closed
      rw [found] at terminated
      exact terminated

/-! ## Sample runs -/

theorem hasTerminated_of_passed {config : Async.Config sampleHub}
    (reported : hasPassed (fun
      | .respond (.terminated _) => true
      | _ => false) config = true) : ∃ thread ∈ config.threads, HasTerminated thread := by
  obtain ⟨thread, member, passed⟩ := List.any_eq_true.mp reported
  obtain ⟨⟨op, reply⟩, listed, reports⟩ := List.any_eq_true.mp passed
  refine ⟨thread, member, ?_⟩
  dsimp only at reports
  split at reports
  · next reason => exact ⟨reason, listed⟩
  · cases reports

def reportsTermination (config : Async.Config sampleHub) : Bool :=
  hasPassed (fun
    | .respond (.terminated _) => true
    | _ => false) config

/-- The session is terminated while a viewer is connected for its media. -/
def timelyTermination : List (Action sampleHub) :=
  comes (.media .viewer 1) :: advances 0 1 ++ reads 0 [1] :: advances 0 5 ++
    comes (.terminate (some "")) :: advances 1 8

theorem timely_termination_clears_media :
    ∃ final : Async.Config sampleHub,
      Run (fun config action => isTimely config action = true) ⟨sampleOpening, []⟩ final ∧
      (∃ thread ∈ final.threads, HasTerminated thread) ∧ final.state.mediaRelays.isSome = true ∧
      final.state.NothingLive := by
  obtain ⟨final, run, seen⟩ := Run.exists_of_schedule
    (fun config action (timely : isTimely config action = true) => timely)
    (⟨sampleOpening, []⟩ : Async.Config sampleHub) timelyTermination
    (fun final => reportsTermination final && final.state.mediaRelays.isSome) (by decide +kernel)
  obtain ⟨reports, relayed⟩ := Bool.and_eq_true_iff.mp seen
  have reported := hasTerminated_of_passed reports
  exact ⟨final, run, reported, relayed, termination_leaves_nothing_live sampleCodec "rbi-1"
    (some sampleRecord) none final run reported⟩

/-- A viewer registers for the media after the termination, of which it has not heard. -/
def lateRegistration : List (Action sampleHub) :=
  comes (.media .viewer 1) :: advances 0 1 ++ reads 0 [1] :: advances 0 2 ++
    comes (.terminate (some "")) :: advances 1 6 ++ advances 0 2

theorem late_registration_outlives_termination :
    ¬∀ final : Async.Config sampleHub, Run anyAction ⟨sampleOpening, []⟩ final →
      (∃ thread ∈ final.threads, HasTerminated thread) → final.state.NothingLive := by
  intro always
  obtain ⟨final, run, seen⟩ := Run.exists_of_actions
    (⟨sampleOpening, []⟩ : Async.Config sampleHub) lateRegistration
    (fun final => reportsTermination final && final.state.mediaRelays.any fun current =>
      (current.side .viewer).connection.isSome) (by decide +kernel)
  obtain ⟨reports, registered⟩ := Bool.and_eq_true_iff.mp seen
  obtain ⟨current, found, connected⟩ := (Option.any_eq_true ..).mp registered
  have nothing := ((always final run (hasTerminated_of_passed reports)).media current found
    .viewer).1
  rw [nothing] at connected
  cases connected

end RemoteBrowser.MediaGateway
