import Mathlib.Logic.Function.Basic
import Mathlib.Data.List.Basic

/-!
# Relay states of one session

The gateway relays signaling payloads and media frames between a viewer and a worker.  For each
of the two it keeps the connection that is registered, and the payloads for a role that nobody is
registered for.  Each function below is one critical section under the service's lock; a nil entry
of the source's map is `none`.
-/

namespace RemoteBrowser.MediaGateway

inductive Role where
  | viewer
  | worker
  deriving DecidableEq

def oppositeRole : Role → Role
  | .viewer => .worker
  | .worker => .viewer

abbrev Payload := List UInt8

/-- A registered socket, under the identity drawn for its registration. -/
structure Connection where
  id : Nat
  ws : Nat
  deriving DecidableEq

/-- The fields that a relay state has once for each role.  Of the connections registered so far
the source keeps the number. -/
structure Side where
  connection : Option Connection := none
  pending : List Payload := []
  pendingBytes : Int := 0
  dropped : Nat := 0
  connectEvents : List Connection := []
  deriving DecidableEq

/-- `signalSessionState` or `mediaSessionState`. -/
structure RelayState where
  side : Role → Side := fun _ => {}
  terminated : Bool := false

namespace RelayState

def change (state : RelayState) (role : Role) (update : Side → Side) : RelayState :=
  { state with side := Function.update state.side role (update (state.side role)) }

@[simp] theorem change_side (state : RelayState) (role : Role) (update : Side → Side) :
    (state.change role update).side role = update (state.side role) := by
  simp [change]

theorem change_side_of_ne (state : RelayState) {role other : Role} (update : Side → Side)
    (different : other ≠ role) : (state.change role update).side other = state.side other := by
  simp [change, different]

/-- Nobody is registered and nothing is pending. -/
def Empty (state : RelayState) : Prop :=
  ∀ role, (state.side role).connection = none ∧ (state.side role).pending = []

theorem empty_default : ({} : RelayState).Empty := fun _ => ⟨rfl, rfl⟩

end RelayState

/-! ## Bounded queues -/

structure Limits where
  messages : Nat
  bytes : Int

def signalLimits : Limits := ⟨512, 2 * 1024 * 1024⟩

def mediaLimits : Limits := ⟨256, 4 * 1024 * 1024⟩

namespace Limits

variable (limits : Limits)

/-- Drop payloads from the front until the queue is within its limits.  An empty queue has no
bytes to drop. -/
def dropExcess (side : Side) : List Payload → Int → Nat → Side
  | [], bytes, dropped => { side with pending := [], pendingBytes := bytes, dropped := dropped }
  | payload :: rest, bytes, dropped =>
      if limits.messages < (payload :: rest).length ∨ limits.bytes < bytes then
        dropExcess side rest (bytes - payload.length) (dropped + 1)
      else
        { side with pending := payload :: rest, pendingBytes := bytes, dropped := dropped }

/-- `appendBoundedSignalPayloadLocked` and `appendBoundedMediaPayloadLocked`. -/
def appendBounded (side : Side) (payload : Payload) : Side :=
  limits.dropExcess side (side.pending ++ [payload]) (side.pendingBytes + payload.length)
    side.dropped

theorem dropExcess_pending (side : Side) (queue : List Payload) (bytes : Int) (dropped : Nat) :
    (limits.dropExcess side queue bytes dropped).pending <:+ queue := by
  induction queue generalizing bytes dropped with
  | nil => exact List.suffix_refl []
  | cons payload rest ih =>
      rw [dropExcess]
      split
      · exact (ih _ _).trans (List.suffix_cons payload rest)
      · exact List.suffix_refl _

theorem dropExcess_rest (side : Side) (queue : List Payload) (bytes : Int) (dropped : Nat) :
    (limits.dropExcess side queue bytes dropped).connection = side.connection ∧
      (limits.dropExcess side queue bytes dropped).connectEvents = side.connectEvents := by
  induction queue generalizing bytes dropped with
  | nil => exact ⟨rfl, rfl⟩
  | cons payload rest ih =>
      rw [dropExcess]
      split
      · exact ih _ _
      · exact ⟨rfl, rfl⟩

/-- What is dropped is dropped from the front. -/
theorem appendBounded_pending (side : Side) (payload : Payload) :
    (limits.appendBounded side payload).pending <:+ side.pending ++ [payload] :=
  limits.dropExcess_pending side _ _ _

@[simp] theorem appendBounded_connection (side : Side) (payload : Payload) :
    (limits.appendBounded side payload).connection = side.connection :=
  (limits.dropExcess_rest side _ _ _).1

@[simp] theorem appendBounded_connectEvents (side : Side) (payload : Payload) :
    (limits.appendBounded side payload).connectEvents = side.connectEvents :=
  (limits.dropExcess_rest side _ _ _).2

end Limits

/-! ## Critical sections -/

/-- What a registration returns, unless the session is terminated: the connection that it
supersedes and the payloads that have waited for it. -/
structure Registration where
  previous : Option Connection
  pending : List Payload
  deriving DecidableEq

/-- `registerSignalConnection` and `registerMediaConnection`. -/
def registerConnection (state : Option RelayState) (role : Role) (conn : Connection) :
    RelayState × Option Registration :=
  let current := state.getD {}
  if current.terminated then (current, none)
  else
    (current.change role fun side =>
        { side with
          connection := some conn
          pending := []
          pendingBytes := 0
          connectEvents := side.connectEvents ++ [conn] },
      some ⟨(current.side role).connection, (current.side role).pending⟩)

/-- Give up a registration, if it is still the current one. -/
def release (state : RelayState) (role : Role) (connectionID : Nat) : RelayState × Bool :=
  match (state.side role).connection with
  | none => (state, false)
  | some current =>
      if current.id = connectionID then
        (state.change role fun side => { side with connection := none }, true)
      else (state, false)

/-- Whether the connection was released, and whether the session is terminated. -/
def unregisterSignalConnection (state : Option RelayState) (role : Role) (connectionID : Nat) :
    Option RelayState × Bool × Bool :=
  match state with
  | none => (none, false, false)
  | some current =>
      if current.terminated then (some current, false, true)
      else
        let released := release current role connectionID
        (some released.1, released.2, false)

/-- Media states are released whether or not the session is terminated. -/
def unregisterMediaConnection (state : Option RelayState) (role : Role) (connectionID : Nat) :
    Option RelayState × Bool :=
  match state with
  | none => (none, false)
  | some current =>
      let released := release current role connectionID
      (some released.1, released.2)

/-- The connection to which `forwardSignal` writes directly. -/
def signalTarget (state : Option RelayState) (role : Role) : Option Connection :=
  match state with
  | none => none
  | some current => if current.terminated then none else (current.side role).connection

/-- The connection to which `forwardMedia` writes directly. -/
def mediaTarget (state : Option RelayState) (role : Role) : Option Connection :=
  state.bind fun current => (current.side role).connection

/-- `forwardSignal`, where nothing was written. -/
def enqueueSignal (state : Option RelayState) (role : Role) (payload : Payload) : RelayState :=
  let current := state.getD {}
  if current.terminated then current
  else current.change role fun side => signalLimits.appendBounded side payload

/-- `forwardMedia`, where nothing was written: the frame is queued even if the session is
terminated. -/
def enqueueMedia (state : Option RelayState) (role : Role) (payload : Payload) : RelayState :=
  (state.getD {}).change role fun side => mediaLimits.appendBounded side payload

/-- `noteViewerHeartbeat`, `noteViewerSignal`, `noteWorkerState`, `noteForwardedSignal` and
`noteForwardedMedia`: of the counters, only that there is a state to count in. -/
def noteState (state : Option RelayState) : RelayState := state.getD {}

/-- The signaling state stays behind as a tombstone. -/
def terminateSignalSession (state : Option RelayState) : RelayState :=
  let current := state.getD {}
  { side := fun role => { current.side role with connection := none, pending := [] }
    terminated := true }

/-- There is no tombstone where there was no media state. -/
def terminateMediaRelaySession (state : Option RelayState) : Option RelayState :=
  state.map fun current =>
    if current.terminated then current
    else
      { side := fun role =>
          { current.side role with connection := none, pending := [], pendingBytes := 0 }
        terminated := true }

/-! ## What the sections do to the flags of a state -/

theorem registerConnection_terminated (state : Option RelayState) (role : Role)
    (conn : Connection) :
    (registerConnection state role conn).1.terminated = state.any (·.terminated) := by
  cases state with
  | none => rfl
  | some current =>
      simp only [registerConnection, Option.getD_some, Option.any_some]
      split
      · rfl
      · rfl

theorem enqueueSignal_terminated (state : Option RelayState) (role : Role) (payload : Payload) :
    (enqueueSignal state role payload).terminated = state.any (·.terminated) := by
  cases state with
  | none => rfl
  | some current =>
      simp only [enqueueSignal, Option.getD_some, Option.any_some]
      split
      · rfl
      · rfl

theorem enqueueMedia_terminated (state : Option RelayState) (role : Role) (payload : Payload) :
    (enqueueMedia state role payload).terminated = state.any (·.terminated) := by
  cases state with
  | none => rfl
  | some current => rfl

theorem noteState_terminated (state : Option RelayState) :
    (noteState state).terminated = state.any (·.terminated) := by
  cases state with
  | none => rfl
  | some current => rfl

theorem release_terminated (state : RelayState) (role : Role) (connectionID : Nat) :
    (release state role connectionID).1.terminated = state.terminated := by
  rw [release]
  split
  · rfl
  · split
    · rfl
    · rfl

theorem unregisterSignalConnection_flags (state : Option RelayState) (role : Role)
    (connectionID : Nat) :
    (unregisterSignalConnection state role connectionID).1.isSome = state.isSome ∧
      (unregisterSignalConnection state role connectionID).1.any (·.terminated) =
        state.any (·.terminated) := by
  cases state with
  | none => exact ⟨rfl, rfl⟩
  | some current =>
      simp only [unregisterSignalConnection]
      split
      · exact ⟨rfl, rfl⟩
      · exact ⟨rfl, release_terminated current role connectionID⟩

theorem unregisterMediaConnection_flags (state : Option RelayState) (role : Role)
    (connectionID : Nat) :
    (unregisterMediaConnection state role connectionID).1.isSome = state.isSome ∧
      (unregisterMediaConnection state role connectionID).1.any (·.terminated) =
        state.any (·.terminated) := by
  cases state with
  | none => exact ⟨rfl, rfl⟩
  | some current => exact ⟨rfl, release_terminated current role connectionID⟩

theorem terminateMediaRelaySession_flags (state : Option RelayState) :
    (terminateMediaRelaySession state).isSome = state.isSome ∧
      (terminateMediaRelaySession state).any (·.terminated) = state.isSome := by
  cases state with
  | none => exact ⟨rfl, rfl⟩
  | some current =>
      simp only [terminateMediaRelaySession, Option.map_some, Option.isSome_some, Option.any_some,
        true_and]
      split
      · assumption
      · rfl

/-- The part of a WebRTC relay that the service looks at. -/
structure PionRelay where
  terminated : Bool := false
  deriving DecidableEq

def getOrCreatePionRelaySession (relay : Option PionRelay) : PionRelay := relay.getD {}

end RemoteBrowser.MediaGateway
