import RemoteBrowser.MediaGateway.Frames

/-!
# Bounded queues of payloads

A role that nobody is registered for has its payloads queued within two limits, on their number
and on their bytes.  What is pending is the longest suffix of what was queued since the role was
last served that keeps both limits, and the counters agree with it.
-/

namespace RemoteBrowser.MediaGateway

/-! ## Suffixes within the limits -/

def totalBytes (payloads : List Payload) : Int :=
  (payloads.map fun payload => (payload.length : Int)).sum

theorem totalBytes_cons (payload : Payload) (rest : List Payload) :
    totalBytes (payload :: rest) = payload.length + totalBytes rest := by
  simp [totalBytes]

theorem totalBytes_append (first second : List Payload) :
    totalBytes (first ++ second) = totalBytes first + totalBytes second := by
  simp [totalBytes]

theorem totalBytes_singleton (payload : Payload) : totalBytes [payload] = payload.length := by
  simp [totalBytes]

theorem totalBytes_nonneg (payloads : List Payload) : 0 ≤ totalBytes payloads := by
  induction payloads with
  | nil => exact Int.le_refl 0
  | cons payload rest ih =>
      rw [totalBytes_cons]
      omega

namespace Limits

variable (limits : Limits)

structure Admits (payloads : List Payload) : Prop where
  messages : payloads.length ≤ limits.messages
  bytes : totalBytes payloads ≤ limits.bytes

/-- No longer suffix keeps the limits. -/
structure IsLongestSuffix (payloads kept : List Payload) : Prop where
  suffix : kept <:+ payloads
  admitted : limits.Admits kept
  longest : ∀ other, other <:+ payloads → limits.Admits other → other.length ≤ kept.length

/-- The trimming loop comes to an empty queue and still has something to drop. -/
def overruns : List Payload → Int → Bool
  | [], bytes => limits.bytes < bytes
  | payload :: rest, bytes =>
      if limits.messages < (payload :: rest).length ∨ limits.bytes < bytes then
        overruns rest (bytes - payload.length)
      else false

variable {limits}

theorem Admits.of_append {first second : List Payload} (admits : limits.Admits (first ++ second)) :
    limits.Admits first := by
  have length := admits.messages
  have bytes := admits.bytes
  have rest := totalBytes_nonneg second
  rw [List.length_append] at length
  rw [totalBytes_append] at bytes
  constructor
  · omega
  · omega

/-- What is put behind a longest suffix is put behind everything. -/
theorem IsLongestSuffix.append {payloads kept last : List Payload} {payload : Payload}
    (whole : limits.IsLongestSuffix payloads kept)
    (trimmed : limits.IsLongestSuffix (kept ++ [payload]) last) :
    limits.IsLongestSuffix (payloads ++ [payload]) last := by
  obtain ⟨front, split⟩ := whole.suffix
  constructor
  case suffix =>
    refine trimmed.suffix.trans ⟨front, ?_⟩
    rw [← List.append_assoc, split]
  case admitted => exact trimmed.admitted
  case longest =>
    intro other suffix admits
    rcases List.suffix_concat_iff.mp suffix with rfl | ⟨earlier, rfl, inside⟩
    · exact Nat.zero_le _
    · have short := whole.longest earlier inside admits.of_append
      refine trimmed.longest _ ?_ admits
      obtain ⟨more, joined⟩ := List.suffix_of_suffix_length_le inside whole.suffix short
      exact ⟨more, by rw [← List.append_assoc, joined]⟩

/-- The loop that drops payloads leaves the longest suffix, and counts right. -/
theorem dropExcess_spec (positive : 0 ≤ limits.bytes) (side : Side) (queue : List Payload)
    (dropped : Nat) :
    let result := limits.dropExcess side queue (totalBytes queue) dropped
    limits.IsLongestSuffix queue result.pending ∧
      result.pendingBytes = totalBytes result.pending ∧
      result.dropped + result.pending.length = dropped + queue.length ∧
      limits.overruns queue (totalBytes queue) = false := by
  induction queue generalizing dropped with
  | nil =>
      have empty : limits.Admits [] := ⟨Nat.zero_le _, positive⟩
      refine ⟨⟨List.suffix_refl _, empty, ?_⟩, rfl, rfl, decide_eq_false (Int.not_lt.mpr positive)⟩
      intro other suffix _
      rw [List.suffix_nil.mp suffix]
      exact Nat.le_refl _
  | cons payload rest ih =>
      unfold dropExcess overruns
      split
      case isTrue exceeds =>
        have bytes : totalBytes (payload :: rest) - payload.length = totalBytes rest := by
          rw [totalBytes_cons]
          omega
        rw [bytes]
        obtain ⟨longest, counted, dropped, inside⟩ := ih (dropped + 1)
        refine ⟨⟨longest.suffix.trans (List.suffix_cons _ _), longest.admitted, ?_⟩, counted, ?_,
          inside⟩
        · intro other suffix admits
          rcases List.suffix_cons_iff.mp suffix with rfl | inside
          · have messages := admits.messages
            have bytes := admits.bytes
            omega
          · exact longest.longest other inside admits
        · rw [List.length_cons]
          omega
      case isFalse within =>
        have admits : limits.Admits (payload :: rest) := ⟨by omega, by omega⟩
        exact ⟨⟨List.suffix_refl _, admits, fun _ suffix _ => suffix.length_le⟩, rfl, rfl, rfl⟩

end Limits

/-! ## Runs of calls -/

namespace SocketKind

def limits : SocketKind → Limits
  | signaling => signalLimits
  | media => mediaLimits

theorem limits_nonneg (kind : SocketKind) : 0 ≤ kind.limits.bytes := by
  cases kind <;> decide

def enqueue : SocketKind → Option RelayState → Role → Payload → RelayState
  | signaling => enqueueSignal
  | media => enqueueMedia

def terminate : SocketKind → Option RelayState → Option RelayState
  | signaling => fun state => some (terminateSignalSession state)
  | media => terminateMediaRelaySession

def unregister : SocketKind → Option RelayState → Role → Nat → Option RelayState
  | signaling => fun state role id => (unregisterSignalConnection state role id).1
  | media => fun state role id => (unregisterMediaConnection state role id).1

end SocketKind

inductive RelayCall where
  | append (role : Role) (payload : Payload)
  | register (role : Role) (conn : Connection)
  | unregister (role : Role) (connectionID : Nat)
  | terminate

/-- The state of a role, with the payloads that were queued since it was last served and the
number of those that trimming has removed. -/
structure Watched where
  state : Option RelayState := none
  queued : Role → List Payload := fun _ => []
  trimmed : Role → Nat := fun _ => 0

namespace Watched

def pending (watched : Watched) (role : Role) : List Payload :=
  ((watched.state.getD {}).side role).pending

def isTerminated (watched : Watched) : Bool := watched.state.any (·.terminated)

def step (kind : SocketKind) (watched : Watched) : RelayCall → Watched
  | .append role payload =>
      let state := kind.enqueue watched.state role payload
      { state := some state
        queued := Function.update watched.queued role (watched.queued role ++ [payload])
        trimmed := Function.update watched.trimmed role
          (watched.trimmed role +
            ((watched.pending role).length + 1 - (state.side role).pending.length)) }
  | .register role conn =>
      { watched with
        state := some (registerConnection watched.state role conn).1
        queued := Function.update watched.queued role [] }
  | .unregister role connectionID =>
      { watched with state := kind.unregister watched.state role connectionID }
  | .terminate => { watched with state := kind.terminate watched.state }

def run (kind : SocketKind) (calls : List RelayCall) : Watched := calls.foldl (step kind) {}

end Watched

/-- What is pending for a role is the longest suffix, and the counters agree with it. -/
structure KeepsSuffix (limits : Limits) (side : Side) (queued : List Payload) (trimmed : Nat) :
    Prop where
  longest : limits.IsLongestSuffix queued side.pending
  bytes : side.pendingBytes = totalBytes side.pending
  dropped : side.dropped = trimmed
  inBounds : ∀ payload : Payload,
    limits.overruns (side.pending ++ [payload]) (side.pendingBytes + payload.length) = false

namespace KeepsSuffix

variable {limits : Limits} {side : Side} {queued : List Payload} {trimmed : Nat}

theorem inBounds_of_bytes (positive : 0 ≤ limits.bytes)
    (bytes : side.pendingBytes = totalBytes side.pending) (payload : Payload) :
    limits.overruns (side.pending ++ [payload]) (side.pendingBytes + payload.length) = false := by
  have total : side.pendingBytes + payload.length = totalBytes (side.pending ++ [payload]) := by
    rw [totalBytes_append, totalBytes_singleton, bytes]
  rw [total]
  exact (Limits.dropExcess_spec positive side _ 0).2.2.2

/-- Nothing is queued. -/
theorem of_empty (positive : 0 ≤ limits.bytes) (pending : side.pending = [])
    (bytes : side.pendingBytes = 0) (dropped : side.dropped = trimmed) :
    KeepsSuffix limits side [] trimmed := by
  have counted : side.pendingBytes = totalBytes side.pending := by
    rw [pending, bytes]
    rfl
  have empty : limits.Admits side.pending := by
    rw [pending]
    exact ⟨Nat.zero_le _, positive⟩
  constructor
  case longest =>
    refine ⟨pending ▸ List.suffix_refl [], empty, fun other suffix _ => ?_⟩
    rw [List.suffix_nil.mp suffix]
    exact Nat.zero_le _
  case bytes => exact counted
  case dropped => exact dropped
  case inBounds => exact inBounds_of_bytes positive counted

theorem append (positive : 0 ≤ limits.bytes) (keeps : KeepsSuffix limits side queued trimmed)
    (payload : Payload) :
    let result := limits.appendBounded side payload
    KeepsSuffix limits result (queued ++ [payload])
      (trimmed + (side.pending.length + 1 - result.pending.length)) := by
  have total : side.pendingBytes + payload.length = totalBytes (side.pending ++ [payload]) := by
    rw [totalBytes_append, totalBytes_singleton, keeps.bytes]
  have spec := Limits.dropExcess_spec positive side (side.pending ++ [payload]) side.dropped
  rw [← total] at spec
  obtain ⟨longest, bytes, dropped, -⟩ := spec
  have whole := keeps.dropped
  constructor
  case longest => exact keeps.longest.append longest
  case bytes => exact bytes
  case dropped =>
    have short := longest.suffix.length_le
    rw [List.length_append, List.length_singleton] at dropped short
    unfold Limits.appendBounded
    omega
  case inBounds => exact inBounds_of_bytes positive bytes

/-- The connection does not matter. -/
theorem congr (keeps : KeepsSuffix limits side queued trimmed) {other : Side}
    (pending : other.pending = side.pending) (bytes : other.pendingBytes = side.pendingBytes)
    (dropped : other.dropped = side.dropped) : KeepsSuffix limits other queued trimmed := by
  constructor
  · rw [pending]
    exact keeps.longest
  · rw [pending, bytes]
    exact keeps.bytes
  · rw [dropped]
    exact keeps.dropped
  · rw [pending, bytes]
    exact keeps.inBounds

end KeepsSuffix

namespace Watched

variable {kind : SocketKind} {watched : Watched}

/-- Unless the session is terminated, every role keeps its suffix. -/
def Keeps (kind : SocketKind) (watched : Watched) : Prop :=
  watched.isTerminated = false → ∀ role, KeepsSuffix kind.limits
    ((watched.state.getD {}).side role) (watched.queued role) (watched.trimmed role)

theorem enqueue_terminated (kind : SocketKind) (state : Option RelayState) (role : Role)
    (payload : Payload) :
    (kind.enqueue state role payload).terminated = state.any (·.terminated) := by
  cases kind with
  | signaling => exact enqueueSignal_terminated state role payload
  | media => exact enqueueMedia_terminated state role payload

theorem enqueue_live (kind : SocketKind) {state : Option RelayState}
    (live : state.any (·.terminated) = false) (role : Role) (payload : Payload) :
    kind.enqueue state role payload =
      (state.getD {}).change role fun side => kind.limits.appendBounded side payload := by
  cases kind with
  | signaling =>
      refine if_neg ?_
      cases state with
      | none => exact Bool.false_ne_true
      | some current => exact Bool.eq_false_iff.mp live
  | media => rfl

theorem Keeps.append (keeps : watched.Keeps kind) (role : Role) (payload : Payload) :
    (watched.step kind (.append role payload)).Keeps kind := by
  intro live other
  have before : watched.isTerminated = false := by
    rw [← live]
    exact (enqueue_terminated kind watched.state role payload).symm
  have kept := keeps before other
  simp only [step, Option.getD_some, enqueue_live kind before]
  by_cases same : other = role
  case pos =>
    subst same
    simp only [Function.update_self, RelayState.change_side]
    exact kept.append kind.limits_nonneg payload
  case neg =>
    simp only [Function.update_of_ne same, RelayState.change_side_of_ne _ _ same]
    exact kept

theorem Keeps.register (keeps : watched.Keeps kind) (role : Role) (conn : Connection) :
    (watched.step kind (.register role conn)).Keeps kind := by
  intro live other
  have before : watched.isTerminated = false := by
    rw [← live]
    exact (registerConnection_terminated watched.state role conn).symm
  have kept := keeps before other
  have current : (watched.state.getD {}).terminated = false := by
    cases found : watched.state with
    | none => rfl
    | some current =>
        rw [isTerminated, found] at before
        exact before
  simp only [step, Option.getD_some, registerConnection, current]
  rw [if_neg Bool.false_ne_true]
  by_cases same : other = role
  case pos =>
    subst same
    simp only [Function.update_self, RelayState.change_side]
    exact .of_empty kind.limits_nonneg rfl rfl kept.dropped
  case neg =>
    simp only [Function.update_of_ne same, RelayState.change_side_of_ne _ _ same]
    exact kept

/-- A release leaves the queues as they are. -/
theorem release_side (state : RelayState) (role other : Role) (connectionID : Nat) :
    let released := (release state role connectionID).1.side other
    released.pending = (state.side other).pending ∧
      released.pendingBytes = (state.side other).pendingBytes ∧
      released.dropped = (state.side other).dropped := by
  unfold release
  split
  · exact ⟨rfl, rfl, rfl⟩
  · split
    · by_cases same : other = role
      · subst same
        rw [RelayState.change_side]
        exact ⟨rfl, rfl, rfl⟩
      · rw [RelayState.change_side_of_ne _ _ same]
        exact ⟨rfl, rfl, rfl⟩
    · exact ⟨rfl, rfl, rfl⟩

theorem unregister_side (kind : SocketKind) (state : Option RelayState) (role other : Role)
    (connectionID : Nat) :
    let after := ((kind.unregister state role connectionID).getD {}).side other
    let before := (state.getD {}).side other
    after.pending = before.pending ∧ after.pendingBytes = before.pendingBytes ∧
      after.dropped = before.dropped := by
  cases state with
  | none => cases kind <;> exact ⟨rfl, rfl, rfl⟩
  | some current =>
      cases kind with
      | signaling =>
          simp only [SocketKind.unregister, unregisterSignalConnection]
          split
          · exact ⟨rfl, rfl, rfl⟩
          · exact release_side current role other connectionID
      | media => exact release_side current role other connectionID

theorem Keeps.unregister (keeps : watched.Keeps kind) (role : Role) (connectionID : Nat) :
    (watched.step kind (.unregister role connectionID)).Keeps kind := by
  intro live other
  have before : watched.isTerminated = false := by
    rw [← live]
    cases kind with
    | signaling => exact (unregisterSignalConnection_flags _ role connectionID).2.symm
    | media => exact (unregisterMediaConnection_flags _ role connectionID).2.symm
  obtain ⟨pending, bytes, dropped⟩ := unregister_side kind watched.state role other connectionID
  exact (keeps before other).congr pending bytes dropped

/-- After a termination the session is terminated, or there is no state as before. -/
theorem Keeps.terminate (keeps : watched.Keeps kind) :
    (watched.step kind .terminate).Keeps kind := by
  intro live
  cases kind with
  | signaling => cases live
  | media =>
      have none : watched.state.isSome = false := by
        rw [← live]
        exact (terminateMediaRelaySession_flags watched.state).2.symm
      have absent := Option.not_isSome_iff_eq_none.mp (Bool.eq_false_iff.mp none)
      have same : watched.step .media .terminate = watched := by
        simp only [step, SocketKind.terminate, absent, terminateMediaRelaySession, Option.map_none]
        rw [← absent]
      rw [same]
      refine keeps ?_
      rw [isTerminated, absent]
      rfl

theorem Keeps.step (keeps : watched.Keeps kind) (call : RelayCall) :
    (watched.step kind call).Keeps kind := by
  cases call with
  | append role payload => exact keeps.append role payload
  | register role conn => exact keeps.register role conn
  | unregister role connectionID => exact keeps.unregister role connectionID
  | terminate => exact keeps.terminate

theorem keeps_run (kind : SocketKind) (calls : List RelayCall) : (run kind calls).Keeps kind := by
  unfold run
  induction calls using List.reverseRecOn with
  | nil =>
      intro _ role
      exact .of_empty kind.limits_nonneg rfl rfl rfl
  | append_singleton calls call ih =>
      rw [List.foldl_append]
      exact ih.step call

end Watched

/-- In every state in which the session is not terminated, a role's queue is the longest suffix
within the limits of what was queued since the role was last served. -/
theorem pending_is_longest_suffix (kind : SocketKind) (calls : List RelayCall)
    (live : (Watched.run kind calls).isTerminated = false) (role : Role) :
    let watched := Watched.run kind calls
    KeepsSuffix kind.limits ((watched.state.getD {}).side role) (watched.queued role)
      (watched.trimmed role) :=
  Watched.keeps_run kind calls live role

/-- Two payloads that were queued after the viewer was served. -/
theorem served_queue_is_longest_suffix :
    let watched := Watched.run .signaling
      [.append .viewer [1], .register .viewer ⟨0, 0⟩, .append .viewer [2], .append .viewer [3]]
    KeepsSuffix signalLimits ((watched.state.getD {}).side .viewer) [[2], [3]] 0 :=
  pending_is_longest_suffix .signaling _ (by decide +kernel) .viewer

end RemoteBrowser.MediaGateway
