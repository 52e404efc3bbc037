import RemoteBrowser.MediaGateway.DataLanes

/-!
# What is pending for a data channel

Only the newest pointer position is worth sending, so at most that one is to be pending, and no more
than a fixed number of other messages.  The relay sees to it when it queues a message, but not when
it puts one back that could not be sent.
-/

namespace RemoteBrowser.MediaGateway

open Async

namespace Lane

/-- No message that came in later is missing from the channel. -/
def Newest (lane : Lane) (message : QueuedDataMessage) : Prop :=
  message ∉ lane.delivered ∧
    ∀ later ∈ lane.received, message.arrival < later.arrival → later ∈ lane.delivered

/-- A pointer channel has at most one pending message, the newest that was not delivered; any
other channel has a bounded number. -/
structure Bounded (pointer : Bool) (lane : Lane) : Prop where
  single : pointer = true → lane.pending.length ≤ 1
  newest : pointer = true → ∀ message ∈ lane.pending, lane.Newest message
  limited : pointer = false → lane.pending.length ≤ pionRelayMaxPendingDataMessages

/-- A pointer position is sent at once only when none is pending.  A message is put back only where
there is room, and a pointer position only if no later one is missing. -/
def Admits (pointer : Bool) (lane : Lane) : LaneEvent → Prop
  | .depart _ => pointer = true → lane.pending = []
  | .putBack message =>
      (pointer = true → lane.pending = [] ∧
        ∀ later ∈ lane.received, message.arrival < later.arrival → later ∈ lane.delivered) ∧
      (pointer = false → lane.pending.length < pionRelayMaxPendingDataMessages)
  | _ => True

theorem length_trimQueue_le (queue : List QueuedDataMessage) :
    (PionRelaySession.trimQueue queue).1.length ≤ pionRelayMaxPendingDataMessages := by
  induction queue with
  | nil => exact Nat.zero_le _
  | cons first rest ih =>
      unfold PionRelaySession.trimQueue
      split
      case isTrue => exact ih
      case isFalse short => exact Nat.le_of_not_lt short

variable {lane : Lane} {pointer : Bool} {event : LaneEvent}
  {held after : Option QueuedDataMessage} {flying : Multiset QueuedDataMessage}
  {message : QueuedDataMessage}

/-- A message that comes in is newer than what is pending. -/
theorem depart_iff (tracked : lane.Tracked flying) (bounded : lane.Bounded pointer)
    (fresh : message.arrival = lane.received.length) :
    (lane.after pointer (.depart message)).Bounded pointer ↔
      (pointer = true → lane.pending = []) := by
  constructor
  case mp =>
    intro stays isPointer
    apply List.eq_nil_iff_forall_not_mem.mpr
    intro waiting member
    have earlier := tracked.arrival_lt (tracked.received_of_pending member)
    have missing := (stays.newest isPointer waiting member).2 message
      (List.mem_append_right _ (List.mem_singleton_self _)) (fresh ▸ earlier)
    have arrived := tracked.arrival_lt (tracked.received_of_delivered missing)
    exact absurd fresh (Nat.ne_of_lt arrived)
  case mpr =>
    intro empty
    constructor
    case single => exact bounded.single
    case newest =>
      intro isPointer waiting member
      have pending : waiting ∈ lane.pending := member
      rw [empty isPointer] at pending
      cases pending
    case limited => exact bounded.limited

theorem bounded_queue (tracked : lane.Tracked flying)
    (fresh : message.arrival = lane.received.length) :
    (lane.after pointer (.queue message)).Bounded pointer := by
  have alone (isPointer : pointer = true) :
      queued pointer lane.pending message = [message] := if_pos isPointer
  constructor
  case single =>
    intro isPointer
    exact Nat.le_of_eq (congrArg List.length (alone isPointer))
  case newest =>
    intro isPointer waiting member
    have pending : waiting ∈ queued pointer lane.pending message := member
    rw [alone isPointer] at pending
    cases List.mem_singleton.mp pending
    constructor
    · intro arrived
      have earlier := tracked.arrival_lt (tracked.received_of_delivered arrived)
      exact absurd fresh (Nat.ne_of_lt earlier)
    · intro later arrived newer
      cases List.mem_append.mp arrived with
      | inl before =>
          have earlier := tracked.arrival_lt before
          omega
      | inr same =>
          rw [List.mem_singleton.mp same] at newer
          exact absurd newer (Nat.lt_irrefl _)
  case limited =>
    intro other
    have trimmed : queued pointer lane.pending message =
        (PionRelaySession.trimQueue (lane.pending ++ [message])).1 := by
      rw [queued, other]
      rfl
    change (queued pointer lane.pending message).length ≤ _
    rw [trimmed]
    exact length_trimQueue_le _

theorem bounded_send (tracked : lane.Tracked flying) (bounded : lane.Bounded pointer)
    (carries : message ∈ flying) : (lane.after pointer (.send message)).Bounded pointer := by
  constructor
  case single => exact bounded.single
  case newest =>
    intro isPointer waiting member
    obtain ⟨missing, later⟩ := bounded.newest isPointer waiting member
    constructor
    · intro arrived
      cases List.mem_append.mp arrived with
      | inl before => exact missing before
      | inr same =>
          rw [List.mem_singleton.mp same] at member
          exact (tracked.nodup.2 message carries).1 member
    · exact fun other arrived newer => List.mem_append_left _ (later other arrived newer)
  case limited => exact bounded.limited

theorem bounded_take (bounded : lane.Bounded pointer) :
    (lane.after pointer .take).Bounded pointer := by
  have fewer : lane.pending.tail.length ≤ lane.pending.length := by
    rw [List.length_tail]
    exact Nat.sub_le _ _
  constructor
  case single => exact fun isPointer => Nat.le_trans fewer (bounded.single isPointer)
  case newest =>
    exact fun isPointer waiting member =>
      bounded.newest isPointer waiting (List.mem_of_mem_tail member)
  case limited => exact fun other => Nat.le_trans fewer (bounded.limited other)

theorem putBack_iff (tracked : lane.Tracked flying) (carries : message ∈ flying) :
    (lane.after pointer (.putBack message)).Bounded pointer ↔
      lane.Admits pointer (.putBack message) := by
  constructor
  case mp =>
    intro stays
    constructor
    · intro isPointer
      constructor
      · have few : lane.pending.length + 1 ≤ 1 := stays.single isPointer
        exact List.length_eq_zero_iff.mp (Nat.le_zero.mp (Nat.le_of_succ_le_succ few))
      · exact (stays.newest isPointer message List.mem_cons_self).2
    · exact stays.limited
  case mpr =>
    intro admits
    constructor
    case single =>
      intro isPointer
      change lane.pending.length + 1 ≤ 1
      rw [(admits.1 isPointer).1]
      exact Nat.le_refl _
    case newest =>
      intro isPointer waiting member
      obtain ⟨empty, later⟩ := admits.1 isPointer
      have only : waiting ∈ message :: lane.pending := member
      rw [empty] at only
      cases List.mem_singleton.mp only
      exact ⟨(tracked.nodup.2 message carries).2, later⟩
    case limited => exact admits.2

/-- Exactly the admitted events keep a channel bounded. -/
theorem bounded_after_iff (tracked : lane.Tracked flying) (bounded : lane.Bounded pointer)
    (moves : lane.Moves held event after) (carries : carried held ≤ flying) :
    (lane.after pointer event).Bounded pointer ↔ lane.Admits pointer event := by
  cases event with
  | idle => exact iff_of_true bounded trivial
  | depart message => exact depart_iff tracked bounded moves.1
  | queue message => exact iff_of_true (bounded_queue tracked moves.1) trivial
  | take => exact iff_of_true (bounded_take bounded) trivial
  | send message =>
      rw [moves.1] at carries
      exact iff_of_true (bounded_send tracked bounded (Multiset.singleton_le.mp carries)) trivial
  | lose message => exact iff_of_true bounded trivial
  | putBack message =>
      rw [moves.1] at carries
      exact putBack_iff tracked (Multiset.singleton_le.mp carries)
  | abandon message => exact iff_of_true bounded trivial
  | clear =>
      have none : (lane.after pointer .clear).Bounded pointer :=
        ⟨fun _ => Nat.zero_le _, fun _ _ member => (List.not_mem_nil member).elim,
          fun _ => Nat.zero_le _⟩
      exact iff_of_true none trivial

end Lane

/-! ## All channels -/

/-- What is pending for each channel of the worker and of the viewer is bounded. -/
def QueuesBounded (relay : PionRelaySession) : Prop :=
  ∀ side label, (relay.lane side label).Bounded (isPointerChannel label)

/-- The action means for every channel an event that the channel admits. -/
def AdmitsQueues (config : Async.Config pionRelay) : Action pionRelay → Prop
  | .start _ => True
  | .resume index choice => ∀ op, config.awaits index = some op → ∀ side label,
      (config.state.lane side label).Admits (isPointerChannel label)
        (op.event side label choice config.state)

/-- Exactly the admitted actions keep all channels bounded. -/
theorem queuesBounded_step_iff {before after : Async.Config pionRelay} {action : Action pionRelay}
    (obeying : Obeying before)
    (tracked : ∀ side label, (before.state.lane side label).Tracked (inFlight side label before))
    (bounded : QueuesBounded before.state) (stepped : before.step action = some after) :
    QueuesBounded after.state ↔ AdmitsQueues before action := by
  obtain ⟨job, rfl, same, -⟩ | ⟨index, choice, op, stage, rfl, resumed⟩ :=
    pion_step obeying stepped
  · rw [same]
    exact iff_of_true bounded trivial
  · have each (side : Role) (label : String) :
        (after.state.lane side label).Bounded (isPointerChannel label) ↔
          (before.state.lane side label).Admits (isPointerChannel label)
            (op.event side label choice before.state) := by
      rw [resumed.state, lane_exec]
      exact Lane.bounded_after_iff (tracked side label) (bounded side label)
        (moves_exec choice before.state resumed.allows)
        (resumed.share _ fun stage => carried (stage.carries side label))
    constructor
    case mp =>
      intro stays other awaited side label
      cases resumed.awaits.symm.trans awaited
      exact (each side label).mp (stays side label)
    case mpr =>
      exact fun admits side label => (each side label).mpr (admits op resumed.awaits side label)

/-- In every run of admitted actions all channels stay bounded, and the first action that is not
admitted leaves some channel unbounded. -/
theorem queues_bounded_while_admitted {final : Async.Config pionRelay}
    (run : Run AdmitsQueues newRelay final) :
    QueuesBounded final.state ∧ ∀ action after, final.step action = some after →
      (QueuesBounded after.state ↔ AdmitsQueues final action) := by
  have start : QueuesBounded newRelay.state := fun side label =>
    ⟨fun _ => Nat.zero_le _, fun _ _ member => (List.not_mem_nil member).elim,
      fun _ => Nat.zero_le _⟩
  have facts : ∀ config, Run AdmitsQueues newRelay config → Obeying config ∧
      ∀ side label, (config.state.lane side label).Tracked (inFlight side label config) :=
    fun config reached => ⟨obeying_of_run reached, tracked_of_run reached⟩
  have bounded : QueuesBounded final.state := by
    apply (run.assuming facts).invariant start
    intro before after action holds permitted stepped
    obtain ⟨admits, obeying, tracked⟩ := permitted
    exact (queuesBounded_step_iff obeying tracked holds stepped).mpr admits
  refine ⟨bounded, fun action after stepped => ?_⟩
  obtain ⟨obeying, tracked⟩ := facts final run
  exact queuesBounded_step_iff obeying tracked bounded stepped

/-! ## Runs -/

instance (pointer : Bool) (lane : Lane) (event : LaneEvent) :
    Decidable (lane.Admits pointer event) :=
  match event with
  | .depart _ => inferInstanceAs (Decidable (_ → _))
  | .putBack _ => inferInstanceAs (Decidable ((_ → _ ∧ _) ∧ (_ → _)))
  | .idle | .queue _ | .take | .send _ | .lose _ | .abandon _ | .clear => isTrue trivial

/-- The only channel for which an operation can be more than a removal. -/
def PionOp.channel : PionOp → Option (Role × String)
  | .dispatch side label _ _ => some (side, label)
  | .sendDirect side label _ _ => some (side, label)
  | .takePending side label => some (side, label)
  | .sendPending side label _ _ => some (side, label)
  | .putBack side label _ _ => some (side, label)
  | _ => none

theorem admits_of_other {op : PionOp} {side : Role} {label : String}
    (other : op.channel ≠ some (side, label)) (choice : PionChoice) (relay : PionRelaySession)
    (lane : Lane) (pointer : Bool) : lane.Admits pointer (op.event side label choice relay) := by
  have differs {role : Role} {name : String} (different : some (role, name) ≠ some (side, label)) :
      ¬(role = side ∧ name = label) := by
    rintro ⟨rfl, rfl⟩
    exact different rfl
  cases op with
  | terminate reason =>
      unfold PionOp.event
      dsimp only
      split <;> trivial
  | dispatch role name payload isString => simp [PionOp.event, differs other, Lane.Admits]
  | sendDirect role name target message => simp [PionOp.event, differs other, Lane.Admits]
  | takePending role name => simp [PionOp.event, differs other, Lane.Admits]
  | sendPending role name target message => simp [PionOp.event, differs other, Lane.Admits]
  | putBack role name closed message => simp [PionOp.event, differs other, Lane.Admits]
  | _ => trivial

/-- Whether the channel that the action is about admits it. -/
def checksQueues (config : Async.Config pionRelay) : Action pionRelay → Bool
  | .start _ => true
  | .resume index choice =>
      match config.awaits index with
      | none => true
      | some op =>
          match PionOp.channel op with
          | none => true
          | some (side, label) =>
              decide ((config.state.lane side label).Admits (isPointerChannel label)
                (PionOp.event side label choice config.state op))

theorem admitsQueues_of_check {config : Async.Config pionRelay} {action : Action pionRelay}
    (passes : checksQueues config action = true) : AdmitsQueues config action := by
  cases action with
  | start job => trivial
  | resume index choice =>
      intro op awaited side label
      by_cases own : op.channel = some (side, label)
      case pos =>
        simp only [checksQueues, awaited, own, decide_eq_true_eq] at passes
        exact passes
      case neg => exact admits_of_other own choice config.state _ _

/-- A channel for pointer positions opens; a position has to wait for its buffer, is taken and
cannot be sent. -/
def failedFlush : List (Action pionRelay) :=
  [.start (.register .worker inputPointerChannelName 0 1), .resume 0 {}, .resume 0 ⟨false, 0, true⟩,
    .start (.forward .worker inputPointerChannelName [1] true), .resume 1 ⟨true, 20000, true⟩,
    .start (.flush .worker inputPointerChannelName 1), .resume 2 {}, .resume 2 ⟨true, 0, false⟩]

theorem failed_position_is_put_back :
    ∃ final, Run AdmitsQueues newRelay final ∧
      (final.state.pending .worker inputPointerChannelName).length = 1 ∧
      QueuesBounded final.state := by
  obtain ⟨final, run, passed⟩ := @Run.exists_of_schedule _ _ checksQueues
    (fun _ _ passes => admitsQueues_of_check passes) newRelay (failedFlush ++ [.resume 2 {}])
    (fun final => (final.state.pending .worker inputPointerChannelName).length = 1)
    (by decide +kernel)
  exact ⟨final, run, of_decide_eq_true passed, (queues_bounded_while_admitted run).1⟩

/-- Meanwhile a newer position has to wait; the older one is put back in front of it. -/
theorem old_position_is_put_back :
    ¬∀ final, Run anyAction newRelay final → QueuesBounded final.state := by
  intro always
  obtain ⟨final, run, passed⟩ := Run.exists_of_actions newRelay
    (failedFlush ++
      [.start (.forward .worker inputPointerChannelName [2] true), .resume 3 ⟨true, 20000, true⟩,
        .resume 2 {}])
    (fun final => (final.state.pending .worker inputPointerChannelName).length = 2)
    (by decide +kernel)
  have two : (final.state.pending .worker inputPointerChannelName).length = 2 :=
    of_decide_eq_true passed
  have few : (final.state.pending .worker inputPointerChannelName).length ≤ 1 :=
    (always final run .worker inputPointerChannelName).single (by decide)
  omega

end RemoteBrowser.MediaGateway
