import RemoteBrowser.MediaGateway.DataLanes
import Mathlib.Data.List.Sort
import Mathlib.Algebra.Order.Group.Nat

/-!
# Control input

Keys and buttons reach the worker in the order in which they came from the viewer, and each is
delivered, pending or counted as dropped, as long as no message overtakes an older one on its way
and no message is lost because it could not be sent at once.
-/

namespace RemoteBrowser.MediaGateway

open Async

/-! ## Order -/

namespace Lane

/-- What was delivered is in order, and older than what is still on its way. -/
structure Ordered (lane : Lane) (flying : Multiset QueuedDataMessage) : Prop where
  sorted : lane.delivered.Pairwise fun first second => first.arrival < second.arrival
  pending : ∀ first ∈ lane.delivered, ∀ waiting ∈ lane.pending, first.arrival < waiting.arrival
  flying : ∀ first ∈ lane.delivered, ∀ message ∈ flying, first.arrival < message.arrival

/-- A message is sent only when no older one is pending or carried; none is lost. -/
def InTurn (lane : Lane) (flying : Multiset QueuedDataMessage) : LaneEvent → Prop
  | .send message =>
      (∀ waiting ∈ lane.pending, message.arrival < waiting.arrival) ∧
        ∀ other ∈ flying, message.arrival ≤ other.arrival
  | .lose _ => False
  | _ => True

variable {lane : Lane} {pointer : Bool} {event : LaneEvent}
  {held after : Option QueuedDataMessage} {flying landed : Multiset QueuedDataMessage}

theorem Ordered.step (ordered : lane.Ordered flying) (tracked : lane.Tracked flying)
    (moves : lane.Moves held event after) (inTurn : lane.InTurn flying event)
    (exchanged : landed + carried held = flying + carried after) :
    (lane.after pointer event).Ordered landed := by
  obtain ⟨sorted, pending, flies⟩ := ordered
  have old {message : QueuedDataMessage} (fresh : message.arrival = lane.received.length) :
      ∀ first ∈ lane.delivered, first.arrival < message.arrival := fun first arrived =>
    fresh ▸ tracked.arrival_lt (tracked.received_of_delivered arrived)
  cases event with
  | idle =>
      cases moves
      rw [add_right_cancel exchanged]
      exact ⟨sorted, pending, flies⟩
  | clear =>
      cases moves
      rw [add_right_cancel exchanged]
      exact ⟨sorted, fun _ _ _ member => (List.not_mem_nil member).elim, flies⟩
  | depart message =>
      obtain ⟨fresh, rfl, rfl⟩ := moves
      simp only [carried_none, carried_some, add_zero] at exchanged
      rw [exchanged]
      refine ⟨sorted, pending, fun first arrived other carries => ?_⟩
      cases Multiset.mem_add.mp carries with
      | inl before => exact flies first arrived other before
      | inr new =>
          rw [Multiset.mem_singleton.mp new]
          exact old fresh first arrived
  | queue message =>
      obtain ⟨fresh, rfl⟩ := moves
      rw [add_right_cancel exchanged]
      refine ⟨sorted, fun first arrived waiting waits => ?_, flies⟩
      have member : waiting ∈ (lane.pending : Multiset QueuedDataMessage) + {message} :=
        Multiset.mem_of_le (queued_le pointer lane.pending message) waits
      cases Multiset.mem_add.mp member with
      | inl before => exact pending first arrived waiting before
      | inr new =>
          rw [Multiset.mem_singleton.mp new]
          exact old fresh first arrived
  | take =>
      obtain ⟨rfl, message, rest, waiting, rfl⟩ := moves
      simp only [carried_none, carried_some, add_zero] at exchanged
      rw [exchanged]
      constructor
      case sorted => exact sorted
      case pending =>
        exact fun first arrived other waits =>
          pending first arrived other (List.mem_of_mem_tail waits)
      case flying =>
        intro first arrived other carries
        cases Multiset.mem_add.mp carries with
        | inl before => exact flies first arrived other before
        | inr taken =>
            rw [Multiset.mem_singleton.mp taken]
            exact pending first arrived message (waiting ▸ List.mem_cons_self)
  | send message =>
      obtain ⟨rfl, rfl⟩ := moves
      simp only [carried_none, carried_some, add_zero] at exchanged
      have carries : message ∈ flying := by
        rw [← exchanged]
        exact Multiset.mem_add.mpr (.inr (Multiset.mem_singleton_self message))
      constructor
      case sorted =>
        refine List.pairwise_append.mpr ⟨sorted, List.pairwise_singleton _ _, ?_⟩
        intro first arrived second new
        rw [List.mem_singleton.mp new]
        exact flies first arrived message carries
      case pending =>
        intro first arrived waiting waits
        cases List.mem_append.mp arrived with
        | inl before => exact pending first before waiting waits
        | inr new =>
            rw [List.mem_singleton.mp new]
            exact inTurn.1 waiting waits
      case flying =>
        intro first arrived other stays
        have before : other ∈ flying := by
          rw [← exchanged]
          exact Multiset.mem_add.mpr (.inl stays)
        cases List.mem_append.mp arrived with
        | inl early => exact flies first early other before
        | inr new =>
            rw [List.mem_singleton.mp new]
            -- A message is carried once, so another one that is not older is newer.
            have whole := Multiset.nodup_of_le (Multiset.le_add_left flying lane.pending)
              (Multiset.nodup_of_le ((Multiset.le_add_right _ _).trans tracked.within)
                (Multiset.coe_nodup.mpr tracked.nodup_received))
            rw [← exchanged] at whole
            have different : other ≠ message := by
              rintro rfl
              exact Multiset.disjoint_left.mp (Multiset.nodup_add.mp whole).2.2 stays
                (Multiset.mem_singleton_self other)
            apply Nat.lt_of_le_of_ne (inTurn.2 other before)
            intro same
            exact different (tracked.eq_of_arrival (tracked.received_of_flying before)
              (tracked.received_of_flying carries) same.symm)
  | lose message => exact inTurn.elim
  | putBack message =>
      obtain ⟨rfl, rfl⟩ := moves
      simp only [carried_none, carried_some, add_zero] at exchanged
      rw [← exchanged] at flies
      constructor
      case sorted => exact sorted
      case pending =>
        intro first arrived waiting waits
        cases waits with
        | head =>
            exact flies first arrived message
              (Multiset.mem_add.mpr (.inr (Multiset.mem_singleton_self message)))
        | tail _ waits => exact pending first arrived waiting waits
      case flying =>
        exact fun first arrived other carries =>
          flies first arrived other (Multiset.mem_add.mpr (.inl carries))
  | abandon message =>
      obtain ⟨rfl, rfl⟩ := moves
      simp only [carried_none, carried_some, add_zero] at exchanged
      rw [← exchanged] at flies
      exact ⟨sorted, pending, fun first arrived other carries =>
        flies first arrived other (Multiset.mem_add.mpr (.inl carries))⟩

instance : Std.Antisymm fun first second : QueuedDataMessage => first.arrival < second.arrival where
  antisymm _ _ less greater := absurd (Nat.lt_trans less greater) (Nat.lt_irrefl _)

/-- What was delivered was received in the same order. -/
theorem Ordered.sublist (ordered : lane.Ordered flying) (tracked : lane.Tracked flying) :
    lane.delivered.Sublist lane.received := by
  have among : lane.delivered.Subperm lane.received := by
    apply Multiset.coe_le.mp
    exact (Multiset.le_add_left _ _).trans tracked.within
  refine List.sublist_of_subperm_of_pairwise among ordered.sorted ?_
  have numbers := List.pairwise_lt_range (n := lane.received.length)
  rw [← tracked.numbered, List.pairwise_map] at numbers
  exact numbers

end Lane

/-! ## Accounting -/

/-- Control messages that were counted, wait or were dropped. -/
def PionRelaySession.tally (relay : PionRelaySession) : Nat :=
  relay.dataMessages .worker + (relay.pending .worker inputControlChannelName).length +
    relay.controlDroppedMessages

/-- A goroutine with a message for the worker, which it carries or has yet to count. -/
def DataStage.weight : DataStage → Nat
  | .direct .worker _ _ => 1
  | .taken .worker _ _ _ => 1
  | .failed .worker _ _ _ => 1
  | .counting .worker => 1
  | _ => 0

theorem length_trimQueue (queue : List QueuedDataMessage) :
    (PionRelaySession.trimQueue queue).1.length + (PionRelaySession.trimQueue queue).2 =
      queue.length := by
  induction queue with
  | nil => rfl
  | cons first rest ih =>
      unfold PionRelaySession.trimQueue
      split
      case isTrue =>
        simp only [List.length_cons]
        omega
      case isFalse => rfl

section Tally

variable {relay : PionRelaySession} (choice : PionChoice) {stage : DataStage} {op : PionOp}

/-- Control messages are all that the worker is sent. -/
structure OnlyControl (relay : PionRelaySession) (stage : DataStage) (op : PionOp) : Prop where
  dispatched : ∀ label payload isString, op = .dispatch .worker label payload isString →
    label = inputControlChannelName
  pending : ∀ label, label ≠ inputControlChannelName → relay.pending .worker label = []
  carried : ∀ label, label ≠ inputControlChannelName → stage.carries .worker label = none

theorem label_of_carried {label : String} {message : QueuedDataMessage}
    (only : OnlyControl relay stage op)
    (carries : stage.carries .worker label = some message) : label = inputControlChannelName := by
  by_contra other
  rw [only.carried label other] at carries
  cases carries

@[simp] theorem received_enqueue (side : Role) (label : String) (message : QueuedDataMessage) :
    (relay.enqueueDataMessage side label message).received = relay.received := by
  unfold PionRelaySession.enqueueDataMessage
  dsimp only
  split <;> rfl

theorem tally_enqueue_viewer (label : String) (message : QueuedDataMessage) :
    (relay.enqueueDataMessage .viewer label message).tally = relay.tally := by
  unfold PionRelaySession.enqueueDataMessage
  dsimp only
  split <;> rfl

theorem tally_enqueue_control (message : QueuedDataMessage) :
    (relay.enqueueDataMessage .worker inputControlChannelName message).tally =
      relay.tally + 1 := by
  have control : isPointerChannel inputControlChannelName = false := by decide
  have trimmed := length_trimQueue (relay.pending .worker inputControlChannelName ++ [message])
  rw [List.length_append, List.length_singleton] at trimmed
  unfold PionRelaySession.enqueueDataMessage PionRelaySession.tally
  simp only [control, Bool.false_eq_true, if_false, if_true, assign_self]
  omega

/-- What a goroutine does with a control message keeps the account. -/
theorem tally_exec (only : OnlyControl relay stage op) (allowed : stage.allows op)
    (kept : ∀ message, op.event .worker inputControlChannelName choice relay ≠ .lose message)
    (early : stage.late = 0) (running : (pionExec choice op relay).1.terminated = false) :
    (pionExec choice op relay).1.tally + (stage.next op (pionExec choice op relay).2).weight +
        (relay.received .worker inputControlChannelName).length =
      relay.tally + stage.weight +
        ((pionExec choice op relay).1.received .worker inputControlChannelName).length := by
  have viewer {name : String} : ¬(Role.worker = .viewer ∧ inputControlChannelName = name) :=
    fun same => by cases same.1
  cases stage with
  | free =>
      cases op with
      | dispatch side label payload isString =>
          have targets : (relay.receive side label
              (relay.arriving side label payload isString)).directTarget choice side label =
                relay.directTarget choice side label := rfl
          rw [reply_dispatch]
          simp only [pionExec, PionRelaySession.dispatch, targets]
          cases side with
          | viewer =>
              cases relay.directTarget choice .viewer label with
              | some target =>
                  simp only [PionRelaySession.receive, assign_of_ne viewer]
                  rfl
              | none =>
                  simp only [tally_enqueue_viewer, received_enqueue, PionRelaySession.receive,
                    assign_of_ne viewer]
                  rfl
          | worker =>
              cases only.dispatched label payload isString rfl
              cases relay.directTarget choice .worker inputControlChannelName with
              | some target =>
                  simp only [PionRelaySession.receive, assign_self, List.length_append,
                    List.length_singleton, Option.map_some, DataStage.next, DataStage.weight]
                  change relay.tally + 1 + _ = relay.tally + 0 + _
                  omega
              | none =>
                  simp only [tally_enqueue_control, received_enqueue, PionRelaySession.receive,
                    assign_self, List.length_append, List.length_singleton, Option.map_none,
                    DataStage.next, DataStage.weight]
                  change relay.tally + 1 + 0 + _ = relay.tally + 0 + _
                  omega
      | takePending side label =>
          rw [reply_takePending]
          simp only [pionExec, PionRelaySession.takePending]
          cases relay.openChannel choice side label with
          | none => rfl
          | some target =>
              cases waiting : relay.pending side label with
              | nil => rfl
              | cons message rest =>
                  cases side with
                  | viewer =>
                      simp only [PionRelaySession.tally, assign_of_ne viewer]
                      rfl
                  | worker =>
                      have control : label = inputControlChannelName := by
                        by_contra other
                        rw [only.pending label other] at waiting
                        cases waiting
                      subst control
                      simp only [PionRelaySession.tally, assign_self, waiting, List.length_cons,
                        Option.bind_some, List.head?_cons, Option.map_some, DataStage.next,
                        DataStage.weight]
                      omega
      | terminate reason =>
          cases closed : relay.terminated with
          | true => simp only [pionExec, PionRelaySession.terminate, closed, if_true]; rfl
          | false =>
              simp only [pionExec, PionRelaySession.terminate, closed] at running
              cases running
      | sendDirect => cases allowed
      | sendPending => cases allowed
      | putBack => cases allowed
      | countDelivered => cases allowed
      | _ => rfl
  | direct side label message =>
      obtain ⟨target, rfl⟩ := allowed
      cases side with
      | viewer =>
          simp only [pionExec, PionRelaySession.send]
          cases choice.ready && choice.takes <;> rfl
      | worker =>
          have control : label = inputControlChannelName :=
            label_of_carried only (if_pos ⟨rfl, rfl⟩)
          cases sent : choice.ready && choice.takes with
          | true =>
              simp only [pionExec, PionRelaySession.send, sent]
              rfl
          | false =>
              exfalso
              apply kept message
              simp only [PionOp.event, control, and_self, if_true, sent, Bool.false_eq_true,
                if_false]
  | taken side label closed message =>
      obtain ⟨target, rfl⟩ := allowed
      simp only [pionExec, PionRelaySession.send]
      cases side <;> cases choice.ready && choice.takes <;> rfl
  | failed side label closed message =>
      cases allowed
      simp only [pionExec, PionRelaySession.putBack] at running ⊢
      cases side with
      | viewer =>
          split
          · simp only [PionRelaySession.tally, assign_of_ne viewer]
            rfl
          · rfl
      | worker =>
          have control : label = inputControlChannelName :=
            label_of_carried only (if_pos ⟨rfl, rfl⟩)
          have onTime : closed = false := by
            cases closed with
            | true => cases early
            | false => rfl
          have current : relay.terminated = closed := by
            rw [onTime]
            split at running <;> exact running
          rw [if_pos current, control]
          simp only [PionRelaySession.tally, assign_self, List.length_cons, DataStage.next,
            DataStage.weight]
          omega
  | counting side =>
      cases allowed
      cases side with
      | viewer => rfl
      | worker =>
          simp only [pionExec, PionRelaySession.tally, Function.update_self, DataStage.next,
            DataStage.weight]
          omega

end Tally

/-! ## Runs -/

/-- All that the viewer sends for the worker is sent on the control channel. -/
def ControlOnly : Action pionRelay → Prop
  | .start (.forward .worker label _ _) => label = inputControlChannelName
  | _ => True

/-- No control message overtakes another one, and none is lost. -/
def KeepsControl (config : Async.Config pionRelay) : Action pionRelay → Prop
  | .start _ => True
  | .resume index choice => ∀ op, config.awaits index = some op →
      (config.state.lane .worker inputControlChannelName).InTurn
        (inFlight .worker inputControlChannelName config)
        (op.event .worker inputControlChannelName choice config.state)

/-- The messages sent to the worker are among those received, in the same order. -/
def ControlInOrder (relay : PionRelaySession) : Prop :=
  (relay.delivered .worker inputControlChannelName).Sublist
    (relay.received .worker inputControlChannelName)

/-- When no goroutine is under way, every message was delivered, is pending or was dropped. -/
def ControlAccounted (config : Async.Config pionRelay) : Prop :=
  config.state.terminated = false → config.Quiescent →
    (config.state.received .worker inputControlChannelName).length =
      config.state.dataMessages .worker +
        (config.state.pending .worker inputControlChannelName).length +
          config.state.controlDroppedMessages

/-- Messages for the worker are dispatched on the control channel only. -/
def PionOp.ForControl : PionOp → Prop
  | .dispatch .worker label _ _ => label = inputControlChannelName
  | _ => True

theorem forControl_of_quiet {α : Type} {program : PionHandler α}
    (issues : program.Issues PionOp.isQuiet) : program.Issues PionOp.ForControl :=
  issues.mono fun op quiet => by cases op <;> trivial

theorem flushPending_forControl (side : Role) (label : String) (budget : Nat) :
    (flushPending side label budget).Issues PionOp.ForControl := by
  induction budget with
  | zero => trivial
  | succ budget ih =>
      refine ⟨trivial, fun reply => ?_⟩
      cases reply with
      | none => trivial
      | some taken =>
          refine ⟨trivial, fun sent => ?_⟩
          cases sent with
          | false => exact ⟨trivial, fun _ => trivial⟩
          | true => exact ⟨trivial, fun _ => ih⟩

theorem body_forControl (job : PionJob) (only : ControlOnly (.start job)) :
    (pionRelay.body job).Issues PionOp.ForControl := by
  cases job with
  | offer role => exact forControl_of_quiet (handleOffer_isQuiet role)
  | register role label channel budget =>
      refine ⟨trivial, fun _ => ⟨trivial, fun ready => ?_⟩⟩
      cases ready with
      | false => trivial
      | true => exact flushPending_forControl role label budget
  | flush side label budget => exact flushPending_forControl side label budget
  | forward side label payload isString =>
      refine ⟨?_, fun reply => ?_⟩
      · cases side with
        | viewer => trivial
        | worker => exact only
      · cases reply with
        | none => trivial
        | some direct =>
            refine ⟨trivial, fun sent => ?_⟩
            cases sent with
            | false => trivial
            | true => exact ⟨trivial, fun _ => trivial⟩
  | close reason => exact forControl_of_quiet (closeRelay_isQuiet reason)

/-- Messages come in when they are dispatched. -/
theorem received_after {pointer : Bool} {side : Role} {label : String} (choice : PionChoice)
    (relay : PionRelaySession) {op : PionOp} (lane : Lane)
    (other : ∀ payload isString, op ≠ .dispatch side label payload isString) :
    (lane.after pointer (op.event side label choice relay)).received = lane.received := by
  cases op with
  | dispatch role name payload isString =>
      unfold PionOp.event
      dsimp only
      rw [if_neg]
      · rfl
      · rintro ⟨rfl, rfl⟩
        exact other payload isString rfl
  | sendDirect role name target message =>
      unfold PionOp.event
      dsimp only
      split
      · split <;> rfl
      · rfl
  | takePending role name =>
      unfold PionOp.event
      dsimp only
      split
      · split <;> rfl
      · rfl
  | sendPending role name target message =>
      unfold PionOp.event
      dsimp only
      split
      · split <;> rfl
      · rfl
  | putBack role name closed message =>
      unfold PionOp.event
      dsimp only
      split
      · split <;> rfl
      · rfl
  | terminate reason =>
      unfold PionOp.event
      dsimp only
      split <;> rfl
  | _ => rfl

/-- What holds as long as control messages are kept. -/
structure ControlKept (config : Async.Config pionRelay) : Prop where
  ordered : (config.state.lane .worker inputControlChannelName).Ordered
    (inFlight .worker inputControlChannelName config)
  others : ∀ label, label ≠ inputControlChannelName → config.state.received .worker label = []
  account : config.state.terminated = false →
    stageTotal DataStage.late config = 0 ∧
      config.state.tally + stageTotal DataStage.weight config =
        (config.state.received .worker inputControlChannelName).length

theorem ControlKept.step {before after : Async.Config pionRelay} {action : Action pionRelay}
    (kept : ControlKept before) (obeying : Obeying before)
    (tracked : ∀ side label, (before.state.lane side label).Tracked (inFlight side label before))
    (forControl : ∀ thread ∈ before.threads, thread.program.Issues PionOp.ForControl)
    (keeps : KeepsControl before action) (stepped : before.step action = some after) :
    ControlKept after := by
  obtain ⟨job, rfl, same, total⟩ | ⟨index, choice, op, stage, rfl, resumed⟩ :=
    pion_step obeying stepped
  · have flying : inFlight .worker inputControlChannelName after =
        inFlight .worker inputControlChannelName before := (total _ _).trans (add_zero _)
    have late : stageTotal DataStage.late after = stageTotal DataStage.late before :=
      (total _ _).trans (add_zero _)
    have weight : stageTotal DataStage.weight after = stageTotal DataStage.weight before :=
      (total _ _).trans (add_zero _)
    constructor
    case ordered =>
      rw [same, flying]
      exact kept.ordered
    case others =>
      rw [same]
      exact kept.others
    case account =>
      rw [same, late, weight]
      exact kept.account
  · have inTurn := keeps op resumed.awaits
    obtain ⟨thread, next, found, suspended⟩ := Config.exists_of_awaits resumed.awaits
    have issues := forControl thread (List.mem_of_getElem? found)
    rw [suspended] at issues
    have dispatched : ∀ label payload isString,
        op = .dispatch .worker label payload isString → label = inputControlChannelName := by
      rintro label payload isString rfl
      exact issues.1
    have only : OnlyControl before.state stage op := by
      constructor
      case dispatched => exact dispatched
      case pending =>
        intro label other
        apply List.eq_nil_iff_forall_not_mem.mpr
        intro message waits
        have arrived := (tracked .worker label).received_of_pending waits
        have none : message ∈ before.state.received .worker label := arrived
        rw [kept.others label other] at none
        cases none
      case carried =>
        intro label other
        cases carries : stage.carries .worker label with
        | none => rfl
        | some message =>
            have share := resumed.share _ fun stage => carried (stage.carries .worker label)
            rw [carries] at share
            have arrived := (tracked .worker label).received_of_flying
              (Multiset.singleton_le.mp share)
            have none : message ∈ before.state.received .worker label := arrived
            rw [kept.others label other] at none
            cases none
    constructor
    case ordered =>
      rw [resumed.state, lane_exec]
      exact kept.ordered.step (tracked _ _) (moves_exec choice before.state resumed.allows) inTurn
        (resumed.total _ _)
    case others =>
      intro label other
      have changed := @lane_exec .worker label choice before.state op
      rw [← resumed.state] at changed
      have lane := congrArg Lane.received changed
      rw [received_after choice before.state _ fun payload isString same =>
        other (dispatched label payload isString same)] at lane
      exact lane.trans (kept.others label other)
    case account =>
      intro running
      have open' : before.state.terminated = false := by
        cases closed : before.state.terminated with
        | false => rfl
        | true =>
            rw [resumed.state, terminated_exec choice before.state op closed] at running
            cases running
      obtain ⟨early, tallied⟩ := kept.account open'
      have share := resumed.share Nat DataStage.late
      have stageEarly : stage.late = 0 := Nat.le_zero.mp (early ▸ share)
      have nextEarly := late_exec choice before.state
        (fun closed => by rw [open'] at closed; cases closed) stageEarly resumed.allows
      have late := resumed.total Nat DataStage.late
      rw [early, nextEarly, stageEarly] at late
      have moved := tally_exec choice only resumed.allows
        (fun message lost => by rw [lost] at inTurn; exact inTurn) stageEarly
        (by rw [← resumed.state]; exact running)
      have total := resumed.total Nat DataStage.weight
      rw [← resumed.state] at moved
      constructor
      · exact late
      · omega

/-- In every run in which no control message overtakes another one and none is lost, control
messages are delivered in order and accounted for. -/
theorem control_input_kept {final : Async.Config pionRelay}
    (run : Run (fun config action => ControlOnly action ∧ KeepsControl config action) newRelay
      final) : ControlInOrder final.state ∧ ControlAccounted final := by
  have start : ControlKept newRelay :=
    ⟨⟨.nil, fun _ arrived => (List.not_mem_nil arrived).elim,
      fun _ arrived => (List.not_mem_nil arrived).elim⟩, fun _ _ => rfl, fun _ => ⟨rfl, rfl⟩⟩
  have facts : ∀ config, Run (fun config action => ControlOnly action ∧ KeepsControl config action)
      newRelay config → Obeying config ∧
        (∀ side label, (config.state.lane side label).Tracked (inFlight side label config)) ∧
          ∀ thread ∈ config.threads, thread.program.Issues PionOp.ForControl := by
    intro config reached
    refine ⟨obeying_of_run reached, tracked_of_run reached, ?_⟩
    apply @Run.issues _ _ _ _ (fun _ => PionOp.ForControl) _ reached
    · intro thread member
      cases member
    · exact fun _ job allowed => body_forControl job allowed.1
  have kept : ControlKept final := by
    apply (run.assuming facts).invariant start
    intro before after action holds permitted stepped
    obtain ⟨allowed, obeying, tracked, forControl⟩ := permitted
    exact holds.step obeying tracked forControl allowed.2 stepped
  obtain ⟨obeying, tracked, -⟩ := facts final run
  constructor
  · exact kept.ordered.sublist (tracked _ _)
  · intro running quiescent
    have free : stageTotal DataStage.weight final = 0 := by
      apply List.sum_eq_zero
      intro amount listed
      obtain ⟨thread, member, rfl⟩ := List.mem_map.mp listed
      have done : stageOf thread = .free :=
        (obeying thread member).post_of_finished (watched_eq thread) (quiescent thread member)
      rw [done]
      rfl
    have account := (kept.account running).2
    rw [free, Nat.add_zero] at account
    exact account.symm

/-! ## Examples of runs -/

instance (lane : Lane) (flying : Multiset QueuedDataMessage) (event : LaneEvent) :
    Decidable (lane.InTurn flying event) :=
  match event with
  | .send _ => inferInstanceAs (Decidable (_ ∧ _))
  | .lose _ => isFalse id
  | .idle | .depart _ | .queue _ | .take | .putBack _ | .abandon _ | .clear => isTrue trivial

def checksControlOnly : Action pionRelay → Bool
  | .start (.forward .worker label _ _) => label = inputControlChannelName
  | _ => true

theorem controlOnly_of_check {action : Action pionRelay}
    (passes : checksControlOnly action = true) : ControlOnly action := by
  cases action with
  | resume index choice => trivial
  | start job =>
      cases job with
      | forward side label payload isString =>
          cases side with
          | viewer => trivial
          | worker =>
              have same : label = inputControlChannelName := of_decide_eq_true passes
              exact same
      | _ => trivial

def checksControl (config : Async.Config pionRelay) : Action pionRelay → Bool
  | .start _ => true
  | .resume index choice =>
      match config.awaits index with
      | none => true
      | some op => decide ((config.state.lane .worker inputControlChannelName).InTurn
          (inFlight .worker inputControlChannelName config)
          (PionOp.event .worker inputControlChannelName choice config.state op))

theorem keepsControl_of_check {config : Async.Config pionRelay} {action : Action pionRelay}
    (passes : checksControl config action = true) : KeepsControl config action := by
  cases action with
  | start job => trivial
  | resume index choice =>
      intro op awaited
      simp only [checksControl, awaited, decide_eq_true_eq] at passes
      exact passes

/-- A control message comes in before the worker's channel is open. -/
def earlyMessage : List (Action pionRelay) :=
  [.start (.register .worker inputControlChannelName 0 1), .resume 0 {}, .resume 0 ⟨false, 0, true⟩,
    .start (.forward .worker inputControlChannelName [1] true), .resume 1 ⟨false, 0, true⟩]

/-- The channel opens, and the message is sent. -/
def flushed (index : Nat) : List (Action pionRelay) :=
  .start (.flush .worker inputControlChannelName 2) :: Action.resumes index 4 {}

/-- A message comes in and is sent at once. -/
def sentAtOnce (index : Nat) (choice : PionChoice) : List (Action pionRelay) :=
  [.start (.forward .worker inputControlChannelName [2] true), .resume index {},
    .resume index choice]

theorem early_message_is_kept :
    ∃ final, Run (fun config action => ControlOnly action ∧ KeepsControl config action) newRelay
      final ∧ (final.state.delivered .worker inputControlChannelName).length = 2 ∧
        final.Quiescent ∧ ControlInOrder final.state ∧ ControlAccounted final := by
  obtain ⟨final, run, passed⟩ := @Run.exists_of_schedule pionRelay
    (fun config action => ControlOnly action ∧ KeepsControl config action)
    (fun config action => checksControlOnly action && checksControl config action)
    (fun config action passes => ⟨controlOnly_of_check (Bool.and_eq_true_iff.mp passes).1,
      keepsControl_of_check (Bool.and_eq_true_iff.mp passes).2⟩) newRelay
    (earlyMessage ++ flushed 2 ++ sentAtOnce 3 {} ++ [.resume 3 {}])
    (fun final => (final.state.delivered .worker inputControlChannelName).length = 2 &&
      decide final.Quiescent) (by rfl)
  have facts := Bool.and_eq_true_iff.mp passed
  exact ⟨final, run, of_decide_eq_true facts.1, of_decide_eq_true facts.2,
    control_input_kept run⟩

/-- A message that comes in when the channel has opened overtakes the early one; and a message that
cannot be sent at once is lost. -/
theorem control_input_is_reordered_and_lost :
    (∃ final, Run (fun _ action => ControlOnly action) newRelay final ∧
      ¬ControlInOrder final.state) ∧
    ∃ final, Run (fun _ action => ControlOnly action) newRelay final ∧
      ¬ControlAccounted final := by
  constructor
  · obtain ⟨final, run, passed⟩ := @Run.exists_of_schedule _ _
      (fun _ action => checksControlOnly action) (fun _ _ passes => controlOnly_of_check passes)
      newRelay (earlyMessage ++ sentAtOnce 2 {} ++ [.resume 2 {}] ++ flushed 3)
      (fun final => !decide ((final.state.delivered .worker inputControlChannelName).Sublist
        (final.state.received .worker inputControlChannelName))) (by rfl)
    simp only [Bool.not_eq_true', decide_eq_false_iff_not] at passed
    exact ⟨final, run, passed⟩
  · obtain ⟨final, run, passed⟩ := @Run.exists_of_schedule _ _
      (fun _ action => checksControlOnly action) (fun _ _ passes => controlOnly_of_check passes)
      newRelay (earlyMessage ++ flushed 2 ++ sentAtOnce 3 ⟨true, 0, false⟩)
      (fun final => !final.state.terminated && decide final.Quiescent &&
        decide ((final.state.received .worker inputControlChannelName).length ≠
          final.state.dataMessages .worker +
            (final.state.pending .worker inputControlChannelName).length +
              final.state.controlDroppedMessages)) (by rfl)
    simp only [Bool.and_eq_true, Bool.not_eq_true', decide_eq_true_eq] at passed
    exact ⟨final, run, fun accounted => passed.2 (accounted passed.1.1 passed.1.2)⟩

end RemoteBrowser.MediaGateway
