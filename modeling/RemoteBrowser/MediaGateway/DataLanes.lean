import RemoteBrowser.MediaGateway.PionRelay
import Mathlib.Algebra.Order.BigOperators.Group.List
import Mathlib.Data.Multiset.OrderedMonoid

/-!
# The messages of one data channel

Of every section of the relay, what it means for one data channel is one of a few events.  A
message that has arrived is pending, on its way with some goroutine, handed to the channel, or
gone; it is never in two places.
-/

namespace RemoteBrowser.MediaGateway

open Async

/-! ## Lanes -/

/-- The messages of one data channel. -/
structure Lane where
  pending : List QueuedDataMessage
  received : List QueuedDataMessage
  delivered : List QueuedDataMessage

inductive LaneEvent where
  | idle
  /-- a message arrives and is to be sent at once -/
  | depart (message : QueuedDataMessage)
  /-- a message arrives and has to wait -/
  | queue (message : QueuedDataMessage)
  | take
  | send (message : QueuedDataMessage)
  /-- a message that was to be sent at once could not be sent -/
  | lose (message : QueuedDataMessage)
  | putBack (message : QueuedDataMessage)
  /-- a message is put back into maps that nobody reads any more -/
  | abandon (message : QueuedDataMessage)
  | clear

namespace Lane

/-- What waits after another message has to. -/
def queued (pointer : Bool) (pending : List QueuedDataMessage) (message : QueuedDataMessage) :
    List QueuedDataMessage :=
  if pointer then [message] else (PionRelaySession.trimQueue (pending ++ [message])).1

def after (pointer : Bool) (lane : Lane) : LaneEvent → Lane
  | .idle => lane
  | .depart message => { lane with received := lane.received ++ [message] }
  | .queue message =>
      { lane with
        received := lane.received ++ [message]
        pending := queued pointer lane.pending message }
  | .take => { lane with pending := lane.pending.tail }
  | .send message => { lane with delivered := lane.delivered ++ [message] }
  | .lose _ => lane
  | .putBack message => { lane with pending := message :: lane.pending }
  | .abandon _ => lane
  | .clear => { lane with pending := [] }

/-- What the goroutine of an event carries before and after it. -/
def Moves (lane : Lane) (held : Option QueuedDataMessage) :
    LaneEvent → Option QueuedDataMessage → Prop
  | .idle, after => after = held
  | .depart message, after =>
      message.arrival = lane.received.length ∧ held = none ∧ after = some message
  | .queue message, after => message.arrival = lane.received.length ∧ after = held
  | .take, after => held = none ∧ ∃ message rest, lane.pending = message :: rest ∧
      after = some message
  | .send message, after => held = some message ∧ after = none
  | .lose message, after => held = some message ∧ after = none
  | .putBack message, after => held = some message ∧ after = none
  | .abandon message, after => held = some message ∧ after = none
  | .clear, after => after = held

end Lane

/-! ## The course of a message -/

/-- What a goroutine is about to do with a message. -/
inductive DataStage where
  | free
  | direct (side : Role) (label : String) (message : QueuedDataMessage)
  | taken (side : Role) (label : String) (closed : Bool) (message : QueuedDataMessage)
  | failed (side : Role) (label : String) (closed : Bool) (message : QueuedDataMessage)
  | counting (side : Role)

namespace DataStage

def allows : DataStage → PionOp → Prop
  | .free, op => match op with
      | .sendDirect _ _ _ _ | .sendPending _ _ _ _ | .putBack _ _ _ _ | .countDelivered _ => False
      | _ => True
  | .direct side label message, op => ∃ target, op = .sendDirect side label target message
  | .taken side label _ message, op => ∃ target, op = .sendPending side label target message
  | .failed side label closed message, op => op = .putBack side label closed message
  | .counting side, op => op = .countDelivered side

def next : DataStage → (op : PionOp) → op.Reply → DataStage
  | .free, .dispatch side label _ _, some (_, message) => .direct side label message
  | .free, .takePending side label, some item => .taken side label item.closed item.message
  | .direct side _ _, .sendDirect _ _ _ _, true => .counting side
  | .taken side _ _ _, .sendPending _ _ _ _, true => .counting side
  | .taken side label closed message, .sendPending _ _ _ _, false =>
      .failed side label closed message
  | _, _, _ => .free

/-- The message on its way to or from a channel. -/
def carries (side : Role) (label : String) : DataStage → Option QueuedDataMessage
  | .direct role name message => if role = side ∧ name = label then some message else none
  | .taken role name _ message => if role = side ∧ name = label then some message else none
  | .failed role name _ message => if role = side ∧ name = label then some message else none
  | _ => none

/-- A goroutine whose message was taken from the maps of a closed relay. -/
def late : DataStage → Nat
  | .taken _ _ true _ => 1
  | .failed _ _ true _ => 1
  | _ => 0

end DataStage

def dataTracking : Monitor pionFace DataStage where
  allows := DataStage.allows
  next := fun stage op reply => some (stage.next op reply)

abbrev DataStage.Ends (_ : Unit) (stage : DataStage) : Prop := stage = .free

theorem flushPending_follows (side : Role) (label : String) (budget : Nat) :
    (flushPending side label budget).Follows dataTracking DataStage.Ends .free := by
  induction budget with
  | zero => trivial
  | succ budget ih =>
      refine ⟨trivial, fun reply after moved => ?_⟩
      cases moved
      cases reply with
      | none => exact rfl
      | some taken =>
          refine ⟨⟨taken.target, rfl⟩, fun sent after moved => ?_⟩
          cases moved
          cases sent with
          | false =>
              refine ⟨rfl, fun reply after moved => ?_⟩
              cases moved
              exact rfl
          | true =>
              refine ⟨rfl, fun reply after moved => ?_⟩
              cases moved
              exact ih

theorem forwardData_follows (side : Role) (label : String) (payload : List UInt8)
    (isString : Bool) :
    (forwardData side label payload isString).Follows dataTracking DataStage.Ends .free := by
  refine ⟨trivial, fun reply after moved => ?_⟩
  cases moved
  cases reply with
  | none => exact rfl
  | some direct =>
      obtain ⟨target, message⟩ := direct
      refine ⟨⟨target, rfl⟩, fun sent after moved => ?_⟩
      cases moved
      cases sent with
      | false => exact rfl
      | true =>
          refine ⟨rfl, fun reply after moved => ?_⟩
          cases moved
          exact rfl

/-- What has nothing to do with messages. -/
def PionOp.isQuiet : PionOp → Prop
  | .storePeer _ | .closePeer _ | .storeChannel _ _ _ | .channelReady _ | .terminate _
  | .closeChannel _ | .cleanupRelaySession _ => True
  | _ => False

theorem follows_of_quiet {α : Type} {program : PionHandler α}
    (issues : program.Issues PionOp.isQuiet) :
    program.Follows dataTracking (fun _ stage => stage = .free) .free := by
  apply issues.follows_unchanged
  intro op quiet
  cases op <;> cases quiet <;> exact ⟨trivial, fun reply after moved => by cases moved; rfl⟩

theorem handleOffer_isQuiet (role : Role) : (handleOffer role).Issues PionOp.isQuiet := by
  refine ⟨trivial, fun old => ?_⟩
  cases old with
  | none => trivial
  | some peer => exact ⟨trivial, fun _ => trivial⟩

theorem closeRemains_isQuiet (reason : String) (remains : Remains) :
    (closeRemains reason remains).Issues PionOp.isQuiet := by
  unfold closeRemains
  apply Program.Issues.bind
  · exact Program.Issues.forEach fun channel _ => Program.issues_call.mpr trivial
  · intro _
    apply Program.Issues.bind
    · exact Program.Issues.forEach fun peer _ => Program.issues_call.mpr trivial
    · exact fun _ => Program.issues_call.mpr trivial

theorem closeRelay_isQuiet (reason : String) : (closeRelay reason).Issues PionOp.isQuiet := by
  refine ⟨trivial, fun remains => ?_⟩
  cases remains with
  | none => trivial
  | some remains => exact closeRemains_isQuiet _ remains

theorem registerDataChannel_follows (role : Role) (label : String) (channel budget : Nat) :
    (registerDataChannel role label channel budget).Follows dataTracking DataStage.Ends
      .free := by
  refine ⟨trivial, fun reply after moved => ?_⟩
  cases moved
  refine ⟨trivial, fun ready after moved => ?_⟩
  cases moved
  cases ready with
  | false => exact rfl
  | true => exact flushPending_follows role label budget

theorem body_follows (job : PionJob) :
    (pionRelay.body job).Follows dataTracking DataStage.Ends .free := by
  cases job with
  | offer role => exact follows_of_quiet (handleOffer_isQuiet role)
  | register role label channel budget =>
      exact registerDataChannel_follows role label channel budget
  | flush side label budget => exact flushPending_follows side label budget
  | forward side label payload isString => exact forwardData_follows side label payload isString
  | close reason => exact follows_of_quiet (closeRelay_isQuiet reason)

/-! ## Events of operations -/

def PionRelaySession.lane (relay : PionRelaySession) (side : Role) (label : String) : Lane where
  pending := relay.pending side label
  received := relay.received side label
  delivered := relay.delivered side label

/-- What an operation means for one data channel. -/
def PionOp.event (side : Role) (label : String) (choice : PionChoice)
    (relay : PionRelaySession) : PionOp → LaneEvent
  | .dispatch role name payload isString =>
      if role = side ∧ name = label then
        let message := relay.arriving role name payload isString
        if (relay.directTarget choice role name).isSome then .depart message else .queue message
      else .idle
  | .sendDirect role name _ message =>
      if role = side ∧ name = label then
        if choice.ready && choice.takes then .send message else .lose message
      else .idle
  | .takePending role name =>
      if role = side ∧ name = label then
        if (relay.openChannel choice role name).isSome ∧ relay.pending role name ≠ [] then .take
        else .idle
      else .idle
  | .sendPending role name _ message =>
      if role = side ∧ name = label then
        if choice.ready && choice.takes then .send message else .idle
      else .idle
  | .putBack role name closed message =>
      if role = side ∧ name = label then
        if relay.terminated = closed then .putBack message else .abandon message
      else .idle
  | .terminate _ => if relay.terminated then .idle else .clear
  | _ => .idle

section Exec

variable {side role : Role} {label name : String} (choice : PionChoice)
  (relay : PionRelaySession)

theorem assign_other {β : Type} {table : Role → String → β} {value : β}
    (different : ¬(role = side ∧ name = label)) :
    assign table role name value side label = table side label :=
  assign_of_ne fun ⟨first, second⟩ => different ⟨first.symm, second.symm⟩

theorem lane_congr {relay other : PionRelaySession}
    (pending : other.pending side label = relay.pending side label)
    (received : other.received side label = relay.received side label)
    (delivered : other.delivered side label = relay.delivered side label) :
    other.lane side label = relay.lane side label := by
  rw [PionRelaySession.lane, PionRelaySession.lane, pending, received, delivered]

theorem enqueue_other (different : ¬(role = side ∧ name = label)) (message : QueuedDataMessage) :
    (relay.enqueueDataMessage role name message).lane side label = relay.lane side label := by
  unfold PionRelaySession.enqueueDataMessage
  dsimp only
  split <;> exact lane_congr (assign_other different) rfl rfl

theorem lane_enqueue (message : QueuedDataMessage) :
    (relay.enqueueDataMessage side label message).lane side label =
      { relay.lane side label with
        pending := Lane.queued (isPointerChannel label) (relay.pending side label) message } := by
  unfold PionRelaySession.enqueueDataMessage Lane.queued
  dsimp only
  split <;> simp only [PionRelaySession.lane, assign_self]

theorem lane_dispatch (payload : List UInt8) (isString : Bool) :
    (pionExec choice (.dispatch role name payload isString) relay).1.lane side label =
      (relay.lane side label).after (isPointerChannel label)
        ((PionOp.dispatch role name payload isString).event side label choice relay) := by
  have targets : (relay.receive role name (relay.arriving role name payload isString)).directTarget
      choice role name = relay.directTarget choice role name := rfl
  unfold pionExec PionRelaySession.dispatch PionOp.event
  dsimp only
  rw [targets]
  by_cases same : role = side ∧ name = label
  case pos =>
    obtain ⟨rfl, rfl⟩ := same
    rw [if_pos (⟨rfl, rfl⟩ : role = role ∧ name = name)]
    cases relay.directTarget choice role name with
    | some target =>
        simp only [Option.isSome_some, if_true, Lane.after, PionRelaySession.lane,
          PionRelaySession.receive, assign_self]
    | none =>
        rw [lane_enqueue]
        simp only [Option.isSome_none, Bool.false_eq_true, if_false, Lane.after,
          PionRelaySession.lane, PionRelaySession.receive, assign_self]
  case neg =>
    have kept : (relay.receive role name (relay.arriving role name payload isString)).lane side
        label = relay.lane side label :=
      lane_congr rfl (assign_other same) rfl
    rw [if_neg same]
    cases relay.directTarget choice role name with
    | some target => exact kept
    | none => exact (enqueue_other _ same _).trans kept

theorem lane_send (message : QueuedDataMessage) :
    (relay.send choice role name message).1.lane side label =
      (relay.lane side label).after (isPointerChannel label)
        (if role = side ∧ name = label then
          if choice.ready && choice.takes then .send message else .idle
        else .idle) := by
  unfold PionRelaySession.send
  by_cases same : role = side ∧ name = label
  case pos =>
    obtain ⟨rfl, rfl⟩ := same
    rw [if_pos (⟨rfl, rfl⟩ : role = role ∧ name = name)]
    split
    · simp only [Lane.after, PionRelaySession.lane, assign_self]
    · rfl
  case neg =>
    rw [if_neg same]
    split
    · exact lane_congr rfl rfl (assign_other same)
    · rfl

theorem lane_takePending :
    (relay.takePending choice role name).1.lane side label =
      (relay.lane side label).after (isPointerChannel label)
        ((PionOp.takePending role name).event side label choice relay) := by
  unfold PionRelaySession.takePending PionOp.event
  dsimp only
  by_cases same : role = side ∧ name = label
  case pos =>
    obtain ⟨rfl, rfl⟩ := same
    rw [if_pos (⟨rfl, rfl⟩ : role = role ∧ name = name)]
    cases relay.openChannel choice role name with
    | none => simp [Lane.after]
    | some target =>
        cases waiting : relay.pending role name with
        | nil => simp [Lane.after]
        | cons message rest =>
            simp [Lane.after, PionRelaySession.lane, waiting]
  case neg =>
    rw [if_neg same]
    split
    · exact lane_congr (assign_other same) rfl rfl
    · rfl

theorem lane_putBack (closed : Bool) (message : QueuedDataMessage) :
    (relay.putBack role name closed message).lane side label =
      (relay.lane side label).after (isPointerChannel label)
        ((PionOp.putBack role name closed message).event side label choice relay) := by
  unfold PionRelaySession.putBack PionOp.event
  dsimp only
  by_cases same : role = side ∧ name = label
  case pos =>
    obtain ⟨rfl, rfl⟩ := same
    rw [if_pos (⟨rfl, rfl⟩ : role = role ∧ name = name)]
    split
    · simp only [Lane.after, PionRelaySession.lane, assign_self]
    · rfl
  case neg =>
    rw [if_neg same]
    split
    · exact lane_congr (assign_other same) rfl rfl
    · rfl

/-- An operation changes a data channel as its event says. -/
theorem lane_exec (op : PionOp) :
    (pionExec choice op relay).1.lane side label =
      (relay.lane side label).after (isPointerChannel label) (op.event side label choice relay) := by
  cases op with
  | dispatch role name payload isString => exact lane_dispatch choice relay payload isString
  | sendDirect role name target message =>
      refine (lane_send choice relay message).trans ?_
      by_cases same : role = side ∧ name = label
      · cases sent : choice.ready && choice.takes <;>
          simp only [PionOp.event, same, sent, and_self, if_true, Bool.false_eq_true, if_false,
            Lane.after]
      · simp only [PionOp.event, same, if_false]
  | takePending role name => exact lane_takePending choice relay
  | sendPending role name target message => exact lane_send choice relay message
  | putBack role name closed message => exact lane_putBack choice relay closed message
  | terminate reason =>
      change (relay.terminate reason).1.lane side label = _
      unfold PionRelaySession.terminate PionOp.event
      split <;> rfl
  | _ => rfl

theorem reply_dispatch (payload : List UInt8) (isString : Bool) :
    (pionExec choice (.dispatch role name payload isString) relay).2 =
      (relay.directTarget choice role name).map fun target =>
        (target, relay.arriving role name payload isString) := by
  have targets : (relay.receive role name (relay.arriving role name payload isString)).directTarget
      choice role name = relay.directTarget choice role name := rfl
  unfold pionExec PionRelaySession.dispatch
  dsimp only
  rw [targets]
  cases relay.directTarget choice role name <;> rfl

theorem reply_takePending :
    (pionExec choice (.takePending role name) relay).2 =
      (relay.openChannel choice role name).bind fun target =>
        (relay.pending role name).head?.map fun message => ⟨target, message, relay.terminated⟩ := by
  unfold pionExec PionRelaySession.takePending
  dsimp only
  cases relay.openChannel choice role name with
  | none => rfl
  | some target => cases relay.pending role name <;> rfl

/-- A goroutine carries messages as the events say. -/
theorem moves_exec {stage : DataStage} {op : PionOp} (allowed : stage.allows op) :
    (relay.lane side label).Moves (stage.carries side label) (op.event side label choice relay)
      ((stage.next op (pionExec choice op relay).2).carries side label) := by
  cases stage with
  | free =>
      cases op with
      | dispatch role name payload isString =>
          rw [reply_dispatch]
          by_cases same : role = side ∧ name = label
          · obtain ⟨rfl, rfl⟩ := same
            cases target : relay.directTarget choice role name <;>
              simp [PionOp.event, target, Lane.Moves, DataStage.next, DataStage.carries,
                PionRelaySession.arriving, PionRelaySession.lane]
          · cases target : relay.directTarget choice role name <;>
              simp [PionOp.event, same, Lane.Moves, DataStage.next, DataStage.carries]
      | takePending role name =>
          rw [reply_takePending]
          by_cases same : role = side ∧ name = label
          · obtain ⟨rfl, rfl⟩ := same
            cases opened : relay.openChannel choice role name <;>
              cases waiting : relay.pending role name <;>
              simp [PionOp.event, opened, waiting, Lane.Moves, DataStage.next,
                DataStage.carries, PionRelaySession.lane]
          · cases opened : relay.openChannel choice role name <;>
              cases waiting : relay.pending role name <;>
              simp [PionOp.event, same, Lane.Moves, DataStage.next, DataStage.carries]
      | terminate reason =>
          cases closed : relay.terminated <;>
            simp [PionOp.event, closed, Lane.Moves, DataStage.next, DataStage.carries]
      | sendDirect => cases allowed
      | sendPending => cases allowed
      | putBack => cases allowed
      | countDelivered => cases allowed
      | _ => rfl
  | direct role name message =>
      obtain ⟨target, rfl⟩ := allowed
      by_cases same : role = side ∧ name = label <;>
        cases sent : choice.ready && choice.takes <;>
        simp [pionExec, PionRelaySession.send, PionOp.event, Lane.Moves, DataStage.next,
          DataStage.carries, same, sent]
  | taken role name closed message =>
      obtain ⟨target, rfl⟩ := allowed
      by_cases same : role = side ∧ name = label <;>
        cases sent : choice.ready && choice.takes <;>
        simp [pionExec, PionRelaySession.send, PionOp.event, Lane.Moves, DataStage.next,
          DataStage.carries, same, sent]
  | failed role name closed message =>
      cases allowed
      by_cases same : role = side ∧ name = label <;>
        by_cases current : relay.terminated = closed <;>
        simp [PionOp.event, Lane.Moves, DataStage.next, DataStage.carries, same, current]
  | counting role =>
      cases allowed
      rfl

/-- Only `close` terminates a relay. -/
theorem terminated_of_other {op : PionOp} (other : ∀ reason, op ≠ .terminate reason) :
    (pionExec choice op relay).1.terminated = relay.terminated := by
  cases op with
  | dispatch side label payload isString =>
      unfold pionExec PionRelaySession.dispatch
      dsimp only
      split
      · rfl
      · unfold PionRelaySession.enqueueDataMessage
        dsimp only
        split <;> rfl
  | sendDirect side label target message =>
      unfold pionExec PionRelaySession.send
      dsimp only
      split <;> rfl
  | takePending side label =>
      unfold pionExec PionRelaySession.takePending
      dsimp only
      split <;> rfl
  | sendPending side label target message =>
      unfold pionExec PionRelaySession.send
      dsimp only
      split <;> rfl
  | putBack side label late message =>
      unfold pionExec PionRelaySession.putBack
      dsimp only
      split <;> rfl
  | terminate reason => exact absurd rfl (other reason)
  | _ => rfl

theorem terminated_exec (op : PionOp) (closed : relay.terminated = true) :
    (pionExec choice op relay).1.terminated = true := by
  cases op with
  | terminate reason => simp only [pionExec, PionRelaySession.terminate, closed, if_true]
  | _ =>
      rw [terminated_of_other choice relay (by simp)]
      exact closed

/-- Nothing is taken late from the maps of a relay that is open, or has no channels. -/
theorem late_exec {stage : DataStage} {op : PionOp}
    (empty : relay.terminated = true → ∀ role, relay.channels role = [])
    (early : stage.late = 0) (allowed : stage.allows op) :
    (stage.next op (pionExec choice op relay).2).late = 0 := by
  cases stage with
  | free =>
      cases op with
      | dispatch side label payload isString =>
          rw [reply_dispatch]
          cases relay.directTarget choice side label <;> rfl
      | takePending side label =>
          rw [reply_takePending]
          cases running : relay.terminated with
          | true =>
              have none : relay.openChannel choice side label = none := by
                unfold PionRelaySession.openChannel
                rw [empty running side]
                split <;> rfl
              rw [none]
              rfl
          | false =>
              cases relay.openChannel choice side label with
              | none => rfl
              | some target => cases relay.pending side label <;> rfl
      | _ => rfl
  | direct side label message =>
      obtain ⟨target, rfl⟩ := allowed
      cases (pionExec choice (.sendDirect side label target message) relay).2 <;> rfl
  | taken side label closed message =>
      obtain ⟨target, rfl⟩ := allowed
      cases (pionExec choice (.sendPending side label target message) relay).2 with
      | true => rfl
      | false =>
          cases closed with
          | true => cases early
          | false => rfl
  | failed side label closed message =>
      cases allowed
      rfl
  | counting side =>
      cases allowed
      rfl

end Exec

/-! ## Every message is in one place -/

/-- A goroutine's stage after the sections it has completed. -/
def stageOf (thread : Thread pionRelay) : DataStage :=
  (thread.watched dataTracking fun _ => some .free).getD .free

theorem watched_eq (thread : Thread pionRelay) :
    thread.watched dataTracking (fun _ => some .free) = some (stageOf thread) := by
  have watched := @Monitor.isSome_after _ _ dataTracking (some .free) (fun _ _ _ => rfl) rfl
    thread.past
  obtain ⟨stage, known⟩ := Option.isSome_iff_exists.mp watched
  have same : thread.watched dataTracking (fun _ => some .free) = some stage := known
  rw [stageOf, same]
  rfl

theorem stageOf_advance (thread : Thread pionRelay) (op : PionOp) (reply : op.Reply)
    (program : PionHandler Unit) :
    stageOf (thread.advance op reply program) = (stageOf thread).next op reply := by
  rw [stageOf, Thread.watched_advance, watched_eq]
  rfl

/-- Every goroutine does what its stage demands. -/
def Obeying (config : Async.Config pionRelay) : Prop :=
  ∀ thread ∈ config.threads,
    thread.Obeys dataTracking (fun _ => some DataStage.free) fun stage => stage = .free

theorem obeying_of_run {allowed : Async.Config pionRelay → Action pionRelay → Prop}
    {final : Async.Config pionRelay} (run : Run allowed newRelay final) : Obeying final := by
  apply run.obeys
  · intro job stage opened
    cases opened
    exact body_follows job
  · intro thread member
    cases member

/-- A sum over the stages of all goroutines. -/
def stageTotal {G : Type} [AddCommMonoid G] (amount : DataStage → G)
    (config : Async.Config pionRelay) :
    G :=
  config.total fun thread => amount (stageOf thread)

/-- A goroutine completes a section. -/
structure Resumed (before after : Async.Config pionRelay) (index : Nat) (choice : PionChoice)
    (op : PionOp) (stage : DataStage) : Prop where
  awaits : before.awaits index = some op
  allows : stage.allows op
  state : after.state = (pionExec choice op before.state).1
  share : ∀ (G : Type) [AddCommMonoid G] [Preorder G] [CanonicallyOrderedAdd G]
    (amount : DataStage → G), amount stage ≤ stageTotal amount before
  total : ∀ (G : Type) [AddCommMonoid G] (amount : DataStage → G),
    stageTotal amount after + amount stage =
      stageTotal amount before + amount (stage.next op (pionExec choice op before.state).2)

/-- A goroutine starts or completes a section. -/
theorem pion_step {before after : Async.Config pionRelay} {action : Action pionRelay}
    (obeying : Obeying before) (stepped : before.step action = some after) :
    (∃ job, action = .start job ∧ after.state = before.state ∧
      ∀ (G : Type) [AddCommMonoid G] (amount : DataStage → G),
        stageTotal amount after = stageTotal amount before + amount .free) ∨
    ∃ index choice op stage, action = .resume index choice ∧
      Resumed before after index choice op stage := by
  obtain ⟨job, rfl, -, rfl⟩ | ⟨index, choice, thread, op, next, rfl, found, suspended, rfl⟩ :=
    Config.step_cases stepped
  · left
    refine ⟨job, rfl, rfl, fun G _ amount => ?_⟩
    exact Config.total_append (S := pionRelay) (fun thread => amount (stageOf thread))
      before.state before.threads (Thread.new pionRelay job)
  · right
    refine ⟨index, choice, op, stageOf thread, rfl, ?_⟩
    constructor
    case awaits => exact Config.awaits_eq_some found suspended
    case allows =>
      exact (obeying thread (List.mem_of_getElem? found)).allows (watched_eq thread) suspended
    case state => rfl
    case share =>
      intro G _ _ _ amount
      apply List.le_sum_of_mem
      exact List.mem_map.mpr ⟨thread, List.mem_of_getElem? found, rfl⟩
    case total =>
      intro G _ amount
      have exchanged := Config.total_set (fun thread => amount (stageOf thread)) found before.state
        (pionExec choice op before.state).1
        (thread.advance op (pionExec choice op before.state).2
          (next (pionExec choice op before.state).2))
      rw [stageOf_advance] at exchanged
      exact exchanged

def carried (held : Option QueuedDataMessage) : Multiset QueuedDataMessage := held.toList

@[simp] theorem carried_none : carried none = 0 := rfl

@[simp] theorem carried_some (message : QueuedDataMessage) : carried (some message) = {message} :=
  rfl

/-- The messages of a channel that goroutines carry. -/
def inFlight (side : Role) (label : String) (config : Async.Config pionRelay) :
    Multiset QueuedDataMessage :=
  stageTotal (fun stage => carried (stage.carries side label)) config

namespace Lane

/-- Messages are numbered as they arrive, and each is pending, carried or delivered at most
once. -/
structure Tracked (lane : Lane) (carried : Multiset QueuedDataMessage) : Prop where
  numbered : lane.received.map QueuedDataMessage.arrival = List.range lane.received.length
  within : (lane.pending : Multiset QueuedDataMessage) + carried + lane.delivered ≤ lane.received

theorem trimQueue_suffix (queue : List QueuedDataMessage) :
    (PionRelaySession.trimQueue queue).1 <:+ queue := by
  induction queue with
  | nil => exact List.suffix_rfl
  | cons first rest ih =>
      unfold PionRelaySession.trimQueue
      split
      · exact ih.trans (List.suffix_cons first rest)
      · exact List.suffix_rfl

theorem queued_le (pointer : Bool) (pending : List QueuedDataMessage)
    (message : QueuedDataMessage) :
    (queued pointer pending message : Multiset QueuedDataMessage) ≤ pending + {message} := by
  unfold queued
  split
  · exact Multiset.le_add_left _ _
  · exact Multiset.coe_le.mpr (trimQueue_suffix _).sublist.subperm

variable {lane : Lane} {pointer : Bool} {event : LaneEvent}
  {held after : Option QueuedDataMessage} {flying landed : Multiset QueuedDataMessage}

theorem numbered_concat {received : List QueuedDataMessage} {message : QueuedDataMessage}
    (numbered : received.map QueuedDataMessage.arrival = List.range received.length)
    (fresh : message.arrival = received.length) :
    (received ++ [message]).map QueuedDataMessage.arrival =
      List.range (received ++ [message]).length := by
  rw [List.map_append, numbered, List.length_append, List.length_singleton, List.range_succ,
    List.map_singleton, fresh]

/-- Every event keeps the messages tracked. -/
theorem Tracked.step (tracked : lane.Tracked flying) (moves : lane.Moves held event after)
    (exchanged : landed + carried held = flying + carried after) :
    (lane.after pointer event).Tracked landed := by
  obtain ⟨numbered, within⟩ := tracked
  cases event with
  | idle =>
      cases moves
      rw [add_right_cancel exchanged]
      exact ⟨numbered, within⟩
  | clear =>
      cases moves
      rw [add_right_cancel exchanged]
      refine ⟨numbered, le_trans ?_ within⟩
      exact add_le_add_left (add_le_add_left (Multiset.zero_le _) _) _
  | depart message =>
      obtain ⟨fresh, rfl, rfl⟩ := moves
      simp only [carried_none, carried_some, add_zero] at exchanged
      refine ⟨numbered_concat numbered fresh, ?_⟩
      rw [exchanged]
      change _ ≤ (↑(lane.received ++ [message]) : Multiset QueuedDataMessage)
      rw [← Multiset.coe_add]
      calc
        _ = (lane.pending : Multiset QueuedDataMessage) + flying + lane.delivered + {message} := by
          simp only [Lane.after]
          ac_rfl
        _ ≤ _ := add_le_add_left within _
  | queue message =>
      obtain ⟨fresh, rfl⟩ := moves
      rw [add_right_cancel exchanged]
      refine ⟨numbered_concat numbered fresh, ?_⟩
      change _ ≤ (↑(lane.received ++ [message]) : Multiset QueuedDataMessage)
      rw [← Multiset.coe_add]
      calc
        _ ≤ (lane.pending + {message} : Multiset QueuedDataMessage) + flying + lane.delivered :=
          add_le_add_left (add_le_add_left (queued_le pointer lane.pending message) _) _
        _ = (lane.pending : Multiset QueuedDataMessage) + flying + lane.delivered + {message} := by
          ac_rfl
        _ ≤ _ := add_le_add_left within _
  | take =>
      obtain ⟨rfl, message, rest, waiting, rfl⟩ := moves
      simp only [carried_none, carried_some, add_zero] at exchanged
      refine ⟨numbered, le_trans (le_of_eq ?_) within⟩
      rw [exchanged, waiting, ← Multiset.cons_coe, ← Multiset.singleton_add]
      simp only [Lane.after, waiting, List.tail_cons]
      ac_rfl
  | send message =>
      obtain ⟨rfl, rfl⟩ := moves
      simp only [carried_none, carried_some, add_zero] at exchanged
      refine ⟨numbered, le_trans (le_of_eq ?_) within⟩
      rw [← exchanged]
      simp only [Lane.after, ← Multiset.coe_add]
      change _ + _ + (_ + {message}) = _
      ac_rfl
  | lose message | abandon message =>
      obtain ⟨rfl, rfl⟩ := moves
      simp only [carried_none, carried_some, add_zero] at exchanged
      refine ⟨numbered, le_trans ?_ within⟩
      rw [← exchanged]
      exact add_le_add_left (add_le_add_right (Multiset.le_add_right _ _) _) _
  | putBack message =>
      obtain ⟨rfl, rfl⟩ := moves
      simp only [carried_none, carried_some, add_zero] at exchanged
      refine ⟨numbered, le_trans (le_of_eq ?_) within⟩
      rw [← exchanged]
      simp only [Lane.after, ← Multiset.cons_coe, ← Multiset.singleton_add]
      ac_rfl

section Places

variable {message other : QueuedDataMessage} (tracked : lane.Tracked flying)
include tracked

theorem Tracked.nodup_received : lane.received.Nodup := by
  apply List.Nodup.of_map QueuedDataMessage.arrival
  rw [tracked.numbered]
  exact List.nodup_range

theorem Tracked.arrival_lt (arrived : message ∈ lane.received) :
    message.arrival < lane.received.length := by
  have listed := List.mem_map_of_mem (f := QueuedDataMessage.arrival) arrived
  rw [tracked.numbered] at listed
  exact List.mem_range.mp listed

theorem Tracked.eq_of_arrival (arrived : message ∈ lane.received) (again : other ∈ lane.received)
    (same : message.arrival = other.arrival) : message = other := by
  refine List.inj_on_of_nodup_map ?_ arrived again same
  rw [tracked.numbered]
  exact List.nodup_range

theorem Tracked.nodup : (lane.pending ++ lane.delivered).Nodup ∧
    ∀ message ∈ flying, message ∉ lane.pending ∧ message ∉ lane.delivered := by
  have whole := Multiset.nodup_of_le tracked.within (Multiset.coe_nodup.mpr tracked.nodup_received)
  obtain ⟨inner, -, apart⟩ := Multiset.nodup_add.mp whole
  obtain ⟨pending, -, flies⟩ := Multiset.nodup_add.mp inner
  constructor
  · have ends : (lane.pending : Multiset QueuedDataMessage) + lane.delivered ≤ lane.received := by
      refine le_trans ?_ tracked.within
      exact add_le_add_left (Multiset.le_add_right _ _) _
    have small := Multiset.nodup_of_le ends (Multiset.coe_nodup.mpr tracked.nodup_received)
    rwa [Multiset.coe_add, Multiset.coe_nodup] at small
  · intro message flying
    constructor
    · exact fun waits => Multiset.disjoint_left.mp flies waits flying
    · exact fun arrived => Multiset.disjoint_left.mp apart
        (Multiset.mem_add.mpr (.inr flying)) arrived

theorem Tracked.received_of_pending (waits : message ∈ lane.pending) :
    message ∈ lane.received := by
  have place : message ∈ (lane.pending : Multiset QueuedDataMessage) + flying + lane.delivered :=
    Multiset.mem_add.mpr (.inl (Multiset.mem_add.mpr (.inl waits)))
  exact Multiset.mem_of_le tracked.within place

theorem Tracked.received_of_delivered (arrived : message ∈ lane.delivered) :
    message ∈ lane.received := by
  have place : message ∈ (lane.pending : Multiset QueuedDataMessage) + flying + lane.delivered :=
    Multiset.mem_add.mpr (.inr arrived)
  exact Multiset.mem_of_le tracked.within place

theorem Tracked.received_of_flying (carried : message ∈ flying) : message ∈ lane.received := by
  have place : message ∈ (lane.pending : Multiset QueuedDataMessage) + flying + lane.delivered :=
    Multiset.mem_add.mpr (.inl (Multiset.mem_add.mpr (.inr carried)))
  exact Multiset.mem_of_le tracked.within place

end Places

end Lane

/-- In every run the messages of every channel are tracked. -/
theorem tracked_of_run {allowed : Async.Config pionRelay → Action pionRelay → Prop}
    {final : Async.Config pionRelay} (run : Run allowed newRelay final) (side : Role)
    (label : String) :
    (final.state.lane side label).Tracked (inFlight side label final) := by
  have start : (newRelay.state.lane side label).Tracked (inFlight side label newRelay) :=
    ⟨rfl, le_refl _⟩
  apply (run.assuming fun config => obeying_of_run).invariant start
  intro before after action tracked permitted stepped
  obtain ⟨job, rfl, same, total⟩ | ⟨index, choice, op, stage, rfl, resumed⟩ :=
    pion_step permitted.2 stepped
  · have flying : inFlight side label after = inFlight side label before :=
      (total _ _).trans (add_zero _)
    rw [same, flying]
    exact tracked
  · rw [resumed.state, lane_exec]
    exact tracked.step (moves_exec choice before.state resumed.allows) (resumed.total _ _)

end RemoteBrowser.MediaGateway
