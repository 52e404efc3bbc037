import Mathlib.Data.List.Forall2
import Mathlib.Data.List.Sort
import Mathlib.Data.List.Range
import Mathlib.Tactic.Common

/-!
# Acknowledgements of input

The acknowledgements that `worker.py` sends over the input channels, between a queue of messages, a
timer task and a flush task.  The event loop runs its ready queue from the front.  A slot holds the
only task of its kind that has not ended: a new task is created only when the last one has ended,
and a timer empties its slot in its last step.  The lock of the flush is free whenever a flush
begins, because nothing is awaited while it is held.
-/

namespace RemoteBrowser.InputAcks

variable {Value : Type}

structure Config where
  inputPointerChannelName : String
  inputControlChannelName : String

/-- A JSON object from an input channel, with the text of its type.  The number may be absent or
`null`; of the other two members only values other than `null` count. -/
structure InputMessage (Value : Type) where
  type : String
  seq : Option (Option Value)
  viewerTs : Option Value
  ts : Option Value

/-- A message in `input_message_queue`, with the label of its channel. -/
structure Received (Value : Type) where
  message : InputMessage Value
  label : String
  receivedAt : ℤ

structure Ack (Value : Type) where
  workerSeq : ℕ
  type : String
  channel : String
  ok : Bool
  workerReceiveTs : ℤ
  workerApplyTs : ℤ
  workerAckQueuedTs : ℤ
  workerApplyDelayMs : ℤ
  seq : Option (Option Value)
  viewerTs : Option Value
  error : String

/-- A message `input.ack`; its last number is one of a message or a `workerSeq`. -/
structure Batch (Value : Type) where
  lastSeq : Value ⊕ ℕ
  channel : String
  acks : List (Ack Value)
  workerTs : ℤ

structure Channel where
  id : ℕ
  label : String
  isOpen : Bool

/-- `input_ack_timer_task`.  A cancelled task ends when it runs next. -/
inductive TimerTask where
  | ended
  | created (cancelled : Bool)
  | sleeping
  | woken (cancelled : Bool)
  deriving DecidableEq

/-- The task of `process_input_messages`; `queued` and `resuming` wait in the ready queue. -/
inductive Processor (Value : Type) where
  | ended
  | queued
  | waiting
  | applying (entry : Received Value)
  | resuming (entry : Received Value)

/-- A callback in the ready queue: a step of a task or an event of a channel. -/
inductive Job (Value : Type) where
  | timer
  | flush
  | processor
  /-- Without an entry the text is no JSON object. -/
  | received (entry : Option (Received Value))
  | registered (channel : Channel)
  | opened (id : ℕ)
  | closing (id : ℕ)
  | closed (id : ℕ)

/-- The last three fields record what was received, processed and sent. -/
structure State (Value : Type) where
  ready : List (Job Value)
  inputMessageQueue : List (Received Value)
  inputProcessor : Processor Value
  inputChannels : List Channel
  inputAckQueue : List (Ack Value)
  inputAckTimer : TimerTask
  /-- The flush task has been created and not run. -/
  inputAckFlush : Bool
  inputAckSequence : ℕ
  inputAckTotalQueued : ℕ
  inputAckTotalSent : ℕ
  received : List (Received Value)
  processed : List (Received Value)
  sent : List (Batch Value)

def State.start : State Value := ⟨[], [], .ended, [], [], .ended, false, 0, 0, 0, [], [], []⟩

/-! ## Scheduling -/

def inputAckMaxBatch : ℕ := 64

/-- `input_ack_timer_task.cancel()` for a task that has not ended. -/
def cancelTimer (state : State Value) : State Value :=
  match state.inputAckTimer with
  | .ended => state
  | .created _ => { state with inputAckTimer := .created true }
  | .woken _ => { state with inputAckTimer := .woken true }
  | .sleeping =>
      { state with inputAckTimer := .woken true, ready := state.ready ++ [.timer] }

/-- `schedule_input_ack_flush(0.0)`. -/
def flushNow (state : State Value) : State Value :=
  let state := cancelTimer state
  if state.inputAckFlush then state
  else { state with inputAckFlush := true, ready := state.ready ++ [.flush] }

/-- `schedule_input_ack_flush(INPUT_ACK_INTERVAL_SEC)`. -/
def flushLater (state : State Value) : State Value :=
  if state.inputAckTimer ≠ .ended then state
  else { state with inputAckTimer := .created false, ready := state.ready ++ [.timer] }

/-! ## Queueing -/

def enqueueInputAck (entry : Received Value) (appliedAt queuedAt : ℤ) (ok : Bool)
    (errorMessage : String) (state : State Value) : State Value :=
  let message := entry.message
  if message.type = "input.ack" then state
  else
    let ack : Ack Value :=
      { workerSeq := state.inputAckSequence + 1
        type := message.type
        channel := entry.label
        ok := ok
        workerReceiveTs := entry.receivedAt
        workerApplyTs := appliedAt
        workerAckQueuedTs := queuedAt
        workerApplyDelayMs := max 0 (appliedAt - entry.receivedAt)
        seq := message.seq
        viewerTs := message.viewerTs.or message.ts
        error := errorMessage }
    let state := { state with
      inputAckSequence := state.inputAckSequence + 1
      inputAckQueue := state.inputAckQueue ++ [ack]
      inputAckTotalQueued := state.inputAckTotalQueued + 1 }
    if inputAckMaxBatch ≤ state.inputAckQueue.length then flushNow state else flushLater state

/-! ## Flushing -/

/-- How a call of `channel.send` ends, with the time before it. -/
structure Attempt where
  succeeds : Bool
  workerTs : ℤ

def channelPriority (config : Config) (channel : Channel) : ℕ :=
  [config.inputControlChannelName, "input", config.inputPointerChannelName].idxOf channel.label

def inputDataChannelLabels (config : Config) : List String :=
  ["input", config.inputPointerChannelName, config.inputControlChannelName]

def openInputAckChannels (config : Config) (state : State Value) : List Channel :=
  (state.inputChannels.filter fun channel =>
      channel.label ∈ inputDataChannelLabels config && channel.isOpen).insertionSort
    fun first second => channelPriority config first ≤ channelPriority config second

/-- The first channel that takes the message, and the calls that are left; a call that is not
listed raises. -/
def trySend : List Attempt → List Channel → Option (Channel × ℤ × List Attempt)
  | _, [] => none
  | [], _ :: _ => none
  | attempt :: attempts, channel :: rest =>
      if attempt.succeeds then some (channel, attempt.workerTs, attempts)
      else trySend attempts rest

/-- The number of the last acknowledgement that has one. -/
def lastSeq (acks : List (Ack Value)) : Value ⊕ ℕ :=
  match acks.reverse.findSome? fun ack => ack.seq.join with
  | some value => .inl value
  | none => .inr ((acks.getLast?.map Ack.workerSeq).getD 0)

/-- The first acknowledgements leave the queue and are recorded as sent. -/
def sendBatch (channel : Channel) (workerTs : ℤ) (state : State Value) : State Value :=
  let acks := state.inputAckQueue.take inputAckMaxBatch
  { state with
    inputAckQueue := state.inputAckQueue.drop inputAckMaxBatch
    inputAckTotalSent := state.inputAckTotalSent + acks.length
    sent := state.sent ++ [⟨lastSeq acks, channel.label, acks, workerTs⟩] }

/-- The loop of `flush_input_acks`, for at most so many batches. -/
def flushLoop (config : Config) : ℕ → List Attempt → State Value → State Value
  | 0, _, state => state
  | count + 1, attempts, state =>
      if state.inputAckQueue = [] then state
      else
        match trySend attempts (openInputAckChannels config state) with
        | none => flushLater state
        | some (channel, workerTs, attempts) =>
            flushLoop config count attempts (sendBatch channel workerTs state)

/-- There are no more batches than acknowledgements. -/
def flushInputAcks (config : Config) (attempts : List Attempt) (state : State Value) :
    State Value :=
  flushLoop config state.inputAckQueue.length attempts state

/-! ## Tasks -/

/-- A step of `delayed_input_ack_flush`. -/
def runTimer (config : Config) (attempts : List Attempt) (state : State Value) : State Value :=
  match state.inputAckTimer with
  | .created false => { state with inputAckTimer := .sleeping }
  | .woken false => flushInputAcks config attempts { state with inputAckTimer := .ended }
  | _ => { state with inputAckTimer := .ended }

/-- How a step of `apply_input_message` ends; `aborts` stands for an exception that it does not
catch. -/
inductive Applied where
  | suspends
  | returns (ok : Bool) (errorMessage : String) (appliedAt queuedAt : ℤ)
  | aborts (appliedAt queuedAt : ℤ)

/-- The message has been applied. -/
def finishMessage (entry : Received Value) (appliedAt queuedAt : ℤ) (ok : Bool)
    (errorMessage : String) (state : State Value) : State Value :=
  enqueueInputAck entry appliedAt queuedAt ok errorMessage
    { state with processed := state.processed ++ [entry] }

/-- The loop of `process_input_messages` up to where it waits; a message without an outcome
suspends it. -/
def processMessages : List Applied → State Value → State Value
  | outcomes, state =>
      match state.inputMessageQueue with
      | [] => { state with inputProcessor := .waiting }
      | entry :: rest =>
          match outcomes with
          | .returns ok errorMessage appliedAt queuedAt :: outcomes =>
              processMessages outcomes
                (finishMessage entry appliedAt queuedAt ok errorMessage
                  { state with inputMessageQueue := rest })
          | .aborts appliedAt queuedAt :: _ =>
              { finishMessage entry appliedAt queuedAt true ""
                  { state with inputMessageQueue := rest } with inputProcessor := .ended }
          | _ => { state with inputMessageQueue := rest, inputProcessor := .applying entry }

/-- A step of the processor, which may be within a message. -/
def runProcessor (outcomes : List Applied) (state : State Value) : State Value :=
  match state.inputProcessor with
  | .resuming entry =>
      processMessages outcomes
        { state with inputMessageQueue := entry :: state.inputMessageQueue }
  | _ => processMessages outcomes state

/-- `put_nowait` wakes a processor that waits, and `ensure_input_processor` creates one. -/
def receiveInputChannelMessage (entry : Option (Received Value)) (state : State Value) :
    State Value :=
  match entry with
  | none => state
  | some entry =>
      let state := { state with
        inputMessageQueue := state.inputMessageQueue ++ [entry]
        received := state.received ++ [entry] }
      match state.inputProcessor with
      | .ended | .waiting =>
          { state with inputProcessor := .queued, ready := state.ready ++ [.processor] }
      | _ => state

/-! ## Channels -/

def registerInputChannel (config : Config) (channel : Channel) (state : State Value) :
    State Value :=
  if channel.label ∉ inputDataChannelLabels config then state
  else if ∃ known ∈ state.inputChannels, known.id = channel.id then state
  else { state with inputChannels := state.inputChannels ++ [channel] }

/-- `readyState` of a channel. -/
def setOpen (id : ℕ) (isOpen : Bool) (state : State Value) : State Value :=
  { state with
    inputChannels := state.inputChannels.map fun channel =>
      if channel.id = id then { channel with isOpen := isOpen } else channel }

/-- The event is handled for registered channels. -/
def onOpen (id : ℕ) (state : State Value) : State Value :=
  if ∃ known ∈ state.inputChannels, known.id = id then flushNow (setOpen id true state) else state

def onClose (id : ℕ) (state : State Value) : State Value :=
  { state with inputChannels := state.inputChannels.filter fun channel => channel.id ≠ id }

/-! ## The event loop -/

inductive Event (Value : Type) where
  /-- A channel's event is put into the ready queue; steps of tasks are not put there so. -/
  | arrives (job : Job Value)
  /-- The timer's time is over. -/
  | timeout
  /-- What the processor awaits within a message is there. -/
  | applied
  /-- The first callback of the ready queue runs. -/
  | runs (attempts : List Attempt) (outcomes : List Applied)

def Job.isExternal : Job Value → Bool
  | .timer | .flush | .processor => false
  | _ => true

def runJob (config : Config) (attempts : List Attempt) (outcomes : List Applied)
    (state : State Value) : Job Value → State Value
  | .timer => runTimer config attempts state
  | .flush => { flushInputAcks config attempts state with inputAckFlush := false }
  | .processor => runProcessor outcomes state
  | .received entry => receiveInputChannelMessage entry state
  | .registered channel => registerInputChannel config channel state
  | .opened id => onOpen id state
  | .closing id => setOpen id false state
  | .closed id => onClose id state

def step (config : Config) (state : State Value) : Event Value → State Value
  | .arrives job =>
      if job.isExternal then { state with ready := state.ready ++ [job] } else state
  | .timeout =>
      if state.inputAckTimer = .sleeping then
        { state with inputAckTimer := .woken false, ready := state.ready ++ [.timer] }
      else state
  | .applied =>
      match state.inputProcessor with
      | .applying entry =>
          { state with inputProcessor := .resuming entry, ready := state.ready ++ [.processor] }
      | _ => state
  | .runs attempts outcomes =>
      match state.ready with
      | [] => state
      | job :: rest => runJob config attempts outcomes { state with ready := rest } job

/-! ## What is scheduled

Scheduling changes the two slots and the ready queue only. -/

theorem cancelTimer_eq (state : State Value) :
    ∃ timer ready, cancelTimer state = { state with inputAckTimer := timer, ready := ready } := by
  unfold cancelTimer
  split <;> exact ⟨_, _, rfl⟩

theorem flushNow_eq (state : State Value) :
    ∃ timer flush ready, flushNow state =
      { state with inputAckTimer := timer, inputAckFlush := flush, ready := ready } := by
  obtain ⟨timer, ready, cancelled⟩ := cancelTimer_eq state
  unfold flushNow
  rw [cancelled]
  dsimp only
  split <;> exact ⟨_, _, _, rfl⟩

theorem flushLater_eq (state : State Value) :
    ∃ timer ready, flushLater state = { state with inputAckTimer := timer, ready := ready } := by
  unfold flushLater
  split <;> exact ⟨_, _, rfl⟩

/-! ## Every acknowledgement -/

/-- Sent or in the queue, in this order. -/
def State.acks (state : State Value) : List (Ack Value) :=
  state.sent.flatMap Batch.acks ++ state.inputAckQueue

def Received.isAnswered (entry : Received Value) : Bool :=
  entry.message.type ≠ "input.ack"

/-- The acknowledgement is about this message. -/
structure Ack.IsOf (ack : Ack Value) (entry : Received Value) : Prop where
  type : ack.type = entry.message.type
  channel : ack.channel = entry.label
  workerReceiveTs : ack.workerReceiveTs = entry.receivedAt
  seq : ack.seq = entry.message.seq
  viewerTs : ack.viewerTs = entry.message.viewerTs.or entry.message.ts

/-- The message that has left the queue and is not yet processed. -/
def Processor.held : Processor Value → List (Received Value)
  | .applying entry | .resuming entry => [entry]
  | _ => []

/-- The books are right, with this message between the queue and the processed ones. -/
structure Accounted (held : List (Received Value)) (state : State Value) : Prop where
  once : List.Forall₂ Ack.IsOf state.acks (state.processed.filter Received.isAnswered)
  numbered : state.acks.map Ack.workerSeq = List.range' 1 state.inputAckSequence
  receipt : state.processed ++ held ++ state.inputMessageQueue = state.received
  totals : state.inputAckTotalQueued = state.inputAckTotalSent + state.inputAckQueue.length

theorem accounted_start : Accounted [] (State.start : State Value) := by
  constructor
  case once => exact .nil
  all_goals rfl

namespace Accounted

variable {held : List (Received Value)} {state : State Value}

theorem flushNow (accounted : Accounted held state) :
    Accounted held (flushNow state) := by
  obtain ⟨timer, flush, ready, scheduled⟩ := flushNow_eq state
  rw [scheduled]
  exact ⟨accounted.once, accounted.numbered, accounted.receipt, accounted.totals⟩

theorem flushLater (accounted : Accounted held state) :
    Accounted held (flushLater state) := by
  obtain ⟨timer, ready, scheduled⟩ := flushLater_eq state
  rw [scheduled]
  exact ⟨accounted.once, accounted.numbered, accounted.receipt, accounted.totals⟩

end Accounted

theorem acks_sendBatch (channel : Channel) (workerTs : ℤ) (state : State Value) :
    (sendBatch channel workerTs state).acks = state.acks := by
  simp only [State.acks, sendBatch, List.flatMap_append, List.flatMap_singleton,
    List.append_assoc, List.take_append_drop]

namespace Accounted

variable {held : List (Received Value)} {state : State Value}

theorem sendBatch (channel : Channel) (workerTs : ℤ) (accounted : Accounted held state) :
    Accounted held (sendBatch channel workerTs state) := by
  constructor
  case once =>
    rw [acks_sendBatch]
    exact accounted.once
  case numbered =>
    rw [acks_sendBatch]
    exact accounted.numbered
  case receipt => exact accounted.receipt
  case totals =>
    have total := accounted.totals
    simp only [InputAcks.sendBatch, List.length_take, List.length_drop]
    omega

/-- A batch that is not sent stays at the front of the queue. -/
theorem flushLoop (config : Config) (count : ℕ) (attempts : List Attempt)
    (accounted : Accounted held state) :
    Accounted held (flushLoop config count attempts state) := by
  induction count generalizing attempts state with
  | zero => exact accounted
  | succ count ih =>
      unfold InputAcks.flushLoop
      split
      case isTrue => exact accounted
      case isFalse =>
        split
        case h_1 => exact accounted.flushLater
        case h_2 channel workerTs attempts _ =>
            exact ih attempts (accounted.sendBatch channel workerTs)

theorem flushInputAcks (config : Config) (attempts : List Attempt)
    (accounted : Accounted held state) :
    Accounted held (flushInputAcks config attempts state) :=
  accounted.flushLoop config _ attempts

theorem runTimer (config : Config) (attempts : List Attempt) (accounted : Accounted held state) :
    Accounted held (runTimer config attempts state) := by
  have ended : ∀ timer, Accounted held { state with inputAckTimer := timer } := fun timer =>
    ⟨accounted.once, accounted.numbered, accounted.receipt, accounted.totals⟩
  unfold InputAcks.runTimer
  split
  case h_1 => exact ended .sleeping
  case h_2 => exact (ended .ended).flushInputAcks config attempts
  case h_3 => exact ended .ended

/-- The message is processed, and what is not an acknowledgement gets the next number. -/
theorem finishMessage {entry : Received Value} (appliedAt queuedAt : ℤ) (ok : Bool)
    (errorMessage : String) (accounted : Accounted [entry] state) :
    Accounted [] (finishMessage entry appliedAt queuedAt ok errorMessage state) := by
  have receipt : state.processed ++ [entry] ++ [] ++ state.inputMessageQueue = state.received := by
    rw [List.append_nil]
    exact accounted.receipt
  unfold InputAcks.finishMessage enqueueInputAck
  dsimp only
  split
  case isTrue acknowledgement =>
    constructor
    case once =>
      have ignored : entry.isAnswered = false := by simp [Received.isAnswered, acknowledgement]
      simpa [State.acks, ignored] using accounted.once
    case numbered => exact accounted.numbered
    case receipt => exact receipt
    case totals => exact accounted.totals
  case isFalse other =>
    have answered : entry.isAnswered = true := by simp [Received.isAnswered, other]
    -- the queue has got longer by one acknowledgement, and what is scheduled does not matter
    have queued : ∀ ack : Ack Value, ack.IsOf entry →
        ack.workerSeq = state.inputAckSequence + 1 →
        Accounted [] { state with
          processed := state.processed ++ [entry]
          inputAckSequence := state.inputAckSequence + 1
          inputAckQueue := state.inputAckQueue ++ [ack]
          inputAckTotalQueued := state.inputAckTotalQueued + 1 } := by
      intro ack isOf number
      have acks : state.sent.flatMap Batch.acks ++ (state.inputAckQueue ++ [ack]) =
          state.acks ++ [ack] := by
        rw [State.acks, List.append_assoc]
      constructor
      case once =>
        rw [State.acks, acks, List.filter_append, List.filter_singleton, answered]
        exact List.rel_append accounted.once (.cons isOf .nil)
      case numbered =>
        rw [State.acks, acks, List.map_append, accounted.numbered, List.map_singleton, number,
          List.range'_1_concat, Nat.add_comm 1]
      case receipt => exact receipt
      case totals =>
        simp only [List.length_append, List.length_singleton, accounted.totals, Nat.add_assoc]
    split
    case isTrue => exact (queued _ ⟨rfl, rfl, rfl, rfl, rfl⟩ rfl).flushNow
    case isFalse => exact (queued _ ⟨rfl, rfl, rfl, rfl, rfl⟩ rfl).flushLater

end Accounted

/-- The message at the front of the queue is taken out. -/
theorem Accounted.taken {state : State Value} {entry : Received Value}
    {rest : List (Received Value)} (accounted : Accounted [] state)
    (front : state.inputMessageQueue = entry :: rest) :
    Accounted [entry] { state with inputMessageQueue := rest } := by
  constructor
  case once => exact accounted.once
  case numbered => exact accounted.numbered
  case receipt =>
    have receipt := accounted.receipt
    rw [front, List.append_nil] at receipt
    rw [← receipt, List.append_assoc, List.singleton_append]
  case totals => exact accounted.totals

theorem Accounted.inProcessor {held : List (Received Value)} {state : State Value}
    (accounted : Accounted held state) (processor : Processor Value) :
    Accounted held { state with inputProcessor := processor } :=
  ⟨accounted.once, accounted.numbered, accounted.receipt, accounted.totals⟩

theorem Accounted.processMessages {state : State Value} (outcomes : List Applied)
    (accounted : Accounted [] state) :
    Accounted (processMessages outcomes state).inputProcessor.held
      (processMessages outcomes state) := by
  induction outcomes generalizing state with
  | nil =>
      unfold InputAcks.processMessages
      split
      case h_1 => exact accounted.inProcessor .waiting
      case h_2 entry rest front => exact (accounted.taken front).inProcessor (.applying entry)
  | cons outcome outcomes ih =>
      unfold InputAcks.processMessages
      split
      case h_1 => exact accounted.inProcessor .waiting
      case h_2 entry rest front =>
          have taken := accounted.taken front
          cases outcome with
          | suspends => exact taken.inProcessor (.applying entry)
          | returns ok errorMessage appliedAt queuedAt =>
              exact ih (taken.finishMessage appliedAt queuedAt ok errorMessage)
          | aborts appliedAt queuedAt =>
              exact (taken.finishMessage appliedAt queuedAt true "").inProcessor .ended

/-- The task of the processor is in the ready queue. -/
def Processor.isReady : Processor Value → Bool
  | .queued | .resuming _ => true
  | _ => false

theorem Accounted.runProcessor {state : State Value} (outcomes : List Applied)
    (accounted : Accounted state.inputProcessor.held state)
    (isReady : state.inputProcessor.isReady) :
    Accounted (runProcessor outcomes state).inputProcessor.held (runProcessor outcomes state) := by
  unfold InputAcks.runProcessor
  cases processor : state.inputProcessor with
  | resuming entry =>
      rw [processor] at accounted
      apply Accounted.processMessages
      constructor
      case once => exact accounted.once
      case numbered => exact accounted.numbered
      case receipt =>
        rw [← accounted.receipt, List.append_nil]
        exact List.append_cons ..
      case totals => exact accounted.totals
  | queued =>
      rw [processor] at accounted
      exact accounted.processMessages outcomes
  | ended | waiting | applying entry =>
      rw [processor] at isReady
      nomatch isReady

theorem Accounted.receiveInputChannelMessage {state : State Value}
    (entry : Option (Received Value)) (accounted : Accounted state.inputProcessor.held state) :
    Accounted (receiveInputChannelMessage entry state).inputProcessor.held
      (receiveInputChannelMessage entry state) := by
  cases entry with
  | none => exact accounted
  | some entry =>
      have received : ∀ ready, Accounted state.inputProcessor.held { state with
          inputMessageQueue := state.inputMessageQueue ++ [entry]
          received := state.received ++ [entry]
          ready := ready } := by
        intro ready
        constructor
        case once => exact accounted.once
        case numbered => exact accounted.numbered
        case receipt =>
          dsimp only
          rw [← accounted.receipt, List.append_assoc _ state.inputMessageQueue]
        case totals => exact accounted.totals
      unfold InputAcks.receiveInputChannelMessage
      dsimp only
      cases processor : state.inputProcessor with
      | ended | waiting =>
          rw [processor] at received
          exact (received _).inProcessor .queued
      | queued | applying _ | resuming _ =>
          rw [processor] at received
          exact received _

end RemoteBrowser.InputAcks
