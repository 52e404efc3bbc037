import RemoteBrowser.Events.Runs
import RemoteBrowser.Worker.InputAcks

/-!
# Tasks of input acknowledgements

The two slots and the order of the tasks in the ready queue are a finite machine.  A state with
acknowledgements in the queue has a task that sends them, as long as no flush fails while the timer
in its slot is a cancelled one that has not yet ended.
-/

namespace RemoteBrowser.InputAcks

variable {Value : Type}

/-! ## The finite machine -/

inductive Task where
  | timer
  | flush
  | processor
  deriving DecidableEq

def Job.task : Job Value → Option Task
  | .timer => some .timer
  | .flush => some .flush
  | .processor => some .processor
  | _ => none

namespace TimerTask

def isReady : TimerTask → Bool
  | .created _ | .woken _ => true
  | _ => false

/-- Cancelled and not yet ended. -/
def isDoomed : TimerTask → Bool
  | .created true | .woken true => true
  | _ => false

end TimerTask

structure Slots where
  timer : TimerTask
  flush : Bool
  /-- The task of the processor is in the ready queue. -/
  processor : Bool
  tasks : List Task
  deriving DecidableEq

def State.slots (state : State Value) : Slots where
  timer := state.inputAckTimer
  flush := state.inputAckFlush
  processor := state.inputProcessor.isReady
  tasks := state.ready.filterMap Job.task

namespace Slots

/-- The first task leaves the ready queue. -/
def pop (slots : Slots) : Slots := { slots with tasks := slots.tasks.tail }

def push (task : Task) (slots : Slots) : Slots := { slots with tasks := slots.tasks ++ [task] }

def cancelTimer (slots : Slots) : Slots :=
  match slots.timer with
  | .ended => slots
  | .created _ => { slots with timer := .created true }
  | .woken _ => { slots with timer := .woken true }
  | .sleeping => { slots with timer := .woken true }.push .timer

def flushNow (slots : Slots) : Slots :=
  let slots := slots.cancelTimer
  if slots.flush then slots else { slots with flush := true }.push .flush

def flushLater (slots : Slots) : Slots :=
  if slots.timer ≠ .ended then slots
  else { slots with timer := .created false }.push .timer

/-- A step of the timer, with or without a flush that fails. -/
def runTimer (fails : Bool) (slots : Slots) : Slots :=
  match slots.timer with
  | .created false => { slots with timer := .sleeping }
  | .woken false =>
      if fails then { slots with timer := .ended }.flushLater else { slots with timer := .ended }
  | _ => { slots with timer := .ended }

/-- A step of the flush task, which may fail. -/
def runFlush (fails : Bool) (slots : Slots) : Slots :=
  if fails then { slots.flushLater with flush := false } else { slots with flush := false }

def willFlush (slots : Slots) : Bool :=
  slots.flush || slots.timer ∈ [.created false, .sleeping, .woken false]

def precedes (first second : Task) (slots : Slots) : Bool :=
  [first, second].isSublist slots.tasks

/-- Each task once at most, in any order. -/
def orders : List (List Task) :=
  [[], [.timer], [.flush], [.processor], [.timer, .flush], [.flush, .timer],
    [.timer, .processor], [.processor, .timer], [.flush, .processor], [.processor, .flush],
    [.timer, .flush, .processor], [.timer, .processor, .flush], [.flush, .timer, .processor],
    [.flush, .processor, .timer], [.processor, .timer, .flush], [.processor, .flush, .timer]]

def isSound (slots : Slots) : Bool :=
  slots.tasks ∈ orders && slots.timer.isReady == decide (.timer ∈ slots.tasks) &&
    slots.flush == decide (.flush ∈ slots.tasks) &&
    slots.processor == decide (.processor ∈ slots.tasks) &&
    -- a flush cancels the timer, and a timer that is created later runs later
    (!slots.flush || slots.timer ∉ [.sleeping, .woken false]) &&
    (!(slots.flush && slots.timer = .created false) || slots.precedes .flush .timer) &&
    -- the processor does not run between a flush and the end of a cancelled timer
    (!(slots.timer.isDoomed || slots.flush && slots.timer = .created false) ||
      !slots.precedes .processor .timer || slots.precedes .processor .flush)

/-- The processor runs. -/
def isRunning (slots : Slots) : Bool :=
  { slots with processor := false }.isSound && (!slots.timer.isDoomed || slots.flush)

/-- The slots of any timer and any order of tasks, with the other tasks where they say. -/
def every : List Slots :=
  [TimerTask.ended, .created false, .created true, .sleeping, .woken false, .woken true].flatMap
    fun timer => orders.map fun tasks =>
      ⟨timer, decide (.flush ∈ tasks), decide (.processor ∈ tasks), tasks⟩

theorem isSound.mem_every {slots : Slots} (sound : slots.isSound) : slots ∈ every := by
  simp only [isSound, Bool.and_eq_true, decide_eq_true_eq, beq_iff_eq] at sound
  obtain ⟨⟨⟨⟨⟨⟨ordered, _⟩, flush⟩, processor⟩, _⟩, _⟩, _⟩ := sound
  simp only [every, List.mem_flatMap, List.mem_map]
  refine ⟨slots.timer, ?_, slots.tasks, ordered, by rw [← flush, ← processor]⟩
  cases slots.timer with
  | ended | sleeping => decide
  | created cancelled | woken cancelled => cases cancelled <;> decide

theorem waiting_every : ∀ slots ∈ every, slots.isRunning →
    slots.flushNow.isRunning ∧ slots.flushLater.isRunning ∧ slots.flushNow.willFlush ∧
      slots.flushLater.willFlush := by
  decide +kernel

theorem flushNow_waiting (slots : Slots) :
    { slots.flushNow with processor := false } = { slots with processor := false }.flushNow := by
  obtain ⟨timer, flush, processor, tasks⟩ := slots
  cases timer with
  | ended | sleeping => cases flush <;> rfl
  | created cancelled | woken cancelled => cases flush <;> rfl

theorem flushLater_waiting (slots : Slots) :
    { slots.flushLater with processor := false } =
      { slots with processor := false }.flushLater := by
  obtain ⟨timer, flush, processor, tasks⟩ := slots
  cases timer with
  | ended | sleeping => rfl
  | created cancelled | woken cancelled => rfl

/-- The processor's own entry does not matter while it runs. -/
theorem isRunning.schedules {slots : Slots} (running : slots.isRunning) :
    slots.flushNow.isRunning ∧ slots.flushLater.isRunning ∧ slots.flushNow.willFlush ∧
      slots.flushLater.willFlush := by
  have waiting : { slots with processor := false }.isRunning := running
  have sound : { slots with processor := false }.isSound := by
    simp only [isRunning, Bool.and_eq_true] at waiting
    exact waiting.1
  obtain ⟨runningNow, runningLater, willNow, willLater⟩ :=
    waiting_every _ (isSound.mem_every sound) waiting
  rw [← flushNow_waiting] at runningNow willNow
  rw [← flushLater_waiting] at runningLater willLater
  exact ⟨runningNow, runningLater, willNow, willLater⟩

/-- What the steps of a sound machine lead to. -/
structure Steady (slots : Slots) : Prop where
  flushNow : slots.flushNow.isSound ∧ slots.flushNow.willFlush
  push : slots.processor = false → ({ slots with processor := true }.push .processor).isSound
  timeout : slots.timer = .sleeping → ({ slots with timer := .woken false }.push .timer).isSound
  processor : slots.tasks.head? = some .processor → slots.pop.isRunning ∧ slots.processor
  timer : slots.tasks.head? = some .timer → (∀ fails, (slots.pop.runTimer fails).isSound) ∧
    (slots.willFlush → (slots.pop.runTimer true).willFlush)
  flush : slots.tasks.head? = some .flush → (∀ fails, (slots.pop.runFlush fails).isSound) ∧
    (slots.pop.runFlush true).willFlush = !slots.timer.isDoomed

theorem steady_every : ∀ slots ∈ every, slots.isSound →
    (slots.flushNow.isSound ∧ slots.flushNow.willFlush) ∧
    (slots.processor = false → ({ slots with processor := true }.push .processor).isSound) ∧
    (slots.timer = .sleeping → ({ slots with timer := .woken false }.push .timer).isSound) ∧
    (slots.tasks.head? = some .processor → slots.pop.isRunning ∧ slots.processor) ∧
    (slots.tasks.head? = some .timer → (∀ fails, (slots.pop.runTimer fails).isSound) ∧
      (slots.willFlush → (slots.pop.runTimer true).willFlush)) ∧
    (slots.tasks.head? = some .flush → (∀ fails, (slots.pop.runFlush fails).isSound) ∧
      (slots.pop.runFlush true).willFlush = !slots.timer.isDoomed) := by
  decide +kernel

theorem isSound.steady {slots : Slots} (sound : slots.isSound) : Steady slots := by
  obtain ⟨flushNow, push, timeout, processor, timer, flush⟩ :=
    steady_every slots (isSound.mem_every sound) sound
  exact ⟨flushNow, push, timeout, processor, timer, flush⟩

end Slots

/-! ## Scheduling

The machine takes the steps of the slots. -/

@[simp] theorem slots_cancelTimer (state : State Value) :
    (cancelTimer state).slots = state.slots.cancelTimer := by
  unfold cancelTimer Slots.cancelTimer
  have slots : state.slots.timer = state.inputAckTimer := rfl
  rw [slots]
  cases timer : state.inputAckTimer with
  | ended => rfl
  | created cancelled => rfl
  | woken cancelled => rfl
  | sleeping => simp [State.slots, Slots.push, Job.task]

@[simp] theorem slots_flushNow (state : State Value) :
    (flushNow state).slots = state.slots.flushNow := by
  have flush : (cancelTimer state).inputAckFlush = (cancelTimer state).slots.flush := rfl
  unfold flushNow Slots.flushNow
  dsimp only
  rw [flush, slots_cancelTimer]
  split
  case isTrue => exact slots_cancelTimer state
  case isFalse =>
    rw [← slots_cancelTimer]
    simp [State.slots, Slots.push, Job.task]

@[simp] theorem slots_flushLater (state : State Value) :
    (flushLater state).slots = state.slots.flushLater := by
  unfold flushLater Slots.flushLater
  change _ = if state.inputAckTimer ≠ .ended then _ else _
  split
  case isTrue => rfl
  case isFalse => simp [State.slots, Slots.push, Job.task]

/-! ## Flushing -/

/-- So many batches are sent over these channels. -/
def everyBatchSent (channels : List Channel) : ℕ → List Attempt → Bool
  | 0, _ => true
  | count + 1, attempts =>
      match trySend attempts channels with
      | none => false
      | some (_, _, attempts) => everyBatchSent channels count attempts

def batches (count : ℕ) : ℕ := (count + inputAckMaxBatch - 1) / inputAckMaxBatch

theorem batches_pos {count : ℕ} (pos : 0 < count) :
    batches count = batches (count - inputAckMaxBatch) + 1 := by
  simp only [batches, inputAckMaxBatch]
  omega

def State.allSent (config : Config) (attempts : List Attempt) (state : State Value) : Bool :=
  everyBatchSent (openInputAckChannels config state) (batches state.inputAckQueue.length) attempts

theorem allSent_of_empty (config : Config) (attempts : List Attempt) {state : State Value}
    (empty : state.inputAckQueue = []) : state.allSent config attempts := by
  have none : batches 0 = 0 := by decide
  rw [State.allSent, empty, List.length_nil, none]
  rfl

/-- A flush empties the queue, or the timer is scheduled again. -/
theorem flushLoop_outcome (config : Config) {count : ℕ} (attempts : List Attempt)
    {state : State Value} (enough : state.inputAckQueue.length ≤ count) :
    ((flushLoop config count attempts state).inputAckQueue = [] ↔ state.allSent config attempts) ∧
      (flushLoop config count attempts state).slots =
        if state.allSent config attempts then state.slots else state.slots.flushLater := by
  induction count generalizing attempts state with
  | zero =>
      have empty := List.eq_nil_of_length_eq_zero (Nat.le_zero.mp enough)
      simp [flushLoop, allSent_of_empty, empty]
  | succ count ih =>
      unfold flushLoop
      split
      case isTrue empty => simp [allSent_of_empty, empty]
      case isFalse nonempty =>
        have more := batches_pos (List.length_pos_of_ne_nil nonempty)
        split
        case h_1 failed =>
          have notSent : state.allSent config attempts = false := by
            rw [State.allSent, more, everyBatchSent, failed]
          obtain ⟨timer, ready, scheduled⟩ := flushLater_eq state
          constructor
          case left =>
            rw [notSent, scheduled]
            exact iff_of_false nonempty Bool.false_ne_true
          case right =>
            rw [notSent, slots_flushLater]
            rfl
        case h_2 channel workerTs rest sent =>
          have fewer : (sendBatch channel workerTs state).inputAckQueue.length ≤ count := by
            have pos := List.length_pos_of_ne_nil nonempty
            simp only [sendBatch, List.length_drop, inputAckMaxBatch]
            omega
          have same : (sendBatch channel workerTs state).allSent config rest =
              state.allSent config attempts := by
            simp only [State.allSent, more, everyBatchSent, sent, sendBatch, List.length_drop]
            rfl
          have outcome := ih rest fewer
          rw [same] at outcome
          exact outcome

theorem flushLoop_inputProcessor (config : Config) (count : ℕ) (attempts : List Attempt)
    (state : State Value) :
    (flushLoop config count attempts state).inputProcessor = state.inputProcessor := by
  induction count generalizing attempts state with
  | zero => rfl
  | succ count ih =>
      unfold flushLoop
      split
      case isTrue => rfl
      case isFalse =>
        split
        case h_1 =>
          obtain ⟨timer, ready, scheduled⟩ := flushLater_eq state
          rw [scheduled]
        case h_2 => exact ih _ _

/-! ## One step -/

/-- What holds after every step of every run. -/
structure Invariant (state : State Value) : Prop where
  accounted : Accounted state.inputProcessor.held state
  sound : state.slots.isSound

/-- Some task will flush what is in the queue. -/
def Covered (state : State Value) : Prop :=
  state.inputAckQueue ≠ [] → state.slots.willFlush

theorem invariant_start : Invariant (State.start : State Value) where
  accounted := accounted_start
  sound := by
    change (Slots.mk .ended false false []).isSound
    decide

theorem Accounted.inReady {held : List (Received Value)} {state : State Value}
    (accounted : Accounted held state) (ready : List (Job Value)) :
    Accounted held { state with ready := ready } :=
  ⟨accounted.once, accounted.numbered, accounted.receipt, accounted.totals⟩

theorem runTimer_outcome (config : Config) (attempts : List Attempt) (state : State Value) :
    (runTimer config attempts state).slots =
        state.slots.runTimer (!state.allSent config attempts) ∧
      ((runTimer config attempts state).inputAckQueue ≠ [] → state.inputAckQueue ≠ [] ∧
        (runTimer config attempts state).slots = state.slots.runTimer true) := by
  have slots : state.slots.timer = state.inputAckTimer := rfl
  unfold runTimer Slots.runTimer
  rw [slots]
  cases timer : state.inputAckTimer with
  | created cancelled =>
      cases cancelled with
      | true => exact ⟨rfl, fun nonempty => ⟨nonempty, rfl⟩⟩
      | false => exact ⟨rfl, fun nonempty => ⟨nonempty, rfl⟩⟩
  | woken cancelled =>
      cases cancelled with
      | true => exact ⟨rfl, fun nonempty => ⟨nonempty, rfl⟩⟩
      | false =>
          obtain ⟨emptied, flushed⟩ := flushLoop_outcome config attempts
            (le_refl { state with inputAckTimer := .ended }.inputAckQueue.length)
          have same : { state with inputAckTimer := .ended }.allSent config attempts =
            state.allSent config attempts := rfl
          rw [same] at emptied flushed
          cases sent : state.allSent config attempts with
          | true =>
              rw [sent] at emptied flushed
              exact ⟨flushed, fun nonempty => absurd (emptied.mpr rfl) nonempty⟩
          | false =>
              rw [sent] at flushed
              refine ⟨flushed, fun nonempty => ⟨fun empty => ?_, flushed⟩⟩
              rw [allSent_of_empty config attempts empty] at sent
              nomatch sent
  | ended | sleeping => exact ⟨rfl, fun nonempty => ⟨nonempty, rfl⟩⟩

theorem finishMessage_outcome (entry : Received Value) (appliedAt queuedAt : ℤ) (ok : Bool)
    (errorMessage : String) {state : State Value} (running : state.slots.isRunning) :
    (finishMessage entry appliedAt queuedAt ok errorMessage state).slots.isRunning ∧
      (Covered state → Covered (finishMessage entry appliedAt queuedAt ok errorMessage state)) := by
  obtain ⟨runningNow, runningLater, willNow, willLater⟩ := Slots.isRunning.schedules running
  unfold finishMessage enqueueInputAck
  dsimp only
  split
  case isTrue => exact ⟨running, fun covered => covered⟩
  case isFalse =>
    split
    case isTrue =>
      unfold Covered
      rw [slots_flushNow]
      exact ⟨runningNow, fun _ _ => willNow⟩
    case isFalse =>
      unfold Covered
      rw [slots_flushLater]
      exact ⟨runningLater, fun _ _ => willLater⟩

/-- The processor leaves the ready queue. -/
theorem sound_inProcessor {state : State Value} (running : state.slots.isRunning)
    {processor : Processor Value} (notReady : processor.isReady = false) :
    { state with inputProcessor := processor }.slots.isSound := by
  simp only [Slots.isRunning, Bool.and_eq_true] at running
  simpa only [State.slots, notReady] using running.1

theorem processMessages_outcome (outcomes : List Applied) {state : State Value}
    (running : state.slots.isRunning) :
    (processMessages outcomes state).slots.isSound ∧
      (Covered state → Covered (processMessages outcomes state)) := by
  induction outcomes generalizing state with
  | nil =>
      unfold processMessages
      split
      case h_1 => exact ⟨sound_inProcessor running rfl, fun covered => covered⟩
      case h_2 => exact ⟨sound_inProcessor running rfl, fun covered => covered⟩
  | cons outcome outcomes ih =>
      unfold processMessages
      split
      case h_1 => exact ⟨sound_inProcessor running rfl, fun covered => covered⟩
      case h_2 entry rest front =>
          have popped : { state with inputMessageQueue := rest }.slots.isRunning := running
          have finished := fun ok errorMessage appliedAt queuedAt =>
            finishMessage_outcome entry appliedAt queuedAt ok errorMessage popped
          cases outcome with
          | suspends => exact ⟨sound_inProcessor running rfl, fun covered => covered⟩
          | returns ok errorMessage appliedAt queuedAt =>
              obtain ⟨stillRunning, stillCovered⟩ := finished ok errorMessage appliedAt queuedAt
              obtain ⟨sound, covered⟩ := ih stillRunning
              exact ⟨sound, fun before => covered (stillCovered before)⟩
          | aborts appliedAt queuedAt =>
              obtain ⟨stillRunning, stillCovered⟩ := finished true "" appliedAt queuedAt
              exact ⟨sound_inProcessor stillRunning rfl, fun before => stillCovered before⟩

theorem runProcessor_outcome (outcomes : List Applied) {state : State Value}
    (running : state.slots.isRunning) :
    (runProcessor outcomes state).slots.isSound ∧
      (Covered state → Covered (runProcessor outcomes state)) := by
  unfold runProcessor
  split
  case h_1 entry _ =>
    have put : { state with
      inputMessageQueue := entry :: state.inputMessageQueue }.slots.isRunning := running
    exact processMessages_outcome outcomes put
  case h_2 => exact processMessages_outcome outcomes running

theorem receiveInputChannelMessage_outcome (entry : Option (Received Value)) {state : State Value}
    (sound : state.slots.isSound) :
    (receiveInputChannelMessage entry state).slots.isSound ∧
      (Covered state → Covered (receiveInputChannelMessage entry state)) := by
  have pushed : state.inputProcessor.isReady = false →
      ({ state.slots with processor := true }.push .processor).isSound :=
    (Slots.isSound.steady sound).push
  have ready : (state.ready ++ [Job.processor]).filterMap Job.task =
      state.slots.tasks ++ [Task.processor] := by
    rw [List.filterMap_append]
    rfl
  cases entry with
  | none => exact ⟨sound, fun covered => covered⟩
  | some entry =>
      unfold receiveInputChannelMessage State.slots
      dsimp only
      cases processor : state.inputProcessor with
      | ended | waiting =>
          rw [processor] at pushed
          dsimp only
          rw [ready]
          exact ⟨pushed rfl, fun covered => covered⟩
      | queued | applying _ | resuming _ =>
          dsimp only
          rw [State.slots, processor] at sound
          exact ⟨sound, fun covered => covered⟩

theorem onOpen_outcome (id : ℕ) {state : State Value} (sound : state.slots.isSound) :
    (onOpen id state).slots.isSound ∧ (Covered state → Covered (onOpen id state)) := by
  have slots : (setOpen id true state).slots = state.slots := rfl
  obtain ⟨soundNow, willNow⟩ := (Slots.isSound.steady sound).flushNow
  unfold onOpen
  split
  case isTrue =>
    unfold Covered
    rw [slots_flushNow, slots]
    exact ⟨soundNow, fun _ _ => willNow⟩
  case isFalse => exact ⟨sound, fun covered => covered⟩

theorem Accounted.onOpen {held : List (Received Value)} {state : State Value} (id : ℕ)
    (accounted : Accounted held state) : Accounted held (onOpen id state) := by
  have opened : Accounted held (setOpen id true state) :=
    ⟨accounted.once, accounted.numbered, accounted.receipt, accounted.totals⟩
  unfold InputAcks.onOpen
  split
  case isTrue => exact opened.flushNow
  case isFalse => exact accounted

theorem flushNow_inputProcessor (state : State Value) :
    (flushNow state).inputProcessor = state.inputProcessor := by
  obtain ⟨timer, flush, ready, scheduled⟩ := flushNow_eq state
  rw [scheduled]

theorem onOpen_inputProcessor (id : ℕ) (state : State Value) :
    (onOpen id state).inputProcessor = state.inputProcessor := by
  unfold onOpen
  split
  case isTrue => exact flushNow_inputProcessor _
  case isFalse => rfl

theorem registerInputChannel_eq (config : Config) (channel : Channel) (state : State Value) :
    ∃ channels, registerInputChannel config channel state =
      { state with inputChannels := channels } := by
  unfold registerInputChannel
  split
  case isTrue => exact ⟨_, rfl⟩
  case isFalse => split <;> exact ⟨_, rfl⟩

/-- The channels play no part in the invariant. -/
theorem Invariant.inChannels {state : State Value} (invariant : Invariant state)
    (channels : List Channel) : Invariant { state with inputChannels := channels } where
  accounted :=
    have accounted := invariant.accounted
    ⟨accounted.once, accounted.numbered, accounted.receipt, accounted.totals⟩
  sound := invariant.sound

/-- An event of a channel keeps what is covered. -/
theorem runJob_external (config : Config) (attempts : List Attempt) (outcomes : List Applied)
    {state : State Value} (invariant : Invariant state) {job : Job Value}
    (external : job.isExternal) :
    Invariant (runJob config attempts outcomes state job) ∧
      (Covered state → Covered (runJob config attempts outcomes state job)) := by
  cases job with
  | timer | flush | processor => nomatch external
  | received entry =>
      obtain ⟨sound, covered⟩ := receiveInputChannelMessage_outcome entry invariant.sound
      exact ⟨⟨invariant.accounted.receiveInputChannelMessage entry, sound⟩, covered⟩
  | registered channel =>
      obtain ⟨channels, registered⟩ := registerInputChannel_eq config channel state
      unfold runJob
      dsimp only
      rw [registered]
      exact ⟨invariant.inChannels channels, fun covered => covered⟩
  | opened id =>
      obtain ⟨sound, covered⟩ := onOpen_outcome id invariant.sound
      refine ⟨⟨?_, sound⟩, covered⟩
      unfold runJob
      dsimp only
      rw [onOpen_inputProcessor]
      exact invariant.accounted.onOpen id
  | closing id => exact ⟨invariant.inChannels _, fun covered => covered⟩
  | closed id => exact ⟨invariant.inChannels _, fun covered => covered⟩

/-- No flush that fails runs while the timer in the slot is cancelled and has not ended. -/
def CanFlush (config : Config) (state : State Value) : Event Value → Prop
  | .runs attempts _ => state.ready.head? = some .flush → state.inputAckTimer.isDoomed →
      state.allSent config attempts
  | _ => True

theorem runFlush_outcome (config : Config) (attempts : List Attempt) (state : State Value) :
    let flushed := { flushInputAcks config attempts state with inputAckFlush := false }
    (flushed.inputAckQueue = [] ↔ state.allSent config attempts) ∧
      flushed.slots = state.slots.runFlush (!state.allSent config attempts) := by
  obtain ⟨emptied, slots⟩ := flushLoop_outcome config attempts (le_refl state.inputAckQueue.length)
  refine ⟨emptied, ?_⟩
  have flushed : { flushInputAcks config attempts state with inputAckFlush := false }.slots =
    { (flushInputAcks config attempts state).slots with flush := false } := rfl
  dsimp only
  rw [flushed, flushInputAcks, slots, Slots.runFlush]
  cases state.allSent config attempts with
  | true => rfl
  | false => rfl

section Popped

variable {state : State Value} {job : Job Value} {rest : List (Job Value)}

theorem slots_popped {task : Task} (ready : state.ready = job :: rest)
    (isTask : job.task = some task) :
    state.slots.tasks.head? = some task ∧ { state with ready := rest }.slots = state.slots.pop := by
  have tasks : state.slots.tasks = task :: rest.filterMap Job.task := by
    rw [State.slots, ready, List.filterMap_cons_some isTask]
  constructor
  case left => rw [tasks, List.head?_cons]
  case right =>
    rw [Slots.pop, tasks]
    rfl

theorem slots_popped_external (ready : state.ready = job :: rest) (external : job.isExternal) :
    { state with ready := rest }.slots = state.slots := by
  have noTask : job.task = none := by
    cases job with
    | timer | flush | processor => nomatch external
    | received | registered | opened | closing | closed => rfl
  rw [State.slots, State.slots, ready, List.filterMap_cons_none noTask]

theorem step_timer (config : Config) (attempts : List Attempt) (outcomes : List Applied)
    (invariant : Invariant state) (ready : state.ready = .timer :: rest) :
    Invariant (step config state (.runs attempts outcomes)) ∧
      (Covered state → Covered (step config state (.runs attempts outcomes))) := by
  have stepped : step config state (.runs attempts outcomes) =
      runTimer config attempts { state with ready := rest } := by
    simp only [step, ready, runJob]
  obtain ⟨head, popped⟩ := slots_popped ready rfl
  obtain ⟨slots, nonempty⟩ := runTimer_outcome config attempts { state with ready := rest }
  obtain ⟨soundNext, willNext⟩ := (Slots.isSound.steady invariant.sound).timer head
  rw [stepped]
  rw [popped] at slots nonempty
  constructor
  case left =>
    have accounted := (invariant.accounted.inReady rest).runTimer config attempts
    constructor
    case accounted =>
      have processor : (runTimer config attempts { state with ready := rest }).inputProcessor =
          state.inputProcessor := by
        unfold runTimer
        split
        case h_1 => rfl
        case h_2 => exact flushLoop_inputProcessor config _ attempts _
        case h_3 => rfl
      rw [processor]
      exact accounted
    case sound =>
      rw [slots]
      exact soundNext _
  case right =>
    intro covered queued
    obtain ⟨before, slots⟩ := nonempty queued
    rw [slots]
    exact willNext (covered before)

/-- What the flush leaves in the queue is covered unless the timer is a cancelled one. -/
theorem step_flush (config : Config) (attempts : List Attempt) (outcomes : List Applied)
    (invariant : Invariant state) (ready : state.ready = .flush :: rest) :
    Invariant (step config state (.runs attempts outcomes)) ∧
      (Covered (step config state (.runs attempts outcomes)) ↔
        (state.inputAckTimer.isDoomed → state.allSent config attempts)) := by
  have stepped : step config state (.runs attempts outcomes) =
      { flushInputAcks config attempts { state with ready := rest } with
        inputAckFlush := false } := by
    simp only [step, ready, runJob]
  obtain ⟨head, popped⟩ := slots_popped ready rfl
  obtain ⟨emptied, slots⟩ := runFlush_outcome config attempts { state with ready := rest }
  have same : { state with ready := rest }.allSent config attempts =
    state.allSent config attempts := rfl
  rw [popped, same] at slots
  rw [same] at emptied
  obtain ⟨sound, willFlush⟩ := (Slots.isSound.steady invariant.sound).flush head
  rw [stepped]
  constructor
  case left =>
    have accounted := (invariant.accounted.inReady rest).flushInputAcks config attempts
    constructor
    case accounted =>
      have processor :
          (flushInputAcks config attempts { state with ready := rest }).inputProcessor =
            state.inputProcessor :=
        flushLoop_inputProcessor config _ attempts _
      dsimp only
      rw [processor]
      exact ⟨accounted.once, accounted.numbered, accounted.receipt, accounted.totals⟩
    case sound =>
      rw [slots]
      exact sound _
  case right =>
    unfold Covered
    cases sent : state.allSent config attempts with
    | true =>
        rw [sent] at emptied
        exact iff_of_true (fun queued => absurd (emptied.mpr rfl) queued) fun _ => rfl
    | false =>
        rw [sent] at emptied slots
        have queued := fun empty => Bool.false_ne_true (emptied.mp empty)
        rw [slots, Bool.not_false, willFlush]
        have doomed : state.slots.timer.isDoomed = state.inputAckTimer.isDoomed := rfl
        rw [doomed]
        cases state.inputAckTimer.isDoomed with
        | true => simpa using queued
        | false => simp

theorem step_processor (config : Config) (attempts : List Attempt) (outcomes : List Applied)
    (invariant : Invariant state) (ready : state.ready = .processor :: rest) :
    Invariant (step config state (.runs attempts outcomes)) ∧
      (Covered state → Covered (step config state (.runs attempts outcomes))) := by
  have stepped : step config state (.runs attempts outcomes) =
      runProcessor outcomes { state with ready := rest } := by
    simp only [step, ready, runJob]
  obtain ⟨head, popped⟩ := slots_popped ready rfl
  obtain ⟨running, isReady⟩ := (Slots.isSound.steady invariant.sound).processor head
  rw [← popped] at running
  obtain ⟨sound, covered⟩ := runProcessor_outcome outcomes running
  rw [stepped]
  exact ⟨⟨(invariant.accounted.inReady rest).runProcessor outcomes isReady, sound⟩, covered⟩

theorem step_external (config : Config) (attempts : List Attempt) (outcomes : List Applied)
    (invariant : Invariant state) (ready : state.ready = job :: rest) (external : job.isExternal) :
    Invariant (step config state (.runs attempts outcomes)) ∧
      (Covered state → Covered (step config state (.runs attempts outcomes))) := by
  have stepped : step config state (.runs attempts outcomes) =
      runJob config attempts outcomes { state with ready := rest } job := by
    simp only [step, ready]
  have popped := slots_popped_external ready external
  have sound : { state with ready := rest }.slots.isSound := popped ▸ invariant.sound
  obtain ⟨next, covered⟩ := runJob_external config attempts outcomes
    ⟨invariant.accounted.inReady rest, sound⟩ external
  rw [stepped]
  refine ⟨next, fun before => covered fun queued => ?_⟩
  rw [popped]
  exact before queued

end Popped

theorem step_arrives (config : Config) {state : State Value} (job : Job Value)
    (invariant : Invariant state) :
    Invariant (step config state (.arrives job)) ∧
      (Covered state → Covered (step config state (.arrives job))) := by
  unfold step
  dsimp only
  split
  case isFalse => exact ⟨invariant, fun covered => covered⟩
  case isTrue external =>
    have noTask : [job].filterMap Job.task = [] := by
      cases job with
      | timer | flush | processor => nomatch external
      | received | registered | opened | closing | closed => rfl
    have slots : { state with ready := state.ready ++ [job] }.slots = state.slots := by
      rw [State.slots, State.slots, List.filterMap_append, noTask, List.append_nil]
    refine ⟨⟨invariant.accounted.inReady _, ?_⟩, fun covered queued => ?_⟩
    · rw [slots]
      exact invariant.sound
    · rw [slots]
      exact covered queued

theorem step_timeout (config : Config) {state : State Value} (invariant : Invariant state) :
    Invariant (step config state .timeout) ∧
      (Covered state → Covered (step config state .timeout)) := by
  unfold step
  dsimp only
  split
  case isFalse => exact ⟨invariant, fun covered => covered⟩
  case isTrue sleeping =>
    have slots : { state with
        inputAckTimer := .woken false, ready := state.ready ++ [Job.timer] }.slots =
        { state.slots with timer := .woken false }.push .timer := by
      simp [State.slots, Slots.push, Job.task]
    have accounted := invariant.accounted
    refine ⟨⟨⟨accounted.once, accounted.numbered, accounted.receipt, accounted.totals⟩, ?_⟩,
      fun _ _ => ?_⟩
    · rw [slots]
      exact (Slots.isSound.steady invariant.sound).timeout sleeping
    · rw [slots]
      simp [Slots.willFlush, Slots.push]

theorem step_applied (config : Config) {state : State Value} (invariant : Invariant state) :
    Invariant (step config state .applied) ∧
      (Covered state → Covered (step config state .applied)) := by
  unfold step
  dsimp only
  split
  case h_2 => exact ⟨invariant, fun covered => covered⟩
  case h_1 entry applying =>
    have slots : { state with
        inputProcessor := .resuming entry, ready := state.ready ++ [Job.processor] }.slots =
        { state.slots with processor := true }.push .processor := by
      simp [State.slots, Slots.push, Job.task, Processor.isReady]
    have notReady : state.slots.processor = false := by
      rw [State.slots, applying]
      rfl
    refine ⟨⟨?_, ?_⟩, fun covered => covered⟩
    · have accounted := invariant.accounted
      rw [applying] at accounted
      exact ⟨accounted.once, accounted.numbered, accounted.receipt, accounted.totals⟩
    · rw [slots]
      exact (Slots.isSound.steady invariant.sound).push notReady

theorem step_runs (config : Config) {state : State Value} (attempts : List Attempt)
    (outcomes : List Applied) (invariant : Invariant state)
    (notFlush : state.ready.head? ≠ some .flush) :
    Invariant (step config state (.runs attempts outcomes)) ∧
      (Covered state → Covered (step config state (.runs attempts outcomes))) := by
  cases ready : state.ready with
  | nil =>
      have stays : step config state (.runs attempts outcomes) = state := by
        simp only [step, ready]
      rw [stays]
      exact ⟨invariant, fun covered => covered⟩
  | cons job rest =>
      cases external : job.isExternal with
      | true => exact step_external config attempts outcomes invariant ready external
      | false =>
          cases job with
          | timer => exact step_timer config attempts outcomes invariant ready
          | processor => exact step_processor config attempts outcomes invariant ready
          | flush => exact absurd (by rw [ready, List.head?_cons]) notFlush
          | received | registered | opened | closing | closed => nomatch external

/-- Every step keeps the invariant, and what is covered stays covered unless a flush fails at the
wrong time. -/
theorem step_outcome (config : Config) {state : State Value} (event : Event Value)
    (invariant : Invariant state) :
    Invariant (step config state event) ∧
      (Covered state → (Covered (step config state event) ↔ CanFlush config state event)) := by
  have always : ∀ {next : State Value} {condition : Prop}, condition →
      Invariant next ∧ (Covered state → Covered next) →
      Invariant next ∧ (Covered state → (Covered next ↔ condition)) := fun met kept =>
    ⟨kept.1, fun covered => iff_of_true (kept.2 covered) met⟩
  cases event with
  | arrives job => exact always trivial (step_arrives config job invariant)
  | timeout => exact always trivial (step_timeout config invariant)
  | applied => exact always trivial (step_applied config invariant)
  | runs attempts outcomes =>
      by_cases head : state.ready.head? = some .flush
      case pos =>
        obtain ⟨rest, ready⟩ := List.head?_eq_some_iff.mp head
        obtain ⟨next, flushed⟩ := step_flush config attempts outcomes invariant ready
        refine ⟨next, fun _ => flushed.trans ?_⟩
        simp only [CanFlush, head, forall_const]
      case neg =>
        have met : CanFlush config state (.runs attempts outcomes) := fun flush =>
          absurd flush head
        exact always met (step_runs config attempts outcomes invariant head)

/-! ## Runs -/

/-- A timer or a flush that will still run `flush_input_acks`. -/
def WillFlush (state : State Value) : Prop :=
  state.inputAckFlush ∧ .flush ∈ state.ready ∨ state.inputAckTimer = .sleeping ∨
    state.inputAckTimer ∈ [.created false, .woken false] ∧ .timer ∈ state.ready

theorem mem_tasks {state : State Value} {job : Job Value} {task : Task}
    (only : ∀ other : Job Value, other.task = some task ↔ other = job) :
    task ∈ state.slots.tasks ↔ job ∈ state.ready := by
  simp only [State.slots, List.mem_filterMap, only, exists_eq_right]

/-- A task that has been created or woken is in the ready queue. -/
theorem willFlush_iff {state : State Value} (sound : state.slots.isSound) :
    WillFlush state ↔ state.slots.willFlush := by
  have flushReady : .flush ∈ state.slots.tasks ↔ .flush ∈ state.ready :=
    mem_tasks fun other => by cases other <;> simp [Job.task]
  have timerReady : .timer ∈ state.slots.tasks ↔ .timer ∈ state.ready :=
    mem_tasks fun other => by cases other <;> simp [Job.task]
  simp only [Slots.isSound, Bool.and_eq_true, beq_iff_eq] at sound
  obtain ⟨⟨⟨⟨⟨⟨_, timer⟩, flush⟩, _⟩, _⟩, _⟩, _⟩ := sound
  have flushes : state.inputAckFlush = true → .flush ∈ state.ready := by
    intro created
    rw [← flushReady]
    exact of_decide_eq_true (flush.symm.trans created)
  have waits : state.inputAckTimer.isReady = true → .timer ∈ state.ready := by
    intro created
    rw [← timerReady]
    exact of_decide_eq_true (timer.symm.trans created)
  have slots : state.slots.willFlush =
    (state.inputAckFlush || state.inputAckTimer ∈ [.created false, .sleeping, .woken false]) := rfl
  rw [slots, WillFlush, Bool.or_eq_true, decide_eq_true_eq, and_iff_left_of_imp flushes]
  apply or_congr_right
  cases slot : state.inputAckTimer with
  | ended | sleeping => simp
  | created cancelled | woken cancelled =>
      rw [slot] at waits
      simp [waits rfl]

/-- Every message is acknowledged once and in order, and the acknowledgements get sent. -/
structure Acknowledged (state : State Value) : Prop where
  once : List.Forall₂ Ack.IsOf state.acks (state.processed.filter Received.isAnswered)
  increasing : (state.acks.map Ack.workerSeq).Pairwise (· < ·)
  receipt : state.processed <+: state.received
  totals : state.inputAckTotalQueued = state.inputAckTotalSent + state.inputAckQueue.length
  scheduled : state.inputAckQueue ≠ [] → WillFlush state

theorem acknowledged_iff {state : State Value} (invariant : Invariant state) :
    Acknowledged state ↔ Covered state := by
  constructor
  case mp => exact fun acknowledged queued =>
    (willFlush_iff invariant.sound).mp (acknowledged.scheduled queued)
  case mpr =>
    intro covered
    have accounted := invariant.accounted
    constructor
    case once => exact accounted.once
    case increasing =>
      rw [accounted.numbered]
      exact List.pairwise_lt_range'
    case receipt =>
      rw [← accounted.receipt, List.append_assoc]
      exact List.prefix_append ..
    case totals => exact accounted.totals
    case scheduled => exact fun queued => (willFlush_iff invariant.sound).mpr (covered queued)

/-- Every state of a run acknowledges what was processed exactly when no flush fails while the
timer in its slot is a cancelled one. -/
theorem inputs_acknowledged_iff (config : Config) (events : List (Event Value)) :
    (∀ earlier, earlier <+: events →
        Acknowledged (Runs.run (step config) State.start earlier)) ↔
      Runs.Throughout (step config) State.start (CanFlush config) events := by
  have start : Acknowledged (State.start : State Value) :=
    (acknowledged_iff invariant_start).mpr fun queued => absurd rfl queued
  have kept : ∀ (state : State Value) event, Invariant state →
      Invariant (step config state event) :=
    fun _ event invariant => (step_outcome config event invariant).1
  apply Runs.always_iff_throughout invariant_start kept start
  intro state event invariant acknowledged
  rw [acknowledged_iff (kept state event invariant)]
  exact (step_outcome config event invariant).2 ((acknowledged_iff invariant).mp acknowledged)

/-- The names of the channels where the environment gives no others. -/
def defaultConfig : Config := ⟨"input-pointer", "input-control"⟩

/-- Three input channels, of which the first opens and carries a message.  The others open before
and after the message is processed, and then no channel takes the acknowledgement. -/
def failingRun : List (Event ℕ) :=
  let runs : Event ℕ := .runs [] []
  [.arrives (.registered ⟨0, "input", false⟩),
    .arrives (.registered ⟨1, "input-pointer", false⟩),
    .arrives (.registered ⟨2, "input-control", false⟩),
    .arrives (.opened 0), runs, runs, runs, runs,
    -- the flush for the first channel finds an empty queue
    runs,
    .arrives (.received (some ⟨⟨"pointer.move", some (some 1), none, none⟩, "input", 0⟩)),
    .arrives (.opened 1), runs, .arrives (.opened 2),
    -- the flush is created, then the timer, which the second opening cancels
    runs, .runs [] [.returns true "" 0 0], runs,
    -- the flush fails, and the timer ends
    runs, runs]

theorem failingRun_notAcknowledged :
    ¬ Acknowledged (Runs.run (step defaultConfig) State.start failingRun) := by
  intro acknowledged
  have queued : (Runs.run (step defaultConfig) State.start failingRun).inputAckQueue ≠ [] := by
    apply List.ne_nil_of_length_pos
    decide
  have ended : (Runs.run (step defaultConfig) State.start failingRun).inputAckTimer = .ended := by
    decide
  have flushed : (Runs.run (step defaultConfig) State.start failingRun).inputAckFlush = false := by
    decide
  have will := acknowledged.scheduled queued
  rw [WillFlush, ended, flushed] at will
  simp at will

end RemoteBrowser.InputAcks
