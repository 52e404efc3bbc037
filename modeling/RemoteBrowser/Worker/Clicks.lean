import RemoteBrowser.Events.Machine
import RemoteBrowser.Worker.Pointer

/-!
# Where clicks land

The viewer page, the two kinds of input channel and the worker as one machine. The control
channel delivers in order; a message on another channel may be lost or arrive at any time.
The worker takes a message only when it has finished the one before, and the task that applies
noted positions runs at any time in between.
-/

namespace RemoteBrowser.Worker

open Viewer

/-- The replay of the click that led to the viewer page: not yet made, pressed, released. -/
inductive ReplayPhase where
  | pending
  | pressed
  | released
  deriving DecidableEq

structure InputSession where
  viewer : InputState
  replay : ReplayPhase
  controlChannel : List Envelope
  otherChannels : List Envelope
  worker : InputWorker

inductive InputAction where
  | viewer (turn : Turn)
  | replayClick (page : Page) (x y : ℚ)
  | replayRelease (page : Page)
  | deliverControl
  | deliverOther (index : ℕ)
  | loseOther (index : ℕ)
  -- the worker takes a message, goes on after its wait, applies a noted position
  | take
  | resume
  | flush

/-- The callback of `scheduleHybridHandoffReplayClick`: a reliable move and a press without
coordinates. -/
def replayClick (page : Page) (x y : ℚ) (state : InputState) : InputState :=
  sendInput page (.pointerButton .down 0 none) true
    (sendReliablePointerSync page ⟨max 0 (mathRound x), max 0 (mathRound y)⟩ state)

/-- The callback that releases the replayed click. -/
def replayRelease (page : Page) (state : InputState) : InputState :=
  sendInput page (.pointerButton .up 0 none) true state

/-- What the viewer has sent since it was last looked at goes onto its channels. -/
def InputSession.post (session : InputSession) (viewer : InputState) : InputSession :=
  let envelopes := viewer.sent.drop session.viewer.sent.length
  { session with
    viewer
    controlChannel :=
      session.controlChannel ++ envelopes.filter fun envelope => envelope.channel = .control
    otherChannels :=
      session.otherChannels ++ envelopes.filter fun envelope => envelope.channel ≠ .control }

def InputSession.receive (session : InputSession) (envelope : Envelope) : InputSession :=
  { session with
    worker :=
      { session.worker with
        inputMessageQueue := session.worker.inputMessageQueue ++ [envelope] } }

def inputStep (settings : InputSettings) (session : InputSession) :
    InputAction → Option InputSession
  | .viewer turn => some (session.post (handle turn.page turn.event session.viewer))
  | .replayClick page x y =>
      if session.replay = .pending ∧
          (chooseViewerInputChannel (.pointerButton .down 0 none) page.channels true).isSome then
        some { session.post (replayClick page x y session.viewer) with replay := .pressed }
      else none
  | .replayRelease page =>
      if session.replay = .pressed then
        some { session.post (replayRelease page session.viewer) with replay := .released }
      else none
  | .deliverControl =>
      match session.controlChannel with
      | [] => none
      | envelope :: rest => some { session.receive envelope with controlChannel := rest }
  | .deliverOther index =>
      match session.otherChannels[index]? with
      | none => none
      | some envelope =>
          some { session.receive envelope with
            otherChannels := session.otherChannels.eraseIdx index }
  | .loseOther index =>
      some { session with otherChannels := session.otherChannels.eraseIdx index }
  | .take =>
      match session.worker.waiting, session.worker.inputMessageQueue with
      | none, envelope :: rest =>
          some { session with
            worker :=
              handleInput settings envelope { session.worker with inputMessageQueue := rest } }
      | _, _ => none
  | .resume =>
      match session.worker.waiting with
      | none => none
      | some waiting => some { session with worker := resumeInput settings waiting session.worker }
  | .flush =>
      if session.worker.pointerMoveTask then
        some { session with worker := flushPointerMoves session.worker }
      else none

def inputMachine (settings : InputSettings) : Machine InputSession InputAction where
  initial :=
    { viewer := InputState.initial
      replay := .pending
      controlChannel := []
      otherChannels := []
      worker := InputWorker.initial settings }
  step := inputStep settings

/-! ## Where a click should land -/

/-- The position that a pointer message asks for. -/
def pointing (settings : InputSettings) (envelope : Envelope) : Option Point :=
  match envelope.message with
  | .pointerMove _ | .pointerButton _ _ _ =>
      pointerCoordinatesFromMessage settings envelope.message
  | _ => none

/-- The last pointer message that was sent before a message. -/
def lastPointing (settings : InputSettings) (sent : List Envelope) (cause : Envelope) :
    Option Placement :=
  latest (fun envelope : Envelope =>
    if envelope.seq < cause.seq then
      (pointing settings envelope).map fun point => ⟨point, envelope.seq⟩
    else none) sent

/-- The coordinates of the message, or those of the last pointer message sent before it. -/
def intended (settings : InputSettings) (sent : List Envelope) (cause : Envelope) : Option Point :=
  (pointerCoordinatesFromMessage settings cause.message).or
    ((lastPointing settings sent cause).map Placement.point)

/-- A button or wheel click happens where it should. -/
def PointerEvent.Aimed (settings : InputSettings) (sent : List Envelope) : PointerEvent → Prop
  | .queued _ | .moved _ => True
  | .button _ _ pointer cause | .wheel _ _ pointer cause =>
      ∀ point ∈ intended settings sent cause, pointer = point

/-- The positions that have been applied. -/
def PointerEvent.applied : PointerEvent → Option Placement
  | .moved placement => some placement
  | _ => none

/-- The positions that the worker has taken from messages, applied or only noted. -/
def PointerEvent.taken : PointerEvent → Option Placement
  | .queued placement => some placement
  | .moved placement => some placement
  | _ => none

/-- Every click lands where it should, and no position is applied after one that the viewer
sent later. -/
structure InputSession.OnTarget (settings : InputSettings) (session : InputSession) : Prop where
  aimed : ∀ event ∈ session.worker.log, event.Aimed settings session.viewer.sent
  ordered : (session.worker.log.filterMap PointerEvent.applied).Pairwise
    fun first second => first.seq ≤ second.seq

/-- The message that a click is caused by. -/
def PointerEvent.cause : PointerEvent → Option Envelope
  | .button _ _ _ cause | .wheel _ _ _ cause => some cause
  | .queued _ | .moved _ => none

def Waiting.cause : Waiting → Option Envelope
  | .button cause _ _ | .wheel cause _ _ => some cause
  | .elsewhere => none

/-! ## When they do -/

/-- No position of a later message has been applied. -/
def InputWorker.Current (worker : InputWorker) (seq : ℕ) : Prop :=
  ∀ placement ∈ worker.log.filterMap PointerEvent.applied, placement.seq ≤ seq

/-- A click with a position of its own goes ahead while no position of a later message has been
applied. When one without goes ahead, no position is only noted, and the last one taken is that
of the last pointer message sent before it; when a wheel click goes ahead, none is only noted and
the last one taken is the wheel's. -/
def Waiting.Steady (settings : InputSettings) (session : InputSession) : Waiting → Prop
  | .button cause _ _ =>
      (pointerCoordinatesFromMessage settings cause.message ≠ none →
        session.worker.Current cause.seq) ∧
      (pointerCoordinatesFromMessage settings cause.message = none →
        session.worker.pendingPointerPosition = none ∧
          (latest PointerEvent.taken session.worker.log).map Placement.seq =
            (lastPointing settings session.viewer.sent cause).map Placement.seq)
  | .wheel cause _ _ =>
      session.worker.pendingPointerPosition = none ∧
        ∃ placement ∈ latest PointerEvent.taken session.worker.log,
          pointerCoordinatesFromMessage settings cause.message = some placement.point
  | .elsewhere => True

/-- The condition on a step: a move is taken from the queue only while no position of a later
message has been applied, and clicks go ahead steadily. -/
def Steady (settings : InputSettings) (session : InputSession) : InputAction → Prop
  | .take =>
      ∀ envelope ∈ session.worker.inputMessageQueue.head?, envelope.message.isPointerMove →
        session.worker.Current envelope.seq
  | .resume => ∀ waiting ∈ session.worker.waiting, waiting.Steady settings session
  | _ => True

instance (settings : InputSettings) (sent : List Envelope) (event : PointerEvent) :
    Decidable (event.Aimed settings sent) :=
  match event with
  | .queued _ | .moved _ => inferInstanceAs (Decidable True)
  | .button _ _ _ _ | .wheel _ _ _ _ => inferInstanceAs (Decidable (∀ point ∈ _, _))

instance (worker : InputWorker) (seq : ℕ) : Decidable (worker.Current seq) :=
  inferInstanceAs (Decidable (∀ placement ∈ _, _))

instance (settings : InputSettings) (session : InputSession) (waiting : Waiting) :
    Decidable (waiting.Steady settings session) :=
  match waiting with
  | .button _ _ _ => inferInstanceAs (Decidable ((_ → _) ∧ (_ → _)))
  | .wheel _ _ _ => inferInstanceAs (Decidable (_ ∧ ∃ placement ∈ _, _))
  | .elsewhere => inferInstanceAs (Decidable True)

instance (settings : InputSettings) (session : InputSession) (action : InputAction) :
    Decidable (Steady settings session action) :=
  match action with
  | .take => inferInstanceAs (Decidable (∀ envelope ∈ _, _ → _))
  | .resume => inferInstanceAs (Decidable (∀ waiting ∈ _, _))
  | .viewer _ | .replayClick _ _ _ | .replayRelease _ | .deliverControl | .deliverOther _
  | .loseOther _ | .flush => inferInstanceAs (Decidable True)

/-! ## The worker -/

/-- The noted position is the last one taken; when none is noted the pointer is where the last
one taken says. -/
structure InputWorker.Consistent (worker : InputWorker) : Prop where
  noted : ∀ placement, worker.pendingPointerPosition = some placement →
    latest PointerEvent.taken worker.log = some placement ∧ worker.Current placement.seq
  settled : worker.pendingPointerPosition = none →
    latest PointerEvent.taken worker.log = latest PointerEvent.applied worker.log
  placed : ∀ placement, latest PointerEvent.applied worker.log = some placement →
    worker.pointer = placement.point
  ordered : (worker.log.filterMap PointerEvent.applied).Pairwise
    fun first second => first.seq ≤ second.seq

section Workers

variable {worker next : InputWorker} {placement : Placement}

theorem InputWorker.Consistent.of_eq (consistent : worker.Consistent)
    (pending : next.pendingPointerPosition = worker.pendingPointerPosition)
    (pointer : next.pointer = worker.pointer) (log : next.log = worker.log) :
    next.Consistent := by
  obtain ⟨noted, settled, placed, ordered⟩ := consistent
  constructor
  · simpa only [InputWorker.Current, pending, log] using noted
  · simpa only [pending, log] using settled
  · simpa only [pointer, log] using placed
  · simpa only [log] using ordered

theorem InputWorker.Consistent.click (consistent : worker.Consistent) {event : PointerEvent}
    (noPlace : event.taken = none) : (worker.record event).Consistent := by
  have noMove : event.applied = none := by
    cases event <;> simp_all [PointerEvent.taken, PointerEvent.applied]
  obtain ⟨noted, settled, placed, ordered⟩ := consistent
  constructor
  · simpa [InputWorker.Current, InputWorker.record, noPlace, noMove] using noted
  · simpa [InputWorker.record, noPlace, noMove] using settled
  · simpa [InputWorker.record, noMove] using placed
  · simpa [InputWorker.record, noMove] using ordered

theorem InputWorker.Consistent.queue (consistent : worker.Consistent)
    (current : worker.Current placement.seq) :
    (queuePointerMove placement worker).Consistent := by
  constructor
  · intro noted isNoted
    obtain rfl : placement = noted := by simpa [queuePointerMove, InputWorker.record] using isNoted
    exact ⟨by simp [queuePointerMove, InputWorker.record, PointerEvent.taken],
      by simpa [queuePointerMove, InputWorker.record, InputWorker.Current,
        PointerEvent.applied] using current⟩
  · intro isNone
    simp [queuePointerMove, InputWorker.record] at isNone
  · simpa [queuePointerMove, InputWorker.record, PointerEvent.applied] using consistent.placed
  · simpa [queuePointerMove, InputWorker.record, PointerEvent.applied, List.filterMap_cons]
      using consistent.ordered

theorem InputWorker.Consistent.move (consistent : worker.Consistent)
    (current : worker.Current placement.seq) :
    (movePointer placement { worker with pendingPointerPosition := none }).Consistent := by
  constructor
  · intro noted isNoted
    simp [movePointer, InputWorker.record] at isNoted
  · intro
    simp [movePointer, InputWorker.record, PointerEvent.taken, PointerEvent.applied]
  · intro last isLast
    obtain rfl : placement = last := by
      simpa [movePointer, InputWorker.record, PointerEvent.applied] using isLast
    rfl
  · simp only [movePointer, InputWorker.record, PointerEvent.applied, List.filterMap_append,
      List.filterMap_cons, List.filterMap_nil, List.pairwise_append, List.pairwise_singleton,
      List.mem_singleton, true_and]
    refine ⟨consistent.ordered, ?_⟩
    rintro earlier isEarlier _ rfl
    exact current earlier isEarlier

theorem InputWorker.Consistent.flush (consistent : worker.Consistent) :
    (flushPointerMoves worker).Consistent := by
  unfold flushPointerMoves
  split
  case h_1 placement noted => exact consistent.move (consistent.noted placement noted).2
  case h_2 => exact consistent.of_eq rfl rfl rfl

/-- With nothing noted the pointer is at the last position taken from a message. -/
theorem InputWorker.Consistent.pointer_eq (consistent : worker.Consistent)
    (settled : worker.pendingPointerPosition = none)
    (last : latest PointerEvent.taken worker.log = some placement) :
    worker.pointer = placement.point :=
  consistent.placed placement (consistent.settled settled ▸ last)

end Workers

section Steps

variable {settings : InputSettings} {before after : InputSession} {action : InputAction}

theorem consistent_handleInput {worker : InputWorker} (consistent : worker.Consistent)
    {envelope : Envelope}
    (current : envelope.message.isPointerMove → worker.Current envelope.seq) :
    (handleInput settings envelope worker).Consistent := by
  unfold handleInput
  split
  case h_1 payload move =>
      split
      · exact consistent.queue (current (by simp [move, InputMessage.isPointerMove]))
      · exact consistent
  case h_2 => split <;> exact consistent.of_eq rfl rfl rfl
  case h_3 payload _ =>
      obtain ⟨remainder, same⟩ | ⟨remainder, button, clicks, waits⟩ :=
        handleWheel_cases settings envelope payload worker
      · rw [same]
        exact consistent.of_eq rfl rfl rfl
      · rw [waits]
        exact consistent.of_eq rfl rfl rfl
  case h_4 => exact consistent.of_eq rfl rfl rfl
  case h_5 => exact consistent.of_eq rfl rfl rfl

theorem consistent_resumeInput {worker : InputWorker} (consistent : worker.Consistent)
    {waiting : Waiting}
    (current : ∀ cause button pressed point, waiting = .button cause button pressed →
      pointerCoordinatesFromMessage settings cause.message = some point →
      worker.Current cause.seq) :
    (resumeInput settings waiting worker).Consistent := by
  have free : ({ worker with waiting := none } : InputWorker).Consistent :=
    consistent.of_eq rfl rfl rfl
  unfold resumeInput
  dsimp only
  cases waiting with
  | button cause button pressed =>
      refine InputWorker.Consistent.click ?_ rfl
      split
      case h_1 point found => exact free.move (current cause button pressed point rfl found)
      case h_2 => exact free
  | wheel cause button clicks =>
      refine InputWorker.Consistent.click ?_ rfl
      exact consistent.of_eq rfl rfl rfl
  | elsewhere => exact free

/-- What an action can do: the viewer posts messages, messages are lost or delivered, and the
three steps of the worker. -/
inductive InputStep (settings : InputSettings) (before : InputSession) :
    InputAction → InputSession → Prop where
  | post {action : InputAction} (viewer : InputState) (replay : ReplayPhase)
      (sends : Sends (fun _ => True) before.viewer viewer) :
      InputStep settings before action { before.post viewer with replay }
  | lose {action : InputAction} (others : List Envelope) (fewer : others ⊆ before.otherChannels) :
      InputStep settings before action { before with otherChannels := others }
  | receive {action : InputAction} (envelope : Envelope) (control others : List Envelope)
      (inFlight : envelope ∈ before.controlChannel ∨ envelope ∈ before.otherChannels)
      (fewer : control ⊆ before.controlChannel) (fewerOthers : others ⊆ before.otherChannels) :
      InputStep settings before action
        { before.receive envelope with controlChannel := control, otherChannels := others }
  | take (envelope : Envelope) (rest : List Envelope)
      (queue : before.worker.inputMessageQueue = envelope :: rest) :
      InputStep settings before .take
        { before with
          worker :=
            handleInput settings envelope { before.worker with inputMessageQueue := rest } }
  | resume (waiting : Waiting) (isWaiting : before.worker.waiting = some waiting) :
      InputStep settings before .resume
        { before with worker := resumeInput settings waiting before.worker }
  | flush : InputStep settings before .flush { before with worker := flushPointerMoves before.worker }

theorem inputStep_of_step (taken : inputStep settings before action = some after) :
    InputStep settings before action after := by
  cases action with
  | viewer turn =>
      obtain rfl : _ = after := by simpa [inputStep] using taken
      exact .post _ before.replay ((sends_handle turn.event).mono fun _ _ => trivial)
  | replayClick page x y =>
      simp only [inputStep] at taken
      split at taken
      case isFalse => simp at taken
      case isTrue =>
          obtain rfl : _ = after := by simpa using taken
          exact .post _ _ ((sends_sendReliablePointerSync _ trivial).trans
            (sends_sendInput trivial true))
  | replayRelease page =>
      simp only [inputStep] at taken
      split at taken
      case isFalse => simp at taken
      case isTrue =>
          obtain rfl : _ = after := by simpa using taken
          exact .post _ _ (sends_sendInput trivial true)
  | deliverControl =>
      simp only [inputStep] at taken
      split at taken
      case h_1 => simp at taken
      case h_2 envelope rest channel =>
          obtain rfl : _ = after := by simpa using taken
          exact .receive envelope rest before.otherChannels (.inl (by simp [channel]))
            (by simp [channel]) (fun _ mem => mem)
  | deliverOther index =>
      simp only [inputStep] at taken
      split at taken
      case h_1 => simp at taken
      case h_2 envelope channel =>
          obtain rfl : _ = after := by simpa using taken
          exact .receive envelope before.controlChannel _ (.inr (List.mem_of_getElem? channel))
            (fun _ mem => mem) (List.eraseIdx_subset ..)
  | loseOther index =>
      obtain rfl : _ = after := by simpa [inputStep] using taken
      exact .lose _ (List.eraseIdx_subset ..)
  | take =>
      simp only [inputStep] at taken
      split at taken
      case h_2 => simp at taken
      case h_1 envelope rest idle queue =>
          obtain rfl : _ = after := by simpa using taken
          exact .take envelope rest queue
  | resume =>
      simp only [inputStep] at taken
      split at taken
      case h_1 => simp at taken
      case h_2 waiting isWaiting =>
          obtain rfl : _ = after := by simpa using taken
          exact .resume waiting isWaiting
  | flush =>
      simp only [inputStep] at taken
      split at taken
      case isFalse => simp at taken
      case isTrue =>
          obtain rfl : _ = after := by simpa using taken
          exact .flush

/-- A steady step leaves the worker consistent. -/
theorem consistent_of_step (consistent : before.worker.Consistent)
    (steady : Steady settings before action) (step : InputStep settings before action after) :
    after.worker.Consistent := by
  cases step with
  | post viewer replay sends => exact consistent
  | lose others fewer => exact consistent
  | receive envelope control others => exact consistent.of_eq rfl rfl rfl
  | take envelope rest queue =>
      have ready : ({ before.worker with inputMessageQueue := rest } : InputWorker).Consistent :=
        consistent.of_eq rfl rfl rfl
      refine consistent_handleInput ready fun isMove => ?_
      exact steady envelope (by simp [queue]) isMove
  | resume waiting isWaiting =>
      refine consistent_resumeInput consistent ?_
      rintro cause button pressed point rfl found
      exact (steady _ isWaiting).1 (by simp [found])
  | flush => exact consistent.flush

end Steps

/-! ## Where the positions come from -/

/-- A position that a message asks for. -/
def Sourced (settings : InputSettings) (sent : List Envelope) (placement : Placement) : Prop :=
  ∃ envelope ∈ sent, envelope.seq = placement.seq ∧
    pointerCoordinatesFromMessage settings envelope.message = some placement.point

/-- Everything at the worker goes back to a message that was sent. -/
structure InputWorker.Accounted (settings : InputSettings) (sent : List Envelope)
    (worker : InputWorker) : Prop where
  queue : worker.inputMessageQueue ⊆ sent
  waits : ∀ cause, worker.waiting.bind Waiting.cause = some cause → cause ∈ sent
  sources : ∀ event ∈ worker.log, ∀ placement, event.taken = some placement →
    Sourced settings sent placement
  causes : ∀ event ∈ worker.log, ∀ cause, event.cause = some cause → cause ∈ sent

section Accounts

variable {settings : InputSettings} {sent : List Envelope} {worker next : InputWorker}

theorem InputWorker.Accounted.mono {more : List Envelope}
    (accounted : worker.Accounted settings sent) (grows : sent ⊆ more) :
    worker.Accounted settings more := by
  obtain ⟨queue, waits, sources, causes⟩ := accounted
  refine ⟨fun _ mem => grows (queue mem), fun cause held => grows (waits cause held), ?_,
    fun event mem cause held => grows (causes event mem cause held)⟩
  intro event mem placement taken
  obtain ⟨envelope, isSent, source⟩ := sources event mem placement taken
  exact ⟨envelope, grows isSent, source⟩

/-- The accounts of a worker that has recorded one more event. -/
theorem InputWorker.Accounted.record (accounted : worker.Accounted settings sent)
    {event : PointerEvent}
    (source : ∀ placement, event.taken = some placement → Sourced settings sent placement)
    (cause : ∀ cause, event.cause = some cause → cause ∈ sent) :
    (worker.record event).Accounted settings sent := by
  refine ⟨accounted.queue, accounted.waits, ?_, ?_⟩
  · intro entry mem
    rcases List.mem_append.mp mem with old | new
    · exact accounted.sources entry old
    · rw [List.mem_singleton.mp new]
      exact source
  · intro entry mem
    rcases List.mem_append.mp mem with old | new
    · exact accounted.causes entry old
    · rw [List.mem_singleton.mp new]
      exact cause

/-- The accounts are about the queue, the wait and the log only. -/
theorem InputWorker.Accounted.of_eq (accounted : worker.Accounted settings sent)
    (queue : next.inputMessageQueue ⊆ sent)
    (waits : ∀ cause, next.waiting.bind Waiting.cause = some cause → cause ∈ sent)
    (log : next.log = worker.log) : next.Accounted settings sent :=
  ⟨queue, waits, by rw [log]; exact accounted.sources, by rw [log]; exact accounted.causes⟩

theorem InputWorker.Accounted.place (accounted : worker.Accounted settings sent)
    {placement : Placement} (source : Sourced settings sent placement) :
    (movePointer placement { worker with pendingPointerPosition := none }).Accounted
      settings sent := by
  refine InputWorker.Accounted.record ?_ ?_ (by simp [PointerEvent.cause])
  · exact accounted.of_eq accounted.queue accounted.waits rfl
  · rintro _ ⟨⟩
    exact source

theorem accounted_handleInput (accounted : worker.Accounted settings sent) {envelope : Envelope}
    (isSent : envelope ∈ sent) : (handleInput settings envelope worker).Accounted settings sent := by
  unfold handleInput
  split
  case h_1 payload move =>
      split
      case h_2 => exact accounted
      case h_1 point found =>
          refine InputWorker.Accounted.record ?_ ?_ (by simp [PointerEvent.cause])
          · exact accounted.of_eq accounted.queue accounted.waits rfl
          · rintro _ ⟨⟩
            exact ⟨envelope, isSent, rfl, found⟩
  case h_2 =>
      split
      · exact accounted.of_eq accounted.queue (by simpa [Waiting.cause] using isSent) rfl
      · exact accounted
  case h_3 payload _ =>
      obtain ⟨remainder, same⟩ | ⟨remainder, button, clicks, waits⟩ :=
        handleWheel_cases settings envelope payload worker
      · rw [same]
        exact accounted.of_eq accounted.queue accounted.waits rfl
      · rw [waits]
        exact accounted.of_eq accounted.queue (by simpa [Waiting.cause] using isSent) rfl
  case h_4 => exact accounted.of_eq accounted.queue (by simp [Waiting.cause]) rfl
  case h_5 => exact accounted.of_eq accounted.queue (by simp [Waiting.cause]) rfl

theorem accounted_resumeInput (accounted : worker.Accounted settings sent) {waiting : Waiting}
    (isWaiting : worker.waiting = some waiting) :
    (resumeInput settings waiting worker).Accounted settings sent := by
  have free : ({ worker with waiting := none } : InputWorker).Accounted settings sent :=
    accounted.of_eq accounted.queue (by simp) rfl
  have isSent {cause : Envelope} (held : waiting.cause = some cause) : cause ∈ sent :=
    accounted.waits cause (by simp [isWaiting, held])
  unfold resumeInput
  dsimp only
  cases waiting with
  | button cause button pressed =>
      refine InputWorker.Accounted.record ?_ (by simp [PointerEvent.taken]) ?_
      · split
        case h_1 point found =>
            exact free.place ⟨cause, isSent rfl, rfl, found⟩
        case h_2 => exact free
      · rintro _ ⟨⟩
        exact isSent rfl
  | wheel cause button clicks =>
      refine InputWorker.Accounted.record ?_ (by simp [PointerEvent.taken]) ?_
      · exact accounted.of_eq accounted.queue (by simp) rfl
      · rintro _ ⟨⟩
        exact isSent rfl
  | elsewhere => exact free

end Accounts

/-- Every message on its way was sent, and messages are numbered as they are sent. -/
structure InputSession.Accounted (settings : InputSettings) (session : InputSession) : Prop where
  count : session.viewer.inputSeq = session.viewer.sent.length
  numbers : session.viewer.sent.map Envelope.seq = List.range' 1 session.viewer.sent.length
  control : session.controlChannel ⊆ session.viewer.sent
  others : session.otherChannels ⊆ session.viewer.sent
  worker : session.worker.Accounted settings session.viewer.sent

section Sessions

variable {settings : InputSettings} {before after session : InputSession} {action : InputAction}

theorem InputSession.Accounted.seq_le (accounted : session.Accounted settings)
    {envelope : Envelope} (isSent : envelope ∈ session.viewer.sent) :
    envelope.seq ≤ session.viewer.inputSeq := by
  have mem : envelope.seq ∈ session.viewer.sent.map Envelope.seq := List.mem_map_of_mem isSent
  rw [accounted.numbers, List.mem_range'_1] at mem
  have count := accounted.count
  omega

/-- A message is known by its number. -/
theorem InputSession.Accounted.eq_of_seq (accounted : session.Accounted settings)
    {first second : Envelope} (isFirst : first ∈ session.viewer.sent)
    (isSecond : second ∈ session.viewer.sent) (same : first.seq = second.seq) :
    first = second := by
  have distinct : (session.viewer.sent.map Envelope.seq).Nodup := by
    rw [accounted.numbers]
    exact List.nodup_range'
  exact List.inj_on_of_nodup_map distinct isFirst isSecond same

theorem InputSession.Accounted.post (accounted : session.Accounted settings)
    {viewer : InputState} (sends : Sends (fun _ => True) session.viewer viewer) :
    (session.post viewer).Accounted settings := by
  obtain ⟨envelopes, sent, -, count, numbers⟩ := sends
  have grows : session.viewer.sent ⊆ viewer.sent := by
    rw [sent]
    exact List.subset_append_left ..
  have posted : viewer.sent.drop session.viewer.sent.length ⊆ viewer.sent :=
    (List.drop_sublist ..).subset
  have total := accounted.count
  constructor
  · simp only [InputSession.post, sent, List.length_append]
    omega
  · simp only [InputSession.post, sent, List.map_append, accounted.numbers, numbers,
      List.length_append, ← List.range'_append_1, total]
    rw [Nat.add_comm 1]
  · refine List.append_subset.mpr ⟨fun _ mem => grows (accounted.control mem), ?_⟩
    exact fun _ mem => posted (List.mem_of_mem_filter mem)
  · refine List.append_subset.mpr ⟨fun _ mem => grows (accounted.others mem), ?_⟩
    exact fun _ mem => posted (List.mem_of_mem_filter mem)
  · exact accounted.worker.mono grows

theorem accounted_of_step (accounted : before.Accounted settings)
    (consistent : before.worker.Consistent) (step : InputStep settings before action after) :
    after.Accounted settings := by
  cases step with
  | post viewer replay sends =>
      obtain ⟨count, numbers, control, others, worker⟩ := accounted.post sends
      exact ⟨count, numbers, control, others, worker⟩
  | lose others fewer =>
      exact ⟨accounted.count, accounted.numbers, accounted.control,
        fun _ mem => accounted.others (fewer mem), accounted.worker⟩
  | receive envelope control others inFlight fewer fewerOthers =>
      refine ⟨accounted.count, accounted.numbers, fun _ mem => accounted.control (fewer mem),
        fun _ mem => accounted.others (fewerOthers mem), ?_⟩
      have isSent : envelope ∈ before.viewer.sent :=
        inFlight.elim (fun mem => accounted.control mem) fun mem => accounted.others mem
      refine accounted.worker.of_eq ?_ accounted.worker.waits rfl
      exact List.append_subset.mpr ⟨accounted.worker.queue, by simpa using isSent⟩
  | take envelope rest queue =>
      refine ⟨accounted.count, accounted.numbers, accounted.control, accounted.others, ?_⟩
      have known := accounted.worker.queue
      rw [queue, List.cons_subset] at known
      have ready : ({ before.worker with inputMessageQueue := rest } : InputWorker).Accounted
          settings before.viewer.sent :=
        accounted.worker.of_eq known.2 accounted.worker.waits rfl
      exact accounted_handleInput ready known.1
  | resume waiting isWaiting =>
      exact ⟨accounted.count, accounted.numbers, accounted.control, accounted.others,
        accounted_resumeInput accounted.worker isWaiting⟩
  | flush =>
      refine ⟨accounted.count, accounted.numbers, accounted.control, accounted.others, ?_⟩
      simp only [flushPointerMoves]
      split
      case h_2 =>
          exact accounted.worker.of_eq accounted.worker.queue accounted.worker.waits rfl
      case h_1 placement noted =>
          obtain ⟨event, mem, taken⟩ := exists_of_latest (consistent.noted placement noted).1
          exact accounted.worker.place (accounted.worker.sources event mem placement taken)

/-! ## Clicks -/

/-- Later messages do not change where a click should have landed. -/
theorem intended_post {viewer : InputState} (accounted : session.Accounted settings)
    (sends : Sends (fun _ => True) session.viewer viewer) {cause : Envelope}
    (isSent : cause ∈ session.viewer.sent) :
    intended settings viewer.sent cause = intended settings session.viewer.sent cause := by
  obtain ⟨envelopes, sent, -, -, numbers⟩ := sends
  have later : ∀ envelope ∈ envelopes, ¬ envelope.seq < cause.seq := by
    intro envelope mem
    have seq : envelope.seq ∈ envelopes.map Envelope.seq := List.mem_map_of_mem mem
    rw [numbers, List.mem_range'_1] at seq
    have bound := accounted.seq_le isSent
    omega
  have same : lastPointing settings viewer.sent cause =
      lastPointing settings session.viewer.sent cause := by
    rw [lastPointing, sent]
    refine latest_append_of_none _ fun envelope mem => ?_
    rw [if_neg (later envelope mem)]
  rw [intended, same, intended]

/-- A pointer message asks for its own coordinates. -/
theorem coordinates_of_pointing {envelope : Envelope} {point : Point}
    (asks : pointing settings envelope = some point) :
    pointerCoordinatesFromMessage settings envelope.message = some point := by
  unfold pointing at asks
  split at asks
  · exact asks
  · exact asks
  · simp at asks

/-- A click without coordinates that goes ahead steadily is where the last pointer message sent
before it says. -/
theorem pointer_eq_lastPointing (accounted : session.Accounted settings)
    (consistent : session.worker.Consistent) {cause : Envelope} {target : Placement}
    (settled : session.worker.pendingPointerPosition = none)
    (last : (latest PointerEvent.taken session.worker.log).map Placement.seq =
      (lastPointing settings session.viewer.sent cause).map Placement.seq)
    (aims : lastPointing settings session.viewer.sent cause = some target) :
    session.worker.pointer = target.point := by
  rw [aims, Option.map_some, Option.map_eq_some_iff] at last
  obtain ⟨placement, isLast, same⟩ := last
  obtain ⟨event, mem, taken⟩ := exists_of_latest isLast
  obtain ⟨source, isSource, sourceSeq, asked⟩ :=
    accounted.worker.sources event mem placement taken
  obtain ⟨envelope, isSent, found⟩ := exists_of_latest aims
  split at found
  case isFalse => simp at found
  case isTrue =>
      rw [Option.map_eq_some_iff] at found
      obtain ⟨point, asks, rfl⟩ := found
      obtain rfl := accounted.eq_of_seq isSource isSent (sourceSeq.trans same)
      rw [consistent.pointer_eq settled isLast]
      have points := (coordinates_of_pointing asks).symm.trans asked
      exact (Option.some.inj points).symm

/-- Where a click that goes ahead steadily lands. -/
theorem aimed_resumeInput (accounted : session.Accounted settings)
    (consistent : session.worker.Consistent) (steady : Steady settings session .resume)
    {waiting : Waiting} (isWaiting : session.worker.waiting = some waiting)
    (aimed : ∀ event ∈ session.worker.log, event.Aimed settings session.viewer.sent) :
    ∀ event ∈ (resumeInput settings waiting session.worker).log,
      event.Aimed settings session.viewer.sent := by
  cases waiting with
  | elsewhere => exact aimed
  | wheel cause button clicks =>
      obtain ⟨settled, placement, isLast, own⟩ := steady _ isWaiting
      intro event mem
      rcases List.mem_append.mp mem with old | new
      · exact aimed event old
      · rw [List.mem_singleton.mp new]
        intro point should
        rw [intended, own, Option.some_or, Option.mem_some_iff] at should
        exact (consistent.pointer_eq settled isLast).trans should
  | button cause button pressed =>
      simp only [resumeInput]
      cases own : pointerCoordinatesFromMessage settings cause.message with
      | some target =>
          intro event mem
          simp only [InputWorker.record, syncPointerPosition, movePointer, List.append_assoc,
            List.mem_append, List.mem_cons, List.not_mem_nil, or_false] at mem
          rcases mem with old | rfl | rfl
          · exact aimed event old
          · trivial
          · intro point should
            rw [intended, own, Option.some_or, Option.mem_some_iff] at should
            exact should
      | none =>
          obtain ⟨settled, last⟩ := (steady _ isWaiting).2 own
          intro event mem
          rcases List.mem_append.mp mem with old | new
          · exact aimed event old
          · rw [List.mem_singleton.mp new]
            intro point should
            rw [intended, own, Option.none_or, Option.mem_map] at should
            obtain ⟨target, aims, rfl⟩ := should
            exact pointer_eq_lastPointing accounted consistent settled last aims

theorem aimed_handleInput {worker : InputWorker} {envelope : Envelope} {sent : List Envelope}
    (aimed : ∀ event ∈ worker.log, event.Aimed settings sent) :
    ∀ event ∈ (handleInput settings envelope worker).log, event.Aimed settings sent := by
  unfold handleInput
  split
  case h_1 =>
      split
      · intro event mem
        rcases List.mem_append.mp mem with old | new
        · exact aimed event old
        · rw [List.mem_singleton.mp new]
          trivial
      · exact aimed
  case h_2 => split <;> exact aimed
  case h_3 payload _ =>
      obtain ⟨remainder, same⟩ | ⟨remainder, button, clicks, waits⟩ :=
        handleWheel_cases settings envelope payload worker
      · rwa [same]
      · rwa [waits]
  case h_4 => exact aimed
  case h_5 => exact aimed

theorem aimed_of_step (accounted : before.Accounted settings)
    (consistent : before.worker.Consistent) (steady : Steady settings before action)
    (aimed : ∀ event ∈ before.worker.log, event.Aimed settings before.viewer.sent)
    (step : InputStep settings before action after) :
    ∀ event ∈ after.worker.log, event.Aimed settings after.viewer.sent := by
  cases step with
  | post viewer replay sends =>
      intro event mem
      have before := aimed event mem
      have cause := accounted.worker.causes event mem
      cases event with
      | queued placement => trivial
      | moved placement => trivial
      | button button pressed pointer cause' =>
          intro point should
          exact before point ((intended_post accounted sends (cause cause' rfl)) ▸ should)
      | wheel button clicks pointer cause' =>
          intro point should
          exact before point ((intended_post accounted sends (cause cause' rfl)) ▸ should)
  | lose others fewer => exact aimed
  | receive envelope control others inFlight fewer fewerOthers => exact aimed
  | take envelope rest queue => exact aimed_handleInput aimed
  | resume waiting isWaiting => exact aimed_resumeInput accounted consistent steady isWaiting aimed
  | flush =>
      simp only [flushPointerMoves]
      split
      · intro event mem
        rcases List.mem_append.mp mem with old | new
        · exact aimed event old
        · rw [List.mem_singleton.mp new]
          trivial
      · exact aimed

/-- In every run whose steps are steady, every click lands at the coordinates of its message, or
at those of the last pointer message sent before it if it has none, and no position is applied
after one that was sent later. -/
theorem clicks_land_where_pointed {settings : InputSettings} {session : InputSession}
    (reached : (inputMachine settings).Reached (Steady settings) session) :
    session.OnTarget settings := by
  have invariant : session.Accounted settings ∧ session.worker.Consistent ∧
      ∀ event ∈ session.worker.log, event.Aimed settings session.viewer.sent := by
    refine reached.invariant (fun session => session.Accounted settings ∧
      session.worker.Consistent ∧
        ∀ event ∈ session.worker.log, event.Aimed settings session.viewer.sent) ?_ ?_
    · refine ⟨⟨rfl, rfl, ?_, ?_, ?_, ?_, ?_, ?_⟩, ⟨?_, ?_, ?_, ?_⟩, ?_⟩ <;>
        simp [inputMachine, InputWorker.initial]
    · rintro before action after ⟨accounted, consistent, aimed⟩ steady taken
      have step := inputStep_of_step taken
      exact ⟨accounted_of_step accounted consistent step,
        consistent_of_step consistent steady step,
        aimed_of_step accounted consistent steady aimed step⟩
  exact ⟨invariant.2.2, invariant.2.1.ordered⟩

end Sessions

def plainSettings : InputSettings where
  displayWidth := 1280
  displayHeight := 720
  wheel := ⟨160, 3, 3⟩
  pointer := ⟨0, 0⟩

/-- A mouse event on the picture. -/
def mouseAt (x y : ℚ) : MouseEvent where
  onVideo := true
  button := 0
  clientX := x
  clientY := y

/-- A click and a turn of the wheel at the same place, then the replayed click. -/
def clickAndWheel : List InputAction :=
  [.viewer ⟨plainPage, .mousedown (mouseAt 10 10)⟩, .deliverControl, .deliverControl, .take,
    .flush, .take, .resume, .viewer ⟨plainPage, .wheel (mouseAt 10 10) 0 160 0⟩,
    .viewer ⟨plainPage, .wheelTimer⟩, .deliverControl, .take, .resume,
    .replayClick plainPage 40 30, .deliverControl, .deliverControl, .take, .take, .flush, .resume]

theorem clicks_at_one_place_land :
    ∃ session, (inputMachine plainSettings).Reached (Steady plainSettings) session ∧
      (session.worker.log.filterMap PointerEvent.cause).length = 3 ∧
      session.OnTarget plainSettings := by
  have passes : ((inputMachine plainSettings).exec (Steady plainSettings)
      (inputMachine plainSettings).initial clickAndWheel).any (fun session : InputSession =>
        (session.worker.log.filterMap PointerEvent.cause).length = 3) = true := by
    decide +kernel
  obtain ⟨session, reached, clicks⟩ := Machine.exists_reached passes
  exact ⟨session, reached, of_decide_eq_true clicks, clicks_land_where_pointed reached⟩

/-- The pointer is moved and the wheel turned there; the wheel's timer fires before the frame
that would send the move. -/
def wheelBeforeMove : List InputAction :=
  [.viewer ⟨plainPage, .mousedown (mouseAt 10 10)⟩, .deliverControl, .deliverControl, .take,
    .flush, .take, .resume, .viewer ⟨plainPage, .pointermove (mouseAt 300 200)⟩,
    .viewer ⟨plainPage, .wheel (mouseAt 300 200) 0 160 0⟩, .viewer ⟨plainPage, .wheelTimer⟩,
    .deliverControl, .take, .resume]

theorem wheel_turns_at_old_place :
    ∃ session, (inputMachine plainSettings).Reached (fun _ _ => True) session ∧
      ¬ session.OnTarget plainSettings := by
  have passes : ((inputMachine plainSettings).exec (fun _ _ => True)
      (inputMachine plainSettings).initial wheelBeforeMove).any (fun session : InputSession =>
        ¬ ∀ event ∈ session.worker.log, event.Aimed plainSettings session.viewer.sent) = true := by
    decide +kernel
  obtain ⟨session, reached, missed⟩ := Machine.exists_reached passes
  exact ⟨session, reached, fun onTarget => of_decide_eq_true missed onTarget.aimed⟩

end RemoteBrowser.Worker
