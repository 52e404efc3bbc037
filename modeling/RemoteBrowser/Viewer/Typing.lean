import RemoteBrowser.Events.Sequence
import RemoteBrowser.Viewer.Input

/-!
# The order of keystrokes

What the user does to the remote page is a sequence of strokes: characters, key presses and
mouse buttons. Characters wait in the text batcher; every other stroke is sent at once and
so overtakes the characters that are still waiting. The strokes arrive in the order in which
they were made exactly when none is sent at once while the batcher holds text.
-/

namespace RemoteBrowser.Viewer

inductive Stroke where
  | char (unit : UInt16)
  | key (message : KeyMessage)
  | button (action : Action) (button : ℕ) (point : Option Point)
  deriving DecidableEq

/-- The strokes of a message, in order. Key releases are not among them. -/
def InputMessage.strokes : InputMessage → List Stroke
  | .textInsert text _ => text.map .char
  | .key message => if message.action = .down then [.key message] else []
  | .pointerButton action button point => [.button action button point]
  | .pointerMove _ => []
  | .wheel _ => []

/-- The strokes that a message brings to the control channel. -/
def Envelope.strokes (envelope : Envelope) : List Stroke :=
  if envelope.channel = .control then envelope.message.strokes else []

/-- The strokes sent on the control channel so far. -/
def InputState.strokes (state : InputState) : List Stroke :=
  state.sent.flatMap Envelope.strokes

/-- The strokes sent so far and then the characters that wait in the batcher. -/
def InputState.typed (state : InputState) : List Stroke :=
  state.strokes ++ state.pendingText.map .char

/-- The stroke of a mouse button on the picture. -/
def buttonStrokes (page : Page) (action : Action) (event : MouseEvent) : List Stroke :=
  if event.onVideo then
    match normalizePoint page event.clientX event.clientY with
    | none => []
    | some point => [.button action event.button (some point)]
  else []

/-- The strokes that the user makes with an event. -/
def Turn.strokes (turn : Turn) : List Stroke :=
  match turn.event with
  | .keydown event =>
      if isLocalTextInputTarget event.target then []
      else if isTextInsertKeyEvent turn.page.channels event then event.key.map .char
      else [.key (event.message .down)]
  | .beforeinput target data inputType =>
      if isLocalTextInputTarget target then []
      else if inputType ≠ [] ∧ ¬ JsString.ascii "insert" <+: inputType then []
      else data.map .char
  | .paste target text => if isLocalTextInputTarget target then [] else text.map .char
  | .mousedown event => buttonStrokes turn.page .down event
  | .mouseup event => buttonStrokes turn.page .up event
  | _ => []

/-- The strokes of a sequence of events. -/
def strokesOf (turns : List Turn) : List Stroke :=
  turns.flatMap Turn.strokes

/-- The turn makes a stroke that does not go through the batcher. -/
def Turn.Urgent (turn : Turn) : Prop :=
  ∃ stroke ∈ turn.strokes, ∀ unit, stroke ≠ .char unit

/-- Keys and buttons are used only when the batcher is empty. -/
def Orderly (turns : List Turn) : Prop :=
  ∀ before turn after, turns = before ++ turn :: after → turn.Urgent →
    (run before).pendingText = []

/-! ## What is sent -/

section Sending

variable {page : Page} {state : InputState} {message : InputMessage}

@[simp]
theorem strokes_deliver_control :
    (state.deliver page message .control).strokes = state.strokes ++ message.strokes := by
  simp [InputState.strokes, InputState.deliver, Envelope.strokes]

@[simp]
theorem pendingText_deliver (channel : ChannelRole) :
    (state.deliver page message channel).pendingText = state.pendingText := rfl

@[simp]
theorem pendingText_sendInput (preferControl : Bool) :
    (sendInput page message preferControl state).pendingText = state.pendingText := by
  obtain same | ⟨channel, delivered⟩ := sendInput_cases page state message preferControl
  · rw [same]
  · rw [delivered, pendingText_deliver]

/-! ## The batcher -/

variable (opened : hasOpenSplitInputControlChannel page.channels = true)

include opened in
theorem typed_flush (reason : FlushReason) : (flush page reason state).typed = state.typed := by
  unfold flush
  dsimp only
  split
  · rfl
  · rw [sendInput_control opened]
    simp [InputState.typed, InputState.strokes, InputState.deliver, Envelope.strokes,
      InputMessage.strokes]

include opened in
/-- Sending the full batches moves text from the batcher to the channel. -/
theorem typed_sendFullBatches : (sendFullBatches page state).typed = state.typed := by
  induction state using sendFullBatches.induct page with
  | case1 state full batch rest ih =>
      rw [sendFullBatches, if_pos full, ih, sendInput_control opened]
      simp only [InputState.typed, strokes_deliver_control, pendingText_deliver,
        InputMessage.strokes, List.append_assoc, ← List.map_append]
      exact congrArg (state.strokes ++ ·) (congrArg _ (List.take_append_drop ..))
  | case2 state short => rw [sendFullBatches, if_neg short]

@[simp]
theorem typed_scheduleFlush : (scheduleFlush state).typed = state.typed := by
  unfold scheduleFlush
  split <;> rfl

include opened in
theorem typed_enqueue (text : JsString) :
    (enqueue page text state).typed = state.typed ++ text.map .char := by
  unfold enqueue
  split
  · simp_all
  · rw [typed_scheduleFlush, typed_sendFullBatches opened]
    simp [InputState.typed, InputState.strokes]

end Sending

/-! ## One event -/

section Turns

variable {turn : Turn}

theorem not_urgent_of_chars {text : JsString} (chars : turn.strokes = text.map .char) :
    ¬ turn.Urgent := by
  rintro ⟨stroke, made, notChar⟩
  rw [chars, List.mem_map] at made
  obtain ⟨unit, -, rfl⟩ := made
  exact notChar unit rfl

/-- How a turn's strokes are passed on: behind those in the batcher, or at once. -/
def PassesOn (turn : Turn) (state next : InputState) : Prop :=
  (¬ turn.Urgent ∧ next.typed = state.typed ++ turn.strokes) ∨
    ∃ stroke, turn.strokes = [stroke] ∧ (∀ unit, stroke ≠ .char unit) ∧
      next.strokes = state.strokes ++ [stroke] ∧ next.pendingText = state.pendingText

theorem PassesOn.quiet {state next : InputState} (silent : turn.strokes = [])
    (same : next.typed = state.typed) : PassesOn turn state next := by
  refine .inl ⟨@not_urgent_of_chars turn [] silent, ?_⟩
  rw [same, silent, List.append_nil]

theorem PassesOn.batched {state next : InputState} {text : JsString}
    (chars : turn.strokes = text.map .char) (typed : next.typed = state.typed ++ text.map .char) :
    PassesOn turn state next :=
  .inl ⟨not_urgent_of_chars chars, by rw [typed, chars]⟩

variable {state : InputState}

/-- Messages without strokes leave the strokes as they are. -/
theorem strokes_of_sends {next : InputState}
    (sends : Sends (fun message => message.strokes = []) state next) :
    next.strokes = state.strokes := by
  obtain ⟨envelopes, sent, silent, -⟩ := sends
  have none : envelopes.flatMap Envelope.strokes = [] := by
    rw [List.flatMap_eq_nil_iff]
    intro envelope mem
    simp [Envelope.strokes, silent envelope mem]
  rw [InputState.strokes, sent, List.flatMap_append, none, List.append_nil, InputState.strokes]

theorem passesOn_button {page : Page} {action : Action} {event : MouseEvent}
    (opened : hasOpenSplitInputControlChannel page.channels = true)
    (strokes : turn.strokes = buttonStrokes page action event) :
    PassesOn turn state (onMouseButton page action event state) := by
  unfold buttonStrokes at strokes
  unfold onMouseButton
  split at strokes
  case isFalse away =>
      rw [if_neg away]
      exact .quiet strokes rfl
  case isTrue onVideo =>
      rw [if_pos onVideo]
      cases point : normalizePoint page event.clientX event.clientY with
      | none => exact .quiet (by simpa [point] using strokes) rfl
      | some point' =>
          refine .inr ⟨_, by simpa [point] using strokes, by simp, ?_, ?_⟩
          · simp only [sendReliablePointerSync, sendInput_control opened,
              strokes_deliver_control, InputMessage.strokes, List.append_nil]
            rw [InputState.strokes, sent_clearPointerMoveFrame, InputState.strokes]
          · simp only [sendReliablePointerSync, sendInput_control opened, pendingText_deliver,
              clearPointerMoveFrame]
            split <;> rfl

theorem passesOn_keydown {event : KeyboardEvent} (pressed : turn.event = .keydown event)
    (opened : hasOpenSplitInputControlChannel turn.page.channels = true) :
    PassesOn turn state (onKeydown turn.page event state) := by
  unfold onKeydown
  split
  case isTrue isLocal => exact .quiet (by simp [Turn.strokes, pressed, isLocal]) rfl
  case isFalse isRemote =>
      split
      case isTrue text =>
          have strokes : turn.strokes = event.key.map .char := by
            simp [Turn.strokes, pressed, isRemote, text]
          refine .batched strokes ?_
          rw [typed_enqueue opened]
          split <;> rfl
      case isFalse other =>
          have strokes : turn.strokes = [.key (event.message .down)] := by
            simp [Turn.strokes, pressed, isRemote, other]
          refine .inr ⟨_, strokes, by simp, ?_, ?_⟩
          · rw [sendInput_control opened, strokes_deliver_control]
            simp [InputMessage.strokes, KeyboardEvent.message]
          · rw [sendInput_control opened, pendingText_deliver]

theorem typed_onKeyup {page : Page} (event : KeyboardEvent) :
    (onKeyup page event state).strokes = state.strokes ∧
      (onKeyup page event state).pendingText = state.pendingText := by
  constructor
  · refine strokes_of_sends ((sends_onKeyup event).mono ?_)
    rintro _ rfl
    simp [InputMessage.strokes, KeyboardEvent.message]
  · unfold onKeyup
    dsimp only
    split
    · rfl
    · split
      · rfl
      · rw [pendingText_sendInput]

/-- Every event passes its strokes on in one of the two ways. -/
theorem passesOn_handle (opened : hasOpenSplitInputControlChannel turn.page.channels = true) :
    PassesOn turn state (handle turn.page turn.event state) := by
  have silently {next : InputState} (silent : turn.strokes = [])
      (strokes : next.strokes = state.strokes) (pending : next.pendingText = state.pendingText) :
      PassesOn turn state next :=
    .quiet silent (by rw [InputState.typed, strokes, pending, InputState.typed])
  cases happened : turn.event with
  | keydown event => exact passesOn_keydown happened opened
  | keyup event =>
      have kept := @typed_onKeyup state turn.page event
      exact silently (by simp [Turn.strokes, happened]) kept.1 kept.2
  | beforeinput target data inputType =>
      simp only [handle]
      split
      case isTrue isLocal => exact silently (by simp [Turn.strokes, happened, isLocal]) rfl rfl
      case isFalse isRemote =>
          by_cases empty : data = []
          · rw [if_pos (.inl empty)]
            exact silently (by simp [Turn.strokes, happened, empty]) rfl rfl
          · rw [if_neg (by simp [empty, opened])]
            split
            case isTrue edits =>
                exact silently (by simp [Turn.strokes, happened, edits]) rfl rfl
            case isFalse inserts =>
                have strokes : turn.strokes = data.map .char := by
                  simp only [Turn.strokes, happened, if_neg isRemote, if_neg inserts]
                exact .batched strokes (typed_enqueue opened data)
  | paste target text =>
      simp only [handle]
      by_cases isLocal : isLocalTextInputTarget target = true
      · rw [if_pos (.inl isLocal)]
        exact silently (by simp [Turn.strokes, happened, isLocal]) rfl rfl
      · have strokes : turn.strokes = text.map .char := by
          simp only [Turn.strokes, happened, if_neg isLocal]
        rw [if_neg (by simp [isLocal, opened])]
        split
        case isTrue empty => exact silently (by simp [strokes, empty]) rfl rfl
        case isFalse => exact .batched strokes (typed_enqueue opened text)
  | pointermove event =>
      refine silently (by simp [Turn.strokes, happened]) ?_ ?_ <;>
        simp only [handle, schedulePointerMove] <;> repeat' split
      all_goals rfl
  | mousedown event => exact passesOn_button opened (by simp [Turn.strokes, happened])
  | mouseup event => exact passesOn_button opened (by simp [Turn.strokes, happened])
  | wheel event deltaX deltaY deltaMode =>
      refine silently (by simp [Turn.strokes, happened]) ?_ ?_ <;>
        simp only [handle, scheduleWheel] <;> repeat' split
      all_goals rfl
  | textTimer =>
      refine .quiet (by simp [Turn.strokes, happened]) ?_
      simp only [handle]
      split
      · exact typed_flush opened .timer
      · rfl
  | pointerFrame =>
      refine silently (by simp [Turn.strokes, happened]) ?_ ?_
      · refine strokes_of_sends ((sends_handle .pointerFrame).mono ?_)
        intro message isMove
        cases message <;> simp_all [Event.Emits, InputMessage.isPointerMove, InputMessage.strokes]
      · simp only [handle]
        repeat' split
        all_goals simp
  | wheelTimer =>
      refine silently (by simp [Turn.strokes, happened]) ?_ ?_
      · refine strokes_of_sends ((sends_handle .wheelTimer).mono ?_)
        rintro _ ⟨payload, rfl⟩
        rfl
      · simp only [handle]
        repeat' split
        all_goals simp

/-- What has been sent stays the beginning of what is sent. -/
theorem strokes_grow_handle (page : Page) (event : Event) :
    state.strokes <+: (handle page event state).strokes :=
  (sends_handle event).sent_grows.flatMap _

end Turns

/-! ## Sequences of events -/

theorem strokesOf_concat (turns : List Turn) (turn : Turn) :
    strokesOf (turns ++ [turn]) = strokesOf turns ++ turn.strokes := by
  simp [strokesOf]

theorem Orderly.of_concat {turns : List Turn} {turn : Turn} (orderly : Orderly (turns ++ [turn])) :
    Orderly turns := by
  intro before middle after split urgent
  exact orderly before middle (after ++ [turn]) (by simp [split]) urgent

theorem orderly_concat {turns : List Turn} {turn : Turn} (orderly : Orderly turns)
    (last : turn.Urgent → (run turns).pendingText = []) : Orderly (turns ++ [turn]) := by
  intro before middle after split urgent
  obtain ⟨rfl, rfl, -⟩ | ⟨rest, -, inner⟩ := split_concat split
  · exact last urgent
  · exact orderly before middle rest inner urgent

/-- In an orderly sequence only the characters in the batcher are still to be sent. -/
theorem typed_run {turns : List Turn} (controlOpen : ControlOpen turns) (orderly : Orderly turns) :
    (run turns).typed = strokesOf turns := by
  induction turns using List.reverseRecOn with
  | nil => rfl
  | append_singleton turns turn ih =>
      have typed := ih controlOpen.of_append orderly.of_concat
      rw [run_concat, strokesOf_concat, ← typed]
      obtain ⟨-, batched⟩ | ⟨stroke, strokes, notChar, sent, pending⟩ :=
        @passesOn_handle turn (run turns) controlOpen.last
      · exact batched
      · have urgent : turn.Urgent := ⟨stroke, by simp [strokes], notChar⟩
        have empty := orderly turns turn [] rfl urgent
        simp [InputState.typed, sent, pending, empty, strokes]

/-- Neither list is the beginning of the other, nor will it be when both grow. -/
def Apart (first second : List Stroke) : Prop :=
  ¬ first <+: second ∧ ¬ second <+: first

theorem Apart.extend {first second first' second' : List Stroke} (apart : Apart first second)
    (grows : first <+: first') (grows' : second <+: second') : Apart first' second' := by
  constructor <;> intro isPrefix
  · rcases List.prefix_or_prefix_of_prefix (grows.trans isPrefix) grows' with before | before
    · exact apart.1 before
    · exact apart.2 before
  · rcases List.prefix_or_prefix_of_prefix grows (grows'.trans isPrefix) with before | before
    · exact apart.1 before
    · exact apart.2 before

/-- A stroke that is sent while characters wait takes the place of the first of them. -/
theorem apart_of_overtaken {sent : List Stroke} {stroke : Stroke} {text : JsString}
    (notChar : ∀ unit, stroke ≠ .char unit) (waiting : text ≠ []) :
    Apart (sent ++ [stroke]) (sent ++ text.map .char) := by
  obtain ⟨unit, rest, rfl⟩ := List.exists_cons_of_ne_nil waiting
  constructor <;> intro isPrefix
  · rw [List.prefix_append_right_inj] at isPrefix
    exact notChar unit (by simpa using isPrefix)
  · rw [List.prefix_append_right_inj, List.map_cons] at isPrefix
    exact notChar unit (List.cons_prefix_cons.mp isPrefix).1.symm

theorem apart_run {turns : List Turn} (controlOpen : ControlOpen turns)
    (disorderly : ¬ Orderly turns) : Apart (run turns).strokes (strokesOf turns) := by
  induction turns using List.reverseRecOn with
  | nil =>
      refine absurd ?_ disorderly
      intro before turn after split
      simp at split
  | append_singleton turns turn ih =>
      rw [run_concat, strokesOf_concat]
      by_cases orderly : Orderly turns
      · -- the last turn is the first to overtake
        have overtakes : ¬ (turn.Urgent → (run turns).pendingText = []) :=
          fun last => disorderly (orderly_concat orderly last)
        rw [Classical.not_imp] at overtakes
        obtain ⟨urgent, waiting⟩ := overtakes
        obtain ⟨calm, -⟩ | ⟨stroke, -, notChar, sent, -⟩ :=
          @passesOn_handle turn (run turns) controlOpen.last
        · exact absurd urgent calm
        · rw [sent, ← typed_run controlOpen.of_append orderly]
          exact (apart_of_overtaken notChar waiting).extend (List.prefix_rfl)
            (List.prefix_append ..)
      · exact (ih controlOpen.of_append orderly).extend (strokes_grow_handle _ _)
          (List.prefix_append ..)

/-- With the control channel open, the strokes that have been sent, followed by the characters
that still wait in the batcher, are the strokes in the order in which they were made if and
only if every key press other than text and every mouse button came while the batcher was
empty. -/
theorem strokes_sent_in_order_iff (turns : List Turn) (controlOpen : ControlOpen turns) :
    (run turns).strokes ++ (run turns).pendingText.map .char = strokesOf turns ↔
      Orderly turns := by
  constructor
  · intro inOrder
    by_contra disorderly
    exact (apart_run controlOpen disorderly).1 ⟨_, inOrder⟩
  · exact typed_run controlOpen

/-- The user types a character and presses Enter before the batch timer fires. -/
def enterAfterText : List Turn :=
  [⟨plainPage, .keydown (plainKey "KeyA" "a")⟩, ⟨plainPage, .keydown (plainKey "Enter" "Enter")⟩,
    ⟨plainPage, .textTimer⟩]

/-- The same with the timer between the two. -/
def enterAfterBatch : List Turn :=
  [⟨plainPage, .keydown (plainKey "KeyA" "a")⟩, ⟨plainPage, .textTimer⟩,
    ⟨plainPage, .keydown (plainKey "Enter" "Enter")⟩]

theorem batched_text_precedes_enter :
    ControlOpen enterAfterBatch ∧ Orderly enterAfterBatch ∧
      (run enterAfterBatch).strokes = strokesOf enterAfterBatch := by
  have controlOpen : ControlOpen enterAfterBatch :=
    controlOpen_of_plain (by simp [enterAfterBatch])
  have inOrder : (run enterAfterBatch).strokes = strokesOf enterAfterBatch := by decide +kernel
  have empty : (run enterAfterBatch).pendingText = [] := by decide +kernel
  refine ⟨controlOpen, ?_, inOrder⟩
  exact (strokes_sent_in_order_iff enterAfterBatch controlOpen).mp (by simp [empty, inOrder])

theorem enter_overtakes_text :
    ControlOpen enterAfterText ∧ (run enterAfterText).pendingText = [] ∧
      (run enterAfterText).strokes ≠ strokesOf enterAfterText :=
  ⟨controlOpen_of_plain (by simp [enterAfterText]), by decide +kernel, by decide +kernel⟩

end RemoteBrowser.Viewer
