import RemoteBrowser.Events.Sequence
import RemoteBrowser.Viewer.Input

/-!
# Keys and buttons that stay down

A key or button is stuck when nothing is held in the viewer window but the last message about it
says that it went down. Whether a press is forwarded is decided by the modifiers at the press;
whether the release is forwarded is decided by the set of suppressed keys, the target and the
pointer position at the release. Nothing is stuck exactly when every forwarded press is followed
by a forwarded release.
-/

namespace RemoteBrowser.Viewer

/-- What a message says about a key. -/
def InputMessage.keyAction (code : JsString) : InputMessage → Option Action
  | .key message => if message.code = code then some message.action else none
  | _ => none

/-- What a message says about a mouse button. -/
def InputMessage.buttonAction (button : ℕ) : InputMessage → Option Action
  | .pointerButton action of _ => if of = button then some action else none
  | _ => none

/-- The last thing that the messages sent so far say. -/
def InputState.lastAction (state : InputState) (read : InputMessage → Option Action) :
    Option Action :=
  latest (fun envelope : Envelope => read envelope.message) state.sent

/-- No key and no button is down for the worker. -/
def InputState.NoneStuck (state : InputState) : Prop :=
  (∀ code, state.lastAction (InputMessage.keyAction code) ≠ some .down) ∧
    ∀ button, state.lastAction (InputMessage.buttonAction button) ≠ some .down

/-- The physical key that an event presses or releases. -/
def Turn.keyEdge (code : JsString) (turn : Turn) : Option Action :=
  match turn.event with
  | .keydown event => if event.code = code then some .down else none
  | .keyup event => if event.code = code then some .up else none
  | _ => none

/-- The mouse button that an event presses or releases. -/
def Turn.buttonEdge (button : ℕ) (turn : Turn) : Option Action :=
  match turn.event with
  | .mousedown event => if event.button = button then some .down else none
  | .mouseup event => if event.button = button then some .up else none
  | _ => none

/-- After these events no physical key or button is held. -/
def NoneHeld (turns : List Turn) : Prop :=
  (∀ code, latest (Turn.keyEdge code) turns ≠ some .down) ∧
    ∀ button, latest (Turn.buttonEdge button) turns ≠ some .down

/-! ## Which presses and releases are forwarded -/

/-- The event types a character with the key of this id, or releases that key. -/
def Turn.typing (keyId : JsString) (turn : Turn) : Option Bool :=
  match turn.event with
  | .keydown event =>
      if isLocalTextInputTarget event.target = false ∧
          isTextInsertKeyEvent turn.page.channels event = true ∧
          getKeyboardEventId event = keyId then some true
      else none
  | .keyup event =>
      if isLocalTextInputTarget event.target = false ∧ getKeyboardEventId event = keyId then
        some false
      else none
  | _ => none

/-- A character was typed with the key and the key has not been released since. -/
def TypedSinceRelease (keyId : JsString) (turns : List Turn) : Prop :=
  latest (Turn.typing keyId) turns = some true

/-- The key is pressed outside of local inputs, and not to type a character. -/
def Turn.PressesKey (code : JsString) (turn : Turn) : Prop :=
  match turn.event with
  | .keydown event =>
      event.code = code ∧ isLocalTextInputTarget event.target = false ∧
        isTextInsertKeyEvent turn.page.channels event = false
  | _ => False

/-- The key is released outside of local inputs, and no character was typed with it since it was
last released there. -/
def Turn.ReleasesKey (code : JsString) (before : List Turn) (turn : Turn) : Prop :=
  match turn.event with
  | .keyup event =>
      event.code = code ∧ isLocalTextInputTarget event.target = false ∧
        ¬ (getKeyboardEventId event ≠ [] ∧ TypedSinceRelease (getKeyboardEventId event) before)
  | _ => False

/-- The mouse event is dispatched to the video element, and the picture is there. -/
def OnPicture (page : Page) (event : MouseEvent) : Prop :=
  event.onVideo = true ∧ normalizePoint page event.clientX event.clientY ≠ none

/-- The button is pressed on the picture. -/
def Turn.PressesButton (button : ℕ) (turn : Turn) : Prop :=
  match turn.event with
  | .mousedown event => event.button = button ∧ OnPicture turn.page event
  | _ => False

/-- The button is released on the picture. -/
def Turn.ReleasesButton (button : ℕ) (turn : Turn) : Prop :=
  match turn.event with
  | .mouseup event => event.button = button ∧ OnPicture turn.page event
  | _ => False

/-! ## The last action -/

section LastAction

variable {read : InputMessage → Option Action} {page : Page} {state next : InputState}

@[simp]
theorem lastAction_deliver (message : InputMessage) (channel : ChannelRole) :
    (state.deliver page message channel).lastAction read =
      (read message).or (state.lastAction read) := by
  simp [InputState.lastAction, InputState.deliver]

theorem lastAction_of_sends (sends : Sends (fun message => read message = none) state next) :
    next.lastAction read = state.lastAction read := by
  obtain ⟨envelopes, sent, unread, -⟩ := sends
  rw [InputState.lastAction, sent]
  exact latest_append_of_none _ unread

theorem lastAction_handle {event : Event}
    (unread : ∀ message, event.Emits message → read message = none) :
    (handle page event state).lastAction read = state.lastAction read :=
  lastAction_of_sends ((sends_handle event).mono unread)

/-- The last action about something follows its forwarded presses and releases. -/
def Follows (press : Turn → Prop) (release : List Turn → Turn → Prop)
    (read : InputMessage → Option Action) : Prop :=
  ∀ turns turn, hasOpenSplitInputControlChannel turn.page.channels = true →
    (press turn ∧ ¬ release turns turn ∧ (run (turns ++ [turn])).lastAction read = some .down) ∨
    (¬ press turn ∧ release turns turn ∧ (run (turns ++ [turn])).lastAction read = some .up) ∨
    (¬ press turn ∧ ¬ release turns turn ∧
      (run (turns ++ [turn])).lastAction read = (run turns).lastAction read)

theorem Follows.lastAction_ne_down_iff {press : Turn → Prop} {release : List Turn → Turn → Prop}
    (follows : Follows press release read) {turns : List Turn} (controlOpen : ControlOpen turns) :
    (run turns).lastAction read ≠ some .down ↔ Answered press release turns := by
  induction turns using List.reverseRecOn with
  | nil => simp [run, runFrom, InputState.initial, InputState.lastAction, answered_nil]
  | append_singleton turns turn ih =>
      have ih := ih controlOpen.of_append
      obtain ⟨presses, silent, last⟩ | ⟨calm, releases, last⟩ | ⟨calm, silent, last⟩ :=
        follows turns turn controlOpen.last
      · rw [answered_concat fun _ => silent, last]
        simp [presses, silent]
      · rw [answered_concat fun presses => absurd presses calm, last]
        simp [releases]
      · rw [answered_concat fun presses => absurd presses calm, last, ih]
        simp [calm, silent]

end LastAction

/-! ## The suppressed keys -/

section Suppressed

variable {page : Page} {state : InputState}

@[simp]
theorem suppressed_sendInput (message : InputMessage) (preferControl : Bool) :
    (sendInput page message preferControl state).textInsertSuppressedKeyIds =
      state.textInsertSuppressedKeyIds := by
  obtain same | ⟨channel, delivered⟩ := sendInput_cases page state message preferControl
  · rw [same]
  · rw [delivered]
    rfl

@[simp]
theorem suppressed_flush (reason : FlushReason) :
    (flush page reason state).textInsertSuppressedKeyIds = state.textInsertSuppressedKeyIds := by
  unfold flush
  dsimp only
  split
  · rfl
  · rw [suppressed_sendInput]

@[simp]
theorem suppressed_sendFullBatches :
    (sendFullBatches page state).textInsertSuppressedKeyIds =
      state.textInsertSuppressedKeyIds := by
  induction state using sendFullBatches.induct page with
  | case1 state full batch rest ih =>
      rw [sendFullBatches, if_pos full, ih, suppressed_sendInput]
  | case2 state short => rw [sendFullBatches, if_neg short]

@[simp]
theorem suppressed_enqueue (text : JsString) :
    (enqueue page text state).textInsertSuppressedKeyIds = state.textInsertSuppressedKeyIds := by
  unfold enqueue scheduleFlush
  split
  · rfl
  · split <;> simp

@[simp]
theorem suppressed_onMouseButton (action : Action) (event : MouseEvent) :
    (onMouseButton page action event state).textInsertSuppressedKeyIds =
      state.textInsertSuppressedKeyIds := by
  unfold onMouseButton sendReliablePointerSync clearPointerMoveFrame
  repeat' split
  all_goals simp

/-- One event adds the key it types with and removes the key it releases. -/
theorem mem_suppressed_handle {keyId : JsString} (named : keyId ≠ []) (turn : Turn) :
    keyId ∈ (handle turn.page turn.event state).textInsertSuppressedKeyIds ↔
      turn.typing keyId = some true ∨
        (turn.typing keyId = none ∧ keyId ∈ state.textInsertSuppressedKeyIds) := by
  cases happened : turn.event with
  | keydown event =>
      simp only [handle, onKeydown, Turn.typing, happened]
      split
      case isTrue isLocal => simp [isLocal]
      case isFalse isRemote =>
          split
          case isTrue text =>
              rw [suppressed_enqueue]
              by_cases same : getKeyboardEventId event = keyId
              · simp [same, named, isRemote, text]
              · split <;> simp [same, Ne.symm same, isRemote, text]
          case isFalse other => simp [other]
  | keyup event =>
      simp only [handle, onKeyup, Turn.typing, happened]
      split
      case isTrue isLocal => simp [isLocal]
      case isFalse isRemote =>
          by_cases same : getKeyboardEventId event = keyId
          · split
            case isTrue => simp [same, isRemote]
            case isFalse held =>
                have absent : keyId ∉ state.textInsertSuppressedKeyIds := by
                  simpa [same, named] using held
                simp [same, isRemote, absent]
          · split <;> simp [same, Ne.symm same]
  | beforeinput target data inputType =>
      simp only [handle, Turn.typing, happened]
      repeat' split
      all_goals simp
  | paste target text =>
      simp only [handle, Turn.typing, happened]
      repeat' split
      all_goals simp
  | pointermove event =>
      simp only [handle, schedulePointerMove, Turn.typing, happened]
      repeat' split
      all_goals simp
  | mousedown event => simp [handle, Turn.typing, happened]
  | mouseup event => simp [handle, Turn.typing, happened]
  | wheel event deltaX deltaY deltaMode =>
      simp only [handle, scheduleWheel, Turn.typing, happened]
      repeat' split
      all_goals simp
  | textTimer =>
      simp only [handle, Turn.typing, happened]
      split <;> simp
  | pointerFrame =>
      simp only [handle, Turn.typing, happened]
      repeat' split
      all_goals simp
  | wheelTimer =>
      simp only [handle, Turn.typing, happened]
      repeat' split
      all_goals simp

end Suppressed

/-- A key that typed a character is suppressed until it is released. -/
theorem mem_suppressed_run {keyId : JsString} (named : keyId ≠ []) (turns : List Turn) :
    keyId ∈ (run turns).textInsertSuppressedKeyIds ↔ TypedSinceRelease keyId turns := by
  induction turns using List.reverseRecOn with
  | nil => simp [run, runFrom, InputState.initial, TypedSinceRelease]
  | append_singleton turns turn ih =>
      rw [run_concat, mem_suppressed_handle named, ih, TypedSinceRelease, TypedSinceRelease,
        latest_concat]
      cases turn.typing keyId <;> simp

/-! ## Keys and buttons -/

section Handlers

variable {page : Page} {state : InputState}
  (opened : hasOpenSplitInputControlChannel page.channels = true)

include opened in
theorem lastAction_onKeydown (code : JsString) (event : KeyboardEvent) :
    (onKeydown page event state).lastAction (InputMessage.keyAction code) =
      if event.code = code ∧ isLocalTextInputTarget event.target = false ∧
          isTextInsertKeyEvent page.channels event = false then some .down
      else state.lastAction (InputMessage.keyAction code) := by
  unfold onKeydown
  split
  case isTrue isLocal => simp [isLocal]
  case isFalse isRemote =>
      split
      case isTrue text =>
          rw [if_neg (by simp [text])]
          have enqueued := @sends_enqueue page
            (if getKeyboardEventId event = [] then state
              else { state with
                textInsertSuppressedKeyIds :=
                  insert (getKeyboardEventId event) state.textInsertSuppressedKeyIds })
            event.key
          refine (lastAction_of_sends (enqueued.mono ?_)).trans ?_
          · rintro _ ⟨text, reason, rfl⟩
            rfl
          · split <;> rfl
      case isFalse other =>
          rw [sendInput_control opened, lastAction_deliver]
          by_cases same : event.code = code <;>
            simp [InputMessage.keyAction, KeyboardEvent.message, same, isRemote, other]

include opened in
theorem lastAction_onKeyup (code : JsString) (event : KeyboardEvent) :
    (onKeyup page event state).lastAction (InputMessage.keyAction code) =
      if event.code = code ∧ isLocalTextInputTarget event.target = false ∧
          ¬ (getKeyboardEventId event ≠ [] ∧
            getKeyboardEventId event ∈ state.textInsertSuppressedKeyIds) then some .up
      else state.lastAction (InputMessage.keyAction code) := by
  unfold onKeyup
  split
  case isTrue isLocal => simp [isLocal]
  case isFalse isRemote =>
      dsimp only
      split
      case isTrue suppressed =>
          rw [if_neg (by tauto)]
          rfl
      case isFalse free =>
          rw [sendInput_control opened, lastAction_deliver]
          by_cases same : event.code = code
          · rw [if_pos ⟨same, by simpa using isRemote, free⟩]
            simp [InputMessage.keyAction, KeyboardEvent.message, same]
          · rw [if_neg (by tauto)]
            simp [InputMessage.keyAction, KeyboardEvent.message, same]

instance (page : Page) (event : MouseEvent) : Decidable (OnPicture page event) :=
  inferInstanceAs (Decidable (_ ∧ _))

include opened in
theorem lastAction_onMouseButton (button : ℕ) (action : Action) (event : MouseEvent) :
    (onMouseButton page action event state).lastAction (InputMessage.buttonAction button) =
      if event.button = button ∧ OnPicture page event then some action
      else state.lastAction (InputMessage.buttonAction button) := by
  unfold onMouseButton OnPicture
  split
  case isFalse away => simp [away]
  case isTrue onVideo =>
      split
      case h_1 outside => simp [outside]
      case h_2 point inside =>
          simp only [sendReliablePointerSync, sendInput_control opened, lastAction_deliver]
          have cleared : (clearPointerMoveFrame state).lastAction
              (InputMessage.buttonAction button) =
                state.lastAction (InputMessage.buttonAction button) := by
            rw [InputState.lastAction, sent_clearPointerMoveFrame, InputState.lastAction]
          by_cases same : event.button = button <;>
            simp [InputMessage.buttonAction, same, onVideo, inside, cleared]

end Handlers

/-- Only keyboard events send messages about keys. -/
theorem keyAction_of_emits {event : Event} {message : InputMessage} {code : JsString}
    (noKey : ∀ key, event ≠ .keydown key ∧ event ≠ .keyup key) (emits : event.Emits message) :
    message.keyAction code = none := by
  cases message with
  | key message => cases event <;> simp_all [Event.Emits, InputMessage.IsTextInsert,
      InputMessage.isPointerMove]
  | _ => rfl

/-- Only `mousedown` and `mouseup` send messages about buttons. -/
theorem buttonAction_of_emits {event : Event} {message : InputMessage} {button : ℕ}
    (noButton : ∀ mouse, event ≠ .mousedown mouse ∧ event ≠ .mouseup mouse)
    (emits : event.Emits message) : message.buttonAction button = none := by
  cases message with
  | pointerButton action of point => cases event <;> simp_all [Event.Emits,
      InputMessage.IsTextInsert, InputMessage.isPointerMove]
  | _ => rfl

theorem follows_keys (code : JsString) :
    Follows (Turn.PressesKey code) (Turn.ReleasesKey code) (InputMessage.keyAction code) := by
  intro turns turn opened
  rw [run_concat]
  cases happened : turn.event with
  | keydown event =>
      have silent : ¬ turn.ReleasesKey code turns := by simp [Turn.ReleasesKey, happened]
      have last := @lastAction_onKeydown _ (run turns) opened code event
      split at last
      case isTrue presses =>
          exact .inl ⟨by simpa only [Turn.PressesKey, happened] using presses, silent, last⟩
      case isFalse calm =>
          exact .inr (.inr ⟨by simpa only [Turn.PressesKey, happened] using calm, silent, last⟩)
  | keyup event =>
      have calm : ¬ turn.PressesKey code := by simp [Turn.PressesKey, happened]
      have suppressed : (getKeyboardEventId event ≠ [] ∧
            getKeyboardEventId event ∈ (run turns).textInsertSuppressedKeyIds) ↔
          (getKeyboardEventId event ≠ [] ∧ TypedSinceRelease (getKeyboardEventId event) turns) :=
        and_congr_right fun named => mem_suppressed_run named turns
      have forwarded : turn.ReleasesKey code turns ↔
          event.code = code ∧ isLocalTextInputTarget event.target = false ∧
            ¬ (getKeyboardEventId event ≠ [] ∧
              getKeyboardEventId event ∈ (run turns).textInsertSuppressedKeyIds) := by
        rw [suppressed]
        simp only [Turn.ReleasesKey, happened]
      have last := @lastAction_onKeyup _ (run turns) opened code event
      split at last
      case isTrue releases => exact .inr (.inl ⟨calm, forwarded.mpr releases, last⟩)
      case isFalse silent => exact .inr (.inr ⟨calm, mt forwarded.mp silent, last⟩)
  | _ =>
      exact .inr (.inr ⟨by simp [Turn.PressesKey, happened], by simp [Turn.ReleasesKey, happened],
        lastAction_handle fun _ => keyAction_of_emits (by simp)⟩)

theorem follows_buttons (button : ℕ) :
    Follows (Turn.PressesButton button) (fun _ => Turn.ReleasesButton button)
      (InputMessage.buttonAction button) := by
  intro turns turn opened
  rw [run_concat]
  cases happened : turn.event with
  | mousedown event =>
      have silent : ¬ turn.ReleasesButton button := by simp [Turn.ReleasesButton, happened]
      have last := @lastAction_onMouseButton _ (run turns) opened button .down event
      split at last
      case isTrue presses =>
          exact .inl ⟨by simpa only [Turn.PressesButton, happened] using presses, silent, last⟩
      case isFalse calm =>
          exact .inr (.inr ⟨by simpa only [Turn.PressesButton, happened] using calm, silent, last⟩)
  | mouseup event =>
      have calm : ¬ turn.PressesButton button := by simp [Turn.PressesButton, happened]
      have last := @lastAction_onMouseButton _ (run turns) opened button .up event
      split at last
      case isTrue releases =>
          exact .inr (.inl ⟨calm, by simpa only [Turn.ReleasesButton, happened] using releases, last⟩)
      case isFalse silent =>
          exact .inr (.inr ⟨calm, by simpa only [Turn.ReleasesButton, happened] using silent, last⟩)
  | _ =>
      exact .inr (.inr ⟨by simp [Turn.PressesButton, happened],
        by simp [Turn.ReleasesButton, happened],
        lastAction_handle fun _ => buttonAction_of_emits (by simp)⟩)

/-- With the control channel open, no key and no button is stuck if and only if each key press
that is forwarded (outside of local inputs and not typing a character) is followed by a release
of the key outside of local inputs with no character typed by it since its last release there,
and each button pressed on the picture is later released on the picture. -/
theorem no_input_stuck_iff (turns : List Turn) (controlOpen : ControlOpen turns) :
    (run turns).NoneStuck ↔
      (∀ code, Answered (Turn.PressesKey code) (Turn.ReleasesKey code) turns) ∧
        ∀ button, Answered (Turn.PressesButton button)
          (fun _ => Turn.ReleasesButton button) turns := by
  unfold InputState.NoneStuck
  refine and_congr (forall_congr' fun code => ?_) (forall_congr' fun button => ?_)
  · exact (follows_keys code).lastAction_ne_down_iff controlOpen
  · exact (follows_buttons button).lastAction_ne_down_iff controlOpen

/-- A position at the upper edge of a picture of 1024x744 in an element of 1024x784 is not on it: the
double for the picture's top is a little above 20. -/
example : ¬OnPicture
    { plainPage with
      rect := { left := 0, top := 0, width := 1024, height := 784 }
      remoteDesktopWidth := 1024
      remoteDesktopHeight := 744 }
    { onVideo := true, button := 0, clientX := 100, clientY := 20 } := by
  unfold OnPicture
  decide +kernel

/-- A key with Ctrl held. -/
def ctrlKey (code key : String) : KeyboardEvent :=
  { plainKey code key with ctrlKey := true }

/-- Ctrl+C, where the key goes on repeating after Ctrl is released. -/
def copyWithRepeat : List Turn :=
  [⟨plainPage, .keydown (ctrlKey "ControlLeft" "Control")⟩,
    ⟨plainPage, .keydown (ctrlKey "KeyC" "c")⟩,
    ⟨plainPage, .keyup (plainKey "ControlLeft" "Control")⟩,
    ⟨plainPage, .keydown (plainKey "KeyC" "c")⟩,
    ⟨plainPage, .keyup (plainKey "KeyC" "c")⟩]

/-- Ctrl+C, where the key is released first, and a click. -/
def copyAndClick : List Turn :=
  [⟨plainPage, .keydown (ctrlKey "ControlLeft" "Control")⟩,
    ⟨plainPage, .keydown (ctrlKey "KeyC" "c")⟩,
    ⟨plainPage, .keyup (ctrlKey "KeyC" "c")⟩,
    ⟨plainPage, .keyup (plainKey "ControlLeft" "Control")⟩,
    ⟨plainPage, .mousedown { onVideo := true, button := 0, clientX := 10, clientY := 10 }⟩,
    ⟨plainPage, .mouseup { onVideo := true, button := 0, clientX := 12, clientY := 10 }⟩]

theorem lastAction_eq (state : InputState) (read : InputMessage → Option Action) :
    state.lastAction read = latest read (state.sent.map Envelope.message) := by
  simp [InputState.lastAction, latest, List.filterMap_map]

theorem released_copy_and_click_leave_nothing_down :
    ControlOpen copyAndClick ∧ (run copyAndClick).NoneStuck ∧
      ∀ code, Answered (Turn.PressesKey code) (Turn.ReleasesKey code) copyAndClick := by
  have controlOpen : ControlOpen copyAndClick := controlOpen_of_plain (by simp [copyAndClick])
  have sent : (run copyAndClick).sent.map Envelope.message =
      [.key ((ctrlKey "ControlLeft" "Control").message .down),
        .key ((ctrlKey "KeyC" "c").message .down),
        .key ((ctrlKey "KeyC" "c").message .up),
        .key ((plainKey "ControlLeft" "Control").message .up),
        .pointerMove (plainPage.movePayload ⟨10, 10⟩), .pointerButton .down 0 (some ⟨10, 10⟩),
        .pointerMove (plainPage.movePayload ⟨12, 10⟩), .pointerButton .up 0 (some ⟨12, 10⟩)] := by
    decide +kernel
  have noneStuck : (run copyAndClick).NoneStuck := by
    constructor
    · intro code
      rw [lastAction_eq, sent]
      simp only [latest, List.filterMap_cons, List.filterMap_nil, InputMessage.keyAction,
        KeyboardEvent.message, ctrlKey, plainKey]
      split_ifs <;> simp
    · intro button
      rw [lastAction_eq, sent]
      simp only [latest, List.filterMap_cons, List.filterMap_nil, InputMessage.buttonAction]
      split_ifs <;> simp
  exact ⟨controlOpen, noneStuck, ((no_input_stuck_iff copyAndClick controlOpen).mp noneStuck).1⟩

theorem repeated_key_stays_down :
    ControlOpen copyWithRepeat ∧ NoneHeld copyWithRepeat ∧ ¬ (run copyWithRepeat).NoneStuck := by
  refine ⟨controlOpen_of_plain (by simp [copyWithRepeat]), ⟨?_, ?_⟩, ?_⟩
  · intro code
    simp only [latest, copyWithRepeat, List.filterMap_cons, List.filterMap_nil, Turn.keyEdge,
      ctrlKey, plainKey]
    split_ifs <;> simp
  · intro button
    simp [latest, copyWithRepeat, List.filterMap_cons, Turn.buttonEdge]
  · rintro ⟨keys, -⟩
    exact keys (JsString.ascii "KeyC") (by decide +kernel)

end RemoteBrowser.Viewer
