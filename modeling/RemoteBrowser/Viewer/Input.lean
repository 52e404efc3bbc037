import Mathlib.Data.Finset.Basic
import Mathlib.Data.Int.Log
import Mathlib.Data.Rat.Floor
import Mathlib.Data.List.DropRight

/-!
# The viewer's input handlers

`installInputHandlers` of `viewer.js`: keyboard, paste and mouse events of the viewer window
become messages on the input data channels. Printable characters are collected by the text
batcher and sent when its timer fires or enough of them have come together; pointer moves wait
for the next animation frame and wheel events for a timer of their own; keys and buttons are
sent at once.

A handler runs to its end before the next event is handled, so the page is a state machine:
`handle` is one event, `run` a sequence of them. What the handlers only read of the page
(the data channels, the place of the video element, the clock) may be different at each event
and is the `Page` the event comes with. Coordinates are doubles, and so are the results of the
arithmetic on them: how an exact result is rounded is part of the page too.
-/

namespace RemoteBrowser.Viewer

/-- A JavaScript string: its UTF-16 code units. -/
abbrev JsString := List UInt16

/-- The JavaScript string of an ASCII text. -/
def JsString.ascii (text : String) : JsString :=
  text.toList.map fun char => UInt16.ofNat char.toNat

/-- White space and line terminators, which `trim` removes. -/
def isWhiteSpace (unit : UInt16) : Bool :=
  (9 ≤ unit && unit ≤ 13) || unit == 32 || unit == 0xA0 || unit == 0x1680 ||
    (0x2000 ≤ unit && unit ≤ 0x200A) || unit == 0x2028 || unit == 0x2029 ||
    unit == 0x202F || unit == 0x205F || unit == 0x3000 || unit == 0xFEFF

def JsString.trim (text : JsString) : JsString :=
  (text.dropWhile isWhiteSpace).rdropWhile isWhiteSpace

/-! ## Data channels -/

/-- `classifyViewerInputChannel`: which of the three variables holds the channel. -/
inductive ChannelRole where
  | pointer
  | control
  | legacy
  deriving DecidableEq

structure InputChannel where
  /-- `readyState === "open"`. -/
  isOpen : Bool
  bufferedAmount : ℕ
  deriving DecidableEq

/-- `getInputChannels`. -/
structure InputChannels where
  pointer : Option InputChannel
  control : Option InputChannel
  legacy : Option InputChannel
  deriving DecidableEq

def isViewerInputChannelOpen (channel : Option InputChannel) : Bool :=
  channel.any InputChannel.isOpen

def hasOpenSplitInputControlChannel (channels : InputChannels) : Bool :=
  isViewerInputChannelOpen channels.control

def pointerChannelBufferHighWatermarkBytes : ℕ := 16 * 1024

def shouldDropViewerPointerMove (channel : Option InputChannel) : Bool :=
  channel.any fun channel => pointerChannelBufferHighWatermarkBytes < channel.bufferedAmount

/-! ## Messages -/

inductive Action where
  | down
  | up
  deriving DecidableEq

/-- A position on the remote desktop. -/
structure Point where
  x : ℤ
  y : ℤ
  deriving DecidableEq

inductive FlushReason where
  | timer
  | maxChars
  deriving DecidableEq

structure KeyMessage where
  action : Action
  code : JsString
  key : JsString
  altKey : Bool
  ctrlKey : Bool
  metaKey : Bool
  shiftKey : Bool
  deriving DecidableEq

structure MovePayload where
  point : Point
  width : ℕ
  height : ℕ
  deriving DecidableEq

structure WheelPayload where
  deltaX : ℚ
  deltaY : ℚ
  deltaMode : ℕ
  point : Point
  deriving DecidableEq

inductive InputMessage where
  | textInsert (text : JsString) (reason : FlushReason)
  | key (message : KeyMessage)
  | pointerMove (payload : MovePayload)
  | pointerButton (action : Action) (button : ℕ) (point : Option Point)
  | wheel (payload : WheelPayload)
  deriving DecidableEq

/-- `message?.type === "pointer.move"`. -/
def InputMessage.isPointerMove : InputMessage → Bool
  | .pointerMove _ => true
  | _ => false

/-- `buildViewerInputEnvelope`; `viewerTs` and `ts` carry the same time. -/
structure Envelope where
  message : InputMessage
  seq : ℕ
  viewerTs : ℤ
  channel : ChannelRole
  deriving DecidableEq

/-- The options are `preferControl` or none: no caller passes the other two. -/
def chooseViewerInputChannel (message : InputMessage) (channels : InputChannels)
    (preferControl : Bool) : Option ChannelRole :=
  let orLegacy (channel : Option InputChannel) (role : ChannelRole) : Option ChannelRole :=
    if isViewerInputChannelOpen channel then some role
    else if isViewerInputChannelOpen channels.legacy then some .legacy
    else none
  if preferControl then orLegacy channels.control .control
  else if message.isPointerMove then orLegacy channels.pointer .pointer
  else orLegacy channels.control .control

/-! ## The page -/

/-- `getBoundingClientRect` of the video element. -/
structure ClientRect where
  left : ℚ
  top : ℚ
  width : ℚ
  height : ℚ
  deriving DecidableEq

/-- What the handlers read of the page and do not change. `streamWidth` and `streamHeight` are
their values after `syncStreamDimensions`. -/
structure Page where
  channels : InputChannels
  rect : ClientRect
  remoteDesktopWidth : ℕ
  remoteDesktopHeight : ℕ
  streamWidth : ℕ
  streamHeight : ℕ
  now : ℤ
  /-- The double for an exact result. -/
  toDouble : ℚ → ℚ

/-- `left || right` of two numbers. -/
def orElse (first second : ℕ) : ℕ :=
  if first = 0 then second else first

/-- The part of the video element that the picture fills, with the desktop's size. -/
structure ContentRect extends ClientRect where
  desktopWidth : ℕ
  desktopHeight : ℕ

def getVideoContentRect (page : Page) : Option ContentRect :=
  let rect := page.rect
  let aspectWidth := orElse page.remoteDesktopWidth (orElse page.streamWidth 1280)
  let aspectHeight := orElse page.remoteDesktopHeight (orElse page.streamHeight 720)
  if rect.width = 0 ∨ rect.height = 0 ∨ aspectWidth = 0 ∨ aspectHeight = 0 then none
  else
    let rectAspect := page.toDouble (rect.width / rect.height)
    let sourceAspect := page.toDouble (aspectWidth / aspectHeight)
    let margin (outer inner : ℚ) := page.toDouble (page.toDouble (outer - inner) / 2)
    let placed : ClientRect :=
      if rectAspect > sourceAspect then
        let width := page.toDouble (rect.height * sourceAspect)
        { rect with width, left := page.toDouble (rect.left + margin rect.width width) }
      else if rectAspect < sourceAspect then
        let height := page.toDouble (rect.width / sourceAspect)
        { rect with height, top := page.toDouble (rect.top + margin rect.height height) }
      else rect
    some { placed with
      desktopWidth := orElse page.remoteDesktopWidth aspectWidth
      desktopHeight := orElse page.remoteDesktopHeight aspectHeight }

/-- `Math.round`. -/
def mathRound (value : ℚ) : ℤ := ⌊value + 1 / 2⌋

/-- The point of the remote desktop under a position in the window, if the picture is there. -/
def normalizePoint (page : Page) (clientX clientY : ℚ) : Option Point :=
  match getVideoContentRect page with
  | none => none
  | some rect =>
      let x := page.toDouble (clientX - rect.left)
      let y := page.toDouble (clientY - rect.top)
      let scale (part whole : ℚ) (size : ℕ) : ℤ :=
        mathRound (page.toDouble (page.toDouble (part / whole) * size))
      if x < 0 ∨ y < 0 ∨ x > rect.width ∨ y > rect.height then none
      else some
        { x := scale x rect.width rect.desktopWidth
          y := scale y rect.height rect.desktopHeight }

/-! ## Events -/

inductive ElementKind where
  | input
  | textArea
  | button
  | other
  deriving DecidableEq

structure EventTarget where
  element : ElementKind
  isContentEditable : Bool
  /-- `closest(".topbar, .overlay-card")` finds something. -/
  inTopbarOrOverlay : Bool
  deriving DecidableEq

def isLocalTextInputTarget (target : EventTarget) : Bool :=
  target.element == .input || target.element == .textArea || target.element == .button ||
    target.isContentEditable || target.inTopbarOrOverlay

structure KeyboardEvent where
  target : EventTarget
  code : JsString
  key : JsString
  altKey : Bool
  ctrlKey : Bool
  metaKey : Bool
  shiftKey : Bool
  isComposing : Bool
  deriving DecidableEq

/-- A mouse event of the window. The listeners are the video element's, so they see only the
events that are dispatched to it. -/
structure MouseEvent where
  onVideo : Bool
  button : ℕ
  clientX : ℚ
  clientY : ℚ
  deriving DecidableEq

inductive Event where
  | keydown (event : KeyboardEvent)
  | keyup (event : KeyboardEvent)
  | beforeinput (target : EventTarget) (data inputType : JsString)
  | paste (target : EventTarget) (text : JsString)
  | pointermove (event : MouseEvent)
  | mousedown (event : MouseEvent)
  | mouseup (event : MouseEvent)
  | wheel (event : MouseEvent) (deltaX deltaY : ℚ) (deltaMode : ℕ)
  -- the callbacks of the batcher's timer, the animation frame and the wheel timer
  | textTimer
  | pointerFrame
  | wheelTimer
  deriving DecidableEq

def isTextInsertKeyEvent (channels : InputChannels) (event : KeyboardEvent) : Bool :=
  hasOpenSplitInputControlChannel channels && !event.isComposing && !event.altKey &&
    !event.ctrlKey && !event.metaKey && event.key.length == 1

/-- `event.code || event.key`, trimmed; the empty string is falsy. -/
def getKeyboardEventId (event : KeyboardEvent) : JsString :=
  JsString.trim (if event.code = [] then event.key else event.code)

/-- The `key` message that is sent for an event. -/
def KeyboardEvent.message (event : KeyboardEvent) (action : Action) : KeyMessage where
  action := action
  code := event.code
  key := event.key
  altKey := event.altKey
  ctrlKey := event.ctrlKey
  metaKey := event.metaKey
  shiftKey := event.shiftKey

/-! ## The handlers -/

/-- The variables of the input handlers, and what has been sent on the data channels. A timer
or an animation frame that has been asked for is a flag: when it fires is up to the schedule. -/
structure InputState where
  inputSeq : ℕ
  pendingText : JsString
  textTimer : Bool
  textInsertSuppressedKeyIds : Finset JsString
  pendingPointerMove : Option MovePayload
  pointerMoveFrame : Bool
  pendingWheel : Option WheelPayload
  wheelTimer : Bool
  sent : List Envelope

/-- The page after loading. -/
def InputState.initial : InputState where
  inputSeq := 0
  pendingText := []
  textTimer := false
  textInsertSuppressedKeyIds := ∅
  pendingPointerMove := none
  pointerMoveFrame := false
  pendingWheel := none
  wheelTimer := false
  sent := []

/-- `channel.send` of the next envelope. -/
def InputState.deliver (state : InputState) (page : Page) (message : InputMessage)
    (channel : ChannelRole) : InputState :=
  { state with
    inputSeq := state.inputSeq + 1
    sent := state.sent ++ [{ message, seq := state.inputSeq + 1, viewerTs := page.now, channel }] }

/-- No handler reads what `sendInput` returns. -/
def sendInput (page : Page) (message : InputMessage) (preferControl : Bool)
    (state : InputState) : InputState :=
  match chooseViewerInputChannel message page.channels preferControl with
  | none => state
  | some channel =>
      if message.isPointerMove ∧ preferControl = false ∧ channel = .pointer ∧
          shouldDropViewerPointerMove page.channels.pointer then state
      else state.deliver page message channel

def textInsertBatchMaxChars : ℕ := 256

/-- `flush` of the text batcher. -/
def flush (page : Page) (reason : FlushReason) (state : InputState) : InputState :=
  let state := { state with textTimer := false }
  if state.pendingText = [] then state
  else
    sendInput page (.textInsert state.pendingText reason) true { state with pendingText := [] }

/-- The loop of `enqueue`: full batches are sent at once. -/
def sendFullBatches (page : Page) (state : InputState) : InputState :=
  if textInsertBatchMaxChars ≤ state.pendingText.length then
    let batch := state.pendingText.take textInsertBatchMaxChars
    let rest := { state with pendingText := state.pendingText.drop textInsertBatchMaxChars }
    sendFullBatches page (sendInput page (.textInsert batch .maxChars) true rest)
  else state
termination_by state.pendingText.length
decreasing_by
  have positive : 0 < textInsertBatchMaxChars := by decide
  simp only [sendInput]
  split
  · simp only [List.length_drop]
    omega
  · split <;> simp only [InputState.deliver, List.length_drop] <;> omega

def scheduleFlush (state : InputState) : InputState :=
  if state.textTimer ∨ state.pendingText = [] then state else { state with textTimer := true }

def enqueue (page : Page) (text : JsString) (state : InputState) : InputState :=
  if text = [] then state
  else
    scheduleFlush
      (sendFullBatches page { state with pendingText := state.pendingText ++ text })

def clearPointerMoveFrame (state : InputState) : InputState :=
  if state.pointerMoveFrame then
    { state with pointerMoveFrame := false, pendingPointerMove := none }
  else state

def schedulePointerMove (payload : MovePayload) (state : InputState) : InputState :=
  { state with pendingPointerMove := some payload, pointerMoveFrame := true }

/-- The payload of a move to a point. -/
def Page.movePayload (page : Page) (point : Point) : MovePayload where
  point := point
  width := page.remoteDesktopWidth
  height := page.remoteDesktopHeight

def sendReliablePointerSync (page : Page) (point : Point) (state : InputState) : InputState :=
  sendInput page (.pointerMove (page.movePayload point)) true (clearPointerMoveFrame state)

/-- A later payload takes the place of the pending one and adds its deltas to it. -/
def scheduleWheel (payload : WheelPayload) (state : InputState) : InputState :=
  let pendingWheel :=
    match state.pendingWheel with
    | some pending =>
        { payload with
          deltaX := pending.deltaX + payload.deltaX
          deltaY := pending.deltaY + payload.deltaY }
    | none => payload
  { state with pendingWheel := some pendingWheel, wheelTimer := true }

/-- The listeners for `mousedown` and `mouseup` do the same with another action. -/
def onMouseButton (page : Page) (action : Action) (event : MouseEvent) (state : InputState) :
    InputState :=
  if event.onVideo then
    match normalizePoint page event.clientX event.clientY with
    | none => state
    | some point =>
        sendInput page (.pointerButton action event.button (some point)) true
          (sendReliablePointerSync page point state)
  else state

def onKeydown (page : Page) (event : KeyboardEvent) (state : InputState) : InputState :=
  if isLocalTextInputTarget event.target then state
  else if isTextInsertKeyEvent page.channels event then
    let keyId := getKeyboardEventId event
    let state :=
      if keyId = [] then state
      else
        { state with
          textInsertSuppressedKeyIds := insert keyId state.textInsertSuppressedKeyIds }
    enqueue page event.key state
  else sendInput page (.key (event.message .down)) true state

def onKeyup (page : Page) (event : KeyboardEvent) (state : InputState) : InputState :=
  if isLocalTextInputTarget event.target then state
  else
    let keyId := getKeyboardEventId event
    if keyId ≠ [] ∧ keyId ∈ state.textInsertSuppressedKeyIds then
      { state with
        textInsertSuppressedKeyIds := state.textInsertSuppressedKeyIds.erase keyId }
    else sendInput page (.key (event.message .up)) true state

/-- One event of the window, or one callback. -/
def handle (page : Page) (event : Event) (state : InputState) : InputState :=
  match event with
  | .keydown event => onKeydown page event state
  | .keyup event => onKeyup page event state
  | .beforeinput target data inputType =>
      if isLocalTextInputTarget target then state
      else if data = [] ∨ hasOpenSplitInputControlChannel page.channels = false then state
      else if inputType ≠ [] ∧ ¬ JsString.ascii "insert" <+: inputType then state
      else enqueue page data state
  | .paste target text =>
      if isLocalTextInputTarget target ∨
          hasOpenSplitInputControlChannel page.channels = false then state
      else if text = [] then state
      else enqueue page text state
  | .pointermove event =>
      if event.onVideo then
        match normalizePoint page event.clientX event.clientY with
        | none => state
        | some point => schedulePointerMove (page.movePayload point) state
      else state
  | .mousedown event => onMouseButton page .down event state
  | .mouseup event => onMouseButton page .up event state
  | .wheel event deltaX deltaY deltaMode =>
      if event.onVideo then
        match normalizePoint page event.clientX event.clientY with
        | none => state
        | some point => scheduleWheel { deltaX, deltaY, deltaMode, point } state
      else state
  | .textTimer => if state.textTimer then flush page .timer state else state
  | .pointerFrame =>
      if state.pointerMoveFrame then
        let state := { state with pointerMoveFrame := false }
        match state.pendingPointerMove with
        | none => state
        | some payload =>
            { sendInput page (.pointerMove payload) false state with pendingPointerMove := none }
      else state
  | .wheelTimer =>
      if state.wheelTimer then
        let state := { state with wheelTimer := false }
        match state.pendingWheel with
        | none => state
        | some payload =>
            { sendInput page (.wheel payload) false state with pendingWheel := none }
      else state

/-- An event and the page it happens in. -/
structure Turn where
  page : Page
  event : Event

/-- The nearest integer, the even one of two. -/
def roundHalfEven (value : ℚ) : ℤ :=
  let below := ⌊value⌋
  if value - below < 1 / 2 ∨ value - below = 1 / 2 ∧ below % 2 = 0 then below else below + 1

/-- The nearest number with 53 binary digits, which is the double where the result is neither too
large nor subnormal. -/
def roundToDouble (value : ℚ) : ℚ :=
  let unit : ℚ := 2 ^ (Int.log 2 |value| - 52)
  roundHalfEven (value / unit) * unit

/-- A page with every channel open and the picture at its own size in the corner. -/
def plainPage : Page where
  channels :=
    { pointer := some { isOpen := true, bufferedAmount := 0 }
      control := some { isOpen := true, bufferedAmount := 0 }
      legacy := none }
  rect := { left := 0, top := 0, width := 1280, height := 720 }
  remoteDesktopWidth := 1280
  remoteDesktopHeight := 720
  streamWidth := 1280
  streamHeight := 720
  now := 0
  toDouble := roundToDouble

/-- A key without modifiers, addressed to the remote page. -/
def plainKey (code key : String) : KeyboardEvent where
  target := { element := .other, isContentEditable := false, inTopbarOrOverlay := false }
  code := JsString.ascii code
  key := JsString.ascii key
  altKey := false
  ctrlKey := false
  metaKey := false
  shiftKey := false
  isComposing := false

def runFrom (state : InputState) (turns : List Turn) : InputState :=
  turns.foldl (fun state turn => handle turn.page turn.event state) state

/-- The page after a sequence of events. -/
def run (turns : List Turn) : InputState :=
  runFrom InputState.initial turns

@[simp]
theorem runFrom_append (state : InputState) (before after : List Turn) :
    runFrom state (before ++ after) = runFrom (runFrom state before) after :=
  List.foldl_append ..

theorem run_concat (turns : List Turn) (turn : Turn) :
    run (turns ++ [turn]) = handle turn.page turn.event (run turns) := by
  simp [run, runFrom]

/-- The control channel is open at every event. -/
def ControlOpen (turns : List Turn) : Prop :=
  ∀ turn ∈ turns, hasOpenSplitInputControlChannel turn.page.channels = true

theorem ControlOpen.of_append {before after : List Turn}
    (controlOpen : ControlOpen (before ++ after)) : ControlOpen before :=
  fun turn mem => controlOpen turn (List.mem_append_left _ mem)

theorem ControlOpen.last {turns : List Turn} {turn : Turn}
    (controlOpen : ControlOpen (turns ++ [turn])) :
    hasOpenSplitInputControlChannel turn.page.channels = true :=
  controlOpen turn (by simp)

theorem controlOpen_of_plain {turns : List Turn} (plain : ∀ turn ∈ turns, turn.page = plainPage) :
    ControlOpen turns := by
  intro turn mem
  rw [plain turn mem]
  rfl

/-! ## What an operation sends -/

/-- From one state to the next, messages of one kind have been sent, with the next numbers. -/
def Sends (kind : InputMessage → Prop) (state next : InputState) : Prop :=
  ∃ envelopes, next.sent = state.sent ++ envelopes ∧
    (∀ envelope ∈ envelopes, kind envelope.message) ∧
    next.inputSeq = state.inputSeq + envelopes.length ∧
    envelopes.map Envelope.seq = List.range' (state.inputSeq + 1) envelopes.length

section Sending

variable {kind : InputMessage → Prop} {page : Page} {state next : InputState}
  {message : InputMessage}

theorem Sends.none (same : next.sent = state.sent) (number : next.inputSeq = state.inputSeq) :
    Sends kind state next :=
  ⟨[], by simp [same], by simp, by simp [number], rfl⟩

theorem Sends.trans {last : InputState} (first : Sends kind state next)
    (second : Sends kind next last) : Sends kind state last := by
  obtain ⟨before, sentBefore, kindBefore, lastBefore, seqsBefore⟩ := first
  obtain ⟨after, sentAfter, kindAfter, lastAfter, seqsAfter⟩ := second
  refine ⟨before ++ after, by rw [sentAfter, sentBefore, List.append_assoc], ?_, ?_, ?_⟩
  · intro envelope mem
    rcases List.mem_append.mp mem with mem | mem
    · exact kindBefore envelope mem
    · exact kindAfter envelope mem
  · rw [lastAfter, lastBefore, List.length_append, Nat.add_assoc]
  · rw [List.map_append, seqsBefore, seqsAfter, lastBefore, List.length_append,
      ← List.range'_append_1, Nat.add_right_comm]

theorem Sends.sent_grows (sends : Sends kind state next) : state.sent <+: next.sent := by
  obtain ⟨envelopes, sent, -⟩ := sends
  exact ⟨envelopes, sent.symm⟩

/-- A message is sent on some channel or dropped. -/
theorem sendInput_cases (page : Page) (state : InputState) (message : InputMessage)
    (preferControl : Bool) :
    sendInput page message preferControl state = state ∨
      ∃ channel,
        sendInput page message preferControl state = state.deliver page message channel := by
  unfold sendInput
  split
  · exact .inl rfl
  · split
    · exact .inl rfl
    · exact .inr ⟨_, rfl⟩

theorem sends_sendInput (isKind : kind message) (preferControl : Bool) :
    Sends kind state (sendInput page message preferControl state) := by
  obtain same | ⟨channel, delivered⟩ := sendInput_cases page state message preferControl
  · exact .none (by rw [same]) (by rw [same])
  · refine ⟨[_], by rw [delivered]; rfl, ?_, by rw [delivered]; rfl, rfl⟩
    intro envelope mem
    rw [List.mem_singleton.mp mem]
    exact isKind

/-- On the open control channel nothing is dropped. -/
theorem sendInput_control (opened : hasOpenSplitInputControlChannel page.channels = true) :
    sendInput page message true state = state.deliver page message .control := by
  have chosen : chooseViewerInputChannel message page.channels true = some .control := by
    have isOpen : isViewerInputChannelOpen page.channels.control = true := opened
    simp [chooseViewerInputChannel, isOpen]
  simp [sendInput, chosen]

def InputMessage.IsTextInsert (message : InputMessage) : Prop :=
  ∃ text reason, message = .textInsert text reason

theorem sends_flush (reason : FlushReason) :
    Sends InputMessage.IsTextInsert state (flush page reason state) := by
  unfold flush
  dsimp only
  split
  · exact .none rfl rfl
  · exact (Sends.none rfl rfl).trans (sends_sendInput ⟨_, _, rfl⟩ true)

theorem sends_sendFullBatches :
    Sends InputMessage.IsTextInsert state (sendFullBatches page state) := by
  induction state using sendFullBatches.induct page with
  | case1 state full batch rest ih =>
      rw [sendFullBatches, if_pos full]
      have first : Sends InputMessage.IsTextInsert state rest := .none rfl rfl
      exact (first.trans (sends_sendInput ⟨_, _, rfl⟩ true)).trans ih
  | case2 state short =>
      rw [sendFullBatches, if_neg short]
      exact .none rfl rfl

theorem sends_enqueue (text : JsString) :
    Sends InputMessage.IsTextInsert state (enqueue page text state) := by
  unfold enqueue
  split
  · exact .none rfl rfl
  · have batches := @sends_sendFullBatches page { state with pendingText := state.pendingText ++ text }
    refine ((Sends.none rfl rfl).trans batches).trans ?_
    unfold scheduleFlush
    split <;> exact .none rfl rfl

@[simp]
theorem sent_clearPointerMoveFrame : (clearPointerMoveFrame state).sent = state.sent := by
  unfold clearPointerMoveFrame
  split <;> rfl

theorem sends_clearPointerMoveFrame : Sends kind state (clearPointerMoveFrame state) := by
  unfold clearPointerMoveFrame
  split <;> exact .none rfl rfl

theorem sends_sendReliablePointerSync (point : Point)
    (isKind : kind (.pointerMove (page.movePayload point))) :
    Sends kind state (sendReliablePointerSync page point state) :=
  sends_clearPointerMoveFrame.trans (sends_sendInput isKind true)

/-- The messages an event may send. -/
def Event.Emits (event : Event) (message : InputMessage) : Prop :=
  match event with
  | .keydown event => message.IsTextInsert ∨ message = .key (event.message .down)
  | .keyup event => message = .key (event.message .up)
  | .beforeinput _ _ _ | .paste _ _ | .textTimer => message.IsTextInsert
  | .mousedown event =>
      message.isPointerMove ∨ ∃ point, message = .pointerButton .down event.button point
  | .mouseup event =>
      message.isPointerMove ∨ ∃ point, message = .pointerButton .up event.button point
  | .pointerFrame => message.isPointerMove
  | .wheelTimer => ∃ payload, message = .wheel payload
  | .pointermove _ | .wheel _ _ _ _ => False

theorem Sends.mono {weaker : InputMessage → Prop} (sends : Sends kind state next)
    (weaken : ∀ message, kind message → weaker message) : Sends weaker state next := by
  obtain ⟨envelopes, sent, isKind, numbered⟩ := sends
  exact ⟨envelopes, sent, fun envelope mem => weaken _ (isKind envelope mem), numbered⟩

theorem sends_onMouseButton (action : Action) (event : MouseEvent) :
    Sends (fun message => message.isPointerMove ∨
        ∃ point, message = .pointerButton action event.button point)
      state (onMouseButton page action event state) := by
  unfold onMouseButton
  split
  · split
    · exact .none rfl rfl
    · exact (sends_sendReliablePointerSync _ (.inl rfl)).trans
        (sends_sendInput (.inr ⟨_, rfl⟩) true)
  · exact .none rfl rfl

theorem sends_onKeydown (event : KeyboardEvent) :
    Sends (fun message => message.IsTextInsert ∨ message = .key (event.message .down))
      state (onKeydown page event state) := by
  unfold onKeydown
  split
  · exact .none rfl rfl
  · split
    · dsimp only
      refine Sends.trans ?_ ((sends_enqueue event.key).mono fun _ => .inl)
      split <;> exact .none rfl rfl
    · exact sends_sendInput (.inr rfl) true

theorem sends_onKeyup (event : KeyboardEvent) :
    Sends (fun message => message = .key (event.message .up)) state (onKeyup page event state) := by
  unfold onKeyup
  split
  · exact .none rfl rfl
  · dsimp only
    split
    · exact .none rfl rfl
    · exact @sends_sendInput (fun message => message = .key (event.message .up)) _ _ _ rfl true

theorem sends_handle (event : Event) : Sends event.Emits state (handle page event state) := by
  cases event with
  | keydown event => exact sends_onKeydown event
  | keyup event => exact sends_onKeyup event
  | beforeinput target data inputType =>
      simp only [handle]
      repeat' split
      all_goals first | exact .none rfl rfl | exact sends_enqueue data
  | paste target text =>
      simp only [handle]
      repeat' split
      all_goals first | exact .none rfl rfl | exact sends_enqueue text
  | pointermove event =>
      simp only [handle, schedulePointerMove]
      repeat' split
      all_goals exact .none rfl rfl
  | mousedown event => exact sends_onMouseButton .down event
  | mouseup event => exact sends_onMouseButton .up event
  | wheel event deltaX deltaY deltaMode =>
      simp only [handle, scheduleWheel]
      repeat' split
      all_goals exact .none rfl rfl
  | textTimer =>
      simp only [handle]
      split
      · exact sends_flush .timer
      · exact .none rfl rfl
  | pointerFrame =>
      simp only [handle]
      split
      · split
        · exact .none rfl rfl
        · rename_i payload _
          have sends := @sends_sendInput Event.pointerFrame.Emits page
            { state with pointerMoveFrame := false } (.pointerMove payload) rfl false
          exact ((Sends.none rfl rfl).trans sends).trans (.none rfl rfl)
      · exact .none rfl rfl
  | wheelTimer =>
      simp only [handle]
      split
      · split
        · exact .none rfl rfl
        · rename_i payload _
          have sends := @sends_sendInput Event.wheelTimer.Emits page
            { state with wheelTimer := false } (.wheel payload) ⟨payload, rfl⟩ false
          exact ((Sends.none rfl rfl).trans sends).trans (.none rfl rfl)
      · exact .none rfl rfl

end Sending

end RemoteBrowser.Viewer
