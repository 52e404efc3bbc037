import Mathlib.Algebra.Order.Floor.Semiring
import RemoteBrowser.Events.Sequence
import RemoteBrowser.Viewer.Input

/-!
# The worker's pointer

`worker.py` applies the viewer's input messages to the X server, one message at a time. A pointer
move is only noted: a task of its own applies the noted position when the event loop gets to it.
A button message applies its own position and forgets the noted one; a wheel message leaves the
pointer where it is. Buttons and wheel wait for the browser window to have the focus before they
act, and the task may run meanwhile.
-/

namespace RemoteBrowser.Worker

open Viewer (Point InputMessage Envelope WheelPayload)

/-- The constants of the wheel. -/
structure WheelRates where
  pixelDeltaPerClick : ℚ
  lineDeltaPerClick : ℚ
  pageToClickMultiplier : ℚ

/-- The display's size and the constants of the wheel, which come from the environment, and the
place of the X pointer when the worker starts. -/
structure InputSettings where
  displayWidth : ℕ
  displayHeight : ℕ
  wheel : WheelRates
  pointer : Point

/-- The fields `x` and `y` of a message. -/
def coordinates : InputMessage → Option Point
  | .pointerMove payload => some payload.point
  | .pointerButton _ _ point => point
  | .wheel payload => some payload.point
  | .textInsert _ _ => none
  | .key _ => none

def clamp (settings : InputSettings) (point : Point) : Point where
  x := max 0 (min (max 0 (settings.displayWidth - 1)) point.x)
  y := max 0 (min (max 0 (settings.displayHeight - 1)) point.y)

def pointerCoordinatesFromMessage (settings : InputSettings) (message : InputMessage) :
    Option Point :=
  (coordinates message).map (clamp settings)

/-- A position and the `seq` of the message it comes from. The worker keeps only the position. -/
structure Placement where
  point : Point
  seq : ℕ
  deriving DecidableEq

/-- What the worker does with the pointer, in order. Buttons and wheel clicks happen where the
pointer is and are caused by a message. -/
inductive PointerEvent where
  | queued (placement : Placement)
  | moved (placement : Placement)
  | button (button : ℕ) (pressed : Bool) (pointer : Point) (cause : Envelope)
  | wheel (button clicks : ℕ) (pointer : Point) (cause : Envelope)
  deriving DecidableEq

/-- Where `handle_input` waits. The branches for text and keys wait too, and touch neither the
pointer nor the noted position. -/
inductive Waiting where
  | button (cause : Envelope) (button : ℕ) (pressed : Bool)
  | wheel (cause : Envelope) (button clicks : ℕ)
  | elsewhere
  deriving DecidableEq

structure InputWorker where
  inputMessageQueue : List Envelope
  waiting : Option Waiting
  pendingPointerPosition : Option Placement
  /-- `POINTER_MOVE_TASK` is there and not done. -/
  pointerMoveTask : Bool
  wheelScrollRemainderY : ℚ
  pointer : Point
  log : List PointerEvent

def InputWorker.initial (settings : InputSettings) : InputWorker where
  inputMessageQueue := []
  waiting := none
  pendingPointerPosition := none
  pointerMoveTask := false
  wheelScrollRemainderY := 0
  pointer := settings.pointer
  log := []

def InputWorker.record (worker : InputWorker) (event : PointerEvent) : InputWorker :=
  { worker with log := worker.log ++ [event] }

def movePointer (placement : Placement) (worker : InputWorker) : InputWorker :=
  { worker with pointer := placement.point }.record (.moved placement)

def queuePointerMove (placement : Placement) (worker : InputWorker) : InputWorker :=
  { worker with
    pendingPointerPosition := some placement
    pointerMoveTask := true }.record (.queued placement)

def syncPointerPosition (placement : Placement) (worker : InputWorker) : InputWorker :=
  movePointer placement { worker with pendingPointerPosition := none }

/-- One turn of the loop of `flush_pointer_moves`, from its start or from the end of its sleep.
When nothing is noted the task ends. -/
def flushPointerMoves (worker : InputWorker) : InputWorker :=
  match worker.pendingPointerPosition with
  | some placement => movePointer placement { worker with pendingPointerPosition := none }
  | none => { worker with pointerMoveTask := false }

def buttonMap : ℕ → Option ℕ
  | 0 => some 1
  | 1 => some 2
  | 2 => some 3
  | _ => none

def wheelUnits (rates : WheelRates) (deltaY : ℚ) (deltaMode : ℕ) : ℚ :=
  if deltaMode = 1 then deltaY / rates.lineDeltaPerClick
  else if deltaMode = 2 then deltaY * rates.pageToClickMultiplier
  else deltaY / rates.pixelDeltaPerClick

/-- The remainder of earlier wheel messages is dropped when the direction changes. -/
def addWheelUnits (remainder units : ℚ) : ℚ :=
  if remainder ≠ 0 ∧ ¬(0 < remainder ↔ 0 < units) then units else remainder + units

def wheelClicks (remainder : ℚ) : ℕ := min 8 ⌊|remainder|⌋₊

def wheelButton (remainder : ℚ) : ℕ := if 0 < remainder then 5 else 4

/-- What remains when the clicks are done. -/
def takeClicks (remainder : ℚ) (clicks : ℕ) : ℚ :=
  if 0 < remainder then remainder - clicks else remainder + clicks

/-- The `wheel` branch up to its wait. -/
def handleWheel (settings : InputSettings) (envelope : Envelope) (payload : WheelPayload)
    (worker : InputWorker) : InputWorker :=
  let units := wheelUnits settings.wheel payload.deltaY payload.deltaMode
  if payload.deltaY = 0 ∨ units = 0 then worker
  else
    let remainder := addWheelUnits worker.wheelScrollRemainderY units
    let clicks := wheelClicks remainder
    let worker := { worker with wheelScrollRemainderY := remainder }
    if clicks < 1 then worker
    else { worker with waiting := some (.wheel envelope (wheelButton remainder) clicks) }

/-- A wheel message changes the remainder and perhaps waits to click. -/
theorem handleWheel_cases (settings : InputSettings) (envelope : Envelope)
    (payload : WheelPayload) (worker : InputWorker) :
    (∃ remainder, handleWheel settings envelope payload worker =
      { worker with wheelScrollRemainderY := remainder }) ∨
    ∃ remainder button clicks, handleWheel settings envelope payload worker =
      { worker with
        wheelScrollRemainderY := remainder
        waiting := some (.wheel envelope button clicks) } := by
  unfold handleWheel
  dsimp only
  split
  · exact .inl ⟨_, rfl⟩
  · split
    · exact .inl ⟨_, rfl⟩
    · exact .inr ⟨_, _, _, rfl⟩

/-- `handle_input` up to its wait, or to its end if it does not wait. -/
def handleInput (settings : InputSettings) (envelope : Envelope) (worker : InputWorker) :
    InputWorker :=
  match envelope.message with
  | .pointerMove _ =>
      match pointerCoordinatesFromMessage settings envelope.message with
      | some point => queuePointerMove ⟨point, envelope.seq⟩ worker
      | none => worker
  | .pointerButton action button _ =>
      match buttonMap button with
      | some button =>
          { worker with waiting := some (.button envelope button (action == .down)) }
      | none => worker
  | .wheel payload => handleWheel settings envelope payload worker
  | .textInsert _ _ => { worker with waiting := some .elsewhere }
  | .key _ => { worker with waiting := some .elsewhere }

/-- The rest of `handle_input` when the browser has the focus. -/
def resumeInput (settings : InputSettings) (waiting : Waiting) (worker : InputWorker) :
    InputWorker :=
  let worker := { worker with waiting := none }
  match waiting with
  | .button cause button pressed =>
      let worker :=
        match pointerCoordinatesFromMessage settings cause.message with
        | some point => syncPointerPosition ⟨point, cause.seq⟩ worker
        | none => worker
      worker.record (.button button pressed worker.pointer cause)
  | .wheel cause button clicks =>
      { worker with
        wheelScrollRemainderY := takeClicks worker.wheelScrollRemainderY clicks }.record
        (.wheel button clicks worker.pointer cause)
  | .elsewhere => worker

end RemoteBrowser.Worker
