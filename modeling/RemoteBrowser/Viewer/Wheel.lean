import RemoteBrowser.Worker.Pointer
import Mathlib.Algebra.BigOperators.Ring.List
import Mathlib.Algebra.Order.BigOperators.Group.List
import Mathlib.Tactic.Linarith
import Mathlib.Tactic.FieldSimp

/-!
# Scrolling from the viewer to the X server

The viewer's page collects wheel events into batches; `handle_input` of the worker turns a batch
into clicks of a button and carries over what is less than a click.
-/

namespace RemoteBrowser.Viewer

open Worker (WheelRates wheelUnits addWheelUnits wheelClicks wheelButton takeClicks)

/-! ## The batches of a run -/

/-- The payload that the handler of a wheel event passes to `scheduleWheel`. -/
def Turn.scheduled (turn : Turn) : Option WheelPayload :=
  match turn.event with
  | .wheel event deltaX deltaY deltaMode =>
      if event.onVideo then
        (normalizePoint turn.page event.clientX event.clientY).map fun point =>
          { deltaX, deltaY, deltaMode, point }
      else none
  | _ => none

/-- The payloads that were sent together, and those that wait. -/
structure WheelBatches where
  sent : List (List WheelPayload)
  pending : List WheelPayload

def WheelBatches.next (batches : WheelBatches) (turn : Turn) : WheelBatches :=
  match turn.scheduled with
  | some payload => { batches with pending := batches.pending ++ [payload] }
  | none =>
      if turn.event = .wheelTimer ∧ batches.pending ≠ [] then
        { sent := batches.sent ++ [batches.pending], pending := [] }
      else batches

/-- The timer of a wheel event ends its batch. -/
def wheelBatches (turns : List Turn) : WheelBatches := turns.foldl WheelBatches.next ⟨[], []⟩

/-- The payload of a batch: the deltas are added, everything else is the last event's. -/
def mergeWheel : Option WheelPayload → WheelPayload → WheelPayload
  | some pending, payload =>
      { payload with
        deltaX := pending.deltaX + payload.deltaX
        deltaY := pending.deltaY + payload.deltaY }
  | none, payload => payload

def mergeBatch (batch : List WheelPayload) : Option WheelPayload :=
  batch.foldl (fun pending payload => some (mergeWheel pending payload)) none

def InputMessage.wheel? : InputMessage → Option WheelPayload
  | .wheel payload => some payload
  | _ => none

/-- The wheel messages that have been sent. -/
def InputState.wheels (state : InputState) : List WheelPayload :=
  state.sent.filterMap (·.message.wheel?)

section Merge

variable {batch : List WheelPayload} {payload merged : WheelPayload}

theorem mergeBatch_concat (batch : List WheelPayload) (payload : WheelPayload) :
    mergeBatch (batch ++ [payload]) = some (mergeWheel (mergeBatch batch) payload) := by
  rw [mergeBatch, List.foldl_append]
  rfl

theorem mergeBatch_eq_none : mergeBatch batch = none ↔ batch = [] := by
  cases batch using List.reverseRecOn with
  | nil => exact iff_of_true rfl rfl
  | append_singleton batch payload =>
      rw [mergeBatch_concat]
      exact iff_of_false (by simp) (by simp)

/-- The merged delta is the sum, the merged mode the last one. -/
theorem mergeBatch_spec (same : mergeBatch batch = some merged) :
    merged.deltaY = (batch.map (·.deltaY)).sum ∧
      batch.getLast?.map (·.deltaMode) = some merged.deltaMode := by
  induction batch using List.reverseRecOn generalizing merged with
  | nil => cases same
  | append_singleton batch payload ih =>
      rw [mergeBatch_concat, Option.some.injEq] at same
      subst same
      cases before : mergeBatch batch with
      | none =>
          rw [mergeBatch_eq_none.mp before]
          simp [mergeWheel]
      | some pending =>
          have sum := (ih before).1
          simp [mergeWheel, sum]

end Merge

/-! ## What the other handlers leave alone -/

section Frame

variable {page : Page} {state next : InputState}

/-- The variables of the wheel. -/
def InputState.wheelState (state : InputState) : Option WheelPayload × Bool :=
  (state.pendingWheel, state.wheelTimer)

@[simp]
theorem wheelState_sendInput (message : InputMessage) (preferControl : Bool) :
    (sendInput page message preferControl state).wheelState = state.wheelState := by
  obtain same | ⟨channel, delivered⟩ := sendInput_cases page state message preferControl
  · rw [same]
  · rw [delivered]
    rfl

theorem wheelState_flush (reason : FlushReason) :
    (flush page reason state).wheelState = state.wheelState := by
  unfold flush
  dsimp only
  split
  · rfl
  · rw [wheelState_sendInput]
    rfl

theorem wheelState_sendFullBatches :
    (sendFullBatches page state).wheelState = state.wheelState := by
  induction state using sendFullBatches.induct page with
  | case1 state full batch rest ih =>
      rw [sendFullBatches, if_pos full, ih, wheelState_sendInput]
      rfl
  | case2 state short => rw [sendFullBatches, if_neg short]

theorem wheelState_enqueue (text : JsString) :
    (enqueue page text state).wheelState = state.wheelState := by
  have batches := @wheelState_sendFullBatches page
    { state with pendingText := state.pendingText ++ text }
  unfold enqueue scheduleFlush
  split
  · rfl
  · split
    · exact batches
    · exact batches

theorem wheelState_onMouseButton (action : Action) (event : MouseEvent) :
    (onMouseButton page action event state).wheelState = state.wheelState := by
  have clear : (clearPointerMoveFrame state).wheelState = state.wheelState := by
    unfold clearPointerMoveFrame
    split <;> rfl
  unfold onMouseButton sendReliablePointerSync
  split
  · split
    · rfl
    · rw [wheelState_sendInput, wheelState_sendInput, clear]
  · rfl

theorem wheelState_handle {event : Event} (notWheel : ∀ mouse x y mode, event ≠ .wheel mouse x y mode)
    (notTimer : event ≠ .wheelTimer) : (handle page event state).wheelState = state.wheelState := by
  cases event with
  | keydown event =>
      simp only [handle, onKeydown]
      split
      · rfl
      · split
        · rw [wheelState_enqueue]
          split <;> rfl
        · rw [wheelState_sendInput]
  | keyup event =>
      simp only [handle, onKeyup]
      split
      · rfl
      · split
        · rfl
        · rw [wheelState_sendInput]
  | beforeinput target data inputType =>
      simp only [handle]
      repeat' split
      all_goals first | rfl | exact wheelState_enqueue data
  | paste target text =>
      simp only [handle]
      repeat' split
      all_goals first | rfl | exact wheelState_enqueue text
  | pointermove event =>
      simp only [handle, schedulePointerMove]
      repeat' split
      all_goals rfl
  | mousedown event => exact wheelState_onMouseButton .down event
  | mouseup event => exact wheelState_onMouseButton .up event
  | wheel mouse x y mode => exact absurd rfl (notWheel mouse x y mode)
  | textTimer =>
      simp only [handle]
      split
      · exact wheelState_flush .timer
      · rfl
  | pointerFrame =>
      simp only [handle]
      split
      · split
        · rfl
        · exact wheelState_sendInput _ _
      · rfl
  | wheelTimer => exact absurd rfl notTimer

/-- Messages of other kinds leave the wheel messages as they are. -/
theorem wheels_of_sends (sends : Sends (fun message => message.wheel? = none) state next) :
    next.wheels = state.wheels := by
  obtain ⟨envelopes, sent, silent, -⟩ := sends
  have none : envelopes.filterMap (·.message.wheel?) = [] := by
    rw [List.filterMap_eq_nil_iff]
    exact silent
  rw [InputState.wheels, sent, List.filterMap_append, none, List.append_nil, InputState.wheels]

theorem wheels_handle {event : Event} (notTimer : event ≠ .wheelTimer) :
    (handle page event state).wheels = state.wheels := by
  refine wheels_of_sends ((sends_handle event).mono fun message emits => ?_)
  cases message with
  | wheel payload =>
      cases event <;> simp [Event.Emits, InputMessage.IsTextInsert, InputMessage.isPointerMove]
        at emits notTimer
  | _ => rfl

end Frame

/-! ## The page follows its batches -/

/-- What the page has sent and what waits are the batches. -/
structure Tracks (batches : WheelBatches) (state : InputState) : Prop where
  pending : state.pendingWheel = mergeBatch batches.pending
  timer : state.wheelTimer = decide (batches.pending ≠ [])
  sent : batches.sent.map mergeBatch = state.wheels.map some

theorem Tracks.schedule {batches : WheelBatches} {state : InputState}
    (tracks : Tracks batches state) (payload : WheelPayload) :
    Tracks { batches with pending := batches.pending ++ [payload] }
      (scheduleWheel payload state) := by
  constructor
  case pending =>
    rw [mergeBatch_concat, ← tracks.pending]
    unfold scheduleWheel
    cases state.pendingWheel with
    | none => rfl
    | some pending => rfl
  case timer => exact (decide_eq_true (List.append_ne_nil_of_right_ne_nil _ (by simp))).symm
  case sent => exact tracks.sent

/-- On the open control channel a wheel message is sent. -/
theorem sendInput_wheel {page : Page}
    (opened : hasOpenSplitInputControlChannel page.channels = true) (payload : WheelPayload)
    (state : InputState) :
    sendInput page (.wheel payload) false state =
      state.deliver page (.wheel payload) .control := by
  have isOpen : isViewerInputChannelOpen page.channels.control = true := opened
  have chosen : chooseViewerInputChannel (.wheel payload) page.channels false = some .control := by
    simp [chooseViewerInputChannel, InputMessage.isPointerMove, isOpen]
  simp [sendInput, chosen, InputMessage.isPointerMove]

theorem Tracks.timerFires {batches : WheelBatches} {state : InputState}
    (tracks : Tracks batches state) {page : Page}
    (opened : hasOpenSplitInputControlChannel page.channels = true) :
    Tracks
      (if batches.pending ≠ [] then
        { sent := batches.sent ++ [batches.pending], pending := [] } else batches)
      (handle page .wheelTimer state) := by
  simp only [handle, tracks.timer, decide_eq_true_eq]
  by_cases none : batches.pending = []
  · rw [if_neg (not_not.mpr none), if_neg (not_not.mpr none)]
    exact tracks
  · rw [if_pos none, if_pos none, tracks.pending]
    cases merged : mergeBatch batches.pending with
    | none => exact absurd (mergeBatch_eq_none.mp merged) none
    | some payload =>
        dsimp only
        rw [sendInput_wheel opened]
        constructor
        case pending => rfl
        case timer => rfl
        case sent =>
          simp only [InputState.wheels, InputState.deliver, List.filterMap_append, List.map_append]
          have sent := tracks.sent
          rw [InputState.wheels] at sent
          rw [sent, List.map_singleton, merged]
          rfl

theorem Tracks.handle {batches : WheelBatches} {state : InputState} (tracks : Tracks batches state)
    {turn : Turn} (opened : hasOpenSplitInputControlChannel turn.page.channels = true) :
    Tracks (batches.next turn) (handle turn.page turn.event state) := by
  obtain ⟨page, event⟩ := turn
  by_cases timer : event = .wheelTimer
  · subst timer
    have fired := tracks.timerFires opened
    simpa [WheelBatches.next, Turn.scheduled] using fired
  · by_cases wheel : ∃ mouse x y mode, event = .wheel mouse x y mode
    · obtain ⟨mouse, x, y, mode, rfl⟩ := wheel
      simp only [WheelBatches.next, Turn.scheduled, Viewer.handle]
      split
      case h_1 payload scheduled =>
        split at scheduled
        case isTrue onVideo =>
          obtain ⟨point, found, rfl⟩ := Option.map_eq_some_iff.mp scheduled
          rw [if_pos onVideo, found]
          exact tracks.schedule _
        case isFalse => cases scheduled
      case h_2 unscheduled =>
        rw [if_neg (by simp)]
        split at unscheduled
        case isTrue onVideo =>
          rw [Option.map_eq_none_iff] at unscheduled
          rw [if_pos onVideo, unscheduled]
          exact tracks
        case isFalse away =>
          rw [if_neg away]
          exact tracks
    · have notWheel : ∀ mouse x y mode, event ≠ .wheel mouse x y mode :=
        fun mouse x y mode same => wheel ⟨mouse, x, y, mode, same⟩
      have unscheduled : (⟨page, event⟩ : Turn).scheduled = none := by
        cases event with
        | wheel mouse x y mode => exact absurd rfl (notWheel mouse x y mode)
        | _ => rfl
      have same := @wheelState_handle page state event notWheel timer
      rw [WheelBatches.next, unscheduled]
      dsimp only
      rw [if_neg (fun both => timer both.1)]
      constructor
      case pending => exact (congrArg Prod.fst same).trans tracks.pending
      case timer => exact (congrArg Prod.snd same).trans tracks.timer
      case sent => rw [wheels_handle timer, tracks.sent]

theorem tracks_run {turns : List Turn} (controlOpen : ControlOpen turns) :
    Tracks (wheelBatches turns) (run turns) := by
  induction turns using List.reverseRecOn with
  | nil => exact ⟨rfl, rfl, rfl⟩
  | append_singleton turns turn ih =>
      rw [run_concat, wheelBatches, List.foldl_append]
      exact (ih controlOpen.of_append).handle controlOpen.last

/-! ## Clicks -/

/-- The worker's constants with the bounds that it keeps them to. -/
structure WheelConfig extends WheelRates where
  pixelBound : 40 ≤ pixelDeltaPerClick
  lineBound : 1 ≤ lineDeltaPerClick
  pageBound : 1 ≤ pageToClickMultiplier

namespace WheelConfig

variable (config : WheelConfig)

/-- `XInputController.wheel`: the clicks of a button. -/
def wheel (button repeats : ℕ) : List ℕ := List.replicate (max 1 repeats) button

/-- The wheel branch of `handle_input` with its wait: the new remainder and the clicks. -/
def handleWheel (remainder deltaY : ℚ) (deltaMode : ℕ) : ℚ × List ℕ :=
  let units := wheelUnits config.toWheelRates deltaY deltaMode
  if deltaY = 0 ∨ units = 0 then (remainder, [])
  else
    let total := addWheelUnits remainder units
    let clicks := wheelClicks total
    if clicks < 1 then (total, [])
    else (takeClicks total clicks, wheel (wheelButton total) clicks)

/-- The presses of a button that the worker has noted. -/
def clicked : Worker.PointerEvent → List ℕ
  | .wheel button clicks _ _ => wheel button clicks
  | _ => []

/-- So the worker handles a message whose wait is over at once. -/
theorem handleWheel_worker {settings : Worker.InputSettings}
    (rates : settings.wheel = config.toWheelRates) (envelope : Envelope) (payload : WheelPayload)
    {worker : Worker.InputWorker} (idle : worker.waiting = none) :
    let waits := Worker.handleWheel settings envelope payload worker
    let done := waits.waiting.elim waits fun waiting => Worker.resumeInput settings waiting waits
    let (remainder, clicks) :=
      config.handleWheel worker.wheelScrollRemainderY payload.deltaY payload.deltaMode
    done.wheelScrollRemainderY = remainder ∧
      done.log.flatMap clicked = worker.log.flatMap clicked ++ clicks := by
  dsimp only
  unfold Worker.handleWheel handleWheel
  rw [rates]
  dsimp only
  split
  case isTrue => simp [idle]
  case isFalse =>
    split
    case isTrue => simp [idle]
    case isFalse => simp [Worker.resumeInput, Worker.InputWorker.record, clicked]

/-- The messages in their order, with the clicks that each causes. -/
def handleWheels : ℚ → List WheelPayload → ℚ × List (List ℕ)
  | remainder, [] => (remainder, [])
  | remainder, payload :: rest =>
      let first := config.handleWheel remainder payload.deltaY payload.deltaMode
      let later := handleWheels first.1 rest
      (later.1, first.2 :: later.2)

end WheelConfig

inductive ScrollDirection where
  | up
  | down

namespace ScrollDirection

def sign : ScrollDirection → ℚ
  | up => -1
  | down => 1

def button : ScrollDirection → ℕ
  | up => 4
  | down => 5

end ScrollDirection

section Clicks

variable {config : WheelConfig} {direction : ScrollDirection} {remainder deltaY : ℚ}
  {deltaMode : ℕ}

/-- What a remainder is worth in a direction; one of the other direction is dropped. -/
def ScrollDirection.carried (direction : ScrollDirection) (remainder : ℚ) : ℚ :=
  max 0 (direction.sign * remainder)

/-- What a delta is worth in clicks. -/
def WheelConfig.worth (config : WheelConfig) (payload : WheelPayload) : ℚ :=
  |wheelUnits config.toWheelRates payload.deltaY payload.deltaMode|

theorem wheelUnits_eq (config : WheelConfig) (deltaMode : ℕ) :
    ∃ rate, 0 < rate ∧ ∀ deltaY, wheelUnits config.toWheelRates deltaY deltaMode = rate * deltaY := by
  have pixel := config.pixelBound
  have line := config.lineBound
  have page := config.pageBound
  unfold wheelUnits
  split
  case isTrue =>
    refine ⟨1 / config.lineDeltaPerClick, by positivity, fun deltaY => ?_⟩
    rw [div_mul_eq_mul_div, one_mul]
  case isFalse =>
    split
    case isTrue => exact ⟨config.pageToClickMultiplier, by linarith, fun deltaY => mul_comm _ _⟩
    case isFalse =>
      refine ⟨1 / config.pixelDeltaPerClick, by positivity, fun deltaY => ?_⟩
      rw [div_mul_eq_mul_div, one_mul]

/-- A delta of the direction is worth what its absolute value is worth. -/
theorem wheelUnits_of_direction (scrolls : 0 < direction.sign * deltaY) :
    0 < direction.sign * wheelUnits config.toWheelRates deltaY deltaMode ∧
      direction.sign * wheelUnits config.toWheelRates deltaY deltaMode =
        |wheelUnits config.toWheelRates deltaY deltaMode| := by
  obtain ⟨rate, positive, units⟩ := wheelUnits_eq config deltaMode
  have same : direction.sign * (rate * deltaY) = rate * (direction.sign * deltaY) :=
    mul_left_comm _ _ _
  have worth := mul_pos positive scrolls
  rw [units, same]
  refine ⟨worth, ?_⟩
  cases direction with
  | up =>
      simp only [ScrollDirection.sign] at *
      rw [abs_of_neg (by linarith)]
      ring
  | down =>
      simp only [ScrollDirection.sign] at *
      rw [abs_of_pos (by linarith)]
      ring

/-- The total that a message leaves, before the clicks. -/
def ScrollDirection.total (direction : ScrollDirection) (remainder units : ℚ) : ℚ :=
  direction.carried remainder + direction.sign * units

/-- The remainder that is kept is the one in the direction of the units. -/
theorem addWheelUnits_eq {units : ℚ} (positive : 0 < direction.sign * units) :
    addWheelUnits remainder units = direction.sign * direction.total remainder units := by
  unfold addWheelUnits ScrollDirection.total ScrollDirection.carried
  cases direction with
  | up =>
      simp only [ScrollDirection.sign] at *
      have negative : ¬0 < units := by linarith
      rcases lt_trichotomy remainder 0 with less | rfl | more
      · rw [if_neg (by simp [less.le, negative]), max_eq_right (by linarith)]
        ring
      · simp
      · rw [if_pos (by simp [more, more.ne', negative]), max_eq_left (by linarith)]
        ring
  | down =>
      simp only [ScrollDirection.sign, one_mul] at *
      rcases lt_trichotomy remainder 0 with less | rfl | more
      · rw [if_pos (by simp [less.le, less.ne, positive]), max_eq_left less.le, zero_add]
      · simp
      · rw [if_neg (by simp [more, positive]), max_eq_right more.le]

/-- A message of the direction adds what it is worth to the carried remainder and takes the clicks
out. -/
theorem handleWheel_eq (scrolls : 0 < direction.sign * deltaY) :
    config.handleWheel remainder deltaY deltaMode =
      let total := direction.total remainder (wheelUnits config.toWheelRates deltaY deltaMode)
      let clicks := min 8 ⌊total⌋₊
      (direction.sign * (total - clicks), List.replicate clicks direction.button) := by
  have positive := (@wheelUnits_of_direction config _ _ deltaMode scrolls).1
  obtain ⟨units, same⟩ : ∃ units, units = wheelUnits config.toWheelRates deltaY deltaMode :=
    ⟨_, rfl⟩
  rw [← same] at positive ⊢
  have moves : ¬(deltaY = 0 ∨ units = 0) := by
    rintro (rfl | rfl)
    · exact absurd scrolls (by simp)
    · exact absurd positive (by simp)
  have carried : 0 ≤ direction.carried remainder := le_max_left _ _
  have forward : 0 < direction.total remainder units := by
    unfold ScrollDirection.total
    linarith
  have whole := @addWheelUnits_eq direction remainder units positive
  obtain ⟨total, sum⟩ : ∃ total, total = direction.total remainder units := ⟨_, rfl⟩
  rw [← sum] at forward whole ⊢
  have size : wheelClicks (direction.sign * total) = min 8 ⌊total⌋₊ := by
    rw [wheelClicks, abs_mul]
    cases direction with
    | up => rw [ScrollDirection.sign, abs_neg, abs_one, one_mul, abs_of_pos forward]
    | down => rw [ScrollDirection.sign, abs_one, one_mul, abs_of_pos forward]
  simp only [WheelConfig.handleWheel, ← same, if_neg moves, whole, size]
  split
  case isTrue none =>
    rw [Nat.lt_one_iff.mp none]
    simp
  case isFalse some =>
    have clicks : max 1 (min 8 ⌊total⌋₊) = min 8 ⌊total⌋₊ := max_eq_right (by omega)
    rw [WheelConfig.wheel, clicks, takeClicks, wheelButton]
    cases direction with
    | up =>
        simp only [ScrollDirection.sign, neg_one_mul, ScrollDirection.button]
        rw [if_neg (by linarith), if_neg (by linarith)]
        congr 1
        ring
    | down =>
        simp only [ScrollDirection.sign, one_mul, ScrollDirection.button]
        rw [if_pos forward, if_pos forward]

theorem sign_mul_sign (direction : ScrollDirection) : direction.sign * direction.sign = 1 := by
  cases direction <;> norm_num [ScrollDirection.sign]

theorem abs_eq_of_sign {value : ℚ} (forward : 0 ≤ direction.sign * value) :
    |value| = direction.sign * value := by
  cases direction with
  | up =>
      simp only [ScrollDirection.sign] at *
      rw [abs_of_nonpos (by linarith)]
      ring
  | down =>
      simp only [ScrollDirection.sign] at *
      rw [abs_of_nonneg (by linarith), one_mul]

/-- What one message does. -/
structure Scrolls (config : WheelConfig) (direction : ScrollDirection) (remainder : ℚ)
    (payload : WheelPayload) (result : ℚ × List ℕ) : Prop where
  forward : 0 ≤ direction.sign * result.1
  conserved : direction.sign * result.1 + result.2.length =
    direction.carried remainder + config.worth payload
  buttons : ∀ button ∈ result.2, button = direction.button
  capped : result.2.length ≤ 8
  small : direction.carried remainder < 1 → config.worth payload ≤ 8 → direction.sign * result.1 < 1

theorem scrolls_handleWheel {payload : WheelPayload}
    (scrolls : 0 < direction.sign * payload.deltaY) :
    Scrolls config direction remainder payload
      (config.handleWheel remainder payload.deltaY payload.deltaMode) := by
  obtain ⟨positive, worth⟩ := @wheelUnits_of_direction config _ _ payload.deltaMode scrolls
  have carried : 0 ≤ direction.carried remainder := le_max_left _ _
  have total : direction.total remainder
      (wheelUnits config.toWheelRates payload.deltaY payload.deltaMode) =
      direction.carried remainder + config.worth payload := by
    rw [ScrollDirection.total, worth, WheelConfig.worth]
  have forward : 0 ≤ direction.carried remainder + config.worth payload :=
    add_nonneg carried (abs_nonneg _)
  have floor := Nat.floor_le forward
  have least : ((min 8 ⌊direction.carried remainder + config.worth payload⌋₊ : ℕ) : ℚ) ≤
      direction.carried remainder + config.worth payload :=
    le_trans (Nat.cast_le.mpr (min_le_right _ _)) floor
  rw [handleWheel_eq scrolls, total]
  have back (value : ℚ) : direction.sign * (direction.sign * value) = value := by
    rw [← mul_assoc, sign_mul_sign, one_mul]
  constructor
  case forward =>
    dsimp only
    rw [back]
    linarith
  case conserved =>
    dsimp only
    rw [back, List.length_replicate]
    ring
  case buttons => exact fun button member => List.eq_of_mem_replicate member
  case capped =>
    rw [List.length_replicate]
    exact min_le_left _ _
  case small =>
    intro fresh few
    dsimp only
    rw [back]
    have above := Nat.lt_floor_add_one (direction.carried remainder + config.worth payload)
    have nine : ⌊direction.carried remainder + config.worth payload⌋₊ < 9 := by
      rw [Nat.floor_lt forward]
      push_cast
      linarith
    rw [min_eq_right (by omega)]
    linarith

/-- A run of messages of the direction adds what they are worth to what the remainder is worth. -/
theorem handleWheels_conserve {payloads : List WheelPayload}
    (scrolls : ∀ payload ∈ payloads, 0 < direction.sign * payload.deltaY)
    (forward : payloads = [] → 0 ≤ direction.sign * remainder) :
    0 ≤ direction.sign * (config.handleWheels remainder payloads).1 ∧
      direction.sign * (config.handleWheels remainder payloads).1 +
          (config.handleWheels remainder payloads).2.flatten.length =
        direction.carried remainder + (payloads.map config.worth).sum ∧
      (direction.carried remainder < 1 → (∀ payload ∈ payloads, config.worth payload ≤ 8) →
        direction.sign * (config.handleWheels remainder payloads).1 < 1) := by
  induction payloads generalizing remainder with
  | nil =>
      have carried : direction.carried remainder = direction.sign * remainder :=
        max_eq_right (forward rfl)
      rw [carried]
      exact ⟨forward rfl, by simp [WheelConfig.handleWheels], fun small _ => small⟩
  | cons payload rest ih =>
      rw [List.forall_mem_cons] at scrolls
      have first := @scrolls_handleWheel config direction remainder payload scrolls.1
      have carried := max_eq_right first.forward
      rw [← ScrollDirection.carried] at carried
      obtain ⟨later, conserved, small⟩ := ih scrolls.2 fun _ => first.forward
      refine ⟨later, ?_, ?_⟩
      · have one := first.conserved
        rw [carried] at conserved
        simp only [WheelConfig.handleWheels, List.flatten_cons, List.length_append,
          List.map_cons, List.sum_cons, Nat.cast_add]
        linarith
      · intro fresh few
        rw [List.forall_mem_cons] at few
        rw [carried] at small
        exact small (first.small fresh few.1) few.2

theorem handleWheels_clicks {payloads : List WheelPayload}
    (scrolls : ∀ payload ∈ payloads, 0 < direction.sign * payload.deltaY) :
    ∀ clicks ∈ (config.handleWheels remainder payloads).2,
      clicks.length ≤ 8 ∧ ∀ button ∈ clicks, button = direction.button := by
  induction payloads generalizing remainder with
  | nil => exact List.forall_mem_nil _
  | cons payload rest ih =>
      rw [List.forall_mem_cons] at scrolls
      have first := @scrolls_handleWheel config direction remainder payload scrolls.1
      rw [WheelConfig.handleWheels, List.forall_mem_cons]
      exact ⟨⟨first.capped, first.buttons⟩, ih scrolls.2⟩

end Clicks

/-! ## Batches and clicks -/

/-- What the events of a batch are worth if all have the mode of the last one. -/
def WheelConfig.worthAsSent (config : WheelConfig) (batch : List WheelPayload) : ℚ :=
  (batch.map fun payload =>
    |wheelUnits config.toWheelRates payload.deltaY ((batch.getLast?.map (·.deltaMode)).getD 0)|).sum

section Batches

variable {config : WheelConfig} {direction : ScrollDirection}

theorem sum_of_direction (rate : ℚ) (batch : List WheelPayload)
    (worth : ∀ payload ∈ batch,
      direction.sign * (rate * payload.deltaY) = |rate * payload.deltaY|) :
    direction.sign * (rate * (batch.map (·.deltaY)).sum) =
      (batch.map fun payload => |rate * payload.deltaY|).sum := by
  induction batch with
  | nil => simp
  | cons payload rest ih =>
      rw [List.forall_mem_cons] at worth
      rw [List.map_cons, List.map_cons, List.sum_cons, List.sum_cons, ← ih worth.2, ← worth.1]
      ring

/-- A merged batch has the direction of its events, and is worth what they are by its mode. -/
theorem worth_mergeBatch {batch : List WheelPayload} {merged : WheelPayload}
    (same : mergeBatch batch = some merged)
    (scrolls : ∀ payload ∈ batch, 0 < direction.sign * payload.deltaY) :
    0 < direction.sign * merged.deltaY ∧ config.worth merged = config.worthAsSent batch := by
  obtain ⟨sum, mode⟩ := mergeBatch_spec same
  obtain ⟨rate, positive, units⟩ := wheelUnits_eq config merged.deltaMode
  have forward : 0 < direction.sign * merged.deltaY := by
    have nonempty : batch ≠ [] := by
      rintro rfl
      cases same
    rw [sum, ← List.sum_map_mul_left]
    exact List.sum_pos _ (by simpa using scrolls) (by simpa using nonempty)
  refine ⟨forward, ?_⟩
  have whole := (@wheelUnits_of_direction config _ _ merged.deltaMode forward).2
  rw [WheelConfig.worth, ← whole, units, sum, WheelConfig.worthAsSent, mode, Option.getD_some]
  simp only [units]
  apply sum_of_direction
  intro payload member
  rw [← units]
  exact (wheelUnits_of_direction (scrolls payload member)).2

/-- The messages that were sent are the merged batches. -/
theorem worth_wheels {sent : List (List WheelPayload)} {wheels : List WheelPayload}
    (same : sent.map mergeBatch = wheels.map some)
    (scrolls : ∀ payload ∈ sent.flatten, 0 < direction.sign * payload.deltaY) :
    (∀ payload ∈ wheels, 0 < direction.sign * payload.deltaY) ∧
      (wheels.map config.worth).sum = (sent.map config.worthAsSent).sum := by
  induction sent generalizing wheels with
  | nil =>
      have none : wheels = [] := by simpa using same.symm
      rw [none]
      exact ⟨List.forall_mem_nil _, rfl⟩
  | cons batch rest ih =>
      cases wheels with
      | nil => cases same
      | cons merged wheels =>
          obtain ⟨first, later⟩ := List.cons.inj same
          rw [List.flatten_cons, List.forall_mem_append] at scrolls
          obtain ⟨forward, worth⟩ := @worth_mergeBatch config _ _ _ first scrolls.1
          obtain ⟨all, sum⟩ := ih later scrolls.2
          refine ⟨List.forall_mem_cons.mpr ⟨forward, all⟩, ?_⟩
          rw [List.map_cons, List.sum_cons, List.map_cons, List.sum_cons, worth, sum]

/-- The batches and what waits are the events that were scheduled. -/
theorem wheelBatches_flatten (turns : List Turn) :
    (wheelBatches turns).sent.flatten ++ (wheelBatches turns).pending =
      turns.filterMap Turn.scheduled := by
  induction turns using List.reverseRecOn with
  | nil => rfl
  | append_singleton turns turn ih =>
      rw [List.filterMap_append, ← ih, wheelBatches, List.foldl_append]
      change (WheelBatches.next (wheelBatches turns) turn).sent.flatten ++
        (WheelBatches.next (wheelBatches turns) turn).pending = _
      rw [WheelBatches.next]
      cases scheduled : turn.scheduled with
      | some payload => simp [scheduled, wheelBatches]
      | none =>
          dsimp only
          split
          case isTrue => simp [scheduled, wheelBatches]
          case isFalse => simp [scheduled, wheelBatches]

end Batches

/-- The clicks and the remainder make up what the sent events are worth exactly if these are worth
the same by the mode of the last event of their batch as by their own; every click has the button
of the direction, no message causes more than eight, and less than a click remains if no message is
worth more than eight. -/
theorem scrolling_is_conserved_iff (config : WheelConfig) (direction : ScrollDirection)
    (before : ℚ) (turns : List Turn) (controlOpen : ControlOpen turns)
    (scrolls : ∀ turn ∈ turns, ∀ payload, turn.scheduled = some payload →
      0 < direction.sign * payload.deltaY)
    (fresh : before = 0 ∨ direction.sign * before < 0 ∧ (run turns).wheels ≠ []) :
    let result := config.handleWheels before (run turns).wheels
    let batches := (wheelBatches turns).sent
    batches.flatten ++ (wheelBatches turns).pending = turns.filterMap Turn.scheduled ∧
    ((result.2.flatten.length + |result.1| = (batches.flatten.map config.worth).sum) ↔
      (batches.map config.worthAsSent).sum = (batches.flatten.map config.worth).sum) ∧
    (∀ clicks ∈ result.2, clicks.length ≤ 8 ∧ ∀ button ∈ clicks, button = direction.button) ∧
    ((∀ payload ∈ (run turns).wheels, config.worth payload ≤ 8) → |result.1| < 1) := by
  intro result batches
  have sent : ∀ payload ∈ batches.flatten, 0 < direction.sign * payload.deltaY := by
    intro payload member
    have among : payload ∈ turns.filterMap Turn.scheduled := by
      rw [← wheelBatches_flatten]
      exact List.mem_append_left _ member
    obtain ⟨turn, member, scheduled⟩ := List.mem_filterMap.mp among
    exact scrolls turn member payload scheduled
  obtain ⟨forward, worth⟩ := @worth_wheels config direction _ _ (tracks_run controlOpen).sent sent
  have whole : 0 ≤ direction.sign * result.1 ∧
      direction.sign * result.1 + result.2.flatten.length = (batches.map config.worthAsSent).sum ∧
      ((∀ payload ∈ (run turns).wheels, config.worth payload ≤ 8) →
        direction.sign * result.1 < 1) := by
    have none : direction.carried before = 0 := by
      rcases fresh with rfl | ⟨opposite, -⟩
      · rw [ScrollDirection.carried, mul_zero, max_self]
      · exact max_eq_left opposite.le
    have started : (run turns).wheels = [] → 0 ≤ direction.sign * before := by
      intro silent
      rcases fresh with rfl | ⟨-, some⟩
      · rw [mul_zero]
      · exact absurd silent some
    have all := @handleWheels_conserve config _ _ _ forward started
    rw [none, zero_add, worth] at all
    exact ⟨all.1, all.2.1, all.2.2 one_pos⟩
  obtain ⟨positive, conserved, small⟩ := whole
  rw [abs_eq_of_sign positive]
  refine ⟨wheelBatches_flatten turns, ?_, handleWheels_clicks forward, small⟩
  rw [add_comm, conserved]

/-- The defaults of the worker. -/
def plainWheelConfig : WheelConfig where
  pixelDeltaPerClick := 160
  lineDeltaPerClick := 3
  pageToClickMultiplier := 3
  pixelBound := by norm_num
  lineBound := by norm_num
  pageBound := by norm_num

/-- A wheel event in the middle of the plain page. -/
def plainWheel (deltaY : ℚ) (deltaMode : ℕ) : Turn where
  page := plainPage
  event := .wheel { onVideo := true, button := 0, clientX := 1, clientY := 1 } 0 deltaY deltaMode

/-- Three batches; an upward remainder is dropped, and what each batch leaves is carried on. -/
def lineTurns : List Turn :=
  [plainWheel 2 1, plainWheel 2 1, ⟨plainPage, .wheelTimer⟩, plainWheel 1 1,
    ⟨plainPage, .wheelTimer⟩, plainWheel 3 1, plainWheel 2 1, ⟨plainPage, .wheelTimer⟩]

theorem ten_lines_are_conserved :
    let result := plainWheelConfig.handleWheels (-1 / 2) (run lineTurns).wheels
    (result.2 = [[5], [], [5, 5]] ∧ result.1 = 1 / 3) ∧
      result.2.flatten.length + |result.1| =
        ((wheelBatches lineTurns).sent.flatten.map plainWheelConfig.worth).sum := by
  refine ⟨by decide +kernel, ?_⟩
  apply (scrolling_is_conserved_iff plainWheelConfig .down (-1 / 2) lineTurns ?_ ?_
    (.inr ⟨?_, ?_⟩)).2.1.mpr
  · decide +kernel
  · exact controlOpen_of_plain (by simp [lineTurns, plainWheel])
  · intro turn member payload scheduled
    have downwards : (lineTurns.all fun turn => turn.scheduled.all fun payload =>
        decide (0 < payload.deltaY)) = true := by decide +kernel
    have each := List.all_eq_true.mp downwards turn member
    rw [scheduled] at each
    simpa [ScrollDirection.sign] using each
  · norm_num [ScrollDirection.sign]
  · decide +kernel

/-- Three lines and then one pixel are more than a click, but are sent as four pixels. -/
theorem mixed_batch_is_not_conserved :
    let turns := [plainWheel 3 1, plainWheel 1 0, ⟨plainPage, .wheelTimer⟩]
    let result := plainWheelConfig.handleWheels 0 (run turns).wheels
    result.2.flatten.length + |result.1| = 4 / 160 ∧
      ((turns.filterMap Turn.scheduled).map plainWheelConfig.worth).sum = 1 + 1 / 160 := by
  decide +kernel

end RemoteBrowser.Viewer
