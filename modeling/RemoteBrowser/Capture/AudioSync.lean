import Mathlib.Data.Rat.Lemmas
import Mathlib.Tactic.Linarith
import Mathlib.Tactic.NormNum
import RemoteBrowser.Events.Runs

/-!
# The delay of the audio

`MediaSyncController` holds the audio back while the video lags.  A delay moves towards its target
in steps, slowly when it grows and faster when it shrinks.  Times are exact.
-/

namespace RemoteBrowser.Capture

/-- One step from a value towards a target, by at most `rise` upwards and `fall` downwards. -/
def approach (rise fall current target : ℚ) : ℚ :=
  if target > current then min target (current + rise) else max target (current - fall)

section Approach

variable {rise fall current target lower upper : ℚ}

theorem approach_of_lt (below : current < target) :
    approach rise fall current target = min target (current + rise) :=
  if_pos below

theorem approach_of_le (above : target ≤ current) :
    approach rise fall current target = max target (current - fall) :=
  if_neg (not_lt.mpr above)

/-- A step stays between the value and the target. -/
theorem le_approach (rise_nonneg : 0 ≤ rise) (fromBelow : lower ≤ current)
    (toBelow : lower ≤ target) : lower ≤ approach rise fall current target := by
  rcases lt_or_ge current target with below | above
  · rw [approach_of_lt below]
    exact le_min toBelow (by linarith)
  · rw [approach_of_le above]
    exact le_max_of_le_left toBelow

theorem approach_le (fall_nonneg : 0 ≤ fall) (fromAbove : current ≤ upper)
    (toAbove : target ≤ upper) : approach rise fall current target ≤ upper := by
  rcases lt_or_ge current target with below | above
  · rw [approach_of_lt below]
    exact min_le_of_left_le toAbove
  · rw [approach_of_le above]
    exact max_le toAbove (by linarith)

/-- A step is no larger than it may be. -/
theorem approach_le_add (rise_nonneg : 0 ≤ rise) (fall_nonneg : 0 ≤ fall) :
    approach rise fall current target ≤ current + rise := by
  rcases lt_or_ge current target with below | above
  · rw [approach_of_lt below]
    exact min_le_right ..
  · rw [approach_of_le above]
    exact max_le (by linarith) (by linarith)

theorem sub_le_approach (rise_nonneg : 0 ≤ rise) (fall_nonneg : 0 ≤ fall) :
    current - fall ≤ approach rise fall current target := by
  rcases lt_or_ge current target with below | above
  · rw [approach_of_lt below]
    exact le_min (by linarith) (by linarith)
  · rw [approach_of_le above]
    exact le_max_right ..

theorem approach_self (fall_nonneg : 0 ≤ fall) : approach rise fall target target = target := by
  rw [approach_of_le le_rfl]
  exact max_eq_left (by linarith)

/-- What remains after a number of steps is what their sizes leave of the distance. -/
theorem iterate_approach (rise_nonneg : 0 ≤ rise) (fall_nonneg : 0 ≤ fall) (count : ℕ) :
    (fun value => approach rise fall value target)^[count] current =
      if current < target then min target (current + count * rise)
      else max target (current - count * fall) := by
  induction count with
  | zero =>
      split
      case isTrue below => simp [below.le]
      case isFalse above => simp [not_lt.mp above]
  | succ count ih =>
      have more : 0 ≤ count * rise := by positivity
      have less : 0 ≤ count * fall := by positivity
      rw [Function.iterate_succ_apply', ih]
      push_cast
      split
      case isTrue below =>
        rcases le_or_gt target (current + count * rise) with reached | before
        · rw [min_eq_left reached, approach_self fall_nonneg, min_eq_left (by linarith)]
        · rw [min_eq_right before.le, approach_of_lt before, add_assoc, add_one_mul]
      case isFalse above =>
        rcases le_or_gt (current - count * fall) target with reached | before
        · rw [max_eq_left reached, approach_self fall_nonneg, max_eq_left (by linarith)]
        · rw [max_eq_right before.le, approach_of_le before.le, sub_sub, add_one_mul]

end Approach

/-! ## The controller -/

structure MediaSyncController where
  baseAudioDelaySec : ℚ
  maxAudioDelaySec : ℚ
  currentAudioDelaySec : ℚ
  /-- Zero as long as no video was observed. -/
  lastUpdateAt : ℚ

namespace MediaSyncController

def new (baseAudioDelayMs maxAudioDelayMs : ℤ) : MediaSyncController :=
  let base := max 0 (baseAudioDelayMs / 1000 : ℚ)
  ⟨base, max base (min 1 (maxAudioDelayMs / 1000 : ℚ)), base, 0⟩

/-- The environment's `CAPTURE_FRAMERATE` and `CAPTURE_STATS_INTERVAL_SEC`. -/
structure Settings where
  captureFramerate : ℕ
  captureStatsIntervalSec : ℚ

structure Observation where
  gapMs : ℚ
  fps : ℚ
  frameAgeMs : Option ℚ

/-- How far the video lags, in milliseconds. -/
def pressureMs (settings : Settings) (observation : Observation) : ℚ :=
  let nominalGapMs : ℚ := 1000 / (max 1 settings.captureFramerate : ℕ)
  let fps := max 0 observation.fps
  let gapPressure := max 0 (max 0 observation.gapMs - nominalGapMs * (115 / 100))
  let fpsPressure :=
    if 0 < fps ∧ fps < settings.captureFramerate then
      min 140 ((settings.captureFramerate - fps) * 8)
    else 0
  let agePressure := max 0 (max 0 (observation.frameAgeMs.getD 0) - 24)
  max gapPressure (max fpsPressure agePressure)

def targetAudioDelaySec (settings : Settings) (observation : Observation)
    (controller : MediaSyncController) : ℚ :=
  min controller.maxAudioDelaySec
    (controller.baseAudioDelaySec + pressureMs settings observation / 1000)

def observeVideo (settings : Settings) (observation : Observation) (now : ℚ)
    (controller : MediaSyncController) : MediaSyncController :=
  { controller with
    currentAudioDelaySec := approach (12 / 1000) (3 / 100) controller.currentAudioDelaySec
      (controller.targetAudioDelaySec settings observation)
    lastUpdateAt := now }

/-- The change that `get_audio_delay_sec` makes before it returns the current delay. -/
def getAudioDelay (settings : Settings) (now : ℚ) (controller : MediaSyncController) :
    MediaSyncController :=
  if controller.lastUpdateAt ≠ 0 ∧
      now - controller.lastUpdateAt > settings.captureStatsIntervalSec * (3 / 2) then
    { controller with
      currentAudioDelaySec :=
        max controller.baseAudioDelaySec (controller.currentAudioDelaySec - 3 / 100)
      lastUpdateAt := now }
  else controller

inductive Event where
  | observes (observation : Observation) (now : ℚ)
  | reads (now : ℚ)

def step (settings : Settings) (controller : MediaSyncController) : Event → MediaSyncController
  | .observes observation now => controller.observeVideo settings observation now
  | .reads now => controller.getAudioDelay settings now

/-- The current delay is within its bounds. -/
structure InBounds (controller : MediaSyncController) : Prop where
  base_nonneg : 0 ≤ controller.baseAudioDelaySec
  base_le : controller.baseAudioDelaySec ≤ controller.currentAudioDelaySec
  le_max : controller.currentAudioDelaySec ≤ controller.maxAudioDelaySec

theorem inBounds_new (baseAudioDelayMs maxAudioDelayMs : ℤ) :
    InBounds (new baseAudioDelayMs maxAudioDelayMs) :=
  ⟨le_max_left .., le_rfl, le_max_left ..⟩

theorem pressureMs_nonneg (settings : Settings) (observation : Observation) :
    0 ≤ pressureMs settings observation :=
  le_max_of_le_left (le_max_left ..)

variable {settings : Settings} {controller : MediaSyncController}

theorem InBounds.base_le_target (bounds : InBounds controller) (observation : Observation) :
    controller.baseAudioDelaySec ≤ controller.targetAudioDelaySec settings observation := by
  have pressure := pressureMs_nonneg settings observation
  exact le_min (bounds.base_le.trans bounds.le_max) (by linarith)

theorem InBounds.step (bounds : InBounds controller) (event : Event) :
    InBounds (controller.step settings event) := by
  cases event with
  | observes observation now =>
      constructor
      case base_nonneg => exact bounds.base_nonneg
      case base_le =>
        exact le_approach (by norm_num) bounds.base_le (bounds.base_le_target observation)
      case le_max => exact approach_le (by norm_num) bounds.le_max (min_le_left ..)
  | reads now =>
      unfold MediaSyncController.step getAudioDelay
      dsimp only
      split
      case isFalse => exact bounds
      case isTrue =>
        constructor
        case base_nonneg => exact bounds.base_nonneg
        case base_le => exact le_max_left ..
        case le_max =>
          have current := bounds.le_max
          exact max_le (bounds.base_le.trans current) (by dsimp only; linarith)

/-- A delay that the video asks for again and again is reached step by step. -/
theorem current_observes (settings : Settings) (observation : Observation) (times : List ℚ)
    (controller : MediaSyncController) :
    ((times.map (Event.observes observation)).foldl (step settings)
        controller).currentAudioDelaySec =
      (fun value => approach (12 / 1000) (3 / 100) value
        (controller.targetAudioDelaySec settings observation))^[times.length]
          controller.currentAudioDelaySec := by
  induction times generalizing controller with
  | nil => rfl
  | cons now times ih =>
      rw [List.map_cons, List.foldl_cons, ih, List.length_cons, Function.iterate_succ_apply]
      rfl

/-- The largest delay is at most a second above the base. -/
theorem span_step (event : Event) :
    (controller.step settings event).maxAudioDelaySec -
        (controller.step settings event).baseAudioDelaySec =
      controller.maxAudioDelaySec - controller.baseAudioDelaySec := by
  cases event with
  | observes observation now => rfl
  | reads now =>
      unfold MediaSyncController.step getAudioDelay
      dsimp only
      split <;> rfl

/-- What holds of the controller in every run. -/
structure Sound (controller : MediaSyncController) : Prop extends InBounds controller where
  span : controller.maxAudioDelaySec - controller.baseAudioDelaySec ≤ 1

theorem sound_new (baseAudioDelayMs maxAudioDelayMs : ℤ) :
    Sound (new baseAudioDelayMs maxAudioDelayMs) where
  toInBounds := inBounds_new ..
  span := by
    have base : 0 ≤ max 0 (baseAudioDelayMs / 1000 : ℚ) := le_max_left ..
    have top : max (max 0 (baseAudioDelayMs / 1000 : ℚ)) (min 1 (maxAudioDelayMs / 1000 : ℚ)) ≤
        max 0 (baseAudioDelayMs / 1000 : ℚ) + 1 := by
      apply max_le
      case h₁ => linarith
      case h₂ => exact (min_le_left ..).trans (by linarith)
    dsimp only [new]
    linarith

theorem Sound.step (sound : Sound controller) (event : Event) :
    Sound (controller.step settings event) where
  toInBounds := sound.toInBounds.step event
  span := (span_step event).trans_le sound.span

/-- One event changes the delay by 12 ms upwards or 30 ms downwards at most. -/
structure Smooth (before after : MediaSyncController) : Prop where
  rise : after.currentAudioDelaySec ≤ before.currentAudioDelaySec + 12 / 1000
  fall : before.currentAudioDelaySec - 3 / 100 ≤ after.currentAudioDelaySec

theorem InBounds.smooth (bounds : InBounds controller) (event : Event) :
    Smooth controller (controller.step settings event) := by
  cases event with
  | observes observation now =>
      constructor
      case rise => exact approach_le_add (by norm_num) (by norm_num)
      case fall => exact sub_le_approach (by norm_num) (by norm_num)
  | reads now =>
      have base := bounds.base_le
      unfold MediaSyncController.step getAudioDelay
      dsimp only
      split
      case isFalse => constructor <;> linarith
      case isTrue =>
        constructor
        case rise => exact max_le (by linarith) (by linarith)
        case fall => exact le_max_right ..

/-- In every run the delay is within its bounds and changes smoothly, and after 84 equal
observations in a row it is the one that they ask for. -/
theorem audio_delay_follows_video (settings : Settings) (baseAudioDelayMs maxAudioDelayMs : ℤ)
    (events : List Event) :
    let controller := Runs.run (step settings) (new baseAudioDelayMs maxAudioDelayMs) events
    InBounds controller ∧
      (∀ event, Smooth controller (controller.step settings event)) ∧
      ∀ observation (times : List ℚ), 84 ≤ times.length →
        (Runs.run (step settings) controller
            (times.map (Event.observes observation))).currentAudioDelaySec =
          controller.targetAudioDelaySec settings observation := by
  intro controller
  have sound : Sound controller :=
    Runs.run_invariant (sound_new ..) (fun _ event sound => sound.step event) events
  refine ⟨sound.toInBounds, fun event => sound.toInBounds.smooth event, ?_⟩
  intro observation times often
  have count : (84 : ℚ) ≤ times.length := by exact_mod_cast often
  have span := sound.span
  have base := sound.base_le
  have top := sound.le_max
  have above := @InBounds.base_le_target settings controller sound.toInBounds observation
  have below : controller.targetAudioDelaySec settings observation ≤ controller.maxAudioDelaySec :=
    min_le_left ..
  rw [Runs.run, current_observes, iterate_approach (by norm_num) (by norm_num)]
  split
  case isTrue => exact min_eq_left (by linarith)
  case isFalse => exact max_eq_left (by linarith)

end MediaSyncController

end RemoteBrowser.Capture
