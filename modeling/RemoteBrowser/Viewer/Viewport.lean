import RemoteBrowser.Viewer.Input
import Mathlib.Algebra.Order.Field.Rat
import Mathlib.Data.Rat.Floor
import Mathlib.Tactic.Linarith
import Mathlib.Tactic.Positivity

/-!
# The viewport of a viewer

`shared/viewport.js` fits the aspect of a frame into the largest viewport that is allowed, in even
numbers of pixels.  Numbers are exact.
-/

namespace RemoteBrowser.Viewer

def defaultViewportMaxWidth : ℤ := 1920

def defaultViewportMaxHeight : ℤ := 1080

def minViewportWidth : ℤ := 640

def minViewportHeight : ℤ := 480

def clamp (value minimum maximum : ℤ) : ℤ := max minimum (min maximum value)

def roundToEven (value : ℚ) : ℤ :=
  let rounded := max 2 (mathRound value)
  if rounded % 2 = 0 then rounded else rounded - 1

/-- A value that is no finite number is left out. -/
def normalizeMaxDimension (value : Option ℚ) (fallback minimum : ℤ) : ℤ :=
  match value with
  | none => fallback
  | some parsed => max minimum (mathRound parsed)

structure Viewport where
  width : ℤ
  height : ℤ
  deviceScaleFactor : ℚ
  deriving DecidableEq

def computeViewportForFrame (frameWidth frameHeight : ℚ) (maxWidth maxHeight : Option ℚ)
    (deviceScaleFactor : Option ℚ) : Option Viewport :=
  if 0 < frameWidth ∧ 0 < frameHeight then
    let normalizedMaxWidth :=
      normalizeMaxDimension maxWidth defaultViewportMaxWidth minViewportWidth
    let normalizedMaxHeight :=
      normalizeMaxDimension maxHeight defaultViewportMaxHeight minViewportHeight
    let frameAspect := frameWidth / frameHeight
    if frameAspect ≤ 0 then none
    else
      let (width, height) :=
        if (normalizedMaxWidth : ℚ) / normalizedMaxHeight > frameAspect then
          (roundToEven (normalizedMaxHeight * frameAspect), normalizedMaxHeight)
        else
          (normalizedMaxWidth, roundToEven (normalizedMaxWidth / frameAspect))
      some
        { width := clamp (roundToEven width) minViewportWidth normalizedMaxWidth
          height := clamp (roundToEven height) minViewportHeight normalizedMaxHeight
          deviceScaleFactor := max 1 (deviceScaleFactor.getD 1) }
  else none

/-! ## Rounding -/

theorem mathRound_intCast (value : ℤ) : mathRound value = value := by
  rw [mathRound, Int.floor_intCast_add]
  norm_num

theorem mathRound_mono {first second : ℚ} (le : first ≤ second) :
    mathRound first ≤ mathRound second :=
  Int.floor_mono (by linarith)

theorem mathRound_near (value : ℚ) : |(mathRound value : ℚ) - value| ≤ 1 / 2 := by
  have below := Int.floor_le (value + 1 / 2)
  have above := Int.lt_floor_add_one (value + 1 / 2)
  rw [abs_le, mathRound]
  constructor <;> linarith

theorem roundToEven_even (value : ℚ) : roundToEven value % 2 = 0 := by
  unfold roundToEven
  dsimp only
  split
  case isTrue even => exact even
  case isFalse odd => omega

theorem roundToEven_le {value : ℚ} {bound : ℤ} (le : value ≤ bound) (large : 2 ≤ bound) :
    roundToEven value ≤ bound := by
  have rounded := mathRound_mono le
  rw [mathRound_intCast] at rounded
  unfold roundToEven
  dsimp only
  split <;> omega

theorem roundToEven_of_even {value : ℤ} (even : value % 2 = 0) (large : 2 ≤ value) :
    roundToEven value = value := by
  unfold roundToEven
  rw [mathRound_intCast, max_eq_right large]
  exact if_pos even

/-- Above the floor of two, at most three halves are lost or gained. -/
theorem roundToEven_near {value : ℚ} (large : 2 < roundToEven value) :
    |(roundToEven value : ℚ) - value| ≤ 3 / 2 := by
  have near := abs_le.mp (mathRound_near value)
  have cases : roundToEven value = mathRound value ∨ roundToEven value = mathRound value - 1 := by
    unfold roundToEven at *
    dsimp only at *
    split at large <;> split <;> omega
  rw [abs_le]
  rcases cases with same | less
  · rw [same]
    constructor <;> linarith [near.1, near.2]
  · rw [less]
    push_cast
    constructor <;> linarith [near.1, near.2]

/-! ## Clamping -/

/-- Clamping an even number below an upper bound leaves it even. -/
theorem clamp_even {value minimum maximum : ℤ} (even : value % 2 = 0) (least : minimum % 2 = 0)
    (le : value ≤ maximum) : clamp value minimum maximum % 2 = 0 := by
  unfold clamp
  omega

theorem clamp_range {value minimum maximum : ℤ} (ordered : minimum ≤ maximum) :
    minimum ≤ clamp value minimum maximum ∧ clamp value minimum maximum ≤ maximum := by
  unfold clamp
  omega

theorem clamp_of_range {value minimum maximum : ℤ} (least : minimum ≤ value)
    (le : value ≤ maximum) : clamp value minimum maximum = value := by
  unfold clamp
  omega

/-! ## The viewport -/

/-- What is promised of each dimension. -/
structure Fits (minimum maximum actual : ℤ) : Prop where
  even : actual % 2 = 0
  least : minimum ≤ actual
  most : actual ≤ maximum

/-- A dimension that is as large as it may be. -/
theorem fits_largest {minimum maximum : ℤ} (large : 2 ≤ minimum) (least : minimum % 2 = 0)
    (ordered : minimum ≤ maximum) :
    Fits minimum maximum (clamp (roundToEven maximum) minimum maximum) := by
  have le := @roundToEven_le maximum maximum le_rfl (large.trans ordered)
  constructor
  case even => exact clamp_even (roundToEven_even _) least le
  case least => exact (clamp_range ordered).1
  case most => exact (clamp_range ordered).2

/-- A dimension that is scaled by the aspect, and is not scaled beyond what is allowed. -/
theorem fits_scaled {scaled : ℚ} {minimum maximum : ℤ} (large : 2 < minimum)
    (least : minimum % 2 = 0) (ordered : minimum ≤ maximum) (le : scaled ≤ maximum) :
    Fits minimum maximum (clamp (roundToEven (roundToEven scaled)) minimum maximum) ∧
      (minimum ≤ roundToEven scaled →
        |(clamp (roundToEven (roundToEven scaled)) minimum maximum - scaled : ℚ)| ≤ 3 / 2) := by
  have even := roundToEven_even scaled
  have small := roundToEven_le le (large.le.trans ordered)
  have floor : 2 ≤ roundToEven scaled := by
    unfold roundToEven at *
    dsimp only at *
    split <;> omega
  rw [roundToEven_of_even even floor]
  constructor
  · constructor
    case even => exact clamp_even even least small
    case least => exact (clamp_range ordered).1
    case most => exact (clamp_range ordered).2
  · intro reached
    rw [clamp_of_range reached small]
    exact roundToEven_near (large.trans_le reached)

/-- The viewport fits, and the dimension that was scaled is the exact one up to three halves,
unless it was raised to its minimum. -/
theorem viewport_fits_and_keeps_aspect (frameWidth frameHeight maxWidth maxHeight : ℚ)
    (deviceScaleFactor : Option ℚ) (wide : 0 < frameWidth) (high : 0 < frameHeight) :
    ∃ viewport, computeViewportForFrame frameWidth frameHeight (some maxWidth) (some maxHeight)
        deviceScaleFactor = some viewport ∧
      Fits minViewportWidth (max minViewportWidth (mathRound maxWidth)) viewport.width ∧
      Fits minViewportHeight (max minViewportHeight (mathRound maxHeight)) viewport.height ∧
      let aspect := frameWidth / frameHeight
      let largestWidth := max minViewportWidth (mathRound maxWidth)
      let largestHeight := max minViewportHeight (mathRound maxHeight)
      if (largestWidth : ℚ) / largestHeight > aspect then
        minViewportWidth ≤ roundToEven (largestHeight * aspect) →
          |(viewport.width - largestHeight * aspect : ℚ)| ≤ 3 / 2
      else
        minViewportHeight ≤ roundToEven (largestWidth / aspect) →
          |(viewport.height - largestWidth / aspect : ℚ)| ≤ 3 / 2 := by
  have aspect : 0 < frameWidth / frameHeight := by positivity
  have widthOrdered : minViewportWidth ≤ max minViewportWidth (mathRound maxWidth) := le_max_left ..
  have heightOrdered : minViewportHeight ≤ max minViewportHeight (mathRound maxHeight) :=
    le_max_left ..
  unfold computeViewportForFrame normalizeMaxDimension
  rw [if_pos ⟨wide, high⟩]
  dsimp only
  rw [if_neg (not_le.mpr aspect)]
  generalize max minViewportWidth (mathRound maxWidth) = largestWidth at *
  generalize max minViewportHeight (mathRound maxHeight) = largestHeight at *
  generalize frameWidth / frameHeight = ratio at *
  have positive : (0 : ℚ) < largestHeight := by
    have large : 0 < largestHeight := lt_of_lt_of_le (by decide) heightOrdered
    exact_mod_cast large
  refine ⟨_, rfl, ?_⟩
  split
  case isTrue narrow =>
    have le : largestHeight * ratio ≤ largestWidth := by
      rw [gt_iff_lt, lt_div_iff₀ positive] at narrow
      linarith
    obtain ⟨fits, near⟩ := fits_scaled (by decide) (by decide) widthOrdered le
    exact ⟨fits, fits_largest (by decide) (by decide) heightOrdered, near⟩
  case isFalse broad =>
    have le : largestWidth / ratio ≤ largestHeight := by
      rw [gt_iff_lt, not_lt, div_le_iff₀ positive] at broad
      rw [div_le_iff₀ aspect]
      linarith
    obtain ⟨fits, near⟩ := fits_scaled (by decide) (by decide) heightOrdered le
    exact ⟨fits_largest (by decide) (by decide) widthOrdered, fits, near⟩

theorem odd_maximum_is_fitted :
    ∃ viewport, computeViewportForFrame 1000 999 (some 1921) (some 1081) none = some viewport ∧
      Fits 640 1921 viewport.width ∧ Fits 480 1081 viewport.height := by
  obtain ⟨viewport, computed, width, height, -⟩ :=
    viewport_fits_and_keeps_aspect 1000 999 1921 1081 none (by decide) (by decide)
  have widest : mathRound 1921 = 1921 := mathRound_intCast 1921
  have highest : mathRound 1081 = 1081 := mathRound_intCast 1081
  rw [widest] at width
  rw [highest] at height
  exact ⟨viewport, computed, width, height⟩

end RemoteBrowser.Viewer
