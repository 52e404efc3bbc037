import Mathlib.Data.List.Sort
import Mathlib.Order.Basic

/-!
# The value at a rank

The value at a place of the sorted list is below a bound exactly if enough values of the list are,
which can be counted without sorting.
-/

namespace RemoteBrowser.Sorting

variable {α : Type} [LinearOrder α] {values : List α} {value bound : α} {place : ℕ}

/-- The value that stands at a place when the values are sorted. -/
def atRank (values : List α) (place : ℕ) : Option α :=
  (values.mergeSort (· ≤ ·))[place]?

theorem atRank_eq_none : atRank values place = none ↔ values.length ≤ place := by
  rw [atRank, List.getElem?_eq_none_iff, List.length_mergeSort]

theorem le_iff_of_pairwise (sorted : values.Pairwise (· ≤ ·))
    (found : values[place]? = some value) :
    bound ≤ value ↔ values.countP (· < bound) ≤ place := by
  induction values generalizing place with
  | nil => cases found
  | cons first rest ih =>
      obtain ⟨least, restSorted⟩ := List.pairwise_cons.mp sorted
      by_cases above : bound ≤ first
      case pos =>
        have none : (first :: rest).countP (· < bound) = 0 := by
          refine List.countP_eq_zero.mpr fun other listed => ?_
          rcases List.mem_cons.mp listed with rfl | listed
          · simpa using above
          · simpa using above.trans (least other listed)
        have member := List.mem_of_getElem? found
        have reaches : bound ≤ value := by
          rcases List.mem_cons.mp member with rfl | listed
          · exact above
          · exact above.trans (least value listed)
        rw [none]
        exact iff_of_true reaches (Nat.zero_le _)
      case neg =>
        have below : first < bound := not_le.mp above
        rw [List.countP_cons_of_pos (by simpa using below)]
        cases place with
        | zero =>
            cases found
            exact iff_of_false above (Nat.not_succ_le_zero _)
        | succ place =>
            rw [List.getElem?_cons_succ] at found
            rw [ih restSorted found, Nat.add_le_add_iff_right]

/-- The value at a place reaches a bound exactly if no more values than that are below it. -/
theorem le_atRank_iff (found : atRank values place = some value) :
    bound ≤ value ↔ values.countP (· < bound) ≤ place := by
  have sorted : (values.mergeSort (· ≤ ·)).Pairwise (· ≤ ·) := by
    have transitive : ∀ first second third : α, decide (first ≤ second) = true →
        decide (second ≤ third) = true → decide (first ≤ third) = true := by
      intro first second third before after
      exact decide_eq_true ((of_decide_eq_true before).trans (of_decide_eq_true after))
    have total : ∀ left right : α, (decide (left ≤ right) || decide (right ≤ left)) = true := by
      intro left right
      simpa using le_total left right
    simpa using List.pairwise_mergeSort transitive total values
  rw [le_iff_of_pairwise sorted found, (List.mergeSort_perm values _).countP_eq]

/-- Counted from the other end: enough values reach the bound. -/
theorem le_atRank_iff_countP (found : atRank values place = some value) :
    bound ≤ value ↔ values.length ≤ place + values.countP (bound ≤ ·) := by
  have parts : values.length = values.countP (· < bound) + values.countP (bound ≤ ·) := by
    rw [List.length_eq_countP_add_countP (· < bound)]
    simp
  rw [le_atRank_iff found, parts, Nat.add_le_add_iff_right]

end RemoteBrowser.Sorting
