import Mathlib.Algebra.GroupWithZero.Nat
import Mathlib.Data.List.Basic

/-!
# Texts joined by a separator

A list of texts joined by one character can be read back when no text contains that character,
and the number of separators tells how many texts have been joined at most.
-/

namespace RemoteBrowser.Text

variable {mark : Char} {left right : List String}

theorem toList_join (mark : Char) (parts : List String) :
    (String.intercalate mark.toString parts).toList =
      [mark].intercalate (parts.map String.toList) := by
  simp [String.toList_intercalate]

/-- Joined texts are read back by splitting. -/
theorem split_join {parts : List String} (present : parts ≠ [])
    (free : ∀ part ∈ parts, mark ∉ part.toList) :
    ((String.intercalate mark.toString parts).toList.splitOn mark).map String.ofList = parts := by
  rw [toList_join, List.splitOn_intercalate mark (by simpa using free) (by simpa using present),
    List.map_map]
  have inverse : String.ofList ∘ String.toList = id := by
    funext text
    exact String.ofList_toList
  rw [inverse, List.map_id]

/-- Joining is injective on texts that do not contain the separator. -/
theorem join_injective (leftPresent : left ≠ []) (rightPresent : right ≠ [])
    (leftFree : ∀ part ∈ left, mark ∉ part.toList)
    (rightFree : ∀ part ∈ right, mark ∉ part.toList)
    (same : String.intercalate mark.toString left = String.intercalate mark.toString right) :
    left = right := by
  rw [← split_join leftPresent leftFree, same, split_join rightPresent rightFree]

theorem count_join (mark : Char) (parts : List String) :
    (String.intercalate mark.toString parts).toList.count mark + 1 =
      (parts.map fun part => part.toList.count mark).sum + max parts.length 1 := by
  rw [toList_join]
  induction parts with
  | nil => simp
  | cons part rest ih =>
      cases rest with
      | nil => simp [Nat.add_comm]
      | cons next rest =>
          simp only [List.map_cons, List.intercalate_cons_cons, List.count_append] at ih ⊢
          simp only [List.sum_cons, List.length_cons] at ih ⊢
          simp
          omega

end RemoteBrowser.Text
