import Mathlib.Data.List.Sort

/-!
# The place of an element in a sorted list

A listing of bounded length shows the first elements of a sorted list.  Whether an element is
shown depends on how many others come before it, which can be counted without sorting.
-/

namespace RemoteBrowser.Sorting

variable {α : Type} [DecidableEq α] (before : α → α → Prop) [DecidableRel before]

/-- How many elements a stable sort puts before a value: those that stand in front of it and may
stay there, and those behind it that have to move in front. -/
def ahead (value : α) (values : List α) : Nat :=
  (values.takeWhile (· ≠ value)).countP (before · value) +
    (values.dropWhile (· ≠ value)).countP (¬before value ·)

variable {before} {value other : α} {values : List α}

theorem ahead_cons_self [Std.Refl before] :
    ahead before value (value :: values) = values.countP (¬before value ·) := by
  simp [ahead, refl_of before value]

theorem ahead_cons_of_ne (different : other ≠ value) :
    ahead before value (other :: values) =
      ahead before value values + if before other value then 1 else 0 := by
  simp only [ahead, List.takeWhile_cons, List.dropWhile_cons, ne_eq, different, not_false_eq_true,
    decide_true, if_true, List.countP_cons, decide_eq_true_eq]
  omega

/-- In a sorted list, exactly the elements that have to precede a value do. -/
theorem idxOf_of_pairwise [Std.Refl before] [Std.Antisymm before]
    (sorted : values.Pairwise before) (member : value ∈ values) :
    values.idxOf value = values.countP (¬before value ·) := by
  induction values with
  | nil => cases member
  | cons first rest ih =>
      obtain ⟨least, restSorted⟩ := List.pairwise_cons.mp sorted
      by_cases same : first = value
      · subst same
        have none : rest.countP (¬before first ·) = 0 :=
          List.countP_eq_zero.mpr fun later listed => by simpa using least later listed
        rw [List.idxOf_cons_self, List.countP_cons_of_neg (by simp [refl_of before first]), none]
      · have later : value ∈ rest := (List.mem_cons.mp member).resolve_left (Ne.symm same)
        have counted : ¬before value first := fun reverse =>
          same (antisymm_of before (least value later) reverse)
        rw [List.idxOf_cons_ne _ same, ih restSorted later]
        simp [counted]

theorem mem_take_iff_of_pairwise [Std.Refl before] [Std.Antisymm before]
    (sorted : values.Pairwise before) (member : value ∈ values) {limit : Nat} :
    value ∈ values.take limit ↔ values.countP (¬before value ·) < limit := by
  rw [← idxOf_of_pairwise sorted member, List.mem_take_iff_idxOf_lt member]

theorem idxOf_orderedInsert_self [IsTrans α before] (sorted : values.Pairwise before)
    (absent : value ∉ values) :
    (values.orderedInsert before value).idxOf value = values.countP (¬before value ·) := by
  induction values with
  | nil => simp
  | cons first rest ih =>
      obtain ⟨least, restSorted⟩ := List.pairwise_cons.mp sorted
      by_cases precedes : before value first
      · have none : (first :: rest).countP (¬before value ·) = 0 := by
          refine List.countP_eq_zero.mpr fun later listed => ?_
          rcases List.mem_cons.mp listed with rfl | listed
          · simpa using precedes
          · simpa using trans_of before precedes (least later listed)
        rw [List.orderedInsert_cons_of_le before rest precedes, none, List.idxOf_cons_self]
      · have different : first ≠ value := fun same => absent (by simp [same])
        have elsewhere : value ∉ rest := fun listed => absent (List.mem_cons_of_mem first listed)
        rw [List.orderedInsert_of_not_le before rest precedes, List.idxOf_cons_ne _ different,
          ih restSorted elsewhere]
        simp [precedes]

theorem idxOf_orderedInsert_of_ne [IsTrans α before] (sorted : values.Pairwise before)
    (member : value ∈ values) (different : other ≠ value) :
    (values.orderedInsert before other).idxOf value =
      values.idxOf value + if before other value then 1 else 0 := by
  induction values with
  | nil => cases member
  | cons first rest ih =>
      obtain ⟨least, restSorted⟩ := List.pairwise_cons.mp sorted
      by_cases precedes : before other first
      · have earlier : before other value := by
          rcases List.mem_cons.mp member with rfl | later
          · exact precedes
          · exact trans_of before precedes (least value later)
        rw [List.orderedInsert_cons_of_le before rest precedes, List.idxOf_cons_ne _ different,
          if_pos earlier]
      · rw [List.orderedInsert_of_not_le before rest precedes]
        by_cases same : first = value
        · subst same
          simp [precedes]
        · have later : value ∈ rest := (List.mem_cons.mp member).resolve_left (Ne.symm same)
          rw [List.idxOf_cons_ne _ same, List.idxOf_cons_ne _ same, ih restSorted later]
          omega

/-- The place of a value after a stable sort. -/
theorem idxOf_insertionSort [Std.Total before] [IsTrans α before] (unique : values.Nodup)
    (member : value ∈ values) :
    (values.insertionSort before).idxOf value = ahead before value values := by
  induction values with
  | nil => cases member
  | cons first rest ih =>
      obtain ⟨absent, restUnique⟩ := List.nodup_cons.mp unique
      have sorted : (rest.insertionSort before).Pairwise before :=
        List.pairwise_insertionSort before rest
      have perm := List.perm_insertionSort before rest
      by_cases same : first = value
      · subst same
        rw [List.insertionSort_cons, idxOf_orderedInsert_self sorted
          (fun listed => absent (perm.mem_iff.mp listed)), ahead_cons_self, perm.countP_eq]
      · have later : value ∈ rest := (List.mem_cons.mp member).resolve_left (Ne.symm same)
        rw [List.insertionSort_cons, idxOf_orderedInsert_of_ne sorted
          (perm.mem_iff.mpr later) same, ih restUnique later, ahead_cons_of_ne same]

theorem mem_take_insertionSort_iff [Std.Total before] [IsTrans α before] (unique : values.Nodup)
    (member : value ∈ values) {limit : Nat} :
    value ∈ (values.insertionSort before).take limit ↔ ahead before value values < limit := by
  rw [← idxOf_insertionSort unique member,
    List.mem_take_iff_idxOf_lt ((List.perm_insertionSort before values).mem_iff.mpr member)]

/-- Without repetitions, the places are in the order of the list. -/
theorem pairwise_idxOf (unique : values.Nodup) :
    values.Pairwise fun left right => values.idxOf left < values.idxOf right := by
  rw [List.pairwise_iff_getElem]
  intro first second _ _ less
  rwa [unique.idxOf_getElem, unique.idxOf_getElem]

/-- A stable sort puts the values in the order of their places. -/
theorem pairwise_ahead [Std.Total before] [IsTrans α before] (unique : values.Nodup) :
    (values.insertionSort before).Pairwise fun left right =>
      ahead before left values < ahead before right values := by
  have perm := List.perm_insertionSort before values
  refine (pairwise_idxOf (perm.nodup_iff.mpr unique)).imp_of_mem fun first second less => ?_
  rwa [← idxOf_insertionSort unique (perm.mem_iff.mp first),
    ← idxOf_insertionSort unique (perm.mem_iff.mp second)]

end RemoteBrowser.Sorting
