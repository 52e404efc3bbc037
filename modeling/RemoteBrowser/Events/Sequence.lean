import Mathlib.Data.List.Basic

/-!
# Sequences of events

Sequences that grow at their end: where an entry of a longer sequence stands, the last value
that is read off a sequence, and presses that are answered by a later release.
-/

namespace RemoteBrowser

variable {α β : Type}

/-- An entry of a sequence with one more at the end is that last one or was there before. -/
theorem split_concat {list before after : List α} {last entry : α}
    (split : list ++ [last] = before ++ entry :: after) :
    (before = list ∧ entry = last ∧ after = []) ∨
      ∃ rest, after = rest ++ [last] ∧ list = before ++ entry :: rest := by
  rcases List.eq_nil_or_concat after with rfl | ⟨rest, final, rfl⟩
  · obtain ⟨same, ends⟩ := List.append_inj' split rfl
    rw [List.singleton_inj] at ends
    exact .inl ⟨same.symm, ends.symm, rfl⟩
  · rw [List.concat_eq_append, ← List.cons_append, ← List.append_assoc] at split
    obtain ⟨same, ends⟩ := List.append_inj' split rfl
    rw [List.singleton_inj] at ends
    exact .inr ⟨rest, by rw [ends, List.concat_eq_append], same⟩

/-- The last value that a partial function has on a sequence. -/
def latest (read : α → Option β) (list : List α) : Option β :=
  (list.filterMap read).getLast?

@[simp]
theorem latest_nil (read : α → Option β) : latest read [] = none := rfl

@[simp]
theorem latest_concat (read : α → Option β) (list : List α) (last : α) :
    latest read (list ++ [last]) = (read last).or (latest read list) := by
  cases value : read last <;> simp [latest, value]

theorem latest_append_of_none {read : α → Option β} (list : List α) {rest : List α}
    (unread : ∀ entry ∈ rest, read entry = none) :
    latest read (list ++ rest) = latest read list := by
  have empty : rest.filterMap read = [] := List.filterMap_eq_nil_iff.mpr unread
  simp [latest, empty]

theorem exists_of_latest {read : α → Option β} {list : List α} {value : β}
    (last : latest read list = some value) : ∃ entry ∈ list, read entry = some value := by
  have mem : value ∈ list.filterMap read := List.mem_of_getLast? last
  exact List.mem_filterMap.mp mem

/-- Every press in a sequence is followed by a release. Whether an entry is a release may depend
on the entries before it. -/
def Answered (press : α → Prop) (release : List α → α → Prop) (list : List α) : Prop :=
  ∀ before entry after, list = before ++ entry :: after → press entry →
    ∃ between answer rest, after = between ++ answer :: rest ∧
      release (before ++ entry :: between) answer

section Answers

variable {press : α → Prop} {release : List α → α → Prop} {list : List α} {last : α}

theorem answered_nil : Answered press release [] := by
  intro before entry after split
  simp at split

theorem Answered.of_concat (answered : Answered press release (list ++ [last]))
    (silent : ¬ release list last) : Answered press release list := by
  intro before entry after split presses
  obtain ⟨between, answer, rest, found, releases⟩ :=
    answered before entry (after ++ [last]) (by simp [split]) presses
  obtain ⟨rfl, rfl, -⟩ | ⟨rest, -, found⟩ := split_concat found
  · rw [← split] at releases
    exact absurd releases silent
  · exact ⟨between, answer, rest, found, releases⟩

/-- One more entry answers everything, or it is no press and all was answered before. -/
theorem answered_concat (either : press last → ¬ release list last) :
    Answered press release (list ++ [last]) ↔
      release list last ∨ (¬ press last ∧ Answered press release list) := by
  constructor
  · intro answered
    by_cases answers : release list last
    · exact .inl answers
    · refine .inr ⟨?_, answered.of_concat answers⟩
      intro presses
      obtain ⟨between, answer, rest, split, -⟩ := answered list last [] rfl presses
      simp at split
  · intro cases before entry after split presses
    obtain ⟨rfl, rfl, rfl⟩ | ⟨rest, rfl, inner⟩ := split_concat split
    · rcases cases with answers | ⟨noPress, -⟩
      · exact absurd answers (either presses)
      · exact absurd presses noPress
    · rcases cases with answers | ⟨-, answered⟩
      · exact ⟨rest, last, [], rfl, inner ▸ answers⟩
      · obtain ⟨between, answer, others, found, releases⟩ :=
          answered before entry rest inner presses
        exact ⟨between, answer, others ++ [last], by simp [found], releases⟩

end Answers

end RemoteBrowser
