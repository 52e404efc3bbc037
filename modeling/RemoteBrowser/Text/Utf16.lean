import Mathlib.Data.List.Basic
import Mathlib.Data.List.Lemmas
import Mathlib.Data.UInt

/-!
# Text in UTF-16

A text is a list of code units.  A character outside the first plane is a pair of units, a high
surrogate and a low one; a text is well formed if its surrogates are paired.  Cutting a text into
batches of a fixed number of units may cut a pair in two.
-/

namespace RemoteBrowser.Utf16

/-- The units of an ASCII text. -/
def ascii (text : String) : List UInt16 := text.toList.map fun char => UInt16.ofNat char.toNat

def isHighSurrogate (unit : UInt16) : Bool := 0xD800 ≤ unit && unit < 0xDC00

def isLowSurrogate (unit : UInt16) : Bool := 0xDC00 ≤ unit && unit < 0xE000

/-- What follows a high surrogate, or anything else, has its surrogates paired. -/
def wellFormedAfter : Bool → List UInt16 → Bool
  | high, [] => !high
  | high, unit :: rest =>
      high == isLowSurrogate unit && wellFormedAfter (isHighSurrogate unit) rest

/-- Every high surrogate stands before a low one, and every low one after a high one. -/
def isWellFormed (text : List UInt16) : Bool := wellFormedAfter false text

/-- The cut falls between the two surrogates of a pair. -/
def SplitsPair (text : List UInt16) (cut : ℕ) : Prop :=
  0 < cut ∧ text[cut - 1]?.any isHighSurrogate ∧ text[cut]?.any isLowSurrogate

theorem wellFormedAfter_append {high : Bool} {first second : List UInt16}
    (left : wellFormedAfter high first) (right : isWellFormed second) :
    wellFormedAfter high (first ++ second) := by
  induction first generalizing high with
  | nil =>
      cases high with
      | false => exact right
      | true => cases left
  | cons unit rest ih =>
      simp only [wellFormedAfter, Bool.and_eq_true] at left
      simp only [List.cons_append, wellFormedAfter, Bool.and_eq_true]
      exact ⟨left.1, ih left.2⟩

theorem isWellFormed_append {first second : List UInt16} (left : isWellFormed first)
    (right : isWellFormed second) : isWellFormed (first ++ second) :=
  wellFormedAfter_append left right

theorem isWellFormed_flatten {texts : List (List UInt16)}
    (all : ∀ text ∈ texts, isWellFormed text) : isWellFormed texts.flatten := by
  induction texts with
  | nil => rfl
  | cons text rest ih =>
      rw [List.flatten_cons]
      exact isWellFormed_append (all text List.mem_cons_self)
        (ih fun other member => all other (List.mem_cons_of_mem _ member))

theorem not_low_of_high {unit : UInt16} (high : isHighSurrogate unit) :
    isLowSurrogate unit = false := by
  simp only [isHighSurrogate, isLowSurrogate, Bool.and_eq_true, Bool.and_eq_false_iff,
    decide_eq_true_eq, decide_eq_false_iff_not] at *
  exact .inl fun low => absurd high.2 (UInt16.not_lt.mpr low)

/-- The cut is within what follows the first units, or right after them. -/
theorem splitsPair_cons {unit : UInt16} {rest : List UInt16} {cut : ℕ} :
    SplitsPair (unit :: rest) (cut + 1) ↔
      (cut = 0 ∧ isHighSurrogate unit ∧ rest.head?.any isLowSurrogate) ∨
        SplitsPair rest cut := by
  cases cut with
  | zero => simp [SplitsPair, List.head?_eq_getElem?]
  | succ cut => simp [SplitsPair]

/-- A well-formed text can be cut wherever no pair is. -/
theorem wellFormedAfter_cut {high : Bool} {text : List UInt16} (whole : wellFormedAfter high text)
    {cut : ℕ} (positive : 0 < cut) (within : cut ≤ text.length) :
    (wellFormedAfter high (text.take cut) ∧ isWellFormed (text.drop cut) ↔
      ¬SplitsPair text cut) ∧
    (wellFormedAfter high (text.take cut) ↔ ¬SplitsPair text cut) := by
  induction text generalizing high cut with
  | nil => exact absurd within (by simpa using positive.ne')
  | cons unit rest ih =>
      obtain ⟨cut, rfl⟩ := Nat.exists_eq_add_one.mpr positive
      simp only [wellFormedAfter, Bool.and_eq_true] at whole
      obtain ⟨own, whole⟩ := whole
      rw [List.take_succ_cons, List.drop_succ_cons, splitsPair_cons]
      simp only [wellFormedAfter, Bool.and_eq_true, own, true_and]
      cases cut with
      | zero =>
          rw [List.take_zero, List.drop_zero]
          cases rest with
          | nil =>
              simp only [wellFormedAfter, Bool.not_eq_true'] at whole
              simp [wellFormedAfter, isWellFormed, whole, SplitsPair]
          | cons next rest =>
              simp only [wellFormedAfter, Bool.and_eq_true, beq_iff_eq] at whole
              cases kind : isHighSurrogate unit with
              | false =>
                  rw [kind] at whole
                  simp [wellFormedAfter, isWellFormed, SplitsPair, ← whole.1, whole.2]
              | true =>
                  rw [kind] at whole
                  simp [wellFormedAfter, ← whole.1]
      | succ cut =>
          have within : cut + 1 ≤ rest.length := by simpa using within
          have inner := ih whole (Nat.succ_pos cut) within
          simpa using inner

/-! ## Batches -/

section Batches

variable {α : Type} {size : ℕ}

/-- The full batches of a text, from its front. -/
def batches (size : ℕ) (text : List α) : List (List α) :=
  if 0 < size ∧ size ≤ text.length then text.take size :: batches size (text.drop size) else []
termination_by text.length
decreasing_by
  rename_i full
  rw [List.length_drop]
  omega

/-- What the full batches leave. -/
def remainder (size : ℕ) (text : List α) : List α :=
  if 0 < size ∧ size ≤ text.length then remainder size (text.drop size) else text
termination_by text.length
decreasing_by
  rename_i full
  rw [List.length_drop]
  omega

theorem batches_full {text : List α} (positive : 0 < size) (full : size ≤ text.length) :
    batches size text = text.take size :: batches size (text.drop size) := by
  rw [batches, if_pos ⟨positive, full⟩]

theorem batches_short {text : List α} (short : text.length < size) : batches size text = [] := by
  rw [batches, if_neg fun full => absurd full.2 (not_le.mpr short)]

theorem remainder_full {text : List α} (positive : 0 < size) (full : size ≤ text.length) :
    remainder size text = remainder size (text.drop size) := by
  rw [remainder, if_pos ⟨positive, full⟩]

theorem remainder_short {text : List α} (short : text.length < size) :
    remainder size text = text := by
  rw [remainder, if_neg fun full => absurd full.2 (not_le.mpr short)]

/-- Batch by batch, from the front of the text. -/
theorem batches_induction {motive : List α → Prop} (positive : 0 < size)
    (short : ∀ text : List α, text.length < size → motive text)
    (full : ∀ text : List α, size ≤ text.length → motive (text.drop size) → motive text)
    (text : List α) : motive text := by
  induction length : text.length using Nat.strong_induction_on generalizing text with
  | h length' ih =>
      rcases Nat.lt_or_ge text.length size with small | large
      · exact short text small
      · have fewer : (text.drop size).length < length' := by
          rw [List.length_drop]
          omega
        exact full text large (ih _ fewer _ rfl)

/-- More text continues what was left. -/
theorem batches_append (positive : 0 < size) (text more : List α) :
    batches size (text ++ more) = batches size text ++ batches size (remainder size text ++ more) ∧
      remainder size (text ++ more) = remainder size (remainder size text ++ more) := by
  induction text using batches_induction positive with
  | short text short =>
      rw [batches_short short, remainder_short short]
      exact ⟨rfl, rfl⟩
  | full text full ih =>
      have longer : size ≤ (text ++ more).length := by
        rw [List.length_append]
        omega
      rw [batches_full positive full, remainder_full positive full, batches_full positive longer,
        remainder_full positive longer, List.drop_append_of_le_length full,
        List.take_append_of_le_length full, ih.1, List.cons_append]
      exact ⟨rfl, ih.2⟩

theorem batches_flatten (positive : 0 < size) (text : List α) :
    (batches size text).flatten ++ remainder size text = text := by
  induction text using batches_induction positive with
  | short text short =>
      rw [batches_short short, remainder_short short]
      rfl
  | full text full ih =>
      rw [batches_full positive full, remainder_full positive full, List.flatten_cons,
        List.append_assoc, ih, List.take_append_drop]

theorem length_of_mem_batches (positive : 0 < size) {text batch : List α}
    (member : batch ∈ batches size text) : batch.length = size := by
  induction text using batches_induction positive with
  | short text short =>
      rw [batches_short short] at member
      cases member
  | full text full ih =>
      rw [batches_full positive full, List.mem_cons] at member
      rcases member with rfl | later
      · rw [List.length_take, min_eq_left full]
      · exact ih later

theorem length_remainder (positive : 0 < size) (text : List α) :
    (remainder size text).length = text.length % size := by
  induction text using batches_induction positive with
  | short text short => rw [remainder_short short, Nat.mod_eq_of_lt short]
  | full text full ih =>
      rw [remainder_full positive full, ih, List.length_drop, ← Nat.mod_eq_sub_mod full]

theorem length_batches (positive : 0 < size) (text : List α) :
    (batches size text).length = text.length / size := by
  induction text using batches_induction positive with
  | short text short => rw [batches_short short, Nat.div_eq_of_lt short, List.length_nil]
  | full text full ih =>
      rw [batches_full positive full, List.length_cons, ih, List.length_drop,
        Nat.div_eq_sub_div positive full]

end Batches

/-- The batches of a well-formed text are well formed exactly if no pair is cut in two. -/
theorem wellFormed_batches_iff {size : ℕ} (positive : 0 < size) {text : List UInt16}
    (whole : isWellFormed text) :
    ((∀ batch ∈ batches size text, isWellFormed batch) ↔
      ∀ number, ¬SplitsPair text (number * size)) ∧
    ((∀ number, ¬SplitsPair text (number * size)) → isWellFormed (remainder size text)) := by
  induction text using batches_induction positive with
  | short text short =>
      rw [batches_short short, remainder_short short]
      constructor
      case left =>
        simp only [List.not_mem_nil, false_imp_iff, implies_true, true_iff]
        rintro (_ | number) ⟨nonzero, -, low⟩
        · simp at nonzero
        · have beyond : text.length ≤ (number + 1) * size :=
            short.le.trans (Nat.le_mul_of_pos_left size (Nat.succ_pos number))
          rw [List.getElem?_eq_none beyond] at low
          cases low
      case right => exact fun _ => whole
  | full text full ih =>
      have split := wellFormedAfter_cut whole positive full
      have shifted (number : ℕ) :
          SplitsPair text ((number + 1) * size) ↔
            (number = 0 ∧ SplitsPair text size) ∨
              SplitsPair (text.drop size) (number * size) := by
        cases number with
        | zero => simp [SplitsPair]
        | succ number =>
            have positions : (number + 1) * size - 1 + size = (number + 1 + 1) * size - 1 := by
              have nonzero : 0 < (number + 1) * size := Nat.mul_pos (Nat.succ_pos number) positive
              rw [Nat.succ_mul (number + 1)]
              omega
            simp only [SplitsPair, List.getElem?_drop]
            rw [Nat.add_comm size, Nat.add_comm size, positions, ← Nat.succ_mul]
            simp [positive]
      have every : (∀ number, ¬SplitsPair text (number * size)) ↔
          ¬SplitsPair text size ∧ ∀ number, ¬SplitsPair (text.drop size) (number * size) := by
        constructor
        case mp =>
          intro none
          refine ⟨by simpa using none 1, fun number splits => ?_⟩
          exact none (number + 1) ((shifted number).mpr (.inr splits))
        case mpr =>
          rintro ⟨first, later⟩ (_ | number) splits
          · simp [SplitsPair] at splits
          · rcases (shifted number).mp splits with ⟨-, here⟩ | there
            · exact first here
            · exact later number there
      rw [batches_full positive full, remainder_full positive full, every, List.forall_mem_cons]
      constructor
      case left =>
        rw [isWellFormed, split.2]
        apply and_congr_right
        intro first
        exact (ih (split.1.mpr first).2).1
      case right => exact fun both => (ih (split.1.mpr both.1).2).2 both.2

end RemoteBrowser.Utf16
