import Mathlib.Data.List.DropRight
import Mathlib.Data.List.Basic

/-!
# Whitespace at the ends of a text

`strip` removes the characters at both ends that ECMAScript counts as white space or line
terminators, as `String.prototype.trim` does; `trimSpace` removes those with Unicode's property
White_Space, as Go's `strings.TrimSpace` does.
-/

namespace RemoteBrowser.Text

/-- What is said of all characters of a text is decided character by character. -/
instance decidableForallChars {chars : List Char} {p : Char → Prop} [DecidablePred p] :
    Decidable (∀ char, char ∈ chars → p char) := List.decidableBAll p chars

instance decidableExistsChar {chars : List Char} {p : Char → Prop} [DecidablePred p] :
    Decidable (∃ char, char ∈ chars ∧ p char) := List.decidableBEx p chars

/-- The characters that `\s` matches. -/
def isSpace (char : Char) : Bool :=
  (9 ≤ char.toNat && char.toNat ≤ 13) || (0x2000 ≤ char.toNat && char.toNat ≤ 0x200A) ||
    [0x20, 0xA0, 0x1680, 0x2028, 0x2029, 0x202F, 0x205F, 0x3000, 0xFEFF].contains char.toNat

def strip (text : String) : String :=
  String.ofList ((text.toList.dropWhile isSpace).rdropWhile isSpace)

/-- The characters for which `unicode.IsSpace` holds. -/
def isUnicodeSpace (char : Char) : Bool :=
  (9 ≤ char.toNat && char.toNat ≤ 13) || (0x2000 ≤ char.toNat && char.toNat ≤ 0x200A) ||
    [0x20, 0x85, 0xA0, 0x1680, 0x2028, 0x2029, 0x202F, 0x205F, 0x3000].contains char.toNat

def trimSpace (text : String) : String :=
  String.ofList ((text.toList.dropWhile isUnicodeSpace).rdropWhile isUnicodeSpace)

theorem dropWhile_rdropWhile_dropWhile {α : Type} (p : α → Bool) (items : List α) :
    ((items.dropWhile p).rdropWhile p).dropWhile p = (items.dropWhile p).rdropWhile p := by
  rw [List.dropWhile_eq_self_iff]
  intro present space
  -- What is left at the front is the front of the list from which only the end is dropped.
  have front := List.rdropWhile_prefix p (items.dropWhile p)
  have longer : 0 < (items.dropWhile p).length := Nat.lt_of_lt_of_le present front.length_le
  have same := front.getElem present
  have first := List.dropWhile_get_zero_not p items longer
  simp only [List.get_eq_getElem] at first
  rw [same] at space
  exact first space

@[simp] theorem strip_strip (text : String) : strip (strip text) = strip text := by
  simp only [strip, String.toList_ofList, dropWhile_rdropWhile_dropWhile,
    List.rdropWhile_idempotent]

@[simp] theorem trimSpace_trimSpace (text : String) :
    trimSpace (trimSpace text) = trimSpace text := by
  simp only [trimSpace, String.toList_ofList, dropWhile_rdropWhile_dropWhile,
    List.rdropWhile_idempotent]

/-- A text whose first and last characters are no white space is kept as it is. -/
theorem strip_of_ends {text : String}
    (front : ∀ present : text.toList ≠ [], isSpace (text.toList.head present) = false)
    (back : ∀ present : text.toList ≠ [], isSpace (text.toList.getLast present) = false) :
    strip text = text := by
  have start : text.toList.dropWhile isSpace = text.toList := by
    rw [List.dropWhile_eq_self_iff]
    intro present space
    have first := front (List.ne_nil_of_length_pos present)
    rw [List.head_eq_getElem] at first
    rw [first] at space
    cases space
  have stop : text.toList.rdropWhile isSpace = text.toList := by
    rw [List.rdropWhile_eq_self_iff]
    intro present
    simp [back present]
  rw [strip, start, stop, String.ofList_toList]

/-- A text without white space is kept as it is. -/
theorem strip_of_forall {text : String} (free : ∀ char ∈ text.toList, isSpace char = false) :
    strip text = text :=
  strip_of_ends (fun present => free _ (List.head_mem present))
    (fun present => free _ (List.getLast_mem present))

theorem trimSpace_of_forall {text : String}
    (free : ∀ char ∈ text.toList, isUnicodeSpace char = false) : trimSpace text = text := by
  have start : text.toList.dropWhile isUnicodeSpace = text.toList := by
    rw [List.dropWhile_eq_self_iff]
    intro present
    simp [free _ (List.getElem_mem present)]
  have stop : text.toList.rdropWhile isUnicodeSpace = text.toList := by
    rw [List.rdropWhile_eq_self_iff]
    intro present
    simp [free _ (List.getLast_mem present)]
  rw [trimSpace, start, stop, String.ofList_toList]

/-- White space around a text without white space is removed. -/
theorem strip_padded {lead core trail : List Char} (before : ∀ char ∈ lead, isSpace char = true)
    (after : ∀ char ∈ trail, isSpace char = true) (free : ∀ char ∈ core, isSpace char = false) :
    strip (String.ofList (lead ++ core ++ trail)) = String.ofList core := by
  have reversed : ∀ char ∈ trail.reverse, isSpace char = true := fun char member =>
    after char (List.mem_reverse.mp member)
  rw [strip, String.toList_ofList, List.append_assoc, List.dropWhile_append_of_pos before]
  cases core with
  | nil =>
      have none := @List.dropWhile_append_of_pos _ isSpace trail [] after
      rw [List.append_nil] at none
      rw [List.nil_append, none]
      rfl
  | cons first rest =>
      have start := free first List.mem_cons_self
      rw [List.cons_append, List.dropWhile_cons_of_neg (by simp [start]), ← List.cons_append,
        List.rdropWhile, List.reverse_append, List.dropWhile_append_of_pos reversed,
        ← List.rdropWhile]
      have kept := @strip_of_forall (String.ofList (first :: rest))
        (by rw [String.toList_ofList]; exact free)
      rw [strip, String.toList_ofList, List.dropWhile_cons_of_neg (by simp [start])] at kept
      exact kept

theorem mem_of_mem_strip {char : Char} {text : String} (member : char ∈ (strip text).toList) :
    char ∈ text.toList := by
  rw [strip, String.toList_ofList] at member
  have inner := (List.rdropWhile_prefix isSpace _).subset member
  exact (List.dropWhile_suffix _).subset inner

theorem not_mem_strip {char : Char} {text : String} (absent : char ∉ text.toList) :
    char ∉ (strip text).toList :=
  fun member => absent (mem_of_mem_strip member)

end RemoteBrowser.Text
