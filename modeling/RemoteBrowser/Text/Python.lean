import Mathlib.Data.List.DropRight
import Mathlib.Data.List.Infix
import Mathlib.Tactic.Common

/-!
# Python texts

A `str` as its code points, with `strip`, `split` and `splitlines`.  Lines that are joined by line
breaks are read back, and so are parts that are joined by a separator that none of them has.
-/

namespace RemoteBrowser.Python

/-- The code points of a text. -/
abbrev Text := List ℕ

def lit (text : String) : Text := text.toList.map Char.toNat

/-- `str.isspace` of one code point. -/
def isSpace (point : ℕ) : Bool :=
  (9 ≤ point && point ≤ 13) || (28 ≤ point && point ≤ 32) || point == 133 || point == 160 ||
    point == 5760 || (8192 ≤ point && point ≤ 8202) || point == 8232 || point == 8233 ||
    point == 8239 || point == 8287 || point == 12288

def strip (text : Text) : Text := (text.dropWhile isSpace).rdropWhile isSpace

/-- The separators of `splitlines`. -/
def isLineBreak (point : ℕ) : Bool :=
  (10 ≤ point && point ≤ 13) || (28 ≤ point && point ≤ 30) || point == 133 || point == 8232 ||
    point == 8233

/-- The lines of a text behind the given beginning of a line. -/
def splitlinesFrom (line : Text) : Text → List Text
  | [] => if line = [] then [] else [line]
  | 13 :: 10 :: rest => line :: splitlinesFrom [] rest
  | point :: rest =>
      if isLineBreak point then line :: splitlinesFrom [] rest
      else splitlinesFrom (line ++ [point]) rest

def splitlines (text : Text) : List Text := splitlinesFrom [] text

/-- `text.split()`: the parts between spaces. -/
def words (text : Text) : List Text := (text.splitOnP isSpace).filter (· ≠ [])

/-- `text.split(separator, 1)[0]`. -/
def before (separator : ℕ) (text : Text) : Text := text.takeWhile (· ≠ separator)

/-- `text.split(separator, 1)[1]`, if there is one. -/
def after (separator : ℕ) (text : Text) : Option Text :=
  (text.dropWhile (· ≠ separator)).tail?

/-- The text of a natural number. -/
def decimal (value : ℕ) : Text := lit (toString value)

def crlf : Text := [13, 10]

/-- `"\r\n".join(lines) + "\r\n"`. -/
def joinLines (lines : List Text) : Text := crlf.intercalate lines ++ crlf

/-- A text without line breaks. -/
def IsLine (line : Text) : Prop := ∀ point ∈ line, isLineBreak point = false

section Lines

variable {line rest : Text} {lines : List Text}

theorem splitlinesFrom_line (begun : Text) (plain : IsLine line) :
    splitlinesFrom begun (line ++ crlf ++ rest) = (begun ++ line) :: splitlines rest := by
  induction line generalizing begun with
  | nil => simp [splitlinesFrom, crlf, splitlines]
  | cons point line ih =>
      rw [IsLine, List.forall_mem_cons] at plain
      have notReturn : point ≠ 13 := by
        rintro rfl
        cases plain.1
      rw [List.cons_append, List.cons_append, splitlinesFrom, plain.1]
      · simpa using ih (begun ++ [point]) plain.2
      · exact fun _ same => absurd same notReturn

theorem joinLines_cons (line : Text) (some : lines ≠ []) :
    joinLines (line :: lines) = line ++ crlf ++ joinLines lines := by
  obtain ⟨next, rest, rfl⟩ := List.exists_cons_of_ne_nil some
  simp [joinLines, List.intercalate]

/-- Joined lines are read back. -/
theorem splitlines_joinLines (some : lines ≠ []) (plain : ∀ line ∈ lines, IsLine line) :
    splitlines (joinLines lines) = lines := by
  induction lines with
  | nil => exact absurd rfl some
  | cons line rest ih =>
      rw [List.forall_mem_cons] at plain
      cases rest with
      | nil =>
          have single : joinLines [line] = line ++ crlf ++ [] := by
            simp [joinLines, List.intercalate]
          rw [single, splitlines, splitlinesFrom_line [] plain.1]
          rfl
      | cons next rest =>
          rw [joinLines_cons line (List.cons_ne_nil _ _), splitlines,
            splitlinesFrom_line [] plain.1, ih (List.cons_ne_nil _ _) plain.2, List.nil_append]

theorem joinLines_ne_nil (lines : List Text) : joinLines lines ≠ [] :=
  List.append_ne_nil_of_right_ne_nil _ (List.cons_ne_nil _ _)

theorem isLine_of_mem_splitlinesFrom {begun text : Text} (plain : IsLine begun)
    (member : line ∈ splitlinesFrom begun text) : IsLine line := by
  induction begun, text using splitlinesFrom.induct with
  | case1 => simp [splitlinesFrom] at member
  | case2 begun some =>
      rw [splitlinesFrom, if_neg some, List.mem_singleton] at member
      rw [member]
      exact plain
  | case3 begun rest ih =>
      rw [splitlinesFrom, List.mem_cons] at member
      rcases member with rfl | later
      · exact plain
      · exact ih (List.forall_mem_nil _) later
  | case4 begun point rest other ends ih =>
      rw [splitlinesFrom, if_pos ends, List.mem_cons] at member
      · rcases member with rfl | later
        · exact plain
        · exact ih (List.forall_mem_nil _) later
      · exact other
  | case5 begun point rest other goesOn ih =>
      rw [splitlinesFrom, if_neg goesOn] at member
      · apply ih _ member
        rw [IsLine, List.forall_mem_append]
        exact ⟨plain, List.forall_mem_singleton.mpr (Bool.eq_false_iff.mpr goesOn)⟩
      · exact other

/-- Lines have no line breaks. -/
theorem isLine_of_mem_splitlines {text : Text} (member : line ∈ splitlines text) : IsLine line :=
  isLine_of_mem_splitlinesFrom (List.forall_mem_nil _) member

theorem splitlinesFrom_ne_nil {begun text : Text} (some : begun ≠ [] ∨ text ≠ []) :
    splitlinesFrom begun text ≠ [] := by
  induction begun, text using splitlinesFrom.induct with
  | case1 => simp at some
  | case2 begun nonempty =>
      rw [splitlinesFrom, if_neg nonempty]
      exact List.cons_ne_nil _ _
  | case3 begun rest ih =>
      rw [splitlinesFrom]
      exact List.cons_ne_nil _ _
  | case4 begun point rest other ends ih =>
      rw [splitlinesFrom, if_pos ends]
      · exact List.cons_ne_nil _ _
      · exact other
  | case5 begun point rest other goesOn ih =>
      rw [splitlinesFrom, if_neg goesOn]
      · exact ih (.inl (List.append_ne_nil_of_right_ne_nil _ (List.cons_ne_nil _ _)))
      · exact other

theorem splitlines_ne_nil {text : Text} (some : text ≠ []) : splitlines text ≠ [] :=
  splitlinesFrom_ne_nil (.inr some)

end Lines

section Strip

/-- A text that begins and ends with no space. -/
structure IsStripped (text : Text) : Prop where
  first : ∀ point, text.head? = some point → isSpace point = false
  last : ∀ point, text.getLast? = some point → isSpace point = false

theorem strip_eq_self {text : Text} (stripped : IsStripped text) : strip text = text := by
  have start : text.dropWhile isSpace = text := by
    cases text with
    | nil => rfl
    | cons point rest =>
        have kept := stripped.first point rfl
        rw [List.dropWhile_cons_of_neg (by rw [kept]; simp)]
  rw [strip, start, List.rdropWhile_eq_self_iff]
  intro nonempty
  rw [stripped.last _ (List.getLast?_eq_some_getLast nonempty)]
  exact Bool.false_ne_true

theorem isStripped_strip (text : Text) : IsStripped (strip text) := by
  constructor
  case first =>
    intro point first
    obtain ⟨dropped, whole⟩ := List.rdropWhile_prefix isSpace (text.dropWhile isSpace)
    obtain ⟨rest, shape⟩ := List.head?_eq_some_iff.mp first
    rw [← strip, shape] at whole
    have nonempty : text.dropWhile isSpace ≠ [] := by
      rw [← whole]
      exact List.cons_ne_nil _ _
    have kept := List.head_dropWhile_not isSpace nonempty
    have head : (text.dropWhile isSpace).head nonempty = point := by simp [← whole]
    rwa [head] at kept
  case last =>
    intro point last
    have nonempty : strip text ≠ [] := by
      intro none
      rw [none] at last
      cases last
    rw [List.getLast?_eq_some_getLast nonempty] at last
    have kept := List.rdropWhile_last_not isSpace (text.dropWhile isSpace) nonempty
    rw [Bool.not_eq_true] at kept
    rw [← Option.some.inj last]
    exact kept

theorem mem_of_mem_strip {text : Text} {point : ℕ} (member : point ∈ strip text) : point ∈ text :=
  (List.dropWhile_suffix _).mem ((List.rdropWhile_prefix _ _).mem member)

end Strip

end RemoteBrowser.Python
