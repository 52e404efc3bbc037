import RemoteBrowser.Text.Utf8
import Mathlib.Tactic.Common

/-!
# Texts as `JSON.stringify` writes them

Control characters, quotation marks, backslashes and surrogates without a partner are escaped.  So
the written text is well formed, and it says where it ends.
-/

namespace RemoteBrowser.Quote

open Utf16 (isHighSurrogate isLowSurrogate isWellFormed wellFormedAfter)

/-- The escapes of two characters. -/
def shortEscapes : List (UInt16 × UInt16) :=
  [(0x08, 0x62), (0x09, 0x74), (0x0A, 0x6E), (0x0C, 0x66), (0x0D, 0x72), (0x22, 0x22),
    (0x5C, 0x5C)]

def hexDigit (digit : ℕ) : UInt16 :=
  UInt16.ofNat (if digit < 10 then 0x30 + digit else 0x57 + digit)

def unicodeEscape (unit : ℕ) : List UInt16 :=
  [0x5C, 0x75, hexDigit (unit / 4096), hexDigit (unit / 256 % 16), hexDigit (unit / 16 % 16),
    hexDigit (unit % 16)]

def escapeUnit (unit : UInt16) : List UInt16 :=
  match shortEscapes.lookup unit with
  | some letter => [0x5C, letter]
  | none => unicodeEscape unit.toNat

/-- A unit that is not part of a pair of surrogates. -/
def quoteUnit (unit : UInt16) : List UInt16 :=
  if (shortEscapes.lookup unit).isSome || unit < 0x20 || isHighSurrogate unit ||
      isLowSurrogate unit then
    escapeUnit unit
  else [unit]

def quoteBody : List UInt16 → List UInt16
  | [] => []
  | [unit] => quoteUnit unit
  | unit :: next :: rest =>
      if isHighSurrogate unit && isLowSurrogate next then unit :: next :: quoteBody rest
      else quoteUnit unit ++ quoteBody (next :: rest)

/-- `JSON.stringify(text)`. -/
def quote (text : List UInt16) : List UInt16 := 0x22 :: quoteBody text ++ [0x22]

/-! ## Reading back -/

section Reading

variable {unit other : UInt16} {rest more : List UInt16}

def hexValue (digit : UInt16) : ℕ :=
  if digit.toNat < 0x3A then digit.toNat - 0x30 else digit.toNat - 0x57

/-- The unit of an escape. -/
def readEscape : List UInt16 → Option (UInt16 × List UInt16)
  | 0x5C :: 0x75 :: first :: second :: third :: fourth :: rest =>
      some (UInt16.ofNat (hexValue first * 4096 + hexValue second * 256 + hexValue third * 16 +
        hexValue fourth), rest)
  | 0x5C :: letter :: rest =>
      (shortEscapes.find? fun entry => entry.2 == letter).map fun entry => (entry.1, rest)
  | _ => none

theorem hexValue_hexDigit {digit : ℕ} (small : digit < 16) : hexValue (hexDigit digit) = digit := by
  rw [hexValue, hexDigit]
  split <;> rw [UInt16.toNat_ofNat'] <;> split <;> omega

theorem mem_shortEscapes {letter : UInt16} (found : shortEscapes.lookup unit = some letter) :
    (unit, letter) ∈ shortEscapes := by
  obtain ⟨_, _, shape, _⟩ := List.lookup_eq_some_iff.mp found
  rw [shape]
  exact List.mem_append_right _ List.mem_cons_self

theorem readEscape_short : ∀ entry ∈ shortEscapes, ∀ rest,
    readEscape (0x5C :: entry.2 :: rest) = some (entry.1, rest) := by
  intro entry member rest
  simp only [shortEscapes, List.mem_cons, List.not_mem_nil, or_false] at member
  rcases member with rfl | rfl | rfl | rfl | rfl | rfl | rfl <;> rfl

theorem readEscape_escapeUnit (unit : UInt16) (rest : List UInt16) :
    readEscape (escapeUnit unit ++ rest) = some (unit, rest) := by
  rw [escapeUnit]
  split
  case h_1 letter found => exact readEscape_short _ (mem_shortEscapes found) rest
  case h_2 =>
    have bound := unit.toNat_lt
    have whole : unit.toNat / 4096 * 4096 + unit.toNat / 256 % 16 * 256 +
        unit.toNat / 16 % 16 * 16 + unit.toNat % 16 = unit.toNat := by omega
    simp only [unicodeEscape, List.cons_append, List.nil_append, readEscape]
    rw [hexValue_hexDigit (by omega), hexValue_hexDigit (by omega), hexValue_hexDigit (by omega),
      hexValue_hexDigit (by omega), whole, UInt16.ofNat_toNat]

/-- The units by which one unit is written. -/
inductive Spells (unit : UInt16) : List UInt16 → Prop where
  | plain (notQuote : unit ≠ 0x22) (notBackslash : unit ≠ 0x5C) : Spells unit [unit]
  | escaped : Spells unit (escapeUnit unit)

theorem escapeUnit_cons (unit : UInt16) : ∃ rest, escapeUnit unit = 0x5C :: rest := by
  rw [escapeUnit]
  split
  case h_1 => exact ⟨_, rfl⟩
  case h_2 => exact ⟨_, rfl⟩

/-- What is written for a unit says which one it is and where it ends. -/
theorem Spells.unique {first second : List UInt16} (left : Spells unit first)
    (right : Spells other second) (same : first ++ rest = second ++ more) :
    unit = other ∧ rest = more := by
  cases left with
  | plain notQuote notBackslash =>
      cases right with
      | plain => exact List.cons.inj same
      | escaped =>
          obtain ⟨later, shape⟩ := escapeUnit_cons other
          rw [shape] at same
          exact absurd (List.cons.inj same).1 notBackslash
  | escaped =>
      cases right with
      | plain notQuote notBackslash =>
          obtain ⟨later, shape⟩ := escapeUnit_cons unit
          rw [shape] at same
          exact absurd (List.cons.inj same).1.symm notBackslash
      | escaped =>
          have read := congrArg readEscape same
          rw [readEscape_escapeUnit, readEscape_escapeUnit] at read
          exact Prod.mk.inj (Option.some.inj read)

/-- No unit is written as a quotation mark. -/
theorem Spells.not_quote {written : List UInt16} (spells : Spells unit written) :
    ¬ ∃ rest more, written ++ rest = 0x22 :: more := by
  rintro ⟨rest, more, same⟩
  cases spells with
  | plain notQuote => exact notQuote (List.cons.inj same).1
  | escaped =>
      obtain ⟨later, shape⟩ := escapeUnit_cons unit
      rw [shape] at same
      exact absurd (List.cons.inj same).1 (by decide)

/-- The units by which a text is written. -/
inductive SpellsAll : List UInt16 → List UInt16 → Prop where
  | nil : SpellsAll [] []
  | cons {unit : UInt16} {text first rest : List UInt16} (spells : Spells unit first)
      (later : SpellsAll text rest) : SpellsAll (unit :: text) (first ++ rest)

theorem SpellsAll.unique {text second written also : List UInt16} (left : SpellsAll text written)
    (right : SpellsAll second also) (same : written ++ 0x22 :: rest = also ++ 0x22 :: more) :
    text = second ∧ rest = more := by
  induction left generalizing second also with
  | nil =>
      cases right with
      | nil => exact ⟨rfl, (List.cons.inj same).2⟩
      | cons spells later =>
          rw [List.append_assoc] at same
          exact absurd ⟨_, _, same.symm⟩ spells.not_quote
  | cons spells later ih =>
      cases right with
      | nil =>
          rw [List.append_assoc] at same
          exact absurd ⟨_, _, same⟩ spells.not_quote
      | cons spellsAlso laterAlso =>
          rw [List.append_assoc, List.append_assoc] at same
          obtain ⟨rfl, same⟩ := spells.unique spellsAlso same
          obtain ⟨rfl, same⟩ := ih laterAlso same
          exact ⟨rfl, same⟩

theorem spells_quoteUnit (unit : UInt16) : Spells unit (quoteUnit unit) := by
  rw [quoteUnit]
  split
  case isTrue => exact .escaped
  case isFalse plain =>
    have unlisted : shortEscapes.lookup unit = none := by
      cases found : shortEscapes.lookup unit with
      | none => rfl
      | some letter => simp [found] at plain
    constructor
    · rintro rfl
      exact absurd unlisted (by decide)
    · rintro rfl
      exact absurd unlisted (by decide)

theorem spells_of_surrogate (surrogate : isHighSurrogate unit ∨ isLowSurrogate unit) :
    Spells unit [unit] := by
  constructor
  · rintro rfl
    exact absurd surrogate (by decide)
  · rintro rfl
    exact absurd surrogate (by decide)

theorem spellsAll_quoteBody (text : List UInt16) : SpellsAll text (quoteBody text) := by
  induction text using quoteBody.induct with
  | case1 => exact .nil
  | case2 unit =>
      rw [quoteBody, ← List.append_nil (quoteUnit unit)]
      exact .cons (spells_quoteUnit unit) .nil
  | case3 unit next rest pair ih =>
      have both := Bool.and_eq_true_iff.mp pair
      rw [quoteBody, if_pos pair]
      exact .cons (spells_of_surrogate (.inl both.1))
        (.cons (spells_of_surrogate (.inr both.2)) ih)
  | case4 unit next rest alone ih =>
      rw [quoteBody, if_neg alone]
      exact .cons (spells_quoteUnit unit) ih

/-- A written text says where it ends. -/
theorem quote_unique {text second : List UInt16}
    (same : quote text ++ rest = quote second ++ more) :
    text = second ∧ rest = more := by
  rw [quote, quote, List.append_assoc, List.append_assoc, List.cons_append,
    List.cons_append] at same
  exact (spellsAll_quoteBody text).unique (spellsAll_quoteBody second) (List.cons.inj same).2

end Reading

/-! ## Well-formed texts -/

section Formed

variable {unit : UInt16}

theorem hexDigit_ascii {digit : ℕ} (small : digit < 16) : (hexDigit digit).toNat < 0x80 := by
  rw [hexDigit, UInt16.toNat_ofNat']
  split <;> omega

theorem isWellFormed_escapeUnit (unit : UInt16) : isWellFormed (escapeUnit unit) := by
  apply Utf8.isWellFormed_of_ascii
  rw [escapeUnit]
  split
  case h_1 letter found =>
    have letters : shortEscapes.all (fun entry => entry.2.toNat < 0x80) := rfl
    have bound := List.all_eq_true.mp letters _ (mem_shortEscapes found)
    intro member listed
    rcases List.mem_cons.mp listed with rfl | listed
    · decide
    · rw [List.mem_singleton] at listed
      rw [listed]
      exact of_decide_eq_true bound
  case h_2 =>
    have bound := unit.toNat_lt
    intro member listed
    simp only [unicodeEscape, List.mem_cons, List.not_mem_nil, or_false] at listed
    rcases listed with rfl | rfl | rfl | rfl | rfl | rfl
    · decide
    · decide
    · exact hexDigit_ascii (by omega)
    · exact hexDigit_ascii (by omega)
    · exact hexDigit_ascii (by omega)
    · exact hexDigit_ascii (by omega)

theorem isWellFormed_quoteUnit (unit : UInt16) : isWellFormed (quoteUnit unit) := by
  rw [quoteUnit]
  split
  case isTrue => exact isWellFormed_escapeUnit unit
  case isFalse plain =>
    simp only [Bool.or_eq_true, not_or, Bool.not_eq_true] at plain
    simp [isWellFormed, wellFormedAfter, plain.1.2, plain.2]

theorem isWellFormed_quoteBody (text : List UInt16) : isWellFormed (quoteBody text) := by
  induction text using quoteBody.induct with
  | case1 => rfl
  | case2 unit =>
      rw [quoteBody]
      exact isWellFormed_quoteUnit unit
  | case3 unit next rest pair ih =>
      have both := Bool.and_eq_true_iff.mp pair
      have high : isLowSurrogate unit = false := Utf16.not_low_of_high both.1
      have low : isHighSurrogate next = false := by
        cases wrong : isHighSurrogate next with
        | false => rfl
        | true =>
            have never := Utf16.not_low_of_high wrong
            rw [both.2] at never
            cases never
      rw [quoteBody, if_pos pair, isWellFormed, wellFormedAfter, wellFormedAfter, high, both.1,
        both.2, low]
      simpa [isWellFormed] using ih
  | case4 unit next rest alone ih =>
      rw [quoteBody, if_neg alone]
      exact Utf16.isWellFormed_append (isWellFormed_quoteUnit unit) ih

theorem isWellFormed_quote (text : List UInt16) : isWellFormed (quote text) :=
  Utf16.isWellFormed_append (@Utf16.isWellFormed_append [0x22] _ rfl (isWellFormed_quoteBody text))
    rfl

end Formed

end RemoteBrowser.Quote
