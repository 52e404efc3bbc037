import RemoteBrowser.Json.Data
import RemoteBrowser.Json.Quote

/-!
# Texts and sizes of JSON values

`JSON.stringify` for values that `JSON.parse` returns.  The text of a value has its surrogates
paired, so its number of bytes is the sum over its parts.
-/

namespace RemoteBrowser

open Utf16 (ascii isWellFormed)

/-- `JSON.stringify(number)`. -/
structure NumberPrinter (Number : Type) where
  text : Number → List UInt16
  text_ascii : ∀ value, ∀ unit ∈ text value, unit.toNat < 0x80

namespace JsonData

variable {Number : Type}

mutual

/-- `JSON.stringify(value)`. -/
def stringify (numbers : NumberPrinter Number) : JsonData Number → List UInt16
  | .null => ascii "null"
  | .bool value => ascii (if value then "true" else "false")
  | .num value => numbers.text value
  | .str text => Quote.quote text
  | .arr items => 0x5B :: joinCommas (itemTexts numbers items) ++ [0x5D]
  | .obj fields => 0x7B :: joinCommas (fieldTexts numbers fields) ++ [0x7D]

def itemTexts (numbers : NumberPrinter Number) : List (JsonData Number) → List (List UInt16)
  | [] => []
  | item :: rest => stringify numbers item :: itemTexts numbers rest

def fieldTexts (numbers : NumberPrinter Number) :
    List (List UInt16 × JsonData Number) → List (List UInt16)
  | [] => []
  | (key, value) :: rest =>
      (Quote.quote key ++ 0x3A :: stringify numbers value) :: fieldTexts numbers rest

end

/-- `JSON.stringify(value).length`. -/
def units (numbers : NumberPrinter Number) (value : JsonData Number) : ℕ :=
  (stringify numbers value).length

/-- `Buffer.byteLength(JSON.stringify(value))`. -/
def bytes (numbers : NumberPrinter Number) (value : JsonData Number) : ℕ :=
  (Utf8.encode (stringify numbers value)).length

/-! ## Sizes -/

/-- A size that is the sum over the parts of a text. -/
structure TextSize where
  size : List UInt16 → ℕ
  size_append : ∀ first second, isWellFormed first →
    size (first ++ second) = size first + size second
  size_ascii : ∀ text : List UInt16, (∀ unit ∈ text, unit.toNat < 0x80) → size text = text.length

def unitSize : TextSize where
  size := List.length
  size_append _ _ _ := List.length_append
  size_ascii _ _ := rfl

def byteSize : TextSize where
  size text := (Utf8.encode text).length
  size_append first second formed := by rw [Utf8.encode_append formed, List.length_append]
  size_ascii _ := Utf8.length_encode_ascii

variable {numbers : NumberPrinter Number}

theorem itemTexts_eq (items : List (JsonData Number)) :
    itemTexts numbers items = items.map (stringify numbers) := by
  induction items with
  | nil => rfl
  | cons item rest ih => rw [itemTexts, ih, List.map_cons]

theorem fieldTexts_eq (fields : List (List UInt16 × JsonData Number)) :
    fieldTexts numbers fields =
      fields.map fun entry => Quote.quote entry.1 ++ 0x3A :: stringify numbers entry.2 := by
  induction fields with
  | nil => rfl
  | cons entry rest ih => rw [fieldTexts, ih, List.map_cons]

/-- The text of a value has its surrogates paired. -/
theorem isWellFormed_stringify (value : JsonData Number) :
    isWellFormed (stringify numbers value) := by
  induction value using inductionOn with
  | null => rfl
  | bool value => cases value <;> rfl
  | num value => exact Utf8.isWellFormed_of_ascii (numbers.text_ascii value)
  | str text => exact Quote.isWellFormed_quote text
  | arr items ih =>
      rw [stringify, itemTexts_eq]
      apply isWellFormed_between _ _ rfl rfl (isWellFormed_joinCommas _)
      intro text member
      obtain ⟨item, listed, rfl⟩ := List.mem_map.mp member
      exact ih item listed
  | obj fields ih =>
      rw [stringify, fieldTexts_eq]
      apply isWellFormed_between _ _ rfl rfl (isWellFormed_joinCommas _)
      intro text member
      obtain ⟨entry, listed, rfl⟩ := List.mem_map.mp member
      apply Utf16.isWellFormed_append (Quote.isWellFormed_quote entry.1)
      exact @Utf16.isWellFormed_append [0x3A] _ rfl (ih entry listed)

namespace TextSize

variable (measure : TextSize)

theorem size_unit {unit : UInt16} (small : unit.toNat < 0x80) (text : List UInt16) :
    measure.size (unit :: text) = measure.size text + 1 := by
  have single : ∀ other ∈ [unit], other.toNat < 0x80 := List.forall_mem_singleton.mpr small
  have formed := Utf8.isWellFormed_of_ascii single
  have whole := measure.size_append [unit] text formed
  rw [measure.size_ascii _ single] at whole
  rw [← List.singleton_append, whole, List.length_singleton, Nat.add_comm]

theorem size_nil : measure.size [] = 0 := measure.size_ascii [] (List.forall_mem_nil _)

theorem size_joinRest {list : List (List UInt16)} (all : ∀ text ∈ list, isWellFormed text) :
    measure.size (joinRest list) = (list.map fun text => measure.size text + 1).sum := by
  induction list with
  | nil => exact measure.size_nil
  | cons text rest ih =>
      rw [List.forall_mem_cons] at all
      have unfolded : joinRest (text :: rest) = 0x2C :: (text ++ joinRest rest) := rfl
      rw [unfolded, measure.size_unit (by decide), measure.size_append _ _ all.1, ih all.2,
        List.map_cons, List.sum_cons]
      omega

/-- A list between brackets has one unit more than its texts with a comma each. -/
theorem size_between {left right : UInt16} (first : left.toNat < 0x80) (last : right.toNat < 0x80)
    {text : List UInt16} {rest : List (List UInt16)}
    (all : ∀ piece ∈ text :: rest, isWellFormed piece) :
    measure.size (left :: joinCommas (text :: rest) ++ [right]) =
      1 + ((text :: rest).map fun piece => measure.size piece + 1).sum := by
  have formed := isWellFormed_joinCommas all
  rw [List.cons_append, measure.size_unit first, measure.size_append _ _ formed,
    measure.size_unit last, measure.size_nil, joinCommas_cons]
  rw [List.forall_mem_cons] at all
  rw [measure.size_append _ _ all.1, measure.size_joinRest all.2, List.map_cons, List.sum_cons]
  omega

theorem size_arr (item : JsonData Number) (rest : List (JsonData Number)) :
    measure.size (stringify numbers (.arr (item :: rest))) =
      1 + ((item :: rest).map fun value => measure.size (stringify numbers value) + 1).sum := by
  have all : ∀ piece ∈ (item :: rest).map (stringify numbers), isWellFormed piece := by
    intro piece member
    obtain ⟨value, -, rfl⟩ := List.mem_map.mp member
    exact isWellFormed_stringify value
  rw [stringify, itemTexts_eq, List.map_cons, measure.size_between (by decide) (by decide) all,
    ← List.map_cons, List.map_map]
  rfl

theorem size_obj (entry : List UInt16 × JsonData Number)
    (rest : List (List UInt16 × JsonData Number)) :
    measure.size (stringify numbers (.obj (entry :: rest))) =
      1 + ((entry :: rest).map fun field =>
        measure.size (Quote.quote field.1) + measure.size (stringify numbers field.2) + 2).sum := by
  have all : ∀ piece ∈ (entry :: rest).map (fun field =>
      Quote.quote field.1 ++ 0x3A :: stringify numbers field.2), isWellFormed piece := by
    intro piece member
    obtain ⟨field, -, rfl⟩ := List.mem_map.mp member
    apply Utf16.isWellFormed_append (Quote.isWellFormed_quote field.1)
    exact @Utf16.isWellFormed_append [0x3A] _ rfl (isWellFormed_stringify field.2)
  have one : ∀ field : List UInt16 × JsonData Number,
      measure.size (Quote.quote field.1 ++ 0x3A :: stringify numbers field.2) + 1 =
        measure.size (Quote.quote field.1) + measure.size (stringify numbers field.2) + 2 := by
    intro field
    rw [measure.size_append _ _ (Quote.isWellFormed_quote field.1), measure.size_unit (by decide)]
    omega
  rw [stringify, fieldTexts_eq, List.map_cons, measure.size_between (by decide) (by decide) all]
  simp only [List.map_cons, List.map_map, Function.comp_def, one]

/-- Values are no larger than the list they are in. -/
theorem sum_le_arr (items : List (JsonData Number)) :
    (items.map fun value => measure.size (stringify numbers value)).sum ≤
      measure.size (stringify numbers (.arr items)) := by
  have commas : ∀ items : List (JsonData Number),
      (items.map fun value => measure.size (stringify numbers value)).sum ≤
        (items.map fun value => measure.size (stringify numbers value) + 1).sum := by
    intro items
    induction items with
    | nil => exact Nat.le_refl _
    | cons item rest ih =>
        simp only [List.map_cons, List.sum_cons]
        omega
  cases items with
  | nil => exact Nat.zero_le _
  | cons item rest =>
      rw [measure.size_arr]
      exact (commas _).trans (Nat.le_add_left _ _)

theorem size_le_obj {entry : List UInt16 × JsonData Number}
    {fields : List (List UInt16 × JsonData Number)} (member : entry ∈ fields) :
    measure.size (stringify numbers entry.2) ≤ measure.size (stringify numbers (.obj fields)) := by
  have within : ∀ fields : List (List UInt16 × JsonData Number), entry ∈ fields →
      measure.size (stringify numbers entry.2) ≤ (fields.map fun field =>
        measure.size (Quote.quote field.1) + measure.size (stringify numbers field.2) + 2).sum := by
    intro fields member
    induction fields with
    | nil => cases member
    | cons field rest ih =>
        rw [List.map_cons, List.sum_cons]
        rcases List.mem_cons.mp member with rfl | later
        · omega
        · have inner := ih later
          omega
  cases fields with
  | nil => cases member
  | cons field rest =>
      rw [measure.size_obj]
      exact (within _ member).trans (Nat.le_add_left _ _)

end TextSize

end JsonData

end RemoteBrowser
