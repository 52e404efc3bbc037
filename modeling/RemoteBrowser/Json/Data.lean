import RemoteBrowser.Text.Utf16

/-!
# JSON values with texts in UTF-16

What `JSON.parse` returns, where the code units of the texts matter.  The type of numbers is a
parameter.  The members of an object are listed in the order in which JavaScript enumerates them.
-/

namespace RemoteBrowser

open Utf16 (ascii isWellFormed)

inductive JsonData (Number : Type) where
  | null
  | bool (value : Bool)
  | num (value : Number)
  | str (text : List UInt16)
  | arr (items : List (JsonData Number))
  | obj (fields : List (List UInt16 × JsonData Number))

namespace JsonData

variable {Number : Type}

/-- Separate texts by commas. -/
def joinCommas : List (List UInt16) → List UInt16
  | [] => []
  | [text] => text
  | text :: rest => text ++ 0x2C :: joinCommas rest

mutual

/-- `String(value)`.  A member `toString` hides the inherited function and is none itself, so the
conversion fails. -/
def toText (numberText : Number → List UInt16) : JsonData Number → Option (List UInt16)
  | .null => some (ascii "null")
  | .bool value => some (ascii (if value then "true" else "false"))
  | .num value => some (numberText value)
  | .str text => some text
  | .arr items => (elementTexts numberText items).map joinCommas
  | .obj fields =>
      if (fields.lookup (ascii "toString")).isSome then none else some (ascii "[object Object]")

/-- The texts of the elements of an array, that of `null` being empty. -/
def elementTexts (numberText : Number → List UInt16) :
    List (JsonData Number) → Option (List (List UInt16))
  | [] => some []
  | .null :: rest => (elementTexts numberText rest).map ([] :: ·)
  | item :: rest => do return (← toText numberText item) :: (← elementTexts numberText rest)

end

/-- The value that an operator compares: objects are converted to texts. -/
def toPrimitive (numberText : Number → List UInt16) (value : JsonData Number) :
    Option (JsonData Number) :=
  match value with
  | .arr _ | .obj _ => (value.toText numberText).map .str
  | _ => some value

/-- Whether JavaScript takes the value for true. -/
def truthy (numberTruthy : Number → Bool) : JsonData Number → Bool
  | .null => false
  | .bool value => value
  | .num value => numberTruthy value
  | .str text => text ≠ []
  | .arr _ | .obj _ => true

/-! ## Texts between commas -/

/-- Each text behind a comma. -/
def joinRest (list : List (List UInt16)) : List UInt16 := (list.map (0x2C :: ·)).flatten

theorem joinCommas_cons (text : List UInt16) (rest : List (List UInt16)) :
    joinCommas (text :: rest) = text ++ joinRest rest := by
  induction rest generalizing text with
  | nil => simp [joinCommas, joinRest]
  | cons next rest ih =>
      have unfolded :
          joinCommas (text :: next :: rest) = text ++ 0x2C :: joinCommas (next :: rest) := rfl
      rw [unfolded, ih, joinRest, joinRest, List.map_cons, List.flatten_cons, List.cons_append]

theorem isWellFormed_joinCommas {list : List (List UInt16)}
    (all : ∀ text ∈ list, isWellFormed text) : isWellFormed (joinCommas list) := by
  cases list with
  | nil => rfl
  | cons text rest =>
      rw [List.forall_mem_cons] at all
      rw [joinCommas_cons]
      apply Utf16.isWellFormed_append all.1
      apply Utf16.isWellFormed_flatten
      intro piece member
      obtain ⟨text, listed, rfl⟩ := List.mem_map.mp member
      exact @Utf16.isWellFormed_append [0x2C] text rfl (all.2 text listed)

theorem isWellFormed_between {text : List UInt16} (left right : UInt16)
    (first : isWellFormed [left]) (last : isWellFormed [right]) (formed : isWellFormed text) :
    isWellFormed (left :: text ++ [right]) :=
  Utf16.isWellFormed_append (@Utf16.isWellFormed_append [left] text first formed) last

/-! ## Induction over values -/

/-- Induction where the hypotheses speak of the elements and members. -/
@[elab_as_elim]
theorem inductionOn {motive : JsonData Number → Prop} (value : JsonData Number)
    (null : motive .null) (bool : ∀ value, motive (.bool value))
    (num : ∀ value, motive (.num value)) (str : ∀ text, motive (.str text))
    (arr : ∀ items, (∀ item ∈ items, motive item) → motive (.arr items))
    (obj : ∀ fields, (∀ entry ∈ fields, motive entry.2) → motive (.obj fields)) : motive value :=
  @JsonData.rec Number motive (fun items => ∀ item ∈ items, motive item)
    (fun fields => ∀ entry ∈ fields, motive entry.2) (fun entry => motive entry.2)
    null bool num str arr obj (List.forall_mem_nil _)
    (fun _ _ first rest => List.forall_mem_cons.mpr ⟨first, rest⟩) (List.forall_mem_nil _)
    (fun _ _ first rest => List.forall_mem_cons.mpr ⟨first, rest⟩) (fun _ _ second => second) value

end JsonData

end RemoteBrowser
