import Mathlib.Algebra.Field.Rat

/-!
# JSON values as JavaScript reads them

Values that `JSON.parse` returns, with the operators a program applies to values of unknown
shape: truthiness, member access, `||`, object spread and conversion to text.  A member that
is absent is `none`, which stands for `undefined`.

An object lists its members under distinct names; where a name is repeated, the first entry
counts, so that no statement depends on the names being distinct.
-/

namespace RemoteBrowser

inductive Json where
  | null
  | bool (value : Bool)
  | num (value : ℚ)
  | str (text : String)
  | arr (items : List Json)
  | obj (fields : List (String × Json))

namespace Json

/-- The members of an object: a name is looked up or given a value. -/
abbrev Fields := List (String × Json)

namespace Fields

def set (fields : Fields) (key : String) (value : Json) : Fields :=
  match fields with
  | [] => [(key, value)]
  | (name, old) :: rest =>
      if name = key then (key, value) :: rest else (name, old) :: Fields.set rest key value

theorem lookup_set (fields : Fields) (key name : String) (value : Json) :
    (fields.set key value).lookup name =
      if name = key then some value else fields.lookup name := by
  induction fields with
  | nil =>
      by_cases same : name = key
      · simp [set, same]
      · have other : (name == key) = false := by simpa using same
        simp [set, same, List.lookup_cons, other]
  | cons entry rest ih =>
      rcases entry with ⟨head, old⟩
      by_cases here : head = key
      · by_cases same : name = key
        · simp [set, here, same]
        · have other : (name == key) = false := by simpa using same
          simp [set, here, same, List.lookup_cons, other]
      · by_cases first : name = head
        · subst first
          simp [set, here]
        · have other : (name == head) = false := by simpa using first
          simp only [set, here, if_false, List.lookup_cons, other, ih]

end Fields

/-! ## Operators -/

/-- Whether a condition on the value holds. -/
def truthy : Json → Bool
  | null => false
  | bool value => value
  | num value => value != 0
  | str text => text != ""
  | arr _ => true
  | obj _ => true

/-- The items under their indices, as a spread copies them. -/
def indexed (items : List Json) : Fields :=
  items.mapIdx fun index item => (toString index, item)

/-- What a spread of the value copies: its own enumerable members. -/
def entries : Json → Fields
  | obj fields => fields
  | arr items => indexed items
  | str text => indexed (text.toList.map fun char => str char.toString)
  | _ => []

/-- `value?.key`, for the names that only objects have as members. -/
def member (key : String) : Json → Option Json
  | obj fields => fields.lookup key
  | _ => none

/-- `left || right`. -/
def or (left right : Option Json) : Option Json :=
  if left.any truthy then left else right

@[simp] theorem or_self (value : Option Json) : or value value = value := by
  simp [or]

theorem or_some_str {text : String} (present : text ≠ "") (other : Option Json) :
    or (some (str text)) other = some (str text) := by
  simp [or, truthy, present]

/-! ## Conversion to text -/

mutual

/-- `String(value)`, unless it throws: an object whose own `toString` hides the inherited one
has no text.  The text of a number is the platform's. -/
def text (number : ℚ → String) : Json → Option String
  | null => some "null"
  | bool value => some (if value then "true" else "false")
  | num value => some (number value)
  | str content => some content
  | arr items => (itemTexts number items).map (String.intercalate ",")
  | obj fields => if (fields.lookup "toString").isSome then none else some "[object Object]"

/-- The texts of an array's items, where `null` has the empty one. -/
def itemTexts (number : ℚ → String) : List Json → Option (List String)
  | [] => some []
  | null :: rest => (itemTexts number rest).map ("" :: ·)
  | item :: rest => do
      let head ← text number item
      let tail ← itemTexts number rest
      some (head :: tail)

end

/-- `String(value || "")`. -/
def textOrEmpty (number : ℚ → String) (value : Option Json) : Option String :=
  if value.any truthy then value.bind (text number) else some ""

@[simp] theorem textOrEmpty_str (number : ℚ → String) (content : String) :
    textOrEmpty number (some (str content)) = some content := by
  by_cases empty : content = ""
  · simp [textOrEmpty, empty, truthy]
  · simp [textOrEmpty, empty, truthy, text]

end Json

end RemoteBrowser
