import RemoteBrowser.Json.Value

/-!
# JSON equality and Lua tables

Two values are equal as JSON if they look alike at every path; the order of an object's members
does not show.

A Lua script decodes a value into tables and encodes them again.  An empty array becomes an
empty table, which is encoded as an empty object.  A number comes back with 14 significant
digits.  The numbers of the records that scripts work on have no more, and `recode` leaves
numbers as they are; every other value comes back equal.
-/

namespace RemoteBrowser.Json

/-! ## Equality -/

/-- One step into a value. -/
inductive Step where
  | key (name : String)
  | index (position : Nat)
  deriving DecidableEq

/-- What shows of a value without a step into it. -/
inductive Shape where
  | null
  | bool (value : Bool)
  | num (value : ℚ)
  | str (text : String)
  | arr (length : Nat)
  | obj
  deriving DecidableEq

def shape : Json → Shape
  | null => .null
  | bool value => .bool value
  | num value => .num value
  | str text => .str text
  | arr items => .arr items.length
  | obj _ => .obj

def child : Step → Json → Option Json
  | .key name, obj fields => fields.lookup name
  | .index position, arr items => items[position]?
  | _, _ => none

/-- The shape at the end of a path, if the path leads anywhere. -/
def probe (value : Json) : List Step → Option Shape
  | [] => some value.shape
  | step :: rest => (value.child step).bind fun next => next.probe rest

def Equal (left right : Json) : Prop := ∀ path, left.probe path = right.probe path

@[simp] theorem probe_nil (value : Json) : value.probe [] = some value.shape := rfl

theorem probe_key (fields : Fields) (name : String) (path : List Step) :
    (obj fields).probe (.key name :: path) =
      (fields.lookup name).bind fun value => value.probe path := rfl

mutual

/-- `cjson.encode(cjson.decode(value))`, for numbers of at most 14 significant digits. -/
def recode : Json → Json
  | arr [] => obj []
  | arr (item :: items) => arr (recode item :: recodeItems items)
  | obj fields => obj (recodeFields fields)
  | null => null
  | bool value => bool value
  | num value => num value
  | str text => str text

def recodeItems : List Json → List Json
  | [] => []
  | item :: items => recode item :: recodeItems items

def recodeFields : List (String × Json) → List (String × Json)
  | [] => []
  | (key, value) :: rest => (key, recode value) :: recodeFields rest

end

mutual

@[simp] theorem recode_recode : (value : Json) → value.recode.recode = value.recode
  | arr [] => rfl
  | arr (item :: items) => by
      simp only [recode, recode_recode item, recodeItems_recodeItems items]
  | obj fields => by
      simp only [recode, recodeFields_recodeFields fields]
  | null => rfl
  | bool _ => rfl
  | num _ => rfl
  | str _ => rfl

theorem recodeItems_recodeItems : (items : List Json) →
    recodeItems (recodeItems items) = recodeItems items
  | [] => rfl
  | item :: items => by
      simp only [recodeItems, recode_recode item, recodeItems_recodeItems items]

theorem recodeFields_recodeFields : (fields : List (String × Json)) →
    recodeFields (recodeFields fields) = recodeFields fields
  | [] => rfl
  | (key, value) :: rest => by
      simp only [recodeFields, recode_recode value, recodeFields_recodeFields rest]

end

end RemoteBrowser.Json
