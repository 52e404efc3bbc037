import RemoteBrowser.Json.DeepEqual

/-!
# Go's encoding of structures as JSON

`json.Marshal` writes the fields of a structure in order and leaves out an empty field that is
marked so; it writes a map with its names sorted.  `json.Unmarshal` refuses a text that nests too
deeply, keeps the zero value of a field that is absent or null, and reads an `any` as the value
that is written.  Texts are represented by the values they spell, and the names of fields are
compared exactly.
-/

namespace RemoteBrowser.Json

/-! ## Nesting -/

mutual

/-- How many brackets are open at once. -/
def depth : Json → Nat
  | arr items => 1 + itemsDepth items
  | obj fields => 1 + fieldsDepth fields
  | _ => 0

def itemsDepth : List Json → Nat
  | [] => 0
  | item :: rest => max (depth item) (itemsDepth rest)

def fieldsDepth : List (String × Json) → Nat
  | [] => 0
  | (_, value) :: rest => max (depth value) (fieldsDepth rest)

end

@[simp] theorem depth_str (text : String) : (str text).depth = 0 := rfl

def maxNestingDepth : Nat := 10000

/-- The value that a text spells, unless it nests too deeply to be read. -/
def unmarshal (value : Json) : Option Json :=
  if value.depth ≤ maxNestingDepth then some value else none

/-! ## Maps -/

/-- Give a name its value among names that are sorted. -/
def insertField (name : String) (value : Json) : Fields → Fields
  | [] => [(name, value)]
  | (head, old) :: rest =>
      if name < head then (name, value) :: (head, old) :: rest
      else if name = head then (name, value) :: rest
      else (head, old) :: insertField name value rest

mutual

/-- What is written of an `any`. -/
def marshalAny : Json → Json
  | arr items => arr (marshalItems items)
  | obj fields => obj (marshalFields fields)
  | null => null
  | bool value => bool value
  | num value => num value
  | str text => str text

def marshalItems : List Json → List Json
  | [] => []
  | item :: rest => marshalAny item :: marshalItems rest

def marshalFields : List (String × Json) → List (String × Json)
  | [] => []
  | (name, value) :: rest => insertField name (marshalAny value) (marshalFields rest)

end

theorem lookup_insertField (name key : String) (value : Json) (fields : Fields) :
    (insertField name value fields).lookup key =
      if key = name then some value else fields.lookup key := by
  induction fields with
  | nil =>
      by_cases same : key = name
      · simp [insertField, same]
      · simp [insertField, same, List.lookup_cons, beq_false_of_ne same]
  | cons entry rest ih =>
      obtain ⟨head, old⟩ := entry
      rw [insertField]
      split
      · by_cases same : key = name
        · simp [same]
        · simp [same, List.lookup_cons, beq_false_of_ne same]
      · split
        · next found =>
            subst found
            by_cases same : key = name
            · simp [same]
            · simp [same, List.lookup_cons, beq_false_of_ne same]
        · next other =>
            rw [List.lookup_cons, List.lookup_cons, ih]
            by_cases same : key = head
            · subst same
              simp [Ne.symm other]
            · simp [beq_false_of_ne same]

theorem lookup_marshalFields (fields : Fields) (key : String) :
    (marshalFields fields).lookup key = (fields.lookup key).map marshalAny := by
  induction fields with
  | nil => rfl
  | cons entry rest ih =>
      obtain ⟨name, value⟩ := entry
      rw [marshalFields, lookup_insertField, ih, List.lookup_cons]
      by_cases same : key = name
      · simp [same]
      · simp [same, beq_false_of_ne same]

theorem insertField_ne_nil (name : String) (value : Json) (fields : Fields) :
    insertField name value fields ≠ [] := by
  cases fields with
  | nil => simp [insertField]
  | cons entry rest =>
      rw [insertField]
      split
      · simp
      · split
        · simp
        · simp

theorem marshalFields_eq_nil {fields : Fields} : marshalFields fields = [] ↔ fields = [] := by
  cases fields with
  | nil => simp [marshalFields]
  | cons entry rest => simp [marshalFields, insertField_ne_nil]

mutual

/-- What is read back of an `any` is equal to it. -/
theorem equal_marshalAny : (value : Json) → Equal (marshalAny value) value
  | arr items => by
      rw [marshalAny, equal_arr]
      exact equal_marshalItems items
  | obj fields => by
      rw [marshalAny, equal_obj]
      intro name
      rw [lookup_marshalFields]
      cases found : fields.lookup name with
      | none => exact .none
      | some value => exact .some (equal_lookup fields name value found)
  | null => fun _ => rfl
  | bool _ => fun _ => rfl
  | num _ => fun _ => rfl
  | str _ => fun _ => rfl

theorem equal_marshalItems : (items : List Json) → List.Forall₂ Equal (marshalItems items) items
  | [] => .nil
  | item :: rest => .cons (equal_marshalAny item) (equal_marshalItems rest)

theorem equal_lookup : (fields : List (String × Json)) → (name : String) → (value : Json) →
    fields.lookup name = some value → Equal (marshalAny value) value
  | (key, first) :: rest, name, value, found => by
      rw [List.lookup_cons] at found
      split at found
      · cases found
        exact equal_marshalAny first
      · exact equal_lookup rest name value found

end

theorem Equal.symm {left right : Json} (equal : Equal left right) : Equal right left :=
  fun path => (equal path).symm

theorem Equal.trans {left middle right : Json} (first : Equal left middle)
    (second : Equal middle right) : Equal left right :=
  fun path => (first path).trans (second path)

/-- Comparisons do not tell a value from what is read back of it. -/
theorem deepEqual_marshalAny (left right : Json) :
    deepEqual (marshalAny left) right = deepEqual left right := by
  rw [Bool.eq_iff_iff, deepEqual_iff, deepEqual_iff]
  have same := equal_marshalAny left
  exact ⟨same.symm.trans, same.trans⟩

/-! ## Writing a structure -/

/-- A text that is left out when it is empty. -/
def omitEmpty (text : String) : Option Json := if text = "" then none else some (str text)

/-- An integer that is left out when it is zero. -/
def omitZero (value : Int) : Option Json := if value = 0 then none else some (num value)

/-- A map that is left out when it is nil or empty. -/
def omitEmptyMap : Option Fields → Option Json
  | none => none
  | some [] => none
  | some fields => some (marshalAny (obj fields))

/-- The fields of a structure under their names, in order, without those that are left out. -/
def present (slots : List (String × Option Json)) : Fields :=
  slots.filterMap fun slot => slot.2.map (slot.1, ·)

theorem lookup_present {slots : List (String × Option Json)}
    (distinct : (slots.map Prod.fst).Nodup) (name : String) :
    (present slots).lookup name = (slots.lookup name).join := by
  induction slots with
  | nil => rfl
  | cons slot rest ih =>
      obtain ⟨key, value⟩ := slot
      have tail := ih (List.nodup_cons.mp distinct).2
      cases value with
      | none =>
          rw [present, List.filterMap_cons_none rfl, ← present, tail, List.lookup_cons]
          by_cases same : name = key
          · subst same
            -- The name occurs once.
            have absent : rest.lookup name = none := by
              rw [List.lookup_eq_none_iff]
              intro entry listed
              have fresh := (List.nodup_cons.mp distinct).1
              have named : entry.1 ∈ rest.map Prod.fst := List.mem_map_of_mem listed
              simp only [bne_iff_ne, ne_eq]
              rintro rfl
              exact fresh named
            simp [absent]
          · simp [beq_false_of_ne same]
      | some value =>
          have head : present ((key, some value) :: rest) = (key, value) :: present rest := rfl
          rw [head, List.lookup_cons, List.lookup_cons, tail]
          by_cases same : name = key
          · simp [same]
          · simp [beq_false_of_ne same]

/-- How deep the fields of a structure nest. -/
def slotsDepth : List (String × Option Json) → Nat
  | [] => 0
  | (_, value) :: rest => max (value.elim 0 depth) (slotsDepth rest)

theorem fieldsDepth_present (slots : List (String × Option Json)) :
    fieldsDepth (present slots) = slotsDepth slots := by
  induction slots with
  | nil => rfl
  | cons slot rest ih =>
      obtain ⟨name, value⟩ := slot
      cases value with
      | none => simpa [present, slotsDepth] using ih
      | some value =>
          have head : present ((name, some value) :: rest) = (name, value) :: present rest := rfl
          rw [head, fieldsDepth, ih, slotsDepth, Option.elim_some]

theorem depth_le_slotsDepth {slots : List (String × Option Json)} {name : String} {value : Json}
    (slot : (name, some value) ∈ slots) : value.depth ≤ slotsDepth slots := by
  induction slots with
  | nil => cases slot
  | cons head rest ih =>
      rw [slotsDepth]
      rcases List.mem_cons.mp slot with rfl | later
      · exact le_max_left _ _
      · exact (ih later).trans (le_max_right _ _)

@[simp] theorem elim_omitEmpty_depth (text : String) : (omitEmpty text).elim 0 depth = 0 := by
  by_cases empty : text = ""
  · simp [omitEmpty, empty]
  · simp [omitEmpty, empty, depth]

theorem itemsDepth_map_str (texts : List String) : itemsDepth (texts.map str) = 0 := by
  induction texts with
  | nil => rfl
  | cons text rest ih => simp [itemsDepth, depth, ih]

/-! ## Reading a structure -/

/-- The texts of an array of strings. -/
def strings : List Json → Option (List String)
  | [] => some []
  | str text :: rest => (strings rest).map (text :: ·)
  | null :: rest => (strings rest).map ("" :: ·)
  | _ :: _ => none

/-! What a field is set to by the value under its name, if there is one of the right kind. -/

def readString : Option Json → Option String
  | none => some ""
  | some null => some ""
  | some (str text) => some text
  | some _ => none

def readBool : Option Json → Option Bool
  | none => some false
  | some null => some false
  | some (bool value) => some value
  | some _ => none

def readInt : Option Json → Option Int
  | none => some 0
  | some null => some 0
  | some (num value) => if value.den = 1 then some value.num else none
  | some _ => none

def readStrings : Option Json → Option (List String)
  | none => some []
  | some null => some []
  | some (arr items) => strings items
  | some _ => none

/-- A map, or the members of the structure that a pointer points to. -/
def readMap : Option Json → Option (Option Fields)
  | none => some none
  | some null => some none
  | some (obj members) => some (some members)
  | some _ => none

/-- The members of a nested structure. -/
def readStruct (value : Option Json) : Option Fields := (readMap value).map (·.getD [])

section RoundTrip

@[simp] theorem readString_str (text : String) : readString (some (str text)) = some text := rfl

@[simp] theorem readString_omitEmpty (text : String) : readString (omitEmpty text) = some text := by
  by_cases empty : text = ""
  · simp [omitEmpty, readString, empty]
  · simp [omitEmpty, readString, empty]

@[simp] theorem readBool_bool (value : Bool) : readBool (some (bool value)) = some value := rfl

@[simp] theorem readInt_omitZero (value : Int) : readInt (omitZero value) = some value := by
  by_cases zero : value = 0
  · simp [omitZero, readInt, zero]
  · simp [omitZero, readInt, zero]

@[simp] theorem readStrings_map_str (texts : List String) :
    readStrings (some (arr (texts.map str))) = some texts := by
  rw [readStrings]
  induction texts with
  | nil => rfl
  | cons text rest ih => simp [strings, ih]

/-- What a map comes back as: an empty one is nil, and the names are sorted. -/
def remarshalled : Option Fields → Option Fields
  | none => none
  | some [] => none
  | some fields => some (marshalFields fields)

@[simp] theorem readMap_omitEmptyMap (value : Option Fields) :
    readMap (omitEmptyMap value) = some (remarshalled value) := by
  match value with
  | none => rfl
  | some [] => rfl
  | some (entry :: rest) => simp [omitEmptyMap, readMap, remarshalled, marshalAny]

@[simp] theorem readMap_map_obj (members : Option Fields) :
    readMap (members.map obj) = some members := by
  cases members with
  | none => rfl
  | some members => rfl

@[simp] theorem readStruct_obj (members : Fields) :
    readStruct (some (obj members)) = some members := rfl

end RoundTrip

end RemoteBrowser.Json
