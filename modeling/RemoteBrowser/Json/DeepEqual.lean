import RemoteBrowser.Json.Reencoding
import Mathlib.Data.List.Forall2

/-!
# Deciding JSON equality

`deepEqual` compares two values the way Go's `reflect.DeepEqual` compares what `json.Unmarshal`
decodes into an `any`: objects by the members under each name, arrays item by item.  It decides
equality along paths.
-/

namespace RemoteBrowser.Json

mutual

def deepEqual : Json → Json → Bool
  | null, null => true
  | bool left, bool right => left == right
  | num left, num right => left == right
  | str left, str right => left == right
  | arr left, arr right => itemsDeepEqual left right
  | obj left, obj right =>
      right.all (fun entry => (left.lookup entry.1).isSome) && fieldsDeepEqual [] left right
  | _, _ => false

def itemsDeepEqual : List Json → List Json → Bool
  | [], [] => true
  | left :: lefts, right :: rights => deepEqual left right && itemsDeepEqual lefts rights
  | _, _ => false

/-- Every member whose name was not seen before has an equal counterpart. -/
def fieldsDeepEqual (seen : List String) : List (String × Json) → List (String × Json) → Bool
  | [], _ => true
  | (name, value) :: rest, others =>
      (seen.contains name ||
          match others.lookup name with
          | none => false
          | some other => deepEqual value other) &&
        fieldsDeepEqual (name :: seen) rest others

end

/-! ## Equality, one step at a time -/

theorem equal_arr {left right : List Json} :
    Equal (arr left) (arr right) ↔ List.Forall₂ Equal left right := by
  rw [List.forall₂_iff_get]
  constructor
  · intro equal
    have lengths : left.length = right.length := by
      simpa [shape] using equal []
    refine ⟨lengths, fun index inLeft inRight path => ?_⟩
    have probed := equal (.index index :: path)
    simpa [probe, child, List.getElem?_eq_getElem inLeft, List.getElem?_eq_getElem inRight]
      using probed
  · rintro ⟨lengths, items⟩ path
    cases path with
    | nil => simp [shape, lengths]
    | cons step rest =>
        cases step with
        | key name => rfl
        | index index =>
            simp only [probe, child]
            by_cases inside : index < left.length
            · have inRight : index < right.length := lengths ▸ inside
              simpa [List.getElem?_eq_getElem inside, List.getElem?_eq_getElem inRight]
                using items index inside inRight rest
            · have outside : ¬index < right.length := lengths ▸ inside
              simp [List.getElem?_eq_none (Nat.le_of_not_lt inside),
                List.getElem?_eq_none (Nat.le_of_not_lt outside)]

theorem equal_obj {left right : Fields} :
    Equal (obj left) (obj right) ↔
      ∀ name, Option.Rel Equal (left.lookup name) (right.lookup name) := by
  constructor
  · intro equal name
    have members (path : List Step) := equal (.key name :: path)
    simp only [probe_key] at members
    cases first : left.lookup name with
    | none =>
        cases second : right.lookup name with
        | none => exact .none
        | some value => simpa [first, second] using members []
    | some value =>
        cases second : right.lookup name with
        | none => simpa [first, second] using members []
        | some other => exact .some fun path => by simpa [first, second] using members path
  · intro members path
    cases path with
    | nil => rfl
    | cons step rest =>
        cases step with
        | index position => rfl
        | key name =>
            have related := members name
            rw [probe_key, probe_key]
            generalize left.lookup name = first at related ⊢
            generalize right.lookup name = second at related ⊢
            cases related with
            | none => rfl
            | some equal => exact equal rest

theorem equal_of_shape_ne {left right : Json} (different : left.shape ≠ right.shape) :
    ¬Equal left right := fun equal => different (Option.some.inj (equal []))

/-- Values without members or items are equal if they show the same. -/
theorem equal_of_leaf {left right : Json} (leaf : ∀ step, left.child step = none)
    (otherLeaf : ∀ step, right.child step = none) :
    Equal left right ↔ left.shape = right.shape := by
  constructor
  · exact fun equal => Option.some.inj (equal [])
  · intro same path
    cases path with
    | nil => rw [probe_nil, probe_nil, same]
    | cons step rest => simp [probe, leaf, otherLeaf]

/-! ## The decision -/

/-- The same names occur, if the members under each name are related. -/
theorem names_of_related {left right : Fields}
    (members : ∀ name, Option.Rel Equal (left.lookup name) (right.lookup name)) :
    ∀ entry ∈ right, (left.lookup entry.1).isSome = true := by
  intro entry listed
  have known : (right.lookup entry.1).isSome = true :=
    List.lookup_isSome_iff.mpr ⟨entry, listed, by simp⟩
  have related := members entry.1
  generalize left.lookup entry.1 = first at related ⊢
  generalize right.lookup entry.1 = second at related known
  cases related with
  | none => cases known
  | some _ => rfl

mutual

theorem deepEqual_iff : (left right : Json) → (deepEqual left right = true ↔ Equal left right)
  | arr left, right => by
      cases right with
      | arr right => rw [deepEqual, equal_arr, itemsDeepEqual_iff]
      | _ => exact iff_of_false (by simp [deepEqual]) (equal_of_shape_ne (by simp [shape]))
  | obj left, right => by
      cases right with
      | obj right =>
          rw [deepEqual, equal_obj, Bool.and_eq_true, List.all_eq_true, fieldsDeepEqual_iff]
          constructor
          · rintro ⟨covered, members⟩ name
            cases first : left.lookup name with
            | some value =>
                obtain ⟨other, second, equal⟩ := members name (by simp) value first
                rw [second]
                exact .some equal
            | none =>
                cases second : right.lookup name with
                | none => exact .none
                | some other =>
                    obtain ⟨before, after, rfl, -⟩ := List.lookup_eq_some_iff.mp second
                    have known := covered (name, other) (by simp)
                    simp only [first, Option.isSome_none, Bool.false_eq_true] at known
          · intro members
            refine ⟨names_of_related members, fun name _ value first => ?_⟩
            have related := members name
            rw [first] at related
            generalize right.lookup name = second at related ⊢
            cases related with
            | some equal => exact ⟨_, rfl, equal⟩
      | _ => exact iff_of_false (by simp [deepEqual]) (equal_of_shape_ne (by simp [shape]))
  | null, right => by
      cases right with
      | null => exact iff_of_true rfl fun _ => rfl
      | _ => exact iff_of_false (by simp [deepEqual]) (equal_of_shape_ne (by simp [shape]))
  | bool left, right => by
      cases right with
      | bool right =>
          rw [equal_of_leaf (by rintro ⟨_⟩ <;> rfl) (by rintro ⟨_⟩ <;> rfl)]
          simp [deepEqual, shape]
      | _ => exact iff_of_false (by simp [deepEqual]) (equal_of_shape_ne (by simp [shape]))
  | num left, right => by
      cases right with
      | num right =>
          rw [equal_of_leaf (by rintro ⟨_⟩ <;> rfl) (by rintro ⟨_⟩ <;> rfl)]
          simp [deepEqual, shape]
      | _ => exact iff_of_false (by simp [deepEqual]) (equal_of_shape_ne (by simp [shape]))
  | str left, right => by
      cases right with
      | str right =>
          rw [equal_of_leaf (by rintro ⟨_⟩ <;> rfl) (by rintro ⟨_⟩ <;> rfl)]
          simp [deepEqual, shape]
      | _ => exact iff_of_false (by simp [deepEqual]) (equal_of_shape_ne (by simp [shape]))

theorem itemsDeepEqual_iff : (left right : List Json) →
    (itemsDeepEqual left right = true ↔ List.Forall₂ Equal left right)
  | [], [] => by simp [itemsDeepEqual]
  | [], right :: rights => by simp [itemsDeepEqual]
  | left :: lefts, [] => by simp [itemsDeepEqual]
  | left :: lefts, right :: rights => by
      rw [itemsDeepEqual, Bool.and_eq_true, deepEqual_iff left right,
        itemsDeepEqual_iff lefts rights, List.forall₂_cons]

theorem fieldsDeepEqual_iff : (seen : List String) → (left right : List (String × Json)) →
    (fieldsDeepEqual seen left right = true ↔
      ∀ name ∉ seen, ∀ value, left.lookup name = some value →
        ∃ other, right.lookup name = some other ∧ Equal value other)
  | seen, [], right => by simp [fieldsDeepEqual]
  | seen, (name, value) :: rest, right => by
      have head : (seen.contains name ||
          match right.lookup name with
          | none => false
          | some other => deepEqual value other) = true ↔
            (name ∉ seen → ∃ other, right.lookup name = some other ∧ Equal value other) := by
        cases right.lookup name with
        | none => simp
        | some other => simp [deepEqual_iff value other, imp_iff_not_or]
      rw [fieldsDeepEqual, Bool.and_eq_true, fieldsDeepEqual_iff (name :: seen) rest right, head]
      constructor
      · rintro ⟨first, later⟩ wanted unseen found known
        rw [List.lookup_cons] at known
        by_cases same : wanted = name
        · subst same
          simp only [beq_self_eq_true, Option.some.injEq] at known
          exact known ▸ first unseen
        · rw [beq_false_of_ne same] at known
          exact later wanted (by simp [same, unseen]) found known
      · intro members
        refine ⟨fun unseen => members name unseen value (by simp), fun wanted unseen found known => ?_⟩
        rw [List.mem_cons, not_or] at unseen
        refine members wanted unseen.2 found ?_
        rw [List.lookup_cons, beq_false_of_ne unseen.1]
        exact known

end

end RemoteBrowser.Json
