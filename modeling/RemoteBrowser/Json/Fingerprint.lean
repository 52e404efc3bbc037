import RemoteBrowser.Json.Data
import RemoteBrowser.Json.Quote
import Mathlib.Data.List.Sort
import Mathlib.Data.List.Forall2

/-!
# Fingerprints of JSON values

`stableStringify` and `fingerprintObject` of `server.js`.  Values whose objects have their members
in another order have the same text; besides them only infinite numbers share their text, with
`null`.
-/

namespace RemoteBrowser

open Utf16 (ascii isWellFormed)

/-- A number that `JSON.parse` returns; a literal that is too large is infinite.  Finite numbers
are told apart by value. -/
inductive ParsedNumber (Finite : Type) where
  | finite (value : Finite)
  | infinite (negative : Bool)

/-- `String(number)` for finite numbers. -/
structure NumberTexts (Finite : Type) where
  text : Finite → List UInt16
  text_injective : Function.Injective text
  text_some : ∀ value, text value ≠ []
  text_numeric : ∀ value, ∀ unit ∈ text value, unit ∈ ascii "+-.0123456789e"

/-- `JSON.stringify(number)`. -/
def NumberTexts.stringify {Finite : Type} (texts : NumberTexts Finite) :
    ParsedNumber Finite → List UInt16
  | .finite value => texts.text value
  | .infinite _ => ascii "null"

namespace JsonData

variable {Number Finite : Type}

/-- `Object.keys(value).sort()`, by code units. -/
def sortedKeys (fields : List (List UInt16 × JsonData Number)) : List (List UInt16) :=
  (fields.map Prod.fst).insertionSort (· ≤ ·)

mutual

def stableStringify (numberText : Number → List UInt16) : JsonData Number → List UInt16
  | .arr items => 0x5B :: joinCommas (entryTexts numberText items) ++ [0x5D]
  | .obj fields =>
      0x7B :: joinCommas ((sortedKeys fields).map fun key =>
        Quote.quote key ++ 0x3A :: ((memberTexts numberText fields).lookup key).getD []) ++ [0x7D]
  | .null => ascii "null"
  | .bool value => ascii (if value then "true" else "false")
  | .num value => numberText value
  | .str text => Quote.quote text

def entryTexts (numberText : Number → List UInt16) : List (JsonData Number) → List (List UInt16)
  | [] => []
  | item :: rest => stableStringify numberText item :: entryTexts numberText rest

/-- The members of an object as texts. -/
def memberTexts (numberText : Number → List UInt16) :
    List (List UInt16 × JsonData Number) → List (List UInt16 × List UInt16)
  | [] => []
  | (key, value) :: rest =>
      (key, stableStringify numberText value) :: memberTexts numberText rest

end

/-- The hash is that of the text's bytes. -/
def fingerprintObject {Digest : Type} (sha256 : List UInt8 → Digest) (texts : NumberTexts Finite)
    (value : JsonData (ParsedNumber Finite)) : Digest :=
  sha256 (Utf8.encode (stableStringify texts.stringify value))

/-! ## Equal values -/

mutual

/-- Equal up to the order of the members of objects. -/
def Same : JsonData Number → JsonData Number → Prop
  | .null, .null => True
  | .bool value, .bool other => value = other
  | .num value, .num other => value = other
  | .str text, .str other => text = other
  | .arr items, .arr others => SameItems items others
  | .obj fields, .obj others =>
      (fields.map Prod.fst).Perm (others.map Prod.fst) ∧ SameMembers fields others
  | _, _ => False

def SameItems : List (JsonData Number) → List (JsonData Number) → Prop
  | [], [] => True
  | item :: rest, other :: others => Same item other ∧ SameItems rest others
  | _, _ => False

def SameMembers : List (List UInt16 × JsonData Number) → List (List UInt16 × JsonData Number) →
    Prop
  | [], _ => True
  | (key, value) :: rest, others =>
      (∃ other, others.lookup key = some other ∧ Same value other) ∧ SameMembers rest others

end

mutual

/-- No object has two members of one name. -/
def Distinct : JsonData Number → Prop
  | .arr items => DistinctItems items
  | .obj fields => (fields.map Prod.fst).Nodup ∧ DistinctMembers fields
  | _ => True

def DistinctItems : List (JsonData Number) → Prop
  | [] => True
  | item :: rest => Distinct item ∧ DistinctItems rest

def DistinctMembers : List (List UInt16 × JsonData Number) → Prop
  | [] => True
  | (_, value) :: rest => Distinct value ∧ DistinctMembers rest

end

mutual

/-- The value with `null` for each infinite number. -/
def withoutInfinities : JsonData (ParsedNumber Finite) → JsonData Finite
  | .null => .null
  | .bool value => .bool value
  | .num (.finite value) => .num value
  | .num (.infinite _) => .null
  | .str text => .str text
  | .arr items => .arr (itemsWithoutInfinities items)
  | .obj fields => .obj (membersWithoutInfinities fields)

def itemsWithoutInfinities : List (JsonData (ParsedNumber Finite)) → List (JsonData Finite)
  | [] => []
  | item :: rest => withoutInfinities item :: itemsWithoutInfinities rest

def membersWithoutInfinities : List (List UInt16 × JsonData (ParsedNumber Finite)) →
    List (List UInt16 × JsonData Finite)
  | [] => []
  | (key, value) :: rest => (key, withoutInfinities value) :: membersWithoutInfinities rest

end

mutual

/-- Every number is finite. -/
def AllFinite : JsonData (ParsedNumber Finite) → Prop
  | .num (.infinite _) => False
  | .arr items => AllFiniteItems items
  | .obj fields => AllFiniteMembers fields
  | _ => True

def AllFiniteItems : List (JsonData (ParsedNumber Finite)) → Prop
  | [] => True
  | item :: rest => AllFinite item ∧ AllFiniteItems rest

def AllFiniteMembers : List (List UInt16 × JsonData (ParsedNumber Finite)) → Prop
  | [] => True
  | (_, value) :: rest => AllFinite value ∧ AllFiniteMembers rest

end

/-! ## Lists of values -/

section Lists

variable {numberText : Number → List UInt16} {items others : List (JsonData Number)}
  {fields members : List (List UInt16 × JsonData Number)}

theorem entryTexts_eq : entryTexts numberText items = items.map (stableStringify numberText) := by
  induction items with
  | nil => rfl
  | cons item rest ih => rw [entryTexts, ih, List.map_cons]

theorem lookup_memberTexts (key : List UInt16) :
    (memberTexts numberText fields).lookup key =
      (fields.lookup key).map (stableStringify numberText) := by
  induction fields with
  | nil => rfl
  | cons entry rest ih =>
      obtain ⟨name, value⟩ := entry
      rw [memberTexts, List.lookup_cons, List.lookup_cons, ih]
      split <;> rfl

theorem sameItems_iff : SameItems items others ↔ List.Forall₂ Same items others := by
  induction items generalizing others with
  | nil =>
      cases others with
      | nil => simp [SameItems]
      | cons other others => simp [SameItems]
  | cons item rest ih =>
      cases others with
      | nil => simp [SameItems]
      | cons other others => rw [SameItems, ih, List.forall₂_cons]

theorem sameMembers_iff :
    SameMembers fields members ↔
      ∀ entry ∈ fields, ∃ other, members.lookup entry.1 = some other ∧ Same entry.2 other := by
  induction fields with
  | nil => simp [SameMembers]
  | cons entry rest ih => rw [SameMembers, ih, List.forall_mem_cons]

theorem distinctItems_iff : DistinctItems items ↔ ∀ item ∈ items, Distinct item := by
  induction items with
  | nil => simp [DistinctItems]
  | cons item rest ih => rw [DistinctItems, ih, List.forall_mem_cons]

theorem distinctMembers_iff : DistinctMembers fields ↔ ∀ entry ∈ fields, Distinct entry.2 := by
  induction fields with
  | nil => simp [DistinctMembers]
  | cons entry rest ih => rw [DistinctMembers, ih, List.forall_mem_cons]

theorem lookup_of_mem (distinct : (fields.map Prod.fst).Nodup) {key : List UInt16}
    {value : JsonData Number} (member : (key, value) ∈ fields) :
    fields.lookup key = some value := by
  induction fields with
  | nil => cases member
  | cons entry rest ih =>
      rw [List.map_cons, List.nodup_cons] at distinct
      rcases List.mem_cons.mp member with rfl | later
      · rw [List.lookup_cons_self]
      · have other : (key == entry.1) = false := by
          rw [beq_eq_false_iff_ne]
          rintro rfl
          exact distinct.1 (List.mem_map.mpr ⟨_, later, rfl⟩)
        rw [List.lookup_cons, other]
        exact ih distinct.2 later

theorem mem_of_lookup {key : List UInt16} {value : JsonData Number}
    (found : fields.lookup key = some value) : (key, value) ∈ fields := by
  obtain ⟨_, _, shape, _⟩ := List.lookup_eq_some_iff.mp found
  rw [shape]
  exact List.mem_append_right _ List.mem_cons_self

end Lists

section Numbers

variable {items : List (JsonData (ParsedNumber Finite))}
  {fields : List (List UInt16 × JsonData (ParsedNumber Finite))}

theorem itemsWithoutInfinities_eq :
    itemsWithoutInfinities items = items.map withoutInfinities := by
  induction items with
  | nil => rfl
  | cons item rest ih => rw [itemsWithoutInfinities, ih, List.map_cons]

theorem membersWithoutInfinities_eq :
    membersWithoutInfinities fields =
      fields.map fun entry => (entry.1, withoutInfinities entry.2) := by
  induction fields with
  | nil => rfl
  | cons entry rest ih => rw [membersWithoutInfinities, ih, List.map_cons]

theorem keys_membersWithoutInfinities :
    (membersWithoutInfinities fields).map Prod.fst = fields.map Prod.fst := by
  rw [membersWithoutInfinities_eq, List.map_map]
  rfl

theorem lookup_membersWithoutInfinities (key : List UInt16) :
    (membersWithoutInfinities fields).lookup key = (fields.lookup key).map withoutInfinities := by
  induction fields with
  | nil => rfl
  | cons entry rest ih =>
      obtain ⟨name, value⟩ := entry
      rw [membersWithoutInfinities, List.lookup_cons, List.lookup_cons, ih]
      split <;> rfl

theorem allFiniteItems_iff : AllFiniteItems items ↔ ∀ item ∈ items, AllFinite item := by
  induction items with
  | nil => simp [AllFiniteItems]
  | cons item rest ih => rw [AllFiniteItems, ih, List.forall_mem_cons]

theorem allFiniteMembers_iff : AllFiniteMembers fields ↔ ∀ entry ∈ fields, AllFinite entry.2 := by
  induction fields with
  | nil => simp [AllFiniteMembers]
  | cons entry rest ih => rw [AllFiniteMembers, ih, List.forall_mem_cons]

end Numbers

/-! ## Texts without infinite numbers -/

section Finite

variable {texts : NumberTexts Finite}

/-- Infinite numbers are written as `null`. -/
theorem stableStringify_withoutInfinities (value : JsonData (ParsedNumber Finite)) :
    stableStringify texts.text (withoutInfinities value) =
      stableStringify texts.stringify value := by
  induction value using inductionOn with
  | null => rfl
  | bool value => rfl
  | num value => cases value <;> rfl
  | str text => rfl
  | arr items ih =>
      rw [withoutInfinities, stableStringify, stableStringify, entryTexts_eq, entryTexts_eq,
        itemsWithoutInfinities_eq, List.map_map]
      have same : items.map (stableStringify texts.text ∘ withoutInfinities) =
          items.map (stableStringify texts.stringify) :=
        List.map_congr_left ih
      rw [same]
  | obj fields ih =>
      rw [withoutInfinities, stableStringify, stableStringify, sortedKeys,
        keys_membersWithoutInfinities, ← sortedKeys]
      have same : ∀ key, (memberTexts texts.text (membersWithoutInfinities fields)).lookup key =
          (memberTexts texts.stringify fields).lookup key := by
        intro key
        rw [lookup_memberTexts, lookup_membersWithoutInfinities, lookup_memberTexts, Option.map_map]
        cases found : fields.lookup key with
        | none => rfl
        | some value => exact congrArg some (ih _ (mem_of_lookup found))
      simp only [same]

/-- Values without infinite numbers are compared as they are. -/
theorem same_withoutInfinities {first second : JsonData (ParsedNumber Finite)}
    (left : AllFinite first) (right : AllFinite second) :
    Same (withoutInfinities first) (withoutInfinities second) ↔ Same first second := by
  induction first using inductionOn generalizing second with
  | null =>
      cases second with
      | num value => cases value with
        | finite => simp [withoutInfinities, Same]
        | infinite => cases right
      | _ => simp [withoutInfinities, Same]
  | bool value =>
      cases second with
      | num value => cases value with
        | finite => simp [withoutInfinities, Same]
        | infinite => cases right
      | _ => simp [withoutInfinities, Same]
  | num value =>
      cases value with
      | infinite => cases left
      | finite value =>
          cases second with
          | num value => cases value with
            | finite => simp [withoutInfinities, Same]
            | infinite => cases right
          | _ => simp [withoutInfinities, Same]
  | str text =>
      cases second with
      | num value => cases value with
        | finite => simp [withoutInfinities, Same]
        | infinite => cases right
      | _ => simp [withoutInfinities, Same]
  | arr items ih =>
      cases second with
      | num value => cases value with
        | finite => simp [withoutInfinities, Same]
        | infinite => cases right
      | arr others =>
          rw [AllFinite, allFiniteItems_iff] at left right
          rw [withoutInfinities, withoutInfinities, Same, Same, sameItems_iff, sameItems_iff,
            itemsWithoutInfinities_eq, itemsWithoutInfinities_eq, List.forall₂_map_left_iff,
            List.forall₂_map_right_iff]
          induction items generalizing others with
          | nil => cases others <;> simp
          | cons item rest inner =>
              cases others with
              | nil => simp
              | cons other others =>
                  rw [List.forall_mem_cons] at left right ih
                  rw [List.forall₂_cons, List.forall₂_cons, ih.1 left.1 right.1,
                    inner ih.2 left.2 others right.2]
      | _ => simp [withoutInfinities, Same]
  | obj fields ih =>
      cases second with
      | num value => cases value with
        | finite => simp [withoutInfinities, Same]
        | infinite => cases right
      | obj members =>
          rw [AllFinite, allFiniteMembers_iff] at left right
          rw [withoutInfinities, withoutInfinities, Same, Same, sameMembers_iff, sameMembers_iff,
            keys_membersWithoutInfinities, keys_membersWithoutInfinities]
          apply and_congr Iff.rfl
          rw [membersWithoutInfinities_eq, List.forall_mem_map]
          apply forall₂_congr
          intro entry member
          rw [lookup_membersWithoutInfinities]
          constructor
          · rintro ⟨other, found, same⟩
            obtain ⟨original, listed, rfl⟩ := Option.map_eq_some_iff.mp found
            exact ⟨original, listed,
              (ih entry member (left entry member) (right _ (mem_of_lookup listed))).mp same⟩
          · rintro ⟨other, found, same⟩
            refine ⟨_, by rw [found, Option.map_some], ?_⟩
            exact (ih entry member (left entry member) (right _ (mem_of_lookup found))).mpr same
      | _ => simp [withoutInfinities, Same]

end Finite

/-! ## Reading back -/

section Reading

variable {texts : NumberTexts Finite}

/-- What may follow a value. -/
def Delimited (rest : List UInt16) : Prop :=
  ∀ unit, rest.head? = some unit → unit = 0x2C ∨ unit = 0x5D ∨ unit = 0x7D

/-- The kind of value that begins with the unit. -/
def kindOfUnit (unit : UInt16) : ℕ :=
  if unit = 0x6E then 0 else if unit = 0x74 then 1 else if unit = 0x66 then 2
  else if unit = 0x22 then 3 else if unit = 0x5B then 4 else if unit = 0x7B then 5
  else if unit = 0x5D then 7 else 6

def kind : JsonData Finite → ℕ
  | .null => 0
  | .bool value => if value then 1 else 2
  | .str _ => 3
  | .arr _ => 4
  | .obj _ => 5
  | .num _ => 6

theorem kindOfUnit_numeric : ∀ unit ∈ ascii "+-.0123456789e", kindOfUnit unit = 6 := by
  have all : (ascii "+-.0123456789e").all (fun unit => kindOfUnit unit = 6) := rfl
  exact fun unit member => of_decide_eq_true (List.all_eq_true.mp all unit member)

theorem stableStringify_cons (texts : NumberTexts Finite) (value : JsonData Finite) :
    ∃ unit rest, stableStringify texts.text value = unit :: rest ∧
      kindOfUnit unit = value.kind := by
  cases value with
  | null => exact ⟨_, _, rfl, rfl⟩
  | bool value => cases value <;> exact ⟨_, _, rfl, rfl⟩
  | num value =>
      obtain ⟨unit, rest, shape⟩ := List.exists_cons_of_ne_nil (texts.text_some value)
      have numeric := texts.text_numeric value unit (shape ▸ List.mem_cons_self)
      exact ⟨unit, rest, shape, kindOfUnit_numeric unit numeric⟩
  | str text => exact ⟨_, _, rfl, rfl⟩
  | arr items => exact ⟨_, _, rfl, rfl⟩
  | obj fields => exact ⟨_, _, rfl, rfl⟩

/-- Values with the same text are of the same kind. -/
theorem kind_eq {first second : JsonData Finite} {rest more : List UInt16}
    (same : stableStringify texts.text first ++ rest = stableStringify texts.text second ++ more) :
    first.kind = second.kind := by
  obtain ⟨unit, _, left, kindLeft⟩ := stableStringify_cons texts first
  obtain ⟨other, _, right, kindRight⟩ := stableStringify_cons texts second
  rw [left, right] at same
  rw [← kindLeft, ← kindRight, (List.cons.inj same).1]

theorem append_numeric {first second rest more : List UInt16}
    (left : ∀ unit ∈ first, unit ∈ ascii "+-.0123456789e")
    (right : ∀ unit ∈ second, unit ∈ ascii "+-.0123456789e") (ends : Delimited rest)
    (also : Delimited more) (same : first ++ rest = second ++ more) :
    first = second ∧ rest = more := by
  have stops {rest : List UInt16} (ends : Delimited rest) :
      rest.takeWhile (· ∈ ascii "+-.0123456789e") = [] := by
    cases rest with
    | nil => rfl
    | cons unit rest =>
        apply List.takeWhile_cons_of_neg
        rcases ends unit rfl with rfl | rfl | rfl <;> decide
  have digits := congrArg (List.takeWhile (· ∈ ascii "+-.0123456789e")) same
  rw [List.takeWhile_append_of_pos (by simpa using left), stops ends,
    List.takeWhile_append_of_pos (by simpa using right), stops also, List.append_nil,
    List.append_nil] at digits
  rw [digits] at same
  exact ⟨digits, List.append_cancel_left same⟩

variable {α β : Type} {f : α → List UInt16} {g : β → List UInt16} {close : UInt16}
  {R : α → β → Prop} {list : List α} {others : List β} {rest more : List UInt16}

/-- The text of a value says where it ends, whatever follows. -/
def Unambiguous (f : α → List UInt16) (g : β → List UInt16) (R : α → β → Prop) (value : α)
    (other : β) : Prop :=
  ∀ rest more, Delimited rest → Delimited more → f value ++ rest = g other ++ more →
    R value other ∧ rest = more

theorem delimited_joinRest (closes : close = 0x5D ∨ close = 0x7D) (list : List (List UInt16)) :
    Delimited (joinRest list ++ close :: rest) := by
  intro unit first
  cases list with
  | nil =>
      obtain rfl := Option.some.inj first
      exact .inr closes
  | cons text list => exact .inl (Option.some.inj first).symm

theorem joinRest_unique (closes : close = 0x5D ∨ close = 0x7D)
    (unique : ∀ value ∈ list, ∀ other ∈ others, Unambiguous f g R value other)
    (same : joinRest (list.map f) ++ close :: rest = joinRest (others.map g) ++ close :: more) :
    List.Forall₂ R list others ∧ rest = more := by
  have notComma : close ≠ 0x2C := by rcases closes with rfl | rfl <;> decide
  induction list generalizing others with
  | nil =>
      cases others with
      | nil => exact ⟨.nil, (List.cons.inj same).2⟩
      | cons other others => exact absurd (List.cons.inj same).1 notComma
  | cons value list ih =>
      cases others with
      | nil => exact absurd (List.cons.inj same).1.symm notComma
      | cons other others =>
          have texts : f value ++ (joinRest (list.map f) ++ close :: rest) =
              g other ++ (joinRest (others.map g) ++ close :: more) := by
            simpa [joinRest] using same
          rw [List.forall_mem_cons] at unique
          obtain ⟨related, later⟩ := unique.1 other List.mem_cons_self _ _
            (delimited_joinRest closes _) (delimited_joinRest closes _) texts
          obtain ⟨all, ends⟩ := ih (fun value member other listed =>
            unique.2 value member other (List.mem_cons_of_mem _ listed)) later
          exact ⟨.cons related all, ends⟩

/-- A list of texts between commas says where each of them ends. -/
theorem joinCommas_unique (closes : close = 0x5D ∨ close = 0x7D)
    (some : ∀ value ∈ list, ∀ rest more, f value ++ rest ≠ close :: more)
    (also : ∀ other ∈ others, ∀ rest more, g other ++ rest ≠ close :: more)
    (unique : ∀ value ∈ list, ∀ other ∈ others, Unambiguous f g R value other)
    (same : joinCommas (list.map f) ++ close :: rest = joinCommas (others.map g) ++ close :: more) :
    List.Forall₂ R list others ∧ rest = more := by
  cases list with
  | nil =>
      cases others with
      | nil => exact ⟨.nil, (List.cons.inj same).2⟩
      | cons other others =>
          rw [List.map_cons, joinCommas_cons, List.append_assoc] at same
          exact absurd same.symm (also other List.mem_cons_self _ _)
  | cons value list =>
      cases others with
      | nil =>
          rw [List.map_cons, joinCommas_cons, List.append_assoc] at same
          exact absurd same (some value List.mem_cons_self _ _)
      | cons other others =>
          rw [List.map_cons, List.map_cons, joinCommas_cons, joinCommas_cons, List.append_assoc,
            List.append_assoc] at same
          rw [List.forall_mem_cons] at unique
          obtain ⟨related, later⟩ := unique.1 other List.mem_cons_self _ _
            (delimited_joinRest closes _) (delimited_joinRest closes _) same
          obtain ⟨all, ends⟩ := joinRest_unique closes (fun value member other listed =>
            unique.2 value member other (List.mem_cons_of_mem _ listed)) later
          exact ⟨.cons related all, ends⟩

end Reading

/-! ## Sorted keys -/

section Keys

variable {fields members : List (List UInt16 × JsonData Number)}

theorem sortedKeys_perm (fields : List (List UInt16 × JsonData Number)) :
    (sortedKeys fields).Perm (fields.map Prod.fst) :=
  List.perm_insertionSort _ _

/-- The same names are sorted to the same list. -/
theorem sortedKeys_eq_iff :
    sortedKeys fields = sortedKeys members ↔
      (fields.map Prod.fst).Perm (members.map Prod.fst) := by
  constructor
  · intro same
    exact (sortedKeys_perm fields).symm.trans (same ▸ sortedKeys_perm members)
  · intro perm
    apply List.Perm.eq_of_pairwise (fun _ _ _ _ => List.le_antisymm)
      (List.pairwise_insertionSort _ _) (List.pairwise_insertionSort _ _)
    exact (sortedKeys_perm fields).trans (perm.trans (sortedKeys_perm members).symm)

theorem mem_sortedKeys {key : List UInt16} :
    key ∈ sortedKeys fields ↔ ∃ value, (key, value) ∈ fields := by
  rw [(sortedKeys_perm fields).mem_iff, List.mem_map]
  constructor
  · rintro ⟨⟨name, value⟩, member, rfl⟩
    exact ⟨value, member⟩
  · rintro ⟨value, member⟩
    exact ⟨_, member, rfl⟩

end Keys

/-! ## Canonical texts -/

section Canonical

variable {texts : NumberTexts Finite}

/-- Equal values have the same text. -/
theorem stableStringify_eq_of_same {numberText : Number → List UInt16}
    {first second : JsonData Number} (same : Same first second) :
    stableStringify numberText first = stableStringify numberText second := by
  induction first using inductionOn generalizing second with
  | null => cases second <;> first | rfl | cases same
  | bool value => cases second <;> first | (cases same; rfl) | cases same
  | num value => cases second <;> first | (cases same; rfl) | cases same
  | str text => cases second <;> first | (cases same; rfl) | cases same
  | arr items ih =>
      cases second with
      | arr others =>
          rw [Same, sameItems_iff] at same
          have texts : items.map (stableStringify numberText) =
              others.map (stableStringify numberText) := by
            induction same with
            | nil => rfl
            | cons related _ inner =>
                rw [List.forall_mem_cons] at ih
                rw [List.map_cons, List.map_cons, ih.1 related, inner ih.2]
          rw [stableStringify, stableStringify, entryTexts_eq, entryTexts_eq, texts]
      | _ => cases same
  | obj fields ih =>
      cases second with
      | obj members =>
          rw [Same, sameMembers_iff] at same
          have keys := sortedKeys_eq_iff.mpr same.1
          rw [stableStringify, stableStringify, ← keys]
          have each : ∀ key ∈ sortedKeys fields, (memberTexts numberText fields).lookup key =
              (memberTexts numberText members).lookup key := by
            intro key member
            obtain ⟨value, listed⟩ := mem_sortedKeys.mp member
            rw [lookup_memberTexts, lookup_memberTexts]
            cases found : fields.lookup key with
            | none =>
                rw [List.lookup_eq_none_iff] at found
                exact absurd (found _ listed) (by simp)
            | some value =>
                have inside := mem_of_lookup found
                obtain ⟨other, also, equal⟩ := same.2 _ inside
                rw [also, Option.map_some, Option.map_some, ih _ inside equal]
          rw [List.map_congr_left fun key member => by rw [each key member]]
      | _ => cases same

/-- A text says which value it is of, up to the order of members, and where it ends. -/
theorem stableStringify_unique {first second : JsonData Finite} {rest more : List UInt16}
    (left : Distinct first) (right : Distinct second) (ends : Delimited rest)
    (also : Delimited more)
    (same : stableStringify texts.text first ++ rest = stableStringify texts.text second ++ more) :
    Same first second ∧ rest = more := by
  have kinds := kind_eq same
  induction first using inductionOn generalizing second rest more with
  | null =>
      cases second with
      | null => exact ⟨trivial, List.append_cancel_left same⟩
      | bool value => cases value <;> cases kinds
      | _ => cases kinds
  | bool value =>
      cases second with
      | bool other =>
          have values : value = other := by
            cases value <;> cases other <;> first | rfl | cases kinds
          rw [values] at same
          exact ⟨values, List.append_cancel_left same⟩
      | _ => cases value <;> cases kinds
  | num value =>
      cases second with
      | num other =>
          obtain ⟨equal, ends⟩ := append_numeric (texts.text_numeric value)
            (texts.text_numeric other) ends also same
          exact ⟨texts.text_injective equal, ends⟩
      | bool value => cases value <;> cases kinds
      | _ => cases kinds
  | str text =>
      cases second with
      | str other => exact Quote.quote_unique same
      | bool value => cases value <;> cases kinds
      | _ => cases kinds
  | arr items ih =>
      cases second with
      | arr others =>
          rw [Distinct, distinctItems_iff] at left right
          rw [stableStringify, stableStringify, entryTexts_eq, entryTexts_eq, List.append_assoc,
            List.append_assoc] at same
          have closed : ∀ value rest more,
              stableStringify texts.text value ++ rest ≠ 0x5D :: more := by
            intro value rest more equal
            obtain ⟨unit, later, shape, kinds⟩ := stableStringify_cons texts value
            rw [shape] at equal
            rw [(List.cons.inj equal).1] at kinds
            cases value <;> simp [kind, kindOfUnit] at kinds
            split at kinds <;> cases kinds
          rw [Same, sameItems_iff]
          apply joinCommas_unique (.inl rfl) (fun value _ => closed value)
            (fun value _ => closed value) _ (List.cons.inj same).2
          intro value member other listed rest more ends also same
          exact ih value member (left value member) (right other listed) ends also same
            (kind_eq same)
      | bool value => cases value <;> cases kinds
      | _ => cases kinds
  | obj fields ih =>
      cases second with
      | obj members =>
          rw [Distinct, distinctMembers_iff] at left right
          rw [stableStringify, stableStringify, List.append_assoc, List.append_assoc] at same
          have closed : ∀ (key text rest more : List UInt16),
              Quote.quote key ++ text ++ rest ≠ 0x7D :: more := by
            intro key text rest more equal
            exact absurd (List.cons.inj equal).1 (by decide)
          have each : ∀ key ∈ sortedKeys fields, ∀ other ∈ sortedKeys members,
              Unambiguous
                (fun key => Quote.quote key ++
                  0x3A :: ((memberTexts texts.text fields).lookup key).getD [])
                (fun key => Quote.quote key ++
                  0x3A :: ((memberTexts texts.text members).lookup key).getD [])
                (fun key other => key = other ∧ ∃ value second, fields.lookup key = some value ∧
                  members.lookup other = some second ∧ Same value second) key other := by
            intro key member other listed rest more ends also same
            obtain ⟨value, inside⟩ := mem_sortedKeys.mp member
            obtain ⟨second, insideAlso⟩ := mem_sortedKeys.mp listed
            have found := lookup_of_mem left.1 inside
            have foundAlso := lookup_of_mem right.1 insideAlso
            rw [List.append_assoc, List.append_assoc] at same
            obtain ⟨keys, same⟩ := Quote.quote_unique same
            have values := (List.cons.inj same).2
            rw [lookup_memberTexts, lookup_memberTexts, found, foundAlso] at values
            obtain ⟨equal, ends⟩ := ih _ inside (left.2 _ inside) (right.2 _ insideAlso) ends also
              values (kind_eq values)
            exact ⟨⟨keys, value, second, found, foundAlso, equal⟩, ends⟩
          obtain ⟨all, ends⟩ := joinCommas_unique (.inr rfl) (fun key _ => closed key _)
            (fun key _ => closed key _) each (List.cons.inj same).2
          have keys : sortedKeys fields = sortedKeys members := by
            rw [← List.forall₂_eq_eq_eq]
            exact all.imp fun _ _ related => related.1
          refine ⟨?_, ends⟩
          rw [Same, sameMembers_iff]
          refine ⟨sortedKeys_eq_iff.mp keys, ?_⟩
          intro entry member
          have listed : entry.1 ∈ sortedKeys fields := mem_sortedKeys.mpr ⟨entry.2, member⟩
          rw [← keys, List.forall₂_same] at all
          obtain ⟨-, value, second, found, foundAlso, equal⟩ := all entry.1 listed
          rw [lookup_of_mem left.1 member] at found
          obtain rfl := Option.some.inj found
          exact ⟨second, foundAlso, equal⟩
      | bool value => cases value <;> cases kinds
      | _ => cases kinds

theorem isWellFormed_stableStringify (texts : NumberTexts Finite) (value : JsonData Finite) :
    isWellFormed (stableStringify texts.text value) := by
  induction value using inductionOn with
  | null => rfl
  | bool value => cases value <;> rfl
  | num value =>
      have all : (ascii "+-.0123456789e").all (fun unit => unit.toNat < 0x80) := rfl
      exact Utf8.isWellFormed_of_ascii fun unit member =>
        of_decide_eq_true (List.all_eq_true.mp all unit (texts.text_numeric _ _ member))
  | str text => exact Quote.isWellFormed_quote text
  | arr items ih =>
      rw [stableStringify, entryTexts_eq]
      apply isWellFormed_between _ _ rfl rfl (isWellFormed_joinCommas _)
      intro text member
      obtain ⟨item, listed, rfl⟩ := List.mem_map.mp member
      exact ih item listed
  | obj fields ih =>
      rw [stableStringify]
      apply isWellFormed_between _ _ rfl rfl (isWellFormed_joinCommas _)
      intro text member
      obtain ⟨key, listed, rfl⟩ := List.mem_map.mp member
      apply Utf16.isWellFormed_append (Quote.isWellFormed_quote key)
      rw [lookup_memberTexts]
      cases found : fields.lookup key with
      | none => rfl
      | some value => exact @Utf16.isWellFormed_append [0x3A] _ rfl (ih _ (mem_of_lookup found))

theorem distinct_withoutInfinities {value : JsonData (ParsedNumber Finite)}
    (distinct : Distinct value) : Distinct (withoutInfinities value) := by
  induction value using inductionOn with
  | num value => cases value <;> trivial
  | arr items ih =>
      rw [Distinct, distinctItems_iff] at distinct
      rw [withoutInfinities, Distinct, distinctItems_iff, itemsWithoutInfinities_eq,
        List.forall_mem_map]
      exact fun item member => ih item member (distinct item member)
  | obj fields ih =>
      rw [Distinct, distinctMembers_iff] at distinct
      rw [withoutInfinities, Distinct, distinctMembers_iff, keys_membersWithoutInfinities,
        membersWithoutInfinities_eq, List.forall_mem_map]
      exact ⟨distinct.1, fun entry member => ih entry member (distinct.2 entry member)⟩
  | _ => trivial

/-- Two values have the same text if and only if they are equal up to the order of members, infinite
numbers being taken for `null`. -/
theorem stableStringify_eq_iff {first second : JsonData (ParsedNumber Finite)}
    (left : Distinct first) (right : Distinct second) :
    stableStringify texts.stringify first = stableStringify texts.stringify second ↔
      Same (withoutInfinities first) (withoutInfinities second) := by
  rw [← stableStringify_withoutInfinities, ← stableStringify_withoutInfinities]
  constructor
  · intro same
    have nothing : Delimited [] := by
      intro unit first
      cases first
    have unique := stableStringify_unique (distinct_withoutInfinities left)
      (distinct_withoutInfinities right) nothing nothing (congrArg (· ++ []) same)
    exact unique.1
  · exact stableStringify_eq_of_same

/-- Texts and fingerprints tell apart exactly the values that differ in more than the order of
members, infinite numbers being taken for `null`. -/
theorem stableStringify_canonical {Digest : Type} {sha256 : List UInt8 → Digest}
    (injective : Function.Injective sha256) (texts : NumberTexts Finite)
    {first second : JsonData (ParsedNumber Finite)} (left : Distinct first)
    (right : Distinct second) :
    (stableStringify texts.stringify first = stableStringify texts.stringify second ↔
        Same (withoutInfinities first) (withoutInfinities second)) ∧
      (fingerprintObject sha256 texts first = fingerprintObject sha256 texts second ↔
        Same (withoutInfinities first) (withoutInfinities second)) ∧
      (AllFinite first → AllFinite second →
        (stableStringify texts.stringify first = stableStringify texts.stringify second ↔
            Same first second) ∧
          (fingerprintObject sha256 texts first = fingerprintObject sha256 texts second ↔
            Same first second)) := by
  have texts_iff := @stableStringify_eq_iff Finite texts first second left right
  have prints_iff : fingerprintObject sha256 texts first = fingerprintObject sha256 texts second ↔
      Same (withoutInfinities first) (withoutInfinities second) := by
    rw [← texts_iff, fingerprintObject, fingerprintObject, injective.eq_iff]
    constructor
    · intro bytes
      have read := congrArg Utf8.decode bytes
      rwa [← stableStringify_withoutInfinities, ← stableStringify_withoutInfinities,
        Utf8.decode_encode (isWellFormed_stableStringify _ _),
        Utf8.decode_encode (isWellFormed_stableStringify _ _),
        stableStringify_withoutInfinities, stableStringify_withoutInfinities] at read
    · exact fun same => congrArg Utf8.encode same
  refine ⟨texts_iff, prints_iff, ?_⟩
  intro finite also
  rw [texts_iff, prints_iff, same_withoutInfinities finite also]
  exact ⟨Iff.rfl, Iff.rfl⟩

/-- The numbers of one digit. -/
def digitTexts : NumberTexts (Fin 10) where
  text digit := [UInt16.ofNat (0x30 + digit.val)]
  text_injective := by
    intro first second same
    revert first second
    decide
  text_some _ := List.cons_ne_nil _ _
  text_numeric digit unit member := by
    have all : (List.finRange 10).all (fun digit =>
        (ascii "+-.0123456789e").contains (UInt16.ofNat (0x30 + digit.val))) := rfl
    rw [List.mem_singleton.mp member]
    exact List.mem_of_elem_eq_true (List.all_eq_true.mp all digit (List.mem_finRange digit))

/-- `{"a":1,"b":2}` and `{"b":2,"a":1}`. -/
theorem stableStringify_canonical_members :
    stableStringify digitTexts.stringify
        (.obj [(ascii "a", .num (.finite 1)), (ascii "b", .num (.finite 2))]) =
      stableStringify digitTexts.stringify
        (.obj [(ascii "b", .num (.finite 2)), (ascii "a", .num (.finite 1))]) := by
  have left : Distinct (.obj [(ascii "a", .num (.finite 1)), (ascii "b", .num (.finite 2))] :
      JsonData (ParsedNumber (Fin 10))) := ⟨by decide, trivial, trivial, trivial⟩
  have right : Distinct (.obj [(ascii "b", .num (.finite 2)), (ascii "a", .num (.finite 1))] :
      JsonData (ParsedNumber (Fin 10))) := ⟨by decide, trivial, trivial, trivial⟩
  apply (stableStringify_canonical Function.injective_id digitTexts left right).1.mpr
  exact ⟨List.Perm.swap _ _ _, ⟨_, rfl, rfl⟩, ⟨_, rfl, rfl⟩, trivial⟩

/-- `1e999` and `null`. -/
theorem infinite_number_like_null :
    ¬(stableStringify digitTexts.stringify (.num (.infinite false)) =
        stableStringify digitTexts.stringify .null ↔
      Same (.num (.infinite false) : JsonData (ParsedNumber (Fin 10))) .null) :=
  fun same => same.mp rfl

end Canonical

end JsonData

end RemoteBrowser
