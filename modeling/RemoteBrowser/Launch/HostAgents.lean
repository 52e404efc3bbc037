import RemoteBrowser.Gateway.Signaling
import Mathlib.Data.List.Rotate

/-!
# The order of host agents

`app/worker-runtime.js` tries the host agents of the preferred regions first, and within a region
the agents in turn.
-/

namespace RemoteBrowser.Launch

open Gateway (stripTrailing)

/-- A host agent, with the fields that are passed on as they are.  A target that is missing has no
base URL. -/
structure HostAgentTarget (Rest : Type) where
  baseUrl : String
  region : String
  rest : Rest
  deriving DecidableEq

/-- `trim` and `toLowerCase` of texts. -/
structure TextPlatform where
  trim : String → String
  toLowerCase : String → String

variable {Rest : Type}

def rotateByIndex {α : Type} (items : List α) (index : ℤ) : List α :=
  if items = [] then []
  else
    let offset := ((index.tmod items.length + items.length).tmod items.length).toNat
    items.drop offset ++ items.take offset

/-- The targets whose base URLs are not in the list yet.  The sets `seen` and `appended` hold the
base URLs of such a list. -/
def appendDistinct (ordered : List (HostAgentTarget Rest)) :
    List (HostAgentTarget Rest) → List (HostAgentTarget Rest)
  | [] => ordered
  | target :: rest =>
      if target.baseUrl ∈ ordered.map HostAgentTarget.baseUrl then appendDistinct ordered rest
      else appendDistinct (ordered ++ [target]) rest

namespace TextPlatform

variable (platform : TextPlatform)

def normalizeRegion (region : String) : String := platform.toLowerCase (platform.trim region)

def normalizeTarget (target : HostAgentTarget Rest) : HostAgentTarget Rest :=
  { target with baseUrl := stripTrailing (platform.trim target.baseUrl) }

def uniqueTargets (targets : List (HostAgentTarget Rest)) : List (HostAgentTarget Rest) :=
  appendDistinct [] ((targets.map platform.normalizeTarget).filter (·.baseUrl ≠ ""))

/-- The targets of a region. -/
def inRegion (region : String) (targets : List (HostAgentTarget Rest)) :
    List (HostAgentTarget Rest) :=
  targets.filter fun target => platform.normalizeRegion target.region = region

def normalizedPreferredRegions (preferredRegions : List String) : List String :=
  (preferredRegions.map platform.normalizeRegion).filter (· ≠ "")

/-- The targets of the preferred regions. -/
def preferredTargets (unique : List (HostAgentTarget Rest)) (startIndex : ℤ) :
    List (HostAgentTarget Rest) → List String → List (HostAgentTarget Rest)
  | ordered, [] => ordered
  | ordered, region :: regions =>
      preferredTargets unique startIndex
        (appendDistinct ordered (rotateByIndex (platform.inRegion region unique) startIndex))
        regions

def orderHostAgentTargets (targets : List (HostAgentTarget Rest)) (preferredRegions : List String)
    (startIndex : ℤ) : List (HostAgentTarget Rest) :=
  let unique := platform.uniqueTargets targets
  appendDistinct
    (platform.preferredTargets unique startIndex []
      (platform.normalizedPreferredRegions preferredRegions))
    (rotateByIndex unique startIndex)

end TextPlatform

/-! ## Rotation -/

theorem offset_eq {length : ℕ} (positive : 0 < length) (index : ℤ) :
    (index.tmod length + length).tmod length = index % length := by
  have large : -(length : ℤ) < index.tmod length := by
    have bound := Int.lt_tmod_of_pos index (show (0 : ℤ) < length by omega)
    exact bound
  rw [Int.tmod_eq_emod_of_nonneg (by omega), Int.add_emod_right, Int.tmod_def,
    Int.sub_mul_emod_self_left]

/-- The index counts modulo the number of items. -/
theorem rotateByIndex_eq {α : Type} (items : List α) (index : ℤ) :
    rotateByIndex items index = items.rotate (index % items.length).toNat := by
  unfold rotateByIndex
  split
  case isTrue none => rw [none, List.rotate_nil]
  case isFalse some =>
    have positive := List.length_pos_of_ne_nil some
    have small : index % items.length < items.length := Int.emod_lt_of_pos _ (by omega)
    rw [offset_eq positive, List.rotate_eq_drop_append_take (by omega)]

theorem rotateByIndex_perm {α : Type} (items : List α) (index : ℤ) :
    (rotateByIndex items index).Perm items := by
  rw [rotateByIndex_eq]
  exact List.rotate_perm items _

/-! ## Distinct targets -/

/-- The base URLs are distinct. -/
def HasDistinctUrls (targets : List (HostAgentTarget Rest)) : Prop :=
  (targets.map HostAgentTarget.baseUrl).Nodup

theorem appendDistinct_distinct {ordered targets : List (HostAgentTarget Rest)}
    (distinct : HasDistinctUrls ordered) : HasDistinctUrls (appendDistinct ordered targets) := by
  induction targets generalizing ordered with
  | nil => exact distinct
  | cons target rest ih =>
      unfold appendDistinct
      split
      case isTrue => exact ih distinct
      case isFalse fresh =>
        apply ih
        unfold HasDistinctUrls
        rw [List.map_append]
        exact List.nodup_append.mpr ⟨distinct, List.nodup_singleton _, by simpa using fresh⟩

/-- A target is found where it was found first. -/
theorem find_appendDistinct (ordered targets : List (HostAgentTarget Rest)) (url : String) :
    (appendDistinct ordered targets).find? (·.baseUrl = url) =
      (ordered ++ targets).find? (·.baseUrl = url) := by
  induction targets generalizing ordered with
  | nil => rw [appendDistinct, List.append_nil]
  | cons target rest ih =>
      unfold appendDistinct
      split
      case isTrue known =>
        rw [ih, List.find?_append, List.find?_append]
        by_cases same : target.baseUrl = url
        · obtain ⟨other, member, equal⟩ := List.mem_map.mp known
          have found : (ordered.find? (·.baseUrl = url)).isSome := by
            rw [List.find?_isSome]
            exact ⟨other, member, decide_eq_true (equal.trans same)⟩
          obtain ⟨first, found⟩ := Option.isSome_iff_exists.mp found
          rw [found]
          rfl
        · rw [List.find?_cons_of_neg (by simpa using same)]
      case isFalse => rw [ih, List.append_assoc, List.singleton_append]

theorem distinct_cons {target : HostAgentTarget Rest} {rest : List (HostAgentTarget Rest)} :
    HasDistinctUrls (target :: rest) ↔
      (∀ other ∈ rest, other.baseUrl ≠ target.baseUrl) ∧ HasDistinctUrls rest := by
  unfold HasDistinctUrls
  rw [List.map_cons, List.nodup_cons, List.mem_map]
  constructor
  case mp => exact fun both => ⟨fun other member same => both.1 ⟨other, member, same⟩, both.2⟩
  case mpr => exact fun both => ⟨fun ⟨other, member, same⟩ => both.1 other member same, both.2⟩

/-- A base URL occurs once, with the target that is found. -/
theorem filter_url_eq {targets : List (HostAgentTarget Rest)} (distinct : HasDistinctUrls targets)
    (url : String) :
    targets.filter (·.baseUrl = url) = (targets.find? (·.baseUrl = url)).toList := by
  induction targets with
  | nil => rfl
  | cons target rest ih =>
      obtain ⟨others, distinct⟩ := distinct_cons.mp distinct
      by_cases same : target.baseUrl = url
      · have none : rest.filter (·.baseUrl = url) = [] := by
          rw [List.filter_eq_nil_iff]
          intro other member equal
          exact others other member ((of_decide_eq_true equal).trans same.symm)
        rw [List.filter_cons_of_pos (by simpa using same), none,
          List.find?_cons_of_pos (by simpa using same)]
        rfl
      · rw [List.filter_cons_of_neg (by simpa using same),
          List.find?_cons_of_neg (by simpa using same), ih distinct]

/-- If the new targets have distinct base URLs, those are appended that are not there yet. -/
theorem appendDistinct_eq {ordered targets : List (HostAgentTarget Rest)}
    (distinct : HasDistinctUrls targets) :
    appendDistinct ordered targets =
      ordered ++ targets.filter (·.baseUrl ∉ ordered.map HostAgentTarget.baseUrl) := by
  induction targets generalizing ordered with
  | nil => simp [appendDistinct]
  | cons target rest ih =>
      obtain ⟨others, distinct⟩ := distinct_cons.mp distinct
      unfold appendDistinct
      split
      case isTrue known => rw [ih distinct, List.filter_cons_of_neg (by simpa using known)]
      case isFalse fresh =>
        have same : rest.filter (·.baseUrl ∉ (ordered ++ [target]).map HostAgentTarget.baseUrl) =
            rest.filter (·.baseUrl ∉ ordered.map HostAgentTarget.baseUrl) := by
          apply List.filter_congr
          intro other member
          simp [others other member]
        rw [ih distinct, same, List.filter_cons_of_pos (by simpa using fresh), List.append_assoc,
          List.singleton_append]

theorem HasDistinctUrls.eq_of_url {targets : List (HostAgentTarget Rest)}
    (distinct : HasDistinctUrls targets) {first second : HostAgentTarget Rest}
    (left : first ∈ targets) (right : second ∈ targets) (same : first.baseUrl = second.baseUrl) :
    first = second :=
  List.inj_on_of_nodup_map distinct left right same

/-- The order does not matter for finding a base URL. -/
theorem HasDistinctUrls.find_eq {first second : List (HostAgentTarget Rest)}
    (distinct : HasDistinctUrls first) (same : ∀ target, target ∈ first ↔ target ∈ second)
    (url : String) :
    first.find? (·.baseUrl = url) = second.find? (·.baseUrl = url) := by
  cases found : second.find? (·.baseUrl = url) with
  | none =>
      rw [List.find?_eq_none] at found ⊢
      exact fun target member => found target ((same target).mp member)
  | some target =>
      have member := (same target).mpr (List.mem_of_find?_eq_some found)
      have own := List.find?_some found
      rw [decide_eq_true_iff] at own
      have present : (first.find? (·.baseUrl = url)).isSome :=
        List.find?_isSome.mpr ⟨target, member, decide_eq_true own⟩
      obtain ⟨other, other_found⟩ := Option.isSome_iff_exists.mp present
      have other_own := List.find?_some other_found
      rw [decide_eq_true_iff] at other_own
      rw [other_found, distinct.eq_of_url (List.mem_of_find?_eq_some other_found) member
        (other_own.trans own.symm)]

/-! ## Regions in turn -/

section Stages

variable {platform : TextPlatform} {unique : List (HostAgentTarget Rest)} {startIndex : ℤ}

/-- The targets of the regions that were done are there, region by region and in turn. -/
structure Staged (platform : TextPlatform) (unique : List (HostAgentTarget Rest)) (startIndex : ℤ)
    (regions : List String) (ordered : List (HostAgentTarget Rest)) : Prop where
  distinct : HasDistinctUrls ordered
  member : ∀ target, target ∈ ordered ↔
    target ∈ unique ∧ platform.normalizeRegion target.region ∈ regions
  turns : ∀ region ∈ regions, platform.inRegion region ordered =
    rotateByIndex (platform.inRegion region unique) startIndex
  ranked : ordered.Pairwise fun first second =>
    regions.idxOf (platform.normalizeRegion first.region) ≤
      regions.idxOf (platform.normalizeRegion second.region)

theorem distinct_inRegion (distinct : HasDistinctUrls unique) (region : String) :
    HasDistinctUrls (rotateByIndex (platform.inRegion region unique) startIndex) := by
  have turned := (rotateByIndex_perm (platform.inRegion region unique) startIndex).map
    HostAgentTarget.baseUrl
  apply turned.nodup_iff.mpr
  exact distinct.sublist (List.filter_sublist.map _)

theorem mem_rotated {region : String} {target : HostAgentTarget Rest} :
    target ∈ rotateByIndex (platform.inRegion region unique) startIndex ↔
      target ∈ unique ∧ platform.normalizeRegion target.region = region := by
  rw [(rotateByIndex_perm _ startIndex).mem_iff, TextPlatform.inRegion, List.mem_filter,
    decide_eq_true_iff]

/-- A target of the list is appended exactly if its region was not done. -/
theorem Staged.known_iff {regions : List String} {ordered : List (HostAgentTarget Rest)}
    (staged : Staged platform unique startIndex regions ordered)
    (distinct : HasDistinctUrls unique) {target : HostAgentTarget Rest} (member : target ∈ unique) :
    target.baseUrl ∈ ordered.map HostAgentTarget.baseUrl ↔
      platform.normalizeRegion target.region ∈ regions := by
  rw [List.mem_map]
  constructor
  case mp =>
    rintro ⟨other, listed, same⟩
    obtain ⟨present, done⟩ := (staged.member other).mp listed
    rwa [distinct.eq_of_url present member same] at done
  case mpr => exact fun done => ⟨target, (staged.member target).mpr ⟨member, done⟩, rfl⟩

/-- The rank of what was done stays when more regions are done. -/
theorem Staged.ranked_append {regions : List String} {ordered : List (HostAgentTarget Rest)}
    (staged : Staged platform unique startIndex regions ordered) (more : List String) :
    ordered.Pairwise fun first second =>
      (regions ++ more).idxOf (platform.normalizeRegion first.region) ≤
        (regions ++ more).idxOf (platform.normalizeRegion second.region) := by
  apply staged.ranked.imp_of_mem
  intro first second left right le
  rw [List.idxOf_append_of_mem ((staged.member first).mp left).2,
    List.idxOf_append_of_mem ((staged.member second).mp right).2]
  exact le

/-- A region that was done already adds nothing. -/
theorem Staged.again {regions : List String} {ordered : List (HostAgentTarget Rest)}
    (staged : Staged platform unique startIndex regions ordered) {region : String}
    (done : region ∈ regions) : Staged platform unique startIndex (regions ++ [region]) ordered := by
  have same (other : String) : other ∈ regions ++ [region] ↔ other ∈ regions := by
    rw [List.mem_append, List.mem_singleton]
    constructor
    · rintro (listed | rfl)
      · exact listed
      · exact done
    · exact .inl
  constructor
  case distinct => exact staged.distinct
  case member =>
    intro target
    rw [same]
    exact staged.member target
  case turns => exact fun other listed => staged.turns other ((same other).mp listed)
  case ranked => exact staged.ranked_append [region]

/-- The targets of a new region are put behind those of the regions before it. -/
theorem Staged.extend {regions : List String} {ordered : List (HostAgentTarget Rest)}
    (staged : Staged platform unique startIndex regions ordered)
    (distinct : HasDistinctUrls unique) {region : String} (fresh : region ∉ regions) :
    Staged platform unique startIndex (regions ++ [region])
      (ordered ++ rotateByIndex (platform.inRegion region unique) startIndex) := by
  have unknown : ∀ target ∈ rotateByIndex (platform.inRegion region unique) startIndex,
      target.baseUrl ∉ ordered.map HostAgentTarget.baseUrl := by
    intro target member known
    obtain ⟨present, own⟩ := mem_rotated.mp member
    rw [staged.known_iff distinct present, own] at known
    exact fresh known
  constructor
  case distinct =>
    have appended := @appendDistinct_distinct _ _
      (rotateByIndex (platform.inRegion region unique) startIndex) staged.distinct
    rw [appendDistinct_eq (distinct_inRegion distinct region), List.filter_eq_self.mpr
      fun target member => decide_eq_true (unknown target member)] at appended
    exact appended
  case member =>
    intro target
    rw [List.mem_append, staged.member, mem_rotated, List.mem_append, List.mem_singleton]
    constructor
    · rintro (⟨present, done⟩ | ⟨present, own⟩)
      · exact ⟨present, .inl done⟩
      · exact ⟨present, .inr own⟩
    · rintro ⟨present, done | own⟩
      · exact .inl ⟨present, done⟩
      · exact .inr ⟨present, own⟩
  case turns =>
    intro other listed
    have split : platform.inRegion other
        (ordered ++ rotateByIndex (platform.inRegion region unique) startIndex) =
          platform.inRegion other ordered ++
            platform.inRegion other (rotateByIndex (platform.inRegion region unique) startIndex) :=
      List.filter_append ..
    rw [split]
    rcases List.mem_append.mp listed with done | last
    · have none : platform.inRegion other
          (rotateByIndex (platform.inRegion region unique) startIndex) = [] := by
        rw [TextPlatform.inRegion, List.filter_eq_nil_iff]
        intro target member own
        rw [(mem_rotated.mp member).2] at own
        rw [of_decide_eq_true own] at fresh
        exact fresh done
      rw [none, List.append_nil, staged.turns other done]
    · obtain rfl := List.mem_singleton.mp last
      have none : platform.inRegion other ordered = [] := by
        rw [TextPlatform.inRegion, List.filter_eq_nil_iff]
        intro target member own
        have done := ((staged.member target).mp member).2
        rw [of_decide_eq_true own] at done
        exact fresh done
      have all : platform.inRegion other
          (rotateByIndex (platform.inRegion other unique) startIndex) =
            rotateByIndex (platform.inRegion other unique) startIndex := by
        conv_lhs => rw [TextPlatform.inRegion]
        rw [List.filter_eq_self]
        exact fun target member => decide_eq_true (mem_rotated.mp member).2
      rw [none, all, List.nil_append]
  case ranked =>
    rw [List.pairwise_append]
    have last : (regions ++ [region]).idxOf region = regions.length := by
      rw [List.idxOf_append_of_notMem fresh, List.idxOf_cons_self, Nat.add_zero]
    refine ⟨staged.ranked_append [region], ?_, ?_⟩
    · apply List.pairwise_of_forall_mem_list
      intro first left second right
      rw [(mem_rotated.mp left).2, (mem_rotated.mp right).2]
    · intro first left second right
      have done := ((staged.member first).mp left).2
      rw [(mem_rotated.mp right).2, last, List.idxOf_append_of_mem done]
      exact (List.idxOf_lt_length_of_mem done).le

theorem Staged.next {regions : List String} {ordered : List (HostAgentTarget Rest)}
    (staged : Staged platform unique startIndex regions ordered)
    (distinct : HasDistinctUrls unique) (region : String) :
    Staged platform unique startIndex (regions ++ [region])
      (appendDistinct ordered
        (rotateByIndex (platform.inRegion region unique) startIndex)) := by
  have known {target : HostAgentTarget Rest}
      (member : target ∈ rotateByIndex (platform.inRegion region unique) startIndex) :
      target.baseUrl ∈ ordered.map HostAgentTarget.baseUrl ↔ region ∈ regions := by
    obtain ⟨present, own⟩ := mem_rotated.mp member
    rw [staged.known_iff distinct present, own]
  rw [appendDistinct_eq (distinct_inRegion distinct region)]
  by_cases done : region ∈ regions
  · have none : (rotateByIndex (platform.inRegion region unique) startIndex).filter
        (·.baseUrl ∉ ordered.map HostAgentTarget.baseUrl) = [] := by
      rw [List.filter_eq_nil_iff]
      intro target member
      rw [decide_eq_true_iff, not_not, known member]
      exact done
    rw [none, List.append_nil]
    exact staged.again done
  · have all : (rotateByIndex (platform.inRegion region unique) startIndex).filter
        (·.baseUrl ∉ ordered.map HostAgentTarget.baseUrl) =
          rotateByIndex (platform.inRegion region unique) startIndex := by
      rw [List.filter_eq_self]
      intro target member
      rw [decide_eq_true_iff, known member]
      exact done
    rw [all]
    exact staged.extend distinct done

/-- All regions are done in turn. -/
theorem Staged.run {regions : List String} {ordered : List (HostAgentTarget Rest)}
    (staged : Staged platform unique startIndex regions ordered)
    (distinct : HasDistinctUrls unique) (more : List String) :
    Staged platform unique startIndex (regions ++ more)
      (platform.preferredTargets unique startIndex ordered more) := by
  induction more generalizing regions ordered with
  | nil =>
      rw [List.append_nil]
      exact staged
  | cons region more ih =>
      have next := ih (staged.next distinct region)
      rw [List.append_assoc, List.singleton_append] at next
      exact next

theorem staged_nil : Staged platform unique startIndex [] [] := by
  constructor
  case distinct => exact List.nodup_nil
  case member => simp
  case turns => simp
  case ranked => exact List.Pairwise.nil

/-- The other targets are put behind those of the preferred regions. -/
theorem Staged.finish {regions : List String} {ordered : List (HostAgentTarget Rest)}
    (staged : Staged platform unique startIndex regions ordered)
    (distinct : HasDistinctUrls unique) :
    ∃ others, appendDistinct ordered (rotateByIndex unique startIndex) = ordered ++ others ∧
      ∀ target, target ∈ others ↔
        target ∈ unique ∧ platform.normalizeRegion target.region ∉ regions := by
  have turned := rotateByIndex_perm unique startIndex
  have own : HasDistinctUrls (rotateByIndex unique startIndex) :=
    (turned.map HostAgentTarget.baseUrl).nodup_iff.mpr distinct
  refine ⟨_, appendDistinct_eq own, fun target => ?_⟩
  rw [List.mem_filter, turned.mem_iff, decide_eq_true_iff]
  constructor
  · rintro ⟨member, unknown⟩
    rw [staged.known_iff distinct member] at unknown
    exact ⟨member, unknown⟩
  · rintro ⟨member, unknown⟩
    rw [← staged.known_iff distinct member] at unknown
    exact ⟨member, unknown⟩

end Stages

/-! ## The order -/

section Order

variable (platform : TextPlatform) (targets : List (HostAgentTarget Rest))

theorem uniqueTargets_distinct : HasDistinctUrls (platform.uniqueTargets targets) :=
  appendDistinct_distinct List.nodup_nil

/-- A base URL that is not empty stands for the first target that has it. -/
theorem find_uniqueTargets (url : String) :
    (platform.uniqueTargets targets).find? (·.baseUrl = url) =
      if url = "" then none
      else (targets.map platform.normalizeTarget).find? (·.baseUrl = url) := by
  rw [TextPlatform.uniqueTargets, find_appendDistinct, List.nil_append, List.find?_filter]
  split
  case isTrue empty =>
    rw [List.find?_eq_none]
    intro target _ both
    simp [empty] at both
  case isFalse named =>
    congr 1
    funext target
    by_cases same : target.baseUrl = url
    · simp [same, named]
    · simp [same]

theorem appendDistinct_sublist (ordered targets : List (HostAgentTarget Rest)) :
    (appendDistinct ordered targets).Sublist (ordered ++ targets) := by
  induction targets generalizing ordered with
  | nil =>
      rw [appendDistinct, List.append_nil]
  | cons target rest ih =>
      unfold appendDistinct
      split
      case isTrue =>
        exact (ih ordered).trans ((List.Sublist.refl ordered).append (List.sublist_cons_self ..))
      case isFalse =>
        have appended := ih (ordered ++ [target])
        rw [List.append_assoc, List.singleton_append] at appended
        exact appended

theorem uniqueTargets_sublist :
    (platform.uniqueTargets targets).Sublist (targets.map platform.normalizeTarget) := by
  have appended := appendDistinct_sublist []
    ((targets.map platform.normalizeTarget).filter (·.baseUrl ≠ ""))
  exact appended.trans List.filter_sublist

/-- Every base URL is tried once, as it was listed first; the preferred regions come first, one
after the other, and each in the order of the list from the index on. -/
theorem host_agents_are_a_regional_permutation (platform : TextPlatform)
    (targets : List (HostAgentTarget Rest)) (preferredRegions : List String) (startIndex : ℤ) :
    let unique := TextPlatform.uniqueTargets platform targets
    let regions := TextPlatform.normalizedPreferredRegions platform preferredRegions
    let ordered := TextPlatform.orderHostAgentTargets platform targets preferredRegions startIndex
    (∀ url, ordered.filter (·.baseUrl = url) =
      if url = "" then []
      else ((targets.map platform.normalizeTarget).find? (·.baseUrl = url)).toList) ∧
    (ordered.Pairwise fun first second =>
      regions.idxOf (platform.normalizeRegion first.region) ≤
        regions.idxOf (platform.normalizeRegion second.region)) ∧
    unique.Sublist (targets.map platform.normalizeTarget) ∧
    ∀ region ∈ regions, platform.inRegion region ordered =
      (platform.inRegion region unique).rotate
        (startIndex % (platform.inRegion region unique).length).toNat := by
  have distinct := uniqueTargets_distinct platform targets
  have found := find_uniqueTargets platform targets
  have listed := uniqueTargets_sublist platform targets
  dsimp only [TextPlatform.orderHostAgentTargets]
  generalize platform.uniqueTargets targets = unique at *
  generalize platform.normalizedPreferredRegions preferredRegions = regions
  have staged := (@staged_nil _ platform unique startIndex).run distinct regions
  rw [List.nil_append] at staged
  generalize platform.preferredTargets unique startIndex [] regions = preferred at *
  obtain ⟨others, whole, rest⟩ := staged.finish distinct
  have appended : HasDistinctUrls (appendDistinct preferred (rotateByIndex unique startIndex)) :=
    appendDistinct_distinct staged.distinct
  rw [whole] at appended ⊢
  have same (target : HostAgentTarget Rest) : target ∈ preferred ++ others ↔ target ∈ unique := by
    rw [List.mem_append, staged.member, rest, ← and_or_left]
    exact and_iff_left (em _)
  constructor
  case left =>
    intro url
    rw [filter_url_eq appended, appended.find_eq same, found, apply_ite Option.toList]
    rfl
  case right =>
    refine ⟨?ranked, listed, ?turns⟩
    case ranked =>
      have last {target : HostAgentTarget Rest} (member : target ∈ others) :
          regions.idxOf (platform.normalizeRegion target.region) = regions.length :=
        List.idxOf_of_notMem ((rest target).mp member).2
      rw [List.pairwise_append]
      refine ⟨staged.ranked, ?_, ?_⟩
      · apply List.pairwise_of_forall_mem_list
        intro first left second right
        rw [last left, last right]
      · intro first left second right
        rw [last right]
        exact List.idxOf_le_length
    case turns =>
      intro region preferredRegion
      have none : platform.inRegion region others = [] := by
        rw [TextPlatform.inRegion, List.filter_eq_nil_iff]
        intro target member own
        apply ((rest target).mp member).2
        rw [of_decide_eq_true own]
        exact preferredRegion
      calc platform.inRegion region (preferred ++ others)
          = platform.inRegion region preferred ++ platform.inRegion region others :=
            List.filter_append ..
        _ = rotateByIndex (platform.inRegion region unique) startIndex := by
            rw [none, List.append_nil, staged.turns region preferredRegion]
        _ = _ := rotateByIndex_eq _ startIndex

end Order

end RemoteBrowser.Launch
