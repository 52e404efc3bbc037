import Mathlib.Data.List.Sort
import Mathlib.Data.Nat.Basic

/-!
# Keys with an expiry and sorted sets

The fragment of the Redis data model that atomic scripts work on: string keys
with an optional `PEXPIREAT` time, and sorted sets ordered by score and then by
member.  A key whose expiry time has passed reads as absent, and setting an
expiry time that is not in the future deletes the key at once.
-/

namespace RemoteBrowser.Redis

/-! ## Expiring keys -/

/-- A value stored under a key, with its `PEXPIREAT` time if it has one. -/
structure Entry (β : Type) where
  value : β
  expireAt : Option Nat
  deriving DecidableEq

namespace Entry

variable {β : Type}

/-- The expiry time of the entry has not passed. -/
def Live (now : Nat) (entry : Entry β) : Prop :=
  ∀ time, entry.expireAt = some time → now ≤ time

instance (now : Nat) (entry : Entry β) : Decidable (entry.Live now) :=
  match h : entry.expireAt with
  | none => isTrue (by simp [Live, h])
  | some time =>
      if inTime : now ≤ time then isTrue (by simpa [Live, h] using inTime)
      else isFalse (by simpa [Live, h] using inTime)

/-- `GET` at time `now`. -/
def read (now : Nat) : Option (Entry β) → Option β
  | none => none
  | some entry => if entry.Live now then some entry.value else none

/-- `SET` followed by `PEXPIREAT`. -/
def save (now : Nat) (value : β) (time : Nat) : Option (Entry β) :=
  if time ≤ now then none else some ⟨value, some time⟩

@[simp] theorem read_none (now : Nat) : read now (none : Option (Entry β)) = none := rfl

theorem read_eq_some {now : Nat} {slot : Option (Entry β)} {value : β} :
    read now slot = some value ↔
      ∃ entry, slot = some entry ∧ entry.Live now ∧ entry.value = value := by
  cases slot with
  | none => simp [read]
  | some entry => by_cases live : entry.Live now <;> simp [read, live]

/-- A saved value is readable exactly from before its expiry time until then. -/
theorem read_save (saved now time : Nat) (value : β) :
    read now (save saved value time) = some value ↔ saved < time ∧ now ≤ time := by
  by_cases past : time ≤ saved
  · simp [save, past, Nat.not_lt.mpr past]
  · simp [save, past, read, Live, Nat.lt_of_not_le past]

end Entry

/-! ## Sorted sets -/

/-- A member of a sorted set with its score. -/
structure Scored (α : Type) where
  score : Nat
  member : α
  deriving DecidableEq

/-- The order of a sorted set: by score, then by member. -/
def Scored.Before {α : Type} [LinearOrder α] (left right : Scored α) : Prop :=
  left.score < right.score ∨ left.score = right.score ∧ left.member ≤ right.member

instance {α : Type} [LinearOrder α] :
    DecidableRel (Scored.Before : Scored α → Scored α → Prop) :=
  fun _ _ => inferInstanceAs (Decidable (_ ∨ _))

instance {α : Type} [LinearOrder α] :
    Std.Total (Scored.Before : Scored α → Scored α → Prop) where
  total left right := by
    rcases Nat.lt_trichotomy left.score right.score with less | equal | greater
    · exact .inl (.inl less)
    · rcases le_total left.member right.member with first | second
      · exact .inl (.inr ⟨equal, first⟩)
      · exact .inr (.inr ⟨equal.symm, second⟩)
    · exact .inr (.inl greater)

instance {α : Type} [LinearOrder α] :
    IsTrans (Scored α) Scored.Before where
  trans first second third := by
    rintro (less | ⟨equal, le⟩) (less' | ⟨equal', le'⟩)
    · exact .inl (less.trans less')
    · exact .inl (equal' ▸ less)
    · exact .inl (equal ▸ less')
    · exact .inr ⟨equal.trans equal', le.trans le'⟩

/-- A sorted set: every member once, in the order of the set. -/
structure SortedSet (α : Type) [LinearOrder α] where
  entries : List (Scored α)
  sorted : entries.Pairwise Scored.Before
  unique : (entries.map Scored.member).Nodup

namespace SortedSet

variable {α : Type} [LinearOrder α]

def empty : SortedSet α := ⟨[], .nil, .nil⟩

/-- Members in the order of the set (`ZRANGE 0 -1`). -/
def members (set : SortedSet α) : List α := set.entries.map Scored.member

/-- `ZREM`. -/
def remove (set : SortedSet α) (member : α) : SortedSet α where
  entries := set.entries.filter fun entry => entry.member ≠ member
  sorted := set.sorted.filter _
  unique := set.unique.sublist (List.filter_sublist.map _)

/-- `ZADD`: the member gets the given score, whether or not it was present. -/
def add (set : SortedSet α) (score : Nat) (member : α) : SortedSet α where
  entries := (set.remove member).entries.orderedInsert Scored.Before ⟨score, member⟩
  sorted := (set.remove member).sorted.orderedInsert _ _
  unique := by
    have perm := ((set.remove member).entries.perm_orderedInsert Scored.Before
      ⟨score, member⟩).map Scored.member
    refine perm.nodup_iff.mpr (List.nodup_cons.mpr ⟨?_, (set.remove member).unique⟩)
    simp [remove]

/-- `ZRANGEBYSCORE 0 bound`. -/
def membersUpTo (set : SortedSet α) (bound : Nat) : List α :=
  (set.entries.filter fun entry => entry.score ≤ bound).map Scored.member

theorem mem_remove {set : SortedSet α} {member : α} {entry : Scored α} :
    entry ∈ (set.remove member).entries ↔ entry ∈ set.entries ∧ entry.member ≠ member := by
  simp [remove]

theorem mem_add {set : SortedSet α} {score : Nat} {member : α} {entry : Scored α} :
    entry ∈ (set.add score member).entries ↔
      entry = ⟨score, member⟩ ∨ entry ∈ set.entries ∧ entry.member ≠ member := by
  simp only [add, List.mem_orderedInsert, mem_remove]

theorem mem_members {set : SortedSet α} {member : α} :
    member ∈ set.members ↔ ∃ score, ⟨score, member⟩ ∈ set.entries := by
  simp only [members, List.mem_map]
  constructor
  · rintro ⟨⟨score, _⟩, listed, rfl⟩
    exact ⟨score, listed⟩
  · rintro ⟨score, listed⟩
    exact ⟨⟨score, member⟩, listed, rfl⟩

theorem mem_members_remove {set : SortedSet α} {removed member : α} :
    member ∈ (set.remove removed).members ↔ member ∈ set.members ∧ member ≠ removed := by
  simp only [mem_members, mem_remove, exists_and_right]

theorem mem_members_add {set : SortedSet α} {score : Nat} {added member : α} :
    member ∈ (set.add score added).members ↔ member = added ∨ member ∈ set.members := by
  simp only [mem_members, mem_add, Scored.mk.injEq]
  constructor
  · rintro ⟨other, ⟨-, same⟩ | ⟨listed, -⟩⟩
    · exact .inl same
    · exact .inr ⟨other, listed⟩
  · rintro (same | ⟨other, listed⟩)
    · exact ⟨score, .inl ⟨rfl, same⟩⟩
    · by_cases same : member = added
      · exact ⟨score, .inl ⟨rfl, same⟩⟩
      · exact ⟨other, .inr ⟨listed, same⟩⟩

theorem mem_membersUpTo {set : SortedSet α} {bound : Nat} {member : α} :
    member ∈ set.membersUpTo bound ↔
      ∃ score, ⟨score, member⟩ ∈ set.entries ∧ score ≤ bound := by
  simp only [membersUpTo, List.mem_map, List.mem_filter, decide_eq_true_eq]
  constructor
  · rintro ⟨⟨score, _⟩, ⟨present, within⟩, rfl⟩
    exact ⟨score, present, within⟩
  · rintro ⟨score, present, within⟩
    exact ⟨⟨score, member⟩, ⟨present, within⟩, rfl⟩

end SortedSet

end RemoteBrowser.Redis
