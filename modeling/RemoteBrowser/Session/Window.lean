import Mathlib.Data.Set.Card
import RemoteBrowser.Session.Listing

/-!
# The newest sessions

`listSessions(limit)` of the Redis store cuts its window from the index of creations and only then
drops the sessions whose keys are gone.  An index entry outlives its key until the session is
removed, so entries without keys take places in the window.
-/

namespace RemoteBrowser

open Redis

/-! ## Windows -/

section Window

variable {α : Type} {items : List α} {live : α → Bool} {limit : Nat}

/-- A window shows as many live items as it could if no other item takes a place in it, or if all
live items are inside. -/
theorem length_filter_take_iff (unique : items.Nodup) :
    ((items.take limit).filter live).length = min limit (items.filter live).length ↔
      (∀ item ∈ items.take limit, live item = true) ∨
        ∀ item ∈ items, live item = true → item ∈ items.take limit := by
  have total : (items.filter live).length =
      ((items.take limit).filter live).length + ((items.drop limit).filter live).length := by
    rw [← List.length_append, ← List.filter_append, List.take_append_drop]
  have inside := List.length_filter_le live (items.take limit)
  have size := @List.length_take _ limit items
  have outside : (items.drop limit).filter live = [] ↔
      ∀ item ∈ items, live item = true → item ∈ items.take limit := by
    rw [List.filter_eq_nil_iff]
    have split := List.take_append_drop limit items
    constructor
    case mp =>
      intro dead item member alive
      rw [← split] at member
      cases List.mem_append.mp member with
      | inl shown => exact shown
      | inr hidden => exact (dead item hidden alive).elim
    case mpr =>
      intro shown item hidden alive
      rw [← split] at unique
      have member : item ∈ items := List.mem_of_mem_drop hidden
      exact (List.nodup_append.mp unique).2.2 item (shown item member alive) item hidden rfl
  constructor
  case mp =>
    intro full
    by_cases none : (items.drop limit).filter live = []
    case pos =>
      right
      exact outside.mp none
    case neg =>
      left
      have some := List.length_pos_iff.mpr none
      apply List.length_filter_eq_length_iff.mp
      omega
  case mpr =>
    intro cases
    cases cases with
    | inl alive =>
        have all := List.length_filter_eq_length_iff.mpr alive
        have few := List.length_filter_le live (items.drop limit)
        rw [List.length_drop] at few
        omega
    | inr shown =>
        have none : ((items.drop limit).filter live).length = 0 :=
          List.length_eq_zero_iff.mpr (outside.mpr shown)
        omega

end Window

/-! ## What the store shows -/

namespace RedisSessionStore

variable {store : RedisSessionStore} {now limit : Nat}

/-- The sessions whose key is present. -/
def live (store : RedisSessionStore) (now : Nat) : Set SessionId :=
  {id | (store.loadSession now id).isSome}

/-- The first `limit` of the live sessions, newest first. -/
structure ShowsNewest (store : RedisSessionStore) (now limit : Nat) (shown : List Session) :
    Prop where
  live : ∀ session ∈ shown, store.loadSession now session.id = some session
  distinct : (shown.map Session.id).Nodup
  ordered : shown.Pairwise fun earlier later => later.createdAt ≤ earlier.createdAt
  count : shown.length = min limit (store.live now).ncard
  newest : ∀ id session, store.loadSession now id = some session → session ∉ shown →
    ∀ other ∈ shown, session.createdAt ≤ other.createdAt

/-- The newest entries of the index of creations. -/
def window (store : RedisSessionStore) (limit : Nat) : List SessionId :=
  store.sessionsCreated.members.reverse.take limit

/-- Every entry of the window has a key, or every session with a key has an entry in it. -/
def WindowSuffices (store : RedisSessionStore) (now limit : Nat) : Prop :=
  (∀ id ∈ store.window limit, id ∈ store.live now) ∨
    ∀ id ∈ store.live now, id ∈ store.window limit

theorem listSessions_eq (positive : 1 ≤ limit) :
    store.listSessions now limit = (store.window limit).filterMap (store.loadSession now) := by
  rw [listSessions, window, max_eq_left positive]

theorem nodup_reverse_members (store : RedisSessionStore) :
    store.sessionsCreated.members.reverse.Nodup :=
  List.nodup_reverse.mpr store.sessionsCreated.unique

theorem Indexed.mem_members_of_live (indexed : store.Indexed) {id : SessionId}
    (alive : id ∈ store.live now) : id ∈ store.sessionsCreated.members.reverse := by
  obtain ⟨session, loaded⟩ := Option.isSome_iff_exists.mp alive
  rw [List.mem_reverse, SortedSet.mem_members]
  exact ⟨_, (indexed.of_load loaded).2.1⟩

theorem Indexed.ncard_live (indexed : store.Indexed) :
    (store.live now).ncard = (store.sessionsCreated.members.reverse.filter
      fun id => (store.loadSession now id).isSome).length := by
  have unique := store.nodup_reverse_members.filter fun id => (store.loadSession now id).isSome
  rw [← List.toFinset_card_of_nodup unique, ← Set.ncard_coe_finset]
  congr 1
  ext id
  rw [List.coe_toFinset, Set.mem_ofPred_eq, List.mem_filter]
  exact ⟨fun alive => ⟨indexed.mem_members_of_live alive, alive⟩, fun listed => listed.2⟩

/-- Entries that come first belong to sessions that are not older. -/
theorem Indexed.newest_first (indexed : store.Indexed) {ids : List SessionId}
    (sublist : ids.Sublist store.sessionsCreated.members.reverse) :
    ids.Pairwise fun earlier later => ∀ first second,
      store.loadSession now earlier = some first →
        store.loadSession now later = some second → second.createdAt ≤ first.createdAt := by
  apply List.Pairwise.sublist sublist
  rw [SortedSet.members, ← List.map_reverse, List.pairwise_map]
  have sorted := List.pairwise_reverse.mpr store.sessionsCreated.sorted
  apply sorted.imp_of_mem
  intro earlier later firstListed secondListed before first second firstLoaded secondLoaded
  have firstScore := SortedSet.score_eq (List.mem_reverse.mp firstListed)
    (indexed.of_load firstLoaded).2.1
  have secondScore := SortedSet.score_eq (List.mem_reverse.mp secondListed)
    (indexed.of_load secondLoaded).2.1
  rw [← firstScore, ← secondScore]
  cases before with
  | inl older => exact older.le
  | inr same => exact same.1.le

theorem Indexed.showsNewest_iff (indexed : store.Indexed) (positive : 1 ≤ limit) :
    store.ShowsNewest now limit (store.listSessions now limit) ↔
      store.WindowSuffices now limit := by
  let members := store.sessionsCreated.members.reverse
  let alive : SessionId → Bool := fun id => (store.loadSession now id).isSome
  have unique : members.Nodup := store.nodup_reverse_members
  have lengths : (store.listSessions now limit).length =
      ((members.take limit).filter alive).length := by
    rw [listSessions_eq positive, List.length_filterMap_eq_countP, List.countP_eq_length_filter]
    rfl
  have suffices_iff : ((members.take limit).filter alive).length =
      min limit (members.filter alive).length ↔ store.WindowSuffices now limit := by
    rw [length_filter_take_iff unique]
    apply or_congr Iff.rfl
    constructor
    case mp => exact fun shown id loads => shown id (indexed.mem_members_of_live loads) loads
    case mpr => exact fun shown id _ loads => shown id loads
  constructor
  case mp =>
    intro shows
    have count := shows.count
    rw [lengths, indexed.ncard_live] at count
    exact suffices_iff.mp count
  case mpr =>
    intro enough
    have inWindow : (store.window limit).Sublist members := List.take_sublist ..
    have ordered := @Indexed.newest_first store now indexed _ (List.Sublist.refl members)
    constructor
    case live =>
      intro session listed
      rw [listSessions_eq positive] at listed
      exact indexed.load_of_mem listed
    case distinct =>
      rw [listSessions_eq positive]
      exact indexed.distinct (unique.sublist inWindow)
    case ordered =>
      rw [listSessions_eq positive, List.pairwise_filterMap]
      apply (@Indexed.newest_first store now indexed _ inWindow).imp
      intro earlier later older first firstLoaded second secondLoaded
      exact older first second firstLoaded secondLoaded
    case count =>
      rw [lengths, indexed.ncard_live]
      exact suffices_iff.mpr enough
    case newest =>
      intro id session loaded hidden other listed
      rw [listSessions_eq positive] at listed hidden
      obtain ⟨shown, inside, otherLoaded⟩ := List.mem_filterMap.mp listed
      have outside : id ∉ store.window limit := fun inside =>
        hidden (List.mem_filterMap.mpr ⟨id, inside, loaded⟩)
      have member : id ∈ members :=
        indexed.mem_members_of_live (Option.isSome_iff_exists.mpr ⟨session, loaded⟩)
      rw [← List.take_append_drop limit members] at member ordered
      cases List.mem_append.mp member with
      | inl inside => exact (outside inside).elim
      | inr later =>
          exact (List.pairwise_append.mp ordered).2.2 shown inside id later other session
            otherLoaded loaded

end RedisSessionStore

/-! ## After every sequence of calls -/

/-- The listing shows the newest sessions if and only if no expired session that has not been
removed takes the place of one of them. -/
theorem redis_listSessions_shows_newest_iff (config : SessionStoreConfig)
    (calls : List (Nat × StoreCall)) (time limit : Nat) (positive : 1 ≤ limit) :
    RedisSessionStore.ShowsNewest ((redisBackend config).after calls).store time limit
        ((redisBackend config).exec time (.listSessions limit)
          ((redisBackend config).after calls).store).2 ↔
      RedisSessionStore.WindowSuffices ((redisBackend config).after calls).store time limit :=
  (RedisSessionStore.indexed_after config calls).showsNewest_iff positive

/-- Two sessions, the second created later. -/
def twoSessions : List (Nat × StoreCall) := [(0, .createSession 7 {}), (1, .createSession 8 {})]

theorem redis_listSessions_shows_second_session :
    RedisSessionStore.ShowsNewest ((redisBackend ⟨1000, 500⟩).after twoSessions).store 5 1
      ((redisBackend ⟨1000, 500⟩).exec 5 (.listSessions 1)
        ((redisBackend ⟨1000, 500⟩).after twoSessions).store).2 := by
  apply (redis_listSessions_shows_newest_iff ⟨1000, 500⟩ twoSessions 5 1 (by decide)).mpr
  left
  have keyed : ∀ id ∈ RedisSessionStore.window
      ((redisBackend ⟨1000, 500⟩).after twoSessions).store 1,
      (RedisSessionStore.loadSession 5
        ((redisBackend ⟨1000, 500⟩).after twoSessions).store id).isSome = true := by
    decide
  exact keyed

/-- The second session is made to expire early.  Its entry fills the window, and the first session
is not shown. -/
theorem redis_listSessions_hides_first_session :
    ¬∀ (config : SessionStoreConfig) (calls : List (Nat × StoreCall)) (time limit : Nat),
      1 ≤ limit →
        RedisSessionStore.ShowsNewest ((redisBackend config).after calls).store time limit
          ((redisBackend config).exec time (.listSessions limit)
            ((redisBackend config).after calls).store).2 := by
  intro always
  let calls := twoSessions ++ [(1, .call (.mutate 8 (.update { expiresAt := some 2 })))]
  let store : RedisSessionStore := ((redisBackend ⟨1000, 500⟩).after calls).store
  have indexed : store.Indexed := RedisSessionStore.indexed_after ⟨1000, 500⟩ calls
  have shows : store.ShowsNewest 5 1 (store.listSessions 5 1) :=
    always ⟨1000, 500⟩ calls 5 1 (by decide)
  have nothing : store.listSessions 5 1 = [] := by
    rfl
  have present : (store.loadSession 5 7).isSome = true := by
    rfl
  have one : 0 < (store.sessionsCreated.members.reverse.filter
      fun id => (store.loadSession 5 id).isSome).length :=
    List.length_pos_of_mem
      (List.mem_filter.mpr ⟨indexed.mem_members_of_live present, present⟩)
  have count := shows.count
  rw [nothing, indexed.ncard_live, List.length_nil] at count
  exact absurd count (Nat.ne_of_lt (Nat.lt_min.mpr ⟨Nat.one_pos, one⟩))

end RemoteBrowser
