import RemoteBrowser.Session.Expiry
import RemoteBrowser.Sorting.Rank

/-!
# What the listings show

`listSessions(limit)` shows the newest sessions.  The in-memory store sorts its sessions; the
Redis store reads the first entries of an index, and the entry of a session stays there when the
session's key has expired.  So a stored session is shown exactly if few enough others, or entries
of others, are newer.
-/

namespace RemoteBrowser

open Redis

/-! ## Entries of a sorted set -/

namespace Redis

variable {α : Type} [LinearOrder α]

instance : Std.Refl (Function.swap (Scored.Before : Scored α → Scored α → Prop)) where
  refl _ := .inr ⟨rfl, le_rfl⟩

instance : Std.Antisymm (Function.swap (Scored.Before : Scored α → Scored α → Prop)) where
  antisymm left right := by
    obtain ⟨score, member⟩ := left
    obtain ⟨other, another⟩ := right
    rintro (less | ⟨same, below⟩) (greater | ⟨same', above⟩)
    · exact absurd (less.trans greater) (lt_irrefl _)
    · exact absurd same' less.ne'
    · exact absurd same greater.ne'
    · simp only at same below above
      rw [same, le_antisymm below above]

instance : DecidableRel (Function.swap (Scored.Before : Scored α → Scored α → Prop)) :=
  fun left right => inferInstanceAs (Decidable (right.Before left))

namespace SortedSet

variable {set : SortedSet α} {score other : Nat} {member : α}

theorem nodup_entries (set : SortedSet α) : set.entries.Nodup := .of_map _ set.unique

theorem score_eq (listed : ⟨score, member⟩ ∈ set.entries)
    (again : ⟨other, member⟩ ∈ set.entries) : score = other := by
  have same := List.inj_on_of_nodup_map set.unique listed again rfl
  cases same
  rfl

/-- Adding an entry that is there changes nothing. -/
theorem perm_add (listed : ⟨score, member⟩ ∈ set.entries) :
    (set.add score member).entries.Perm set.entries := by
  refine (List.perm_ext_iff_of_nodup (nodup_entries _) set.nodup_entries).mpr fun entry => ?_
  rw [mem_add]
  constructor
  · rintro (rfl | ⟨present, -⟩)
    · exact listed
    · exact present
  · intro present
    by_cases same : entry.member = member
    · left
      subst same
      rw [score_eq listed present]
    · exact .inr ⟨present, same⟩

/-- The first entries of the reversed order. -/
theorem mem_take_reverse_members {limit : Nat} (listed : ⟨score, member⟩ ∈ set.entries) :
    member ∈ set.members.reverse.take limit ↔
      set.entries.countP (¬Scored.Before · ⟨score, member⟩) < limit := by
  have entry : member ∈ set.members.reverse.take limit ↔
      ⟨score, member⟩ ∈ set.entries.reverse.take limit := by
    rw [members, ← List.map_reverse, ← List.map_take, List.mem_map]
    constructor
    · rintro ⟨entry, shown, rfl⟩
      have present := List.mem_reverse.mp (List.mem_of_mem_take shown)
      rwa [score_eq listed present]
    · exact fun shown => ⟨_, shown, rfl⟩
  have sorted : set.entries.reverse.Pairwise (Function.swap Scored.Before) :=
    List.pairwise_reverse.mpr set.sorted
  have present : (⟨score, member⟩ : Scored α) ∈ set.entries.reverse := List.mem_reverse.mpr listed
  rw [entry, Sorting.mem_take_iff_of_pairwise sorted present, List.countP_reverse]

end SortedSet

end Redis

/-! ## Redis -/

namespace RedisSessionStore

/-- Every key holds the session of its identifier, and both indexes list it. -/
def Indexed (store : RedisSessionStore) : Prop :=
  ∀ id entry, store.sessions id = some entry → entry.value.id = id ∧
    ⟨entry.value.createdAt, id⟩ ∈ store.sessionsCreated.entries ∧
    ⟨entry.value.expiresAt, id⟩ ∈ store.sessionsExpires.entries

variable {store : RedisSessionStore} {now : Nat} {id : SessionId} {session : Session}

theorem Indexed.of_load (indexed : store.Indexed)
    (loaded : store.loadSession now id = some session) : session.id = id ∧
      ⟨session.createdAt, id⟩ ∈ store.sessionsCreated.entries ∧
      ⟨session.expiresAt, id⟩ ∈ store.sessionsExpires.entries := by
  obtain ⟨entry, slot, -, rfl⟩ := Entry.read_eq_some.mp loaded
  exact indexed id entry slot

theorem Indexed.save (indexed : store.Indexed) (now : Nat) (session : Session) :
    (store.saveSession now session.id session).Indexed := by
  intro id entry slot
  by_cases same : id = session.id
  · subst same
    simp only [saveSession, Function.update_self, Entry.save] at slot
    split at slot
    · cases slot
    · cases slot
      exact ⟨rfl, SortedSet.mem_add.mpr (.inl rfl), SortedSet.mem_add.mpr (.inl rfl)⟩
  · simp only [saveSession, Function.update_of_ne same] at slot
    obtain ⟨keyed, created, expires⟩ := indexed id entry slot
    exact ⟨keyed, SortedSet.mem_add.mpr (.inr ⟨created, same⟩),
      SortedSet.mem_add.mpr (.inr ⟨expires, same⟩)⟩

theorem Indexed.remove (indexed : store.Indexed) (id : SessionId) :
    (store.remove id).Indexed := by
  intro other entry slot
  by_cases same : other = id
  · simp [RedisSessionStore.remove, same] at slot
  · simp only [RedisSessionStore.remove, Function.update_of_ne same] at slot
    obtain ⟨keyed, created, expires⟩ := indexed other entry slot
    exact ⟨keyed, SortedSet.mem_remove.mpr ⟨created, same⟩,
      SortedSet.mem_remove.mpr ⟨expires, same⟩⟩

theorem Indexed.exec (indexed : store.Indexed) (config : SessionStoreConfig) (now : Nat)
    (op : SessionOp) : (RedisSessionStore.exec config now op store).1.Indexed := by
  cases op with
  | mutate id mutation =>
      simp only [RedisSessionStore.exec, runSessionMutation]
      split
      · exact indexed
      · next session loaded =>
          have saved := indexed.save now (mutation.apply now session)
          rwa [SessionMutation.apply_id, (indexed.of_load loaded).1] at saved
  | releaseSocketOwnership id role owner =>
      simp only [RedisSessionStore.exec, releaseSocketOwnership]
      split
      · exact indexed
      · next session loaded =>
          split
          · have saved := indexed.save now (session.releaseSocketOwnership now role)
            have key : (session.releaseSocketOwnership now role).id = id := by
              cases role <;> exact (indexed.of_load loaded).1
            rwa [key] at saved
          · exact indexed
  | addPendingSignal id role payload =>
      simp only [RedisSessionStore.exec, addPendingSignal]
      split <;> exact indexed
  | acquireTerminationLock id ttlMs =>
      simp only [RedisSessionStore.exec, acquireTerminationLock]
      split <;> exact indexed
  | remove id => exact indexed.remove id
  | _ => exact indexed

theorem indexed_after (config : SessionStoreConfig) (calls : List (Nat × StoreCall)) :
    Indexed ((redisBackend config).after calls).store :=
  SessionBackend.after_invariant (redisBackend config) (fun store _ => Indexed store)
    (fun _ _ slot => by simp [redisBackend, empty] at slot)
    (fun _ _ now id input indexed => indexed.save now (buildSession id now _ input))
    (fun _ _ now op indexed => indexed.exec config now op) calls

/-- How many entries of the index are newer than the session. -/
def newer (store : RedisSessionStore) (session : Session) : Nat :=
  store.sessionsCreated.entries.countP (¬Scored.Before · ⟨session.createdAt, session.id⟩)

theorem newer_saveSession (indexed : store.Indexed)
    (loaded : store.loadSession now id = some session) {changed : Session}
    (sameId : changed.id = session.id) (sameTime : changed.createdAt = session.createdAt)
    (other : Session) : (store.saveSession now id changed).newer other = store.newer other := by
  obtain ⟨rfl, created, -⟩ := indexed.of_load loaded
  refine (SortedSet.perm_add ?_).countP_eq _
  rwa [sameId, sameTime]

theorem mem_listSessions_iff (indexed : store.Indexed)
    (loaded : store.loadSession now id = some session) {limit : Nat} (positive : 0 < limit) :
    session ∈ store.listSessions now limit ↔ store.newer session < limit := by
  obtain ⟨rfl, created, -⟩ := indexed.of_load loaded
  have enough : max limit 1 = limit := max_eq_left positive
  rw [newer, ← SortedSet.mem_take_reverse_members created, listSessions, enough,
    List.mem_filterMap]
  constructor
  · rintro ⟨other, shown, same⟩
    rwa [(indexed.of_load same).1]
  · exact fun shown => ⟨session.id, shown, loaded⟩

/-- The listing is in the order of the places in the index. -/
theorem pairwise_listSessions (indexed : store.Indexed) (limit : Nat) :
    (store.listSessions now limit).Pairwise fun left right =>
      store.newer left < store.newer right := by
  have sorted : store.sessionsCreated.entries.reverse.Pairwise (Function.swap Scored.Before) :=
    List.pairwise_reverse.mpr store.sessionsCreated.sorted
  have place {entry : Scored SessionId} (listed : entry ∈ store.sessionsCreated.entries.reverse)
      {session : Session} (loaded : store.loadSession now entry.member = some session) :
      store.newer session = store.sessionsCreated.entries.reverse.idxOf entry := by
    obtain ⟨same, created, -⟩ := indexed.of_load loaded
    have score := SortedSet.score_eq created (List.mem_reverse.mp listed)
    rw [Sorting.idxOf_of_pairwise sorted listed, List.countP_reverse, newer, score, same]
  have places := (Sorting.pairwise_idxOf
    (List.nodup_reverse.mpr store.sessionsCreated.nodup_entries)).sublist
      (List.take_sublist (max limit 1) _)
  rw [listSessions, SortedSet.members, ← List.map_reverse, ← List.map_take, List.filterMap_map,
    List.pairwise_filterMap]
  refine places.imp_of_mem fun {left right} first second less => ?_
  intro one loaded two again
  rwa [place (List.mem_of_mem_take first) loaded, place (List.mem_of_mem_take second) again]

theorem mem_listExpired_iff (indexed : store.Indexed)
    (loaded : store.loadSession now id = some session) {bound : Nat} :
    session ∈ store.listExpired now bound ↔ session.expiresAt ≤ bound := by
  obtain ⟨rfl, -, expires⟩ := indexed.of_load loaded
  rw [listExpired, List.mem_filterMap]
  constructor
  · rintro ⟨other, due, same⟩
    obtain ⟨score, listed, early⟩ := SortedSet.mem_membersUpTo.mp due
    obtain ⟨rfl, -, again⟩ := indexed.of_load same
    rwa [SortedSet.score_eq expires listed]
  · exact fun due => ⟨session.id, SortedSet.mem_membersUpTo.mpr ⟨_, expires, due⟩, loaded⟩

theorem Indexed.load_of_mem (indexed : store.Indexed) {ids : List SessionId}
    (listed : session ∈ ids.filterMap (store.loadSession now)) :
    store.loadSession now session.id = some session := by
  obtain ⟨other, -, loaded⟩ := List.mem_filterMap.mp listed
  rwa [(indexed.of_load loaded).1]

/-- Sessions loaded for different identifiers are different. -/
theorem Indexed.distinct (indexed : store.Indexed) {ids : List SessionId} (unique : ids.Nodup) :
    ((ids.filterMap (store.loadSession now)).map Session.id).Nodup := by
  have keys : (ids.filterMap (store.loadSession now)).map Session.id =
      ids.filter fun id => (store.loadSession now id).isSome := by
    induction ids with
    | nil => rfl
    | cons id rest ih =>
        cases loaded : store.loadSession now id with
        | none => simp [loaded, ih (List.nodup_cons.mp unique).2]
        | some session =>
            simp [loaded, ih (List.nodup_cons.mp unique).2, (indexed.of_load loaded).1]
  rw [keys]
  exact unique.filter _

end RedisSessionStore

/-! ## Memory -/

namespace MemorySessionStore

variable {store : MemorySessionStore} {id : SessionId} {session : Session}

/-- Every key holds the session of its identifier. -/
def Keyed (store : MemorySessionStore) : Prop :=
  ∀ id session, store.lookup id = some session → session.id = id

theorem keyed_after (config : SessionStoreConfig) (calls : List (Nat × StoreCall)) :
    Keyed ((memoryBackend config).after calls).store :=
  (agrees_after config calls).keyed

theorem mem_sessions_iff : (id, session) ∈ store.sessions ↔ store.lookup id = some session := by
  obtain ⟨sessions, unique, pendingSignals, terminationLocks⟩ := store
  simp only [lookup]
  induction sessions with
  | nil => simp
  | cons entry rest ih =>
      obtain ⟨key, value⟩ := entry
      obtain ⟨fresh, restUnique⟩ := List.nodup_cons.mp unique
      by_cases same : id = key
      · subst same
        have absent : (id, session) ∉ rest := fun listed =>
          fresh (List.mem_map.mpr ⟨_, listed, rfl⟩)
        simp [absent, eq_comm]
      · have differs : (id == key) = false := beq_false_of_ne same
        simp [List.lookup_cons, same, differs, ih restUnique]

theorem sessions_set_of_not_mem (absent : id ∉ store.sessions.map Prod.fst) :
    (store.set id session).sessions = store.sessions ++ [(id, session)] := by
  rw [set, dif_neg absent]

/-- The order of the listing, on identifiers with their times of creation. -/
def Newer (left right : SessionId × Nat) : Prop := right.2 ≤ left.2

instance : DecidableRel Newer := fun left right => inferInstanceAs (Decidable (right.2 ≤ left.2))

instance : Std.Total Newer where
  total left right := le_total right.2 left.2

instance : IsTrans (SessionId × Nat) Newer where
  trans _ _ _ first second := le_trans second first

/-- The identifiers with their times of creation. -/
def creations (store : MemorySessionStore) : List (SessionId × Nat) :=
  store.sessions.map fun entry => (entry.1, entry.2.createdAt)

/-- How many sessions the listing puts before the session. -/
def newer (store : MemorySessionStore) (session : Session) : Nat :=
  Sorting.ahead Newer (session.id, session.createdAt) store.creations

theorem creations_replace (found : store.lookup id = some session) {changed : Session}
    (sameTime : changed.createdAt = session.createdAt) :
    (store.replace id changed).creations = store.creations := by
  rw [creations, creations, replace, List.map_map]
  refine List.map_congr_left fun entry listed => ?_
  by_cases same : entry.1 = id
  · have present := mem_sessions_iff.mp listed
    rw [same, found] at present
    cases present
    simp [same, sameTime]
  · simp [same]

theorem nodup_creations (store : MemorySessionStore) : store.creations.Nodup := by
  refine .of_map Prod.fst ?_
  rw [creations, List.map_map]
  exact store.unique

theorem Keyed.map_id (keyed : store.Keyed) :
    (store.sessions.map Prod.snd).map Session.id = store.sessions.map Prod.fst := by
  rw [List.map_map]
  refine List.map_congr_left fun entry listed => ?_
  exact keyed entry.1 entry.2 (mem_sessions_iff.mp listed)

theorem Keyed.map_creation (keyed : store.Keyed) :
    (store.sessions.map Prod.snd).map (fun session => (session.id, session.createdAt)) =
      store.creations := by
  rw [List.map_map]
  refine List.map_congr_left fun entry listed => ?_
  exact Prod.ext (keyed entry.1 entry.2 (mem_sessions_iff.mp listed)) rfl

/-- Stored sessions with the same identifier are the same. -/
theorem Keyed.eq_of_id (keyed : store.Keyed) {other : Session}
    (listed : session ∈ store.sessions.map Prod.snd) (again : other ∈ store.sessions.map Prod.snd)
    (same : session.id = other.id) : session = other := by
  refine List.inj_on_of_nodup_map ?_ listed again same
  rw [keyed.map_id]
  exact store.unique

theorem Keyed.lookup_of_mem (keyed : store.Keyed)
    (listed : session ∈ store.sessions.map Prod.snd) : store.lookup session.id = some session := by
  obtain ⟨⟨id, value⟩, member, rfl⟩ := List.mem_map.mp listed
  have found := mem_sessions_iff.mp member
  rwa [keyed id value found]

/-- Sessions listed from the store have distinct identifiers. -/
theorem Keyed.nodup_of_subperm (keyed : store.Keyed) {sessions : List Session}
    (listed : sessions.Subperm (store.sessions.map Prod.snd)) :
    (sessions.map Session.id).Nodup := by
  have unique : ((store.sessions.map Prod.snd).map Session.id).Nodup := by
    rw [keyed.map_id]
    exact store.unique
  obtain ⟨inner, perm, sublist⟩ := listed
  exact (perm.map Session.id).nodup_iff.mp (unique.sublist (sublist.map _))

theorem Keyed.map_insertionSort (keyed : store.Keyed) :
    (((store.sessions.map Prod.snd).insertionSort fun left right =>
      right.createdAt ≤ left.createdAt).map fun session => (session.id, session.createdAt)) =
      store.creations.insertionSort Newer := by
  rw [← keyed.map_creation]
  exact List.map_insertionSort _ _ _ _ fun _ _ _ _ => Iff.rfl

theorem mem_listSessions_iff (keyed : store.Keyed) (found : store.lookup id = some session)
    {limit : Nat} : session ∈ store.listSessions limit ↔ store.newer session < limit := by
  have member : session ∈ store.sessions.map Prod.snd :=
    List.mem_map.mpr ⟨_, mem_sessions_iff.mpr found, rfl⟩
  have perm := List.perm_insertionSort (fun left right : Session =>
    right.createdAt ≤ left.createdAt) (store.sessions.map Prod.snd)
  have sorted := keyed.map_insertionSort
  have creation : (session.id, session.createdAt) ∈ store.creations := by
    rw [← keyed.map_creation]
    exact List.mem_map.mpr ⟨session, member, rfl⟩
  have shown : session ∈ store.listSessions limit ↔
      (session.id, session.createdAt) ∈ (store.creations.insertionSort Newer).take limit := by
    rw [← sorted, ← List.map_take, listSessions, List.mem_map]
    constructor
    · exact fun listed => ⟨session, listed, rfl⟩
    · rintro ⟨other, listed, same⟩
      have stored := perm.mem_iff.mp (List.mem_of_mem_take listed)
      rwa [keyed.eq_of_id member stored (Prod.mk.inj same).1.symm]
  rw [shown, newer, Sorting.mem_take_insertionSort_iff store.nodup_creations creation]

/-- The listing is in the order of the places after the sort. -/
theorem pairwise_listSessions (keyed : store.Keyed) (limit : Nat) :
    (store.listSessions limit).Pairwise fun left right => store.newer left < store.newer right := by
  have places := @Sorting.pairwise_ahead _ _ Newer _ _ _ _ store.nodup_creations
  rw [← keyed.map_insertionSort, List.pairwise_map] at places
  exact places.sublist (List.take_sublist limit _)

theorem mem_listExpired_iff (found : store.lookup id = some session) {bound : Nat} :
    session ∈ store.listExpired bound ↔ session.expiresAt ≤ bound := by
  have member : session ∈ store.sessions.map Prod.snd :=
    List.mem_map.mpr ⟨_, mem_sessions_iff.mpr found, rfl⟩
  simp only [listExpired, List.mem_filter, member, true_and, decide_eq_true_eq]

end MemorySessionStore

end RemoteBrowser
