import RemoteBrowser.Session.Store

/-!
# Finding expired sessions

`listExpired` feeds the expiry timer.  What it ought to find is what the callers
of the store know: the sessions that were created and not removed, each with the
`expiresAt` of the last record that a call returned for it.  The in-memory
store finds them all.  In Redis the session key itself expires at `expiresAt`, so
the join of the expiry index with the keys drops a session as soon as it is due.
-/

namespace RemoteBrowser

open Redis

/-! ## What callers know -/

/-- The last `expiresAt` reported for a session and when it was written. -/
structure Lease where
  expiresAt : Nat
  savedAt : Nat
  deriving DecidableEq

/-- The sessions created and not removed, as the replies of a store report them. -/
abbrev Ledger := SessionId → Option Lease

namespace Ledger

/-- A session was created or written at time `now`. -/
def write (now : Nat) (ledger : Ledger) (id : SessionId) (session : Session) : Ledger :=
  Function.update ledger id (some ⟨session.expiresAt, now⟩)

@[simp] theorem write_self (now : Nat) (ledger : Ledger) (id : SessionId)
    (session : Session) : ledger.write now id session id = some ⟨session.expiresAt, now⟩ :=
  Function.update_self ..

theorem write_of_ne (now : Nat) (ledger : Ledger) {id other : SessionId}
    (session : Session) (different : other ≠ id) :
    ledger.write now id session other = ledger other :=
  Function.update_of_ne different ..

/-- Account for one call and its reply. -/
def record (now : Nat) (ledger : Ledger) : (op : SessionOp) → op.Reply → Ledger
  | .mutate id _, some session => ledger.write now id session
  | .releaseSocketOwnership id _ _, true =>
      Function.update ledger id ((ledger id).map fun lease => { lease with savedAt := now })
  | .remove id, _ => Function.update ledger id none
  | _, _ => ledger

end Ledger

/-- A call of the session store. -/
inductive StoreCall where
  | createSession (id : SessionId) (input : SessionInput)
  | call (op : SessionOp)

/-- A store backend: its states and its atomic calls at a given time. -/
structure SessionBackend where
  Store : Type
  empty : Store
  create : Nat → Store → SessionId → SessionInput → Store × Session
  exec : Nat → (op : SessionOp) → Store → Store × op.Reply

def memoryBackend (config : SessionStoreConfig) : SessionBackend :=
  ⟨MemorySessionStore, .empty, MemorySessionStore.createSession config,
    MemorySessionStore.exec config⟩

def redisBackend (config : SessionStoreConfig) : SessionBackend :=
  ⟨RedisSessionStore, .empty, RedisSessionStore.createSession config,
    RedisSessionStore.exec config⟩

namespace SessionBackend

/-- A store with the ledger of the calls made on it. -/
structure Tracked (backend : SessionBackend) where
  store : backend.Store
  ledger : Ledger

variable {backend : SessionBackend}

/-- One timed call. -/
def Tracked.call (tracked : Tracked backend) : Nat × StoreCall → Tracked backend
  | (now, .createSession id input) =>
      let result := backend.create now tracked.store id input
      ⟨result.1, tracked.ledger.write now id result.2⟩
  | (now, .call op) =>
      let result := backend.exec now op tracked.store
      ⟨result.1, tracked.ledger.record now op result.2⟩

/-- The store after a sequence of timed calls. -/
def after (backend : SessionBackend) (calls : List (Nat × StoreCall)) : Tracked backend :=
  calls.foldl Tracked.call ⟨backend.empty, fun _ => none⟩

theorem after_append (backend : SessionBackend) (calls : List (Nat × StoreCall))
    (call : Nat × StoreCall) :
    backend.after (calls ++ [call]) = (backend.after calls).call call := by
  rw [after, List.foldl_append]
  rfl

/-- `listExpired(now)`, called at `time`, returns every session that is created,
not removed and due. -/
def FindsExpired (backend : SessionBackend) (calls : List (Nat × StoreCall))
    (time now : Nat) : Prop :=
  ∀ id lease, (backend.after calls).ledger id = some lease → lease.expiresAt ≤ now →
    ∃ session : Session,
      session ∈ (backend.exec time (.listExpired now) (backend.after calls).store).2 ∧
      session.id = id

/-- A relation between store and ledger that every call keeps holds after any
sequence of calls. -/
theorem after_invariant (backend : SessionBackend) (inv : backend.Store → Ledger → Prop)
    (initially : inv backend.empty fun _ => none)
    (created : ∀ store ledger now id input, inv store ledger →
      inv (backend.create now store id input).1
        (ledger.write now id (backend.create now store id input).2))
    (kept : ∀ store ledger now op, inv store ledger →
      inv (backend.exec now op store).1
        (ledger.record now op (backend.exec now op store).2))
    (calls : List (Nat × StoreCall)) :
    inv (backend.after calls).store (backend.after calls).ledger := by
  suffices general : ∀ tracked : Tracked backend, inv tracked.store tracked.ledger →
      inv (calls.foldl Tracked.call tracked).store
        (calls.foldl Tracked.call tracked).ledger from
    general ⟨backend.empty, fun _ => none⟩ initially
  induction calls with
  | nil => exact fun _ holds => holds
  | cons timed rest ih =>
      intro tracked holds
      obtain ⟨now, call⟩ := timed
      cases call with
      | createSession id input => exact ih _ (created _ _ now id input holds)
      | call op => exact ih _ (kept _ _ now op holds)

end SessionBackend

/-! ## Redis -/

namespace RedisSessionStore

/-- The slot of a session that was last written as its lease says. -/
def Saved (id : SessionId) (lease : Lease) (slot : Option (Entry Session)) : Prop :=
  ∃ session : Session, session.id = id ∧ session.expiresAt = lease.expiresAt ∧
    slot = Entry.save lease.savedAt session lease.expiresAt

/-- Keys and expiry index hold exactly what the ledger says. -/
structure Agrees (store : RedisSessionStore) (ledger : Ledger) : Prop where
  absent : ∀ id, ledger id = none → store.sessions id = none
  saved : ∀ id lease, ledger id = some lease → Saved id lease (store.sessions id)
  indexed : ∀ id lease, ledger id = some lease →
    ⟨lease.expiresAt, id⟩ ∈ store.sessionsExpires.entries

variable {store : RedisSessionStore} {ledger : Ledger}

/-- A readable session carries its own key and is in the ledger. -/
theorem Agrees.of_load (agrees : store.Agrees ledger) {now : Nat} {id : SessionId}
    {session : Session} (loaded : store.loadSession now id = some session) :
    session.id = id ∧ ∃ lease, ledger id = some lease ∧
      session.expiresAt = lease.expiresAt := by
  cases known : ledger id with
  | none => simp [loadSession, agrees.absent id known] at loaded
  | some lease =>
      obtain ⟨written, sameId, sameExpiry, slot⟩ := agrees.saved id lease known
      simp only [loadSession, slot, Entry.save] at loaded
      split at loaded
      · simp at loaded
      · obtain ⟨entry, same, -, value⟩ := Entry.read_eq_some.mp loaded
        cases same
        exact value ▸ ⟨sameId, lease, rfl, sameExpiry⟩

/-- Writing a session under its own key updates key, index and ledger together. -/
theorem Agrees.save (agrees : store.Agrees ledger) (now : Nat) (session : Session) :
    (store.saveSession now session.id session).Agrees
      (ledger.write now session.id session) where
  absent id missing := by
    by_cases same : id = session.id
    · rw [same, Ledger.write_self] at missing
      simp at missing
    · rw [Ledger.write_of_ne now ledger session same] at missing
      simpa [saveSession, Function.update_of_ne same] using agrees.absent id missing
  saved id lease known := by
    by_cases same : id = session.id
    · subst same
      simp only [Ledger.write_self, Option.some.injEq] at known
      subst known
      exact ⟨session, rfl, rfl, by simp [saveSession]⟩
    · rw [Ledger.write_of_ne now ledger session same] at known
      simpa [saveSession, Function.update_of_ne same] using agrees.saved id lease known
  indexed id lease known := by
    by_cases same : id = session.id
    · subst same
      simp only [Ledger.write_self, Option.some.injEq] at known
      subst known
      exact SortedSet.mem_add.mpr (.inl rfl)
    · rw [Ledger.write_of_ne now ledger session same] at known
      exact SortedSet.mem_add.mpr (.inr ⟨agrees.indexed id lease known, same⟩)

theorem Agrees.remove (agrees : store.Agrees ledger) (id : SessionId) :
    (store.remove id).Agrees (Function.update ledger id none) where
  absent other missing := by
    by_cases same : other = id
    · simp [RedisSessionStore.remove, same]
    · simp only [Function.update_of_ne same] at missing
      simpa [RedisSessionStore.remove, Function.update_of_ne same]
        using agrees.absent other missing
  saved other lease known := by
    by_cases same : other = id
    · simp [same] at known
    · simp only [Function.update_of_ne same] at known
      simpa [RedisSessionStore.remove, Function.update_of_ne same]
        using agrees.saved other lease known
  indexed other lease known := by
    by_cases same : other = id
    · simp [same] at known
    · simp only [Function.update_of_ne same] at known
      exact SortedSet.mem_remove.mpr ⟨agrees.indexed other lease known, same⟩

/-- The relation depends on the session keys and the expiry index only. -/
theorem Agrees.congr {other : RedisSessionStore} (agrees : store.Agrees ledger)
    (keys : other.sessions = store.sessions)
    (index : other.sessionsExpires = store.sessionsExpires) : other.Agrees ledger where
  absent id missing := by rw [keys]; exact agrees.absent id missing
  saved id lease known := by rw [keys]; exact agrees.saved id lease known
  indexed id lease known := by rw [index]; exact agrees.indexed id lease known

theorem Agrees.exec (config : SessionStoreConfig) (now : Nat) (op : SessionOp)
    (agrees : store.Agrees ledger) :
    (RedisSessionStore.exec config now op store).1.Agrees
      (ledger.record now op (RedisSessionStore.exec config now op store).2) := by
  cases op with
  | mutate id mutation =>
      cases loaded : store.loadSession now id with
      | none =>
          simpa only [RedisSessionStore.exec, runSessionMutation, loaded, Ledger.record]
            using agrees
      | some session =>
          have sameId : session.id = id := (agrees.of_load loaded).1
          have saved := agrees.save now (mutation.apply now session)
          rw [SessionMutation.apply_id, sameId] at saved
          simpa only [RedisSessionStore.exec, runSessionMutation, loaded, Ledger.record]
            using saved
  | releaseSocketOwnership id role owner =>
      cases loaded : store.loadSession now id with
      | none =>
          simpa only [RedisSessionStore.exec, releaseSocketOwnership, loaded, Ledger.record]
            using agrees
      | some session =>
          by_cases owns : session.socketOwner role = some owner
          · obtain ⟨sameId, lease, known, sameExpiry⟩ := agrees.of_load loaded
            have saved := agrees.save now (session.releaseSocketOwnership now role)
            have expiry : (session.releaseSocketOwnership now role).expiresAt =
                lease.expiresAt := by simp [Session.releaseSocketOwnership, sameExpiry]
            have key : (session.releaseSocketOwnership now role).id = id := by
              cases role <;> exact sameId
            rw [key, Ledger.write, expiry] at saved
            simpa [RedisSessionStore.exec, releaseSocketOwnership, loaded, owns,
              Ledger.record, known] using saved
          · simpa only [RedisSessionStore.exec, releaseSocketOwnership, loaded, owns,
              if_false, Ledger.record] using agrees
  | addPendingSignal id role payload =>
      refine agrees.congr ?_ ?_ <;>
        (simp only [RedisSessionStore.exec, addPendingSignal]; split <;> rfl)
  | acquireTerminationLock id ttlMs =>
      refine agrees.congr ?_ ?_ <;>
        (simp only [RedisSessionStore.exec, acquireTerminationLock]; split <;> rfl)
  | drainPendingSignals id role => exact agrees.congr rfl rfl
  | remove id => exact agrees.remove id
  | _ => exact agrees

/-- Whether a due session is found depends on its own key alone. -/
theorem Agrees.listExpired_finds_iff (agrees : store.Agrees ledger) {id : SessionId}
    {lease : Lease} (known : ledger id = some lease) {time now : Nat}
    (due : lease.expiresAt ≤ now) :
    (∃ session ∈ store.listExpired time now, session.id = id) ↔
      lease.savedAt < lease.expiresAt ∧ time ≤ lease.expiresAt := by
  obtain ⟨written, sameId, -, slot⟩ := agrees.saved id lease known
  have readable := Entry.read_save lease.savedAt time lease.expiresAt written
  rw [← slot] at readable
  rw [← readable]
  constructor
  · rintro ⟨session, listed, rfl⟩
    obtain ⟨other, -, loaded⟩ := List.mem_filterMap.mp listed
    have same : session.id = other := (agrees.of_load loaded).1
    rw [← same, loadSession, slot] at loaded
    simp only [Entry.save] at loaded slot
    split at loaded
    · simp at loaded
    · next future =>
        rw [if_neg future] at slot
        obtain ⟨entry, same', live, -⟩ := Entry.read_eq_some.mp loaded
        cases same'
        exact Entry.read_eq_some.mpr ⟨_, slot, live, rfl⟩
  · intro loaded
    refine ⟨written, List.mem_filterMap.mpr ⟨id, ?_, loaded⟩, sameId⟩
    exact SortedSet.mem_membersUpTo.mpr ⟨lease.expiresAt, agrees.indexed id lease known, due⟩

end RedisSessionStore

/-! ## Memory -/

namespace MemorySessionStore

variable {store : MemorySessionStore} {ledger : Ledger}

theorem lookup_replace (store : MemorySessionStore) (id other : SessionId)
    (session : Session) :
    (store.replace id session).lookup other =
      if other = id then (store.lookup id).map fun _ => session else store.lookup other := by
  simp only [lookup, replace]
  induction store.sessions with
  | nil => simp
  | cons entry rest ih =>
      obtain ⟨key, value⟩ := entry
      by_cases isKey : key = id
      · by_cases isOther : other = key
        · simp [isKey, isOther]
        · have differs : (other == key) = false := beq_false_of_ne isOther
          subst isKey
          simpa [List.lookup_cons, differs, isOther] using ih
      · by_cases isOther : other = key
        · subst isOther
          simp [isKey]
        · have differs : (other == key) = false := beq_false_of_ne isOther
          have differs' : (id == key) = false := beq_false_of_ne (Ne.symm isKey)
          simpa [List.lookup_cons, differs, differs', isKey] using ih

theorem lookup_delete (store : MemorySessionStore) (id other : SessionId) :
    (store.delete id).lookup other = if other = id then none else store.lookup other := by
  simp only [lookup, delete]
  induction store.sessions with
  | nil => simp
  | cons entry rest ih =>
      obtain ⟨key, value⟩ := entry
      by_cases isKey : key = id
      · by_cases isOther : other = key
        · simpa [isKey, isOther] using ih
        · have differs : (other == key) = false := beq_false_of_ne isOther
          subst isKey
          simpa [List.lookup_cons, differs, isOther] using ih
      · by_cases isOther : other = key
        · subst isOther
          simp [isKey]
        · have differs : (other == key) = false := beq_false_of_ne isOther
          simpa [List.lookup_cons, differs, isKey] using ih

theorem lookup_set (store : MemorySessionStore) (id other : SessionId)
    (session : Session) :
    (store.set id session).lookup other =
      if other = id then some session else store.lookup other := by
  by_cases present : id ∈ store.sessions.map Prod.fst
  · have found : (store.lookup id).isSome := by
      simpa [lookup, List.lookup_isSome_iff] using present
    obtain ⟨old, isOld⟩ := Option.isSome_iff_exists.mp found
    rw [set, dif_pos present, lookup_replace, isOld]
    rfl
  · rw [set, dif_neg present]
    by_cases same : other = id
    · have missing : store.sessions.lookup id = none :=
        List.lookup_eq_none_iff.mpr fun entry member => bne_iff_ne.mpr fun equal =>
          present (List.mem_map.mpr ⟨entry, member, equal.symm⟩)
      simp [lookup, List.lookup_append, same, missing]
    · have differs : (other == id) = false := beq_false_of_ne same
      simp [lookup, List.lookup_append, List.lookup_cons, same, differs]

/-- Every session of the ledger is present under its key, with the last reported
expiry. -/
structure Agrees (store : MemorySessionStore) (ledger : Ledger) : Prop where
  keyed : ∀ id session, store.lookup id = some session → session.id = id
  present : ∀ id lease, ledger id = some lease →
    ∃ session, store.lookup id = some session ∧ session.expiresAt = lease.expiresAt

/-- Writing a session under its own key updates map and ledger together. -/
theorem Agrees.write (agrees : store.Agrees ledger) {after : MemorySessionStore}
    (session : Session) (now : Nat)
    (written : ∀ other, after.lookup other =
      if other = session.id then some session else store.lookup other) :
    after.Agrees (ledger.write now session.id session) where
  keyed id found stored := by
    rw [written] at stored
    split at stored
    · next same => cases stored; exact same.symm
    · exact agrees.keyed id found stored
  present id lease known := by
    rw [written]
    by_cases same : id = session.id
    · subst same
      simp only [Ledger.write_self, Option.some.injEq] at known
      subst known
      exact ⟨session, if_pos rfl, rfl⟩
    · rw [Ledger.write_of_ne now ledger session same] at known
      rw [if_neg same]
      exact agrees.present id lease known

theorem Agrees.replace (agrees : store.Agrees ledger) {id : SessionId} {old : Session}
    (session : Session) (found : store.lookup id = some old) (sameId : session.id = id)
    (now : Nat) :
    (store.replace id session).Agrees (ledger.write now id session) := by
  subst sameId
  refine agrees.write session now fun other => ?_
  rw [lookup_replace, found]
  rfl

theorem Agrees.remove (agrees : store.Agrees ledger) (id : SessionId) :
    (store.remove id).Agrees (Function.update ledger id none) where
  keyed other session stored := by
    have kept : (store.delete id).lookup other = some session := stored
    rw [lookup_delete] at kept
    split at kept
    · simp at kept
    · exact agrees.keyed other session kept
  present other lease known := by
    by_cases same : other = id
    · simp [same] at known
    · simp only [Function.update_of_ne same] at known
      obtain ⟨session, found, expiry⟩ := agrees.present other lease known
      refine ⟨session, ?_, expiry⟩
      exact (lookup_delete store id other).trans ((if_neg same).trans found)

theorem Agrees.exec (config : SessionStoreConfig) (now : Nat) (op : SessionOp)
    (agrees : store.Agrees ledger) :
    (MemorySessionStore.exec config now op store).1.Agrees
      (ledger.record now op (MemorySessionStore.exec config now op store).2) := by
  cases op with
  | mutate id mutation =>
      cases found : store.lookup id with
      | none =>
          simpa only [MemorySessionStore.exec, mutate, found, Ledger.record] using agrees
      | some session =>
          have sameId := agrees.keyed id session found
          have written := agrees.replace (mutation.apply now session) found
            (by rw [SessionMutation.apply_id, sameId]) now
          simpa only [MemorySessionStore.exec, mutate, found, Ledger.record] using written
  | releaseSocketOwnership id role owner =>
      cases found : store.lookup id with
      | none =>
          simpa only [MemorySessionStore.exec, releaseSocketOwnership, found,
            Ledger.record] using agrees
      | some session =>
          by_cases owns : session.socketOwner role = some owner
          · have sameId := agrees.keyed id session found
            have written := agrees.replace (session.releaseSocketOwnership now role) found
              (by cases role <;> exact sameId) now
            simp only [MemorySessionStore.exec, releaseSocketOwnership, found, owns,
              if_true, Ledger.record]
            refine ⟨written.keyed, fun other lease known => ?_⟩
            by_cases same : other = id
            · subst same
              simp only [Function.update_self, Option.map_eq_some_iff] at known
              obtain ⟨old, knownOld, rfl⟩ := known
              obtain ⟨stored, found', expiry⟩ := agrees.present other old knownOld
              rw [found] at found'
              cases found'
              obtain ⟨after, isAfter, expiry'⟩ := written.present other _
                (Ledger.write_self ..)
              exact ⟨after, isAfter, expiry'.trans
                (by simp [Session.releaseSocketOwnership, expiry])⟩
            · simp only [Function.update_of_ne same] at known
              exact written.present other lease
                ((Ledger.write_of_ne now ledger _ same).trans known)
          · simpa only [MemorySessionStore.exec, releaseSocketOwnership, found, owns,
              if_false, Ledger.record] using agrees
  | acquireTerminationLock id ttlMs =>
      simp only [MemorySessionStore.exec, acquireTerminationLock]
      split <;> exact ⟨agrees.keyed, agrees.present⟩
  | addPendingSignal id role payload => exact ⟨agrees.keyed, agrees.present⟩
  | drainPendingSignals id role => exact ⟨agrees.keyed, agrees.present⟩
  | remove id => exact agrees.remove id
  | _ => exact agrees

theorem Agrees.listExpired_finds (agrees : store.Agrees ledger) {id : SessionId}
    {lease : Lease} (known : ledger id = some lease) {now : Nat}
    (due : lease.expiresAt ≤ now) :
    ∃ session ∈ store.listExpired now, session.id = id := by
  obtain ⟨session, found, expiry⟩ := agrees.present id lease known
  obtain ⟨before, behind, split, -⟩ := List.lookup_eq_some_iff.mp found
  refine ⟨session, ?_, agrees.keyed id session found⟩
  simp [listExpired, split, expiry, due]

theorem agrees_after (config : SessionStoreConfig) (calls : List (Nat × StoreCall)) :
    Agrees ((memoryBackend config).after calls).store
      ((memoryBackend config).after calls).ledger :=
  SessionBackend.after_invariant (memoryBackend config) Agrees
    ⟨fun _ _ found => by simp [memoryBackend, empty, lookup] at found,
      fun _ _ known => by simp at known⟩
    (fun store _ now id input agrees =>
      agrees.write (buildSession id now config.sessionTtlMs input) now
        fun other => lookup_set store id other _)
    (fun _ _ now op agrees => agrees.exec config now op) calls

end MemorySessionStore

/-! ## Both backends -/

/-- The in-memory store always finds every due session.  The Redis store finds
them exactly when each was last written before its expiry and the search still
runs in time to read its key. -/
theorem findsExpired_memory_and_redis_iff (config : SessionStoreConfig)
    (calls : List (Nat × StoreCall)) (time now : Nat) :
    (memoryBackend config).FindsExpired calls time now ∧
    ((redisBackend config).FindsExpired calls time now ↔
      ∀ id lease, ((redisBackend config).after calls).ledger id = some lease →
        lease.expiresAt ≤ now →
        lease.savedAt < lease.expiresAt ∧ time ≤ lease.expiresAt) := by
  have memory := MemorySessionStore.agrees_after config calls
  have redis : RedisSessionStore.Agrees ((redisBackend config).after calls).store
      ((redisBackend config).after calls).ledger :=
    SessionBackend.after_invariant (redisBackend config) RedisSessionStore.Agrees
      ⟨fun _ _ => rfl, fun _ _ known => by simp at known, fun _ _ known => by simp at known⟩
      (fun _ _ now id input agrees =>
        agrees.save now (buildSession id now config.sessionTtlMs input))
      (fun _ _ now op agrees => agrees.exec config now op) calls
  refine ⟨fun id lease known due => memory.listExpired_finds known due, ?_⟩
  refine forall_congr' fun id => forall_congr' fun lease => ?_
  refine forall_congr' fun known => forall_congr' fun due => ?_
  exact redis.listExpired_finds_iff known due

/-- A session created at time 0 for one second is due at time 1001, but its Redis
key is gone and the search returns nothing. -/
theorem redis_listExpired_misses_expired_session :
    ¬∀ (config : SessionStoreConfig) (calls : List (Nat × StoreCall)) (now : Nat),
      (memoryBackend config).FindsExpired calls now now ∧
      (redisBackend config).FindsExpired calls now now := by
  intro always
  obtain ⟨session, listed, -⟩ :=
    (always ⟨1000, 500⟩ [(0, .createSession 7 {})] 1001).2 7 ⟨1000, 0⟩ rfl (by decide)
  have nothing : ((redisBackend ⟨1000, 500⟩).exec 1001 (.listExpired 1001)
    ((redisBackend ⟨1000, 500⟩).after [(0, .createSession 7 {})]).store).2 = [] := by decide
  rw [nothing] at listed
  exact List.not_mem_nil listed

end RemoteBrowser
