import Mathlib.Data.List.Induction
import RemoteBrowser.Session.Expiry

/-!
# Socket ownership

A registering socket claims its role on the session and a closing socket gives it
back.  A reconnect claims the role before the close of the superseded socket has
been handled, so the close must not clear the new owner.  What the stores should
show is stated over the calls alone: a connection owns the role when it is the last
that claimed it and has not released it since.
-/

namespace RemoteBrowser

open Redis

/-! ## What the calls say -/

namespace StoreCall

/-- A claim of the role by some connection. -/
def claim (id : SessionId) (role : Role) (owner : Connection) : StoreCall :=
  .call (.mutate id (.claimSocketOwnership role owner))

/-- A release of the role by some connection. -/
def release (id : SessionId) (role : Role) (owner : Connection) : StoreCall :=
  .call (.releaseSocketOwnership id role owner)

/-- The call neither removes the session nor creates it anew. -/
def Keeps (id : SessionId) : StoreCall → Prop
  | .createSession created _ => created ≠ id
  | .call (.remove removed) => removed ≠ id
  | .call _ => True

/-- The owner of the role after a call. -/
def ownerAfter (id : SessionId) (role : Role) (owner : Option Connection) :
    StoreCall → Option Connection
  | .call (.mutate target (.claimSocketOwnership claimed connection)) =>
      if target = id ∧ claimed = role then some connection else owner
  | .call (.releaseSocketOwnership target released connection) =>
      if target = id ∧ released = role ∧ owner = some connection then none else owner
  | _ => owner

/-- The record of a session after a call that finds it. -/
def recordAfter (now : Nat) (id : SessionId) (record : Session) : StoreCall → Session
  | .call (.mutate target mutation) =>
      if target = id then mutation.apply now record else record
  | .call (.releaseSocketOwnership target role owner) =>
      if target = id ∧ record.socketOwner role = some owner then
        record.releaseSocketOwnership now role
      else record
  | _ => record

theorem socketOwner_recordAfter (now : Nat) (id : SessionId) (role : Role) (record : Session)
    (call : StoreCall) :
    (call.recordAfter now id record).socketOwner role =
      call.ownerAfter id role (record.socketOwner role) := by
  cases call with
  | createSession created input => rfl
  | call op =>
      cases op with
      | mutate target mutation =>
          by_cases same : target = id
          · cases mutation with
            | claimSocketOwnership claimed connection =>
                simp only [recordAfter, ownerAfter, same, if_true, true_and]
                cases claimed <;> cases role <;> rfl
            | _ =>
                simp only [recordAfter, ownerAfter, same, if_true]
                cases role <;> rfl
          · cases mutation <;> simp [recordAfter, ownerAfter, same]
      | releaseSocketOwnership target released owner =>
          by_cases same : target = id
          · simp only [recordAfter, ownerAfter, same, true_and]
            by_cases owned : record.socketOwner released = some owner
            · simp only [owned, if_true]
              cases released <;> cases role <;>
                simp_all [Session.releaseSocketOwnership, Session.setSocketOwner,
                  Session.socketOwner]
            · simp only [owned, if_false]
              by_cases sameRole : released = role
              · simp [← sameRole, owned]
              · simp [sameRole]
          · simp [recordAfter, ownerAfter, same]
      | _ => rfl

end StoreCall

/-- The connection claimed the role, no connection has claimed it since, and this
one has not released it since. -/
def IsLastClaimer (id : SessionId) (role : Role) (calls : List (Nat × StoreCall))
    (owner : Connection) : Prop :=
  ∃ earlier time later, calls = earlier ++ (time, StoreCall.claim id role owner) :: later ∧
    ∀ timed ∈ later, (∀ other, timed.2 ≠ .claim id role other) ∧
      timed.2 ≠ .release id role owner

section LastClaimer

variable {id : SessionId} {role : Role} {calls : List (Nat × StoreCall)}
  {timed : Nat × StoreCall} {owner : Connection}

theorem not_isLastClaimer_nil : ¬ IsLastClaimer id role [] owner := by
  rintro ⟨earlier, time, later, split, -⟩
  simp at split

/-- The last claimer has claimed with the last call, or was it before and the call
leaves it alone. -/
theorem IsLastClaimer.last_or_before (claims : IsLastClaimer id role (calls ++ [timed]) owner) :
    timed.2 = .claim id role owner ∨
      IsLastClaimer id role calls owner ∧ (∀ other, timed.2 ≠ .claim id role other) ∧
        timed.2 ≠ .release id role owner := by
  obtain ⟨earlier, claimed, later, split, quiet⟩ := claims
  cases List.eq_nil_or_concat later with
  | inl none =>
      rw [none] at split
      have last := List.singleton_injective (List.append_inj_right' split rfl)
      exact .inl (congrArg Prod.snd last)
  | inr more =>
      obtain ⟨between, last, rfl⟩ := more
      rw [List.concat_eq_append, ← List.cons_append, ← List.append_assoc] at split
      have same := List.singleton_injective (List.append_inj_right' split rfl)
      have front := List.append_inj_left' split rfl
      rw [List.concat_eq_append] at quiet
      apply Or.inr
      constructor
      case left =>
        exact ⟨earlier, claimed, between, front, fun call member =>
          quiet call (List.mem_append_left _ member)⟩
      case right =>
        rw [same]
        exact quiet last (by simp)

/-- A claim by anybody makes the claimer the last one. -/
theorem isLastClaimer_claim {time : Nat} {claimer : Connection} :
    IsLastClaimer id role (calls ++ [(time, .claim id role claimer)]) owner ↔
      claimer = owner := by
  constructor
  case mp =>
    intro claims
    cases claims.last_or_before with
    | inl last => simpa [StoreCall.claim] using last
    | inr before => exact absurd rfl (before.2.1 claimer)
  case mpr =>
    rintro rfl
    exact ⟨calls, time, [], rfl, by simp⟩

/-- A call that is no claim of the role leaves the last claimer, unless it is that
connection's release. -/
theorem isLastClaimer_other (noClaim : ∀ other, timed.2 ≠ .claim id role other) :
    IsLastClaimer id role (calls ++ [timed]) owner ↔
      IsLastClaimer id role calls owner ∧ timed.2 ≠ .release id role owner := by
  constructor
  case mp =>
    intro claims
    cases claims.last_or_before with
    | inl last => exact absurd last (noClaim owner)
    | inr before => exact ⟨before.1, before.2.2⟩
  case mpr =>
    rintro ⟨⟨earlier, claimed, later, split, quiet⟩, noRelease⟩
    refine ⟨earlier, claimed, later ++ [timed], by rw [split]; simp, ?_⟩
    intro call member
    cases List.mem_append.mp member with
    | inl before => exact quiet call before
    | inr last =>
        rw [List.mem_singleton.mp last]
        exact ⟨noClaim, noRelease⟩

/-- A call that is no claim of the role keeps the owner unless the owner releases. -/
theorem StoreCall.ownerAfter_other {call : StoreCall} {current : Option Connection}
    (noClaim : ∀ other, call ≠ .claim id role other) :
    call.ownerAfter id role current = some owner ↔
      current = some owner ∧ call ≠ .release id role owner := by
  cases call with
  | createSession created input => simp [ownerAfter, release]
  | call op =>
      cases op with
      | mutate target mutation =>
          cases mutation with
          | claimSocketOwnership claimed connection =>
              have elsewhere : ¬ (target = id ∧ claimed = role) := by
                rintro ⟨rfl, rfl⟩
                exact noClaim connection rfl
              simp [ownerAfter, release, elsewhere]
          | _ => simp [ownerAfter, release]
      | releaseSocketOwnership target released connection =>
          by_cases gives : target = id ∧ released = role ∧ current = some connection
          · obtain ⟨rfl, rfl, rfl⟩ := gives
            simp [ownerAfter, release]
          · have stays : current = some owner →
                ¬ (target = id ∧ released = role ∧ connection = owner) := by
              rintro owned ⟨sameId, sameRole, rfl⟩
              exact gives ⟨sameId, sameRole, owned⟩
            simpa [ownerAfter, release, gives] using stays
      | _ => simp [ownerAfter, release]

/-- Folding the calls into an owner finds the last claimer. -/
theorem StoreCall.ownerAfter_eq_some_iff {current : Option Connection}
    (known : ∀ owner, current = some owner ↔ IsLastClaimer id role calls owner)
    (timed : Nat × StoreCall) (owner : Connection) :
    timed.2.ownerAfter id role current = some owner ↔
      IsLastClaimer id role (calls ++ [timed]) owner := by
  by_cases claims : ∃ other, timed.2 = .claim id role other
  · obtain ⟨claimer, claimed⟩ := claims
    have split : timed = (timed.1, .claim id role claimer) := Prod.ext rfl claimed
    rw [split, isLastClaimer_claim]
    simp [claim, ownerAfter]
  · have noClaim : ∀ other, timed.2 ≠ .claim id role other :=
      fun other same => claims ⟨other, same⟩
    rw [isLastClaimer_other noClaim, ← known, ownerAfter_other noClaim]

end LastClaimer

/-! ## What the backends do -/

namespace SessionBackend

/-- `get` at time `now`. -/
def find (backend : SessionBackend) (now : Nat) (store : backend.Store) (id : SessionId) :
    Option Session :=
  (backend.exec now (.get id) store).2

/-- The store after one timed call. -/
def step (backend : SessionBackend) (store : backend.Store) : Nat × StoreCall → backend.Store
  | (now, .createSession id input) => (backend.create now store id input).1
  | (now, .call op) => (backend.exec now op store).1

/-- What a backend does to the record of a session that is found before and after a
call, and what its ownership calls answer. -/
structure KeepsRecords (backend : SessionBackend) : Prop where
  created : ∀ {store now id input later session},
    backend.find later (backend.create now store id input).1 id = some session →
      session = (backend.create now store id input).2
  unowned : ∀ {store now id input} (role : Role),
    (backend.create now store id input).2.socketOwner role = none
  called : ∀ {store id timed later before session},
    timed.2.Keeps id → backend.find timed.1 store id = some before →
      backend.find later (backend.step store timed) id = some session →
        session = timed.2.recordAfter timed.1 id before
  shown : ∀ {store now id} (role : Role),
    (backend.exec now (.getSocketOwner id role) store).2 =
      (backend.find now store id).bind fun session => session.socketOwner role
  released : ∀ {store now id session} (role : Role) (owner : Connection),
    backend.find now store id = some session →
      (backend.exec now (.releaseSocketOwnership id role owner) store).2 =
        decide (session.socketOwner role = some owner)
  refused : ∀ {store now id} (role : Role) (owner : Connection),
    (backend.exec now (.releaseSocketOwnership id role owner) store).2 = false →
      (backend.exec now (.releaseSocketOwnership id role owner) store).1 = store

end SessionBackend

section Written

variable {Store : Type} {store : Store} {target id : SessionId} {before session : Session}

/-- The record of a session after a change of one record, which may leave the store as it is. -/
theorem eq_of_written (look : SessionId → Option Session) (find : Store → Option Session)
    (put : Session → Store) (change : Session → Option Session) (first : look id = some before)
    (unchanged : find store = some session → session = before)
    (written : ∀ saved, find (put saved) = some session →
      target = id ∧ session = saved ∨ target ≠ id ∧ session = before)
    (second : find (((look target).bind change).elim store put) = some session) :
    session = if target = id then (change before).getD before else before := by
  cases changed : (look target).bind change with
  | none =>
      rw [changed] at second
      rw [unchanged second]
      split
      case isFalse => rfl
      case isTrue same =>
        rw [same, first, Option.bind_some] at changed
        rw [changed, Option.getD_none]
  | some new =>
      rw [changed] at second
      rcases written new second with ⟨same, rfl⟩ | ⟨other, rfl⟩
      · rw [same, first, Option.bind_some] at changed
        rw [if_pos same, changed, Option.getD_some]
      · rw [if_neg other]

/-- What a release by the owner makes of the record. -/
def released (now : Nat) (role : Role) (owner : Connection) (record : Session) : Option Session :=
  if record.socketOwner role = some owner then some (record.releaseSocketOwnership now role)
  else none

theorem recordAfter_release (now : Nat) (role : Role) (owner : Connection) (record : Session) :
    (StoreCall.call (.releaseSocketOwnership target role owner)).recordAfter now id record =
      if target = id then (released now role owner record).getD record else record := by
  simp only [StoreCall.recordAfter, released]
  split_ifs <;> simp_all

end Written

namespace RedisSessionStore

variable {store : RedisSessionStore} {now later : Nat} {id : SessionId} {session : Session}

/-- What is read back after a save is the saved record or another session. -/
theorem loadSession_of_saveSession {target : SessionId} {saved : Session}
    (found : (store.saveSession now target saved).loadSession later id = some session) :
    target = id ∧ session = saved ∨ target ≠ id ∧ store.loadSession later id = some session := by
  by_cases same : target = id
  · subst same
    simp only [loadSession, saveSession, Function.update_self, Entry.save] at found
    split at found
    · simp at found
    · obtain ⟨entry, stored, -, value⟩ := Entry.read_eq_some.mp found
      cases stored
      exact .inl ⟨rfl, value.symm⟩
  · simp only [loadSession, saveSession, Function.update_of_ne (Ne.symm same)] at found
    exact .inr ⟨same, found⟩

/-- Reading an unchanged key twice gives the same record or none. -/
theorem loadSession_unique {before : Session} (first : store.loadSession now id = some before)
    (second : store.loadSession later id = some session) : session = before := by
  obtain ⟨entry, stored, -, value⟩ := Entry.read_eq_some.mp first
  obtain ⟨other, same, -, others⟩ := Entry.read_eq_some.mp second
  rw [stored, Option.some.injEq] at same
  rw [← others, ← value, same]

theorem keepsRecords (config : SessionStoreConfig) : (redisBackend config).KeepsRecords where
  created found := by
    cases loadSession_of_saveSession found with
    | inl saved => exact saved.2
    | inr other => exact absurd rfl other.1
  unowned role := by cases role <;> rfl
  called := by
    intro store id timed later before session keeps first second
    obtain ⟨now, call⟩ := timed
    have unchanged {current : RedisSessionStore} (same : current.sessions id = store.sessions id)
        (found : current.loadSession later id = some session) : session = before := by
      rw [loadSession, same] at found
      exact loadSession_unique first found
    have written (target : SessionId) (saved : Session)
        (found : (store.saveSession now target saved).loadSession later id = some session) :
        target = id ∧ session = saved ∨ target ≠ id ∧ session = before :=
      (loadSession_of_saveSession found).imp_right fun other =>
        ⟨other.1, loadSession_unique first other.2⟩
    cases call with
    | createSession created input =>
        exact (written created _ second).elim (fun saved => absurd saved.1 keeps) And.right
    | call op =>
        simp only [SessionBackend.find, SessionBackend.step, redisBackend] at first second
        cases op with
        | mutate target mutation =>
            apply eq_of_written (store.loadSession now) (·.loadSession later id)
              (store.saveSession now target) (fun old => some (mutation.apply now old)) first
              (unchanged rfl) (written target)
            rw [← second]
            simp only [exec, runSessionMutation]
            cases store.loadSession now target <;> rfl
        | releaseSocketOwnership target role owner =>
            rw [recordAfter_release]
            apply eq_of_written (store.loadSession now) (·.loadSession later id)
              (store.saveSession now target) (released now role owner) first (unchanged rfl)
              (written target)
            rw [← second]
            simp only [exec, releaseSocketOwnership]
            cases store.loadSession now target with
            | none => rfl
            | some old =>
                simp only [Option.bind_some, released]
                split <;> rfl
        | addPendingSignal target role payload =>
            simp only [exec, addPendingSignal] at second
            split at second
            · exact unchanged rfl second
            · exact unchanged rfl second
        | acquireTerminationLock target ttlMs =>
            simp only [exec, acquireTerminationLock] at second
            split at second
            · exact unchanged rfl second
            · exact unchanged rfl second
        | remove target =>
            have other : id ≠ target := fun same => keeps same.symm
            exact unchanged (Function.update_of_ne other ..) second
        | _ => exact unchanged rfl second
  shown role := rfl
  released := by
    intro store now id session role owner found
    simp only [SessionBackend.find, redisBackend, exec] at found
    simp only [redisBackend, exec, releaseSocketOwnership, found]
    split <;> simp_all
  refused := by
    intro store now id role owner kept
    simp only [redisBackend, exec, releaseSocketOwnership] at kept ⊢
    split at kept
    · rfl
    · split at kept
      · simp at kept
      · rename_i free
        rw [if_neg free]

end RedisSessionStore

namespace MemorySessionStore

variable {store : MemorySessionStore} {id target : SessionId} {saved session : Session}

/-- What is looked up after a key was set is the new record or another session. -/
theorem lookup_of_set (found : (store.set target saved).lookup id = some session) :
    target = id ∧ session = saved ∨ target ≠ id ∧ store.lookup id = some session := by
  rw [lookup_set] at found
  split at found
  case isTrue same => exact .inl ⟨same.symm, (Option.some.inj found).symm⟩
  case isFalse other => exact .inr ⟨Ne.symm other, found⟩

theorem lookup_of_replace (found : (store.replace target saved).lookup id = some session) :
    target = id ∧ session = saved ∨ target ≠ id ∧ store.lookup id = some session := by
  rw [lookup_replace] at found
  split at found
  case isTrue same =>
      obtain ⟨old, -, written⟩ := Option.map_eq_some_iff.mp found
      exact .inl ⟨same.symm, written.symm⟩
  case isFalse other => exact .inr ⟨Ne.symm other, found⟩

theorem keepsRecords (config : SessionStoreConfig) : (memoryBackend config).KeepsRecords where
  created found := by
    cases lookup_of_set found with
    | inl saved => exact saved.2
    | inr other => exact absurd rfl other.1
  unowned role := by cases role <;> rfl
  called := by
    intro store id timed later before session keeps first second
    obtain ⟨now, call⟩ := timed
    have unchanged {current : MemorySessionStore} (same : current.lookup id = store.lookup id)
        (found : current.lookup id = some session) : session = before :=
      Option.some.inj ((found.symm.trans same).trans first)
    have written (target : SessionId) (saved : Session)
        (found : (store.replace target saved).lookup id = some session) :
        target = id ∧ session = saved ∨ target ≠ id ∧ session = before :=
      (lookup_of_replace found).imp_right fun other => ⟨other.1, unchanged rfl other.2⟩
    cases call with
    | createSession created input =>
        cases lookup_of_set second with
        | inl saved => exact absurd saved.1 keeps
        | inr other => exact unchanged rfl other.2
    | call op =>
        simp only [SessionBackend.find, SessionBackend.step, memoryBackend] at first second
        cases op with
        | mutate target mutation =>
            apply eq_of_written store.lookup (·.lookup id) (store.replace target)
              (fun old => some (mutation.apply now old)) first (unchanged rfl) (written target)
            rw [← second]
            simp only [exec, mutate]
            cases store.lookup target <;> rfl
        | releaseSocketOwnership target role owner =>
            rw [recordAfter_release]
            apply eq_of_written store.lookup (·.lookup id) (store.replace target)
              (released now role owner) first (unchanged rfl) (written target)
            rw [← second]
            simp only [exec, releaseSocketOwnership]
            cases store.lookup target with
            | none => rfl
            | some old =>
                simp only [Option.bind_some, released]
                split <;> rfl
        | acquireTerminationLock target ttlMs =>
            simp only [exec, acquireTerminationLock] at second
            split at second
            · exact unchanged rfl second
            · exact unchanged rfl second
        | remove target =>
            have other : id ≠ target := fun same => keeps same.symm
            have kept := lookup_delete store target id
            rw [if_neg other] at kept
            exact unchanged kept second
        | _ => exact unchanged rfl second
  shown role := rfl
  released := by
    intro store now id session role owner found
    simp only [SessionBackend.find, memoryBackend, exec] at found
    simp only [memoryBackend, exec, releaseSocketOwnership, found]
    split <;> simp_all
  refused := by
    intro store now id role owner kept
    simp only [memoryBackend, exec, releaseSocketOwnership] at kept ⊢
    split at kept
    · rfl
    · split at kept
      · simp at kept
      · rename_i free
        rw [if_neg free]

end MemorySessionStore

/-! ## Runs -/

/-- The two implementations of the store. -/
inductive SessionStoreKind where
  | memory
  | redis
  deriving DecidableEq

/-- The backend that `sessionStoreBackend` selects. -/
def SessionStoreKind.backend (config : SessionStoreConfig) : SessionStoreKind → SessionBackend
  | .memory => memoryBackend config
  | .redis => redisBackend config

theorem SessionStoreKind.keepsRecords (config : SessionStoreConfig) :
    ∀ kind : SessionStoreKind, (kind.backend config).KeepsRecords
  | .memory => MemorySessionStore.keepsRecords config
  | .redis => RedisSessionStore.keepsRecords config

namespace SessionBackend

variable {backend : SessionBackend}

/-- The store after a sequence of calls on it. -/
def run (backend : SessionBackend) (store : backend.Store) (calls : List (Nat × StoreCall)) :
    backend.Store :=
  calls.foldl backend.step store

/-- The session is found whenever one of the calls is made. -/
def FoundThroughout (backend : SessionBackend) (id : SessionId) (store : backend.Store) :
    List (Nat × StoreCall) → Prop
  | [] => True
  | timed :: rest =>
      (backend.find timed.1 store id).isSome ∧
        backend.FoundThroughout id (backend.step store timed) rest

theorem run_concat (store : backend.Store) (calls : List (Nat × StoreCall))
    (timed : Nat × StoreCall) :
    backend.run store (calls ++ [timed]) = backend.step (backend.run store calls) timed := by
  rw [run, List.foldl_append]
  rfl

theorem foundThroughout_concat {id : SessionId} {calls : List (Nat × StoreCall)}
    {timed : Nat × StoreCall} :
    ∀ {store : backend.Store}, backend.FoundThroughout id store (calls ++ [timed]) →
      backend.FoundThroughout id store calls ∧
        (backend.find timed.1 (backend.run store calls) id).isSome := by
  induction calls with
  | nil =>
      intro store found
      exact ⟨trivial, found.1⟩
  | cons first rest ih =>
      intro store found
      have later := ih found.2
      exact ⟨⟨found.1, later.1⟩, later.2⟩

/-- The stored owner of a session is the last claimer since its creation. -/
theorem KeepsRecords.socketOwner_iff (laws : backend.KeepsRecords) {id : SessionId}
    {input : SessionInput} {created : Nat} {store : backend.Store} (role : Role)
    {calls : List (Nat × StoreCall)} :
    (∀ timed ∈ calls, timed.2.Keeps id) →
      backend.FoundThroughout id (backend.create created store id input).1 calls →
        ∀ {now session},
          backend.find now (backend.run (backend.create created store id input).1 calls) id =
              some session →
            ∀ owner, session.socketOwner role = some owner ↔
              IsLastClaimer id role calls owner := by
  induction calls using List.reverseRecOn with
  | nil =>
      intro _ _ now session found owner
      rw [laws.created found, laws.unowned]
      simp [not_isLastClaimer_nil]
  | append_singleton calls timed ih =>
      intro keeps found now session last
      have earlier := foundThroughout_concat found
      obtain ⟨before, present⟩ := Option.isSome_iff_exists.mp earlier.2
      have known := ih (fun call member => keeps call (List.mem_append_left _ member))
        earlier.1 present
      rw [run_concat] at last
      rw [laws.called (keeps timed (by simp)) present last, StoreCall.socketOwner_recordAfter]
      exact StoreCall.ownerAfter_eq_some_iff known timed

end SessionBackend

/-- In either store the owner of a role is the connection that claimed it last and
has not released it since.  A release succeeds for that connection only, and a
refused release changes nothing. -/
theorem socket_ownership_is_last_claimer_wins (config : SessionStoreConfig)
    (kind : SessionStoreKind) (store : (kind.backend config).Store) (id : SessionId)
    (input : SessionInput) (role : Role) (created now : Nat) (calls : List (Nat × StoreCall))
    (keeps : ∀ timed ∈ calls, timed.2.Keeps id)
    (found : (kind.backend config).FoundThroughout id
      ((kind.backend config).create created store id input).1 calls)
    (existsNow : ((kind.backend config).find now
      ((kind.backend config).run ((kind.backend config).create created store id input).1 calls)
        id).isSome) :
    let backend := kind.backend config
    let current := backend.run (backend.create created store id input).1 calls
    (∀ owner, (backend.exec now (.getSocketOwner id role) current).2 = some owner ↔
        IsLastClaimer id role calls owner) ∧
      ∀ owner,
        ((backend.exec now (.releaseSocketOwnership id role owner) current).2 = true ↔
            (backend.exec now (.getSocketOwner id role) current).2 = some owner) ∧
          ((backend.exec now (.releaseSocketOwnership id role owner) current).2 = false →
            (backend.exec now (.releaseSocketOwnership id role owner) current).1 = current) := by
  intro backend current
  have laws := SessionStoreKind.keepsRecords config kind
  obtain ⟨session, present⟩ := Option.isSome_iff_exists.mp existsNow
  have shown : (backend.exec now (.getSocketOwner id role) current).2 = session.socketOwner role := by
    rw [laws.shown, present]
    rfl
  have owners := laws.socketOwner_iff role keeps found present
  constructor
  case left =>
    intro owner
    rw [shown]
    exact owners owner
  case right =>
    intro owner
    constructor
    case left =>
      rw [laws.released role owner present, shown, decide_eq_true_iff]
    case right =>
      exact laws.refused role owner

/-- A viewer's second socket claims the role before the first one is closed. -/
def superseded : List (Nat × StoreCall) :=
  [(1, .claim 0 .viewer ⟨0, 1⟩), (2, .claim 0 .viewer ⟨0, 2⟩), (3, .release 0 .viewer ⟨0, 1⟩)]

theorem second_socket_is_last_claimer : IsLastClaimer 0 .viewer superseded ⟨0, 2⟩ := by
  have wins := socket_ownership_is_last_claimer_wins ⟨1000, 100⟩ .redis RedisSessionStore.empty 0 {}
    .viewer 0 4 superseded (fun timed member => by
      simp only [superseded, List.mem_cons, List.not_mem_nil, or_false] at member
      rcases member with rfl | rfl | rfl <;> trivial)
    ⟨by decide, by decide, by decide, trivial⟩ (by decide)
  exact (wins.1 ⟨0, 2⟩).mp (by decide)

end RemoteBrowser
