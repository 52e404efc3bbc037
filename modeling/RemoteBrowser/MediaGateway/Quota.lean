import RemoteBrowser.MediaGateway.Replay
import RemoteBrowser.MediaGateway.Relay
import Mathlib.Data.List.AList

/-!
# Admission quotas

A session counts against the gateway's quotas while it is active: from its creation until a time
to live has run out, and for as long as a relay state exists for it and is not terminated.  Only
the creation of a session looks at the quotas.  Two other steps can make a session count that did
not count before: the import of a record from the shared store, and the first relay state of a
session whose time to live has run out.
-/

namespace RemoteBrowser.MediaGateway

/-! ## The service -/

/-- The maps of one gateway instance and its clock. -/
structure Service where
  sessions : AList fun _ : String => SessionRecord := ∅
  signals : String → Option RelayState := fun _ => none
  mediaRelays : String → Option RelayState := fun _ => none
  webrtcRelays : String → Option PionRelay := fun _ => none
  now : Int

/-- Whether a session is active, by its entries in the four maps. -/
def isActive (cfg : Config) (now : Int) (record : Option SessionRecord)
    (signals mediaRelays : Option RelayState) (webrtcRelay : Option PionRelay) : Bool :=
  if signals.any (·.terminated) then false
  else if mediaRelays.any (·.terminated) then false
  else
    match webrtcRelay with
    | some relay => !relay.terminated
    | none =>
        if mediaRelays.isSome then true
        else if signals.isSome then true
        else
          match record with
          | none => false
          | some record =>
              let pendingTTL :=
                if cfg.pendingSessionActiveTTL ≤ 0 then defaultPendingSessionActiveTTL
                else cfg.pendingSessionActiveTTL
              now - record.createdAt ≤ pendingTTL

namespace Service

variable (cfg : Config)

def isSessionActive (s : Service) (id : String) : Bool :=
  isActive cfg s.now (s.sessions.lookup id) (s.signals id) (s.mediaRelays id) (s.webrtcRelays id)

/-- How many sessions are active and of the given kind. -/
def activeCount (kind : SessionRecord → Bool) (s : Service) : Nat :=
  s.sessions.entries.countP fun entry => s.isSessionActive cfg entry.1 && kind entry.2

def activeSessions (s : Service) : Nat := s.activeCount cfg fun _ => true

/-- How many active sessions bear a name; sessions without one are not counted. -/
def activeByName (name : SessionRecord → String) (s : Service) (value : String) : Nat :=
  s.activeCount cfg fun record => name record ≠ "" ∧ name record = value

/-- `tenantCounts[tenant]`. -/
def tenantActiveSessions : Service → String → Nat :=
  activeByName cfg fun record => record.request.tenantID

/-- `workerCounts[worker]`. -/
def workerActiveSessions : Service → String → Nat :=
  activeByName cfg fun record => record.request.workerAssignment.workerID

/-- A quota is in force when it is positive, and full when its count has reached it. -/
def isFull (limit : Int) (count : Nat) : Bool := 0 < limit ∧ limit ≤ count

def evaluateAdmission (s : Service) (req : SessionRequest) : Except ApiError Unit :=
  if isFull cfg.maxActiveSessions (s.activeSessions cfg) then
    .error ⟨429, "gateway active session quota exceeded"⟩
  else if isFull cfg.maxActiveSessionsPerTenant (tenantActiveSessions cfg s req.tenantID) then
    .error ⟨429, "tenant active session quota exceeded"⟩
  else if isFull cfg.maxActiveSessionsPerWorker
      (workerActiveSessions cfg s req.workerAssignment.workerID) then
    .error ⟨429, "worker active session quota exceeded"⟩
  else .ok ()

/-! ## Steps -/

/-- What can happen to a service: its critical sections, each for one session, and time. -/
inductive Step where
  | createSession (req : SessionRequest) (stored : Option SessionRecord) (draws : Draws)
  | forgetSession (id : String)
  | ensureLocalSessionRecord (record : SessionRecord)
  | registerSignalConnection (id : String) (role : Role) (conn : Connection)
  | unregisterSignalConnection (id : String) (role : Role) (connectionID : Nat)
  | enqueueSignal (id : String) (role : Role) (payload : Payload)
  | noteSignal (id : String)
  | terminateSignalSession (id : String)
  | registerMediaConnection (id : String) (role : Role) (conn : Connection)
  | unregisterMediaConnection (id : String) (role : Role) (connectionID : Nat)
  | enqueueMedia (id : String) (role : Role) (payload : Payload)
  | noteMedia (id : String)
  | terminateMediaRelaySession (id : String)
  | getOrCreatePionRelaySession (id : String)
  | closePionRelaySession (id : String)
  | pass (nanoseconds : Nat)

variable (platform : Platform)

/-- What the critical section of `CreateSession` comes to. -/
inductive Admission where
  | found (answer : Except ApiError (Nat × SessionResponse))
  | refused (failure : ApiError)
  | created (record : SessionRecord)

/-- The record of a session that is created now. -/
def newRecord (s : Service) (req : SessionRequest) (draws : Draws) : SessionRecord where
  request := req
  response := buildResponse platform cfg req draws
  viewerEntryToken := draws.viewerEntryToken
  createdAt := s.now

/-- The critical section of `CreateSession`. -/
def admitSession (s : Service) (req : SessionRequest) (draws : Draws) : Service × Admission :=
  match s.sessions.lookup req.sessionID with
  | some record => (s, .found (replayAnswer record req))
  | none =>
      match s.evaluateAdmission cfg req with
      | .error failure => (s, .refused failure)
      | .ok _ =>
          let record := s.newRecord cfg platform req draws
          ({ s with sessions := s.sessions.insert req.sessionID record }, .created record)

/-- `CreateSession` up to the save of the new record: nothing happens to a request that is
refused or that replays a session, be it of the shared store or of this instance. -/
def createSession (s : Service) (raw : SessionRequest) (stored : Option SessionRecord)
    (draws : Draws) : Service :=
  match validateRequest platform cfg raw with
  | .error _ => s
  | .ok req =>
      match stored with
      | some _ => s
      | none => (s.admitSession cfg platform req draws).1

def ensureLocalSessionRecord (s : Service) (record : SessionRecord) : Service :=
  if record.request.sessionID = "" then s
  else
    match s.sessions.lookup record.request.sessionID with
    | some _ => s
    | none => { s with sessions := s.sessions.insert record.request.sessionID record }

def setSignals (s : Service) (id : String) (state : Option RelayState) : Service :=
  { s with signals := Function.update s.signals id state }

def setMedia (s : Service) (id : String) (state : Option RelayState) : Service :=
  { s with mediaRelays := Function.update s.mediaRelays id state }

def setRelay (s : Service) (id : String) (relay : Option PionRelay) : Service :=
  { s with webrtcRelays := Function.update s.webrtcRelays id relay }

@[grind =] def exec (s : Service) : Step → Service
  | .createSession req stored draws => s.createSession cfg platform req stored draws
  | .forgetSession id => { s with sessions := s.sessions.erase id }
  | .ensureLocalSessionRecord record => s.ensureLocalSessionRecord record
  | .registerSignalConnection id role conn =>
      s.setSignals id (registerConnection (s.signals id) role conn).1
  | .unregisterSignalConnection id role connectionID =>
      s.setSignals id
        (MediaGateway.unregisterSignalConnection (s.signals id) role connectionID).1
  | .enqueueSignal id role payload =>
      s.setSignals id (MediaGateway.enqueueSignal (s.signals id) role payload)
  | .noteSignal id => s.setSignals id (noteState (s.signals id))
  | .terminateSignalSession id =>
      s.setSignals id (MediaGateway.terminateSignalSession (s.signals id))
  | .registerMediaConnection id role conn =>
      s.setMedia id (registerConnection (s.mediaRelays id) role conn).1
  | .unregisterMediaConnection id role connectionID =>
      s.setMedia id
        (MediaGateway.unregisterMediaConnection (s.mediaRelays id) role connectionID).1
  | .enqueueMedia id role payload =>
      s.setMedia id (MediaGateway.enqueueMedia (s.mediaRelays id) role payload)
  | .noteMedia id => s.setMedia id (noteState (s.mediaRelays id))
  | .terminateMediaRelaySession id =>
      s.setMedia id (MediaGateway.terminateMediaRelaySession (s.mediaRelays id))
  | .getOrCreatePionRelaySession id =>
      s.setRelay id (MediaGateway.getOrCreatePionRelaySession (s.webrtcRelays id))
  | .closePionRelaySession id =>
      s.setRelay id ((s.webrtcRelays id).map fun relay => { relay with terminated := true })
  | .pass nanoseconds => { s with now := s.now + nanoseconds }

/-- The service after a sequence of steps. -/
def run (s : Service) (steps : List Step) : Service := steps.foldl (exec cfg platform) s

/-! ## The quotas and the steps that keep them -/

/-- No count that the service reports exceeds its limit. -/
structure WithinQuotas (s : Service) : Prop where
  total : 0 < cfg.maxActiveSessions → s.activeSessions cfg ≤ cfg.maxActiveSessions
  tenants : 0 < cfg.maxActiveSessionsPerTenant →
    ∀ tenant, tenantActiveSessions cfg s tenant ≤ cfg.maxActiveSessionsPerTenant
  workers : 0 < cfg.maxActiveSessionsPerWorker →
    ∀ worker, workerActiveSessions cfg s worker ≤ cfg.maxActiveSessionsPerWorker

/-- The session whose relay state the step makes sure to exist. -/
def Step.opens : Step → Option String
  | .registerSignalConnection id _ _ => some id
  | .enqueueSignal id _ _ => some id
  | .noteSignal id => some id
  | .registerMediaConnection id _ _ => some id
  | .enqueueMedia id _ _ => some id
  | .noteMedia id => some id
  | .getOrCreatePionRelaySession id => some id
  | _ => none

/-- There is no relay state for the session. -/
def Unopened (s : Service) (id : String) : Prop :=
  s.signals id = none ∧ s.mediaRelays id = none ∧ s.webrtcRelays id = none

/-- The session that the step makes active although it did not count before: a session without
relay state whose time to live has run out, or one whose record is not known here. -/
def Revives (s : Service) : Step → SessionRecord → Prop
  | .ensureLocalSessionRecord record, revived =>
      let id := record.request.sessionID
      revived = record ∧ id ≠ "" ∧ s.sessions.lookup id = none ∧
        isActive cfg s.now (some record) (s.signals id) (s.mediaRelays id) (s.webrtcRelays id)
  | step, revived =>
      ∃ id, step.opens = some id ∧ s.sessions.lookup id = some revived ∧ s.Unopened id ∧
        s.isSessionActive cfg id = false

/-- The session that a step revives would be admitted if it were to be created now. -/
def Admissible (s : Service) (step : Step) : Prop :=
  ∀ record, s.Revives cfg step record → s.evaluateAdmission cfg record.request = .ok ()

/-! ## Counting -/

section Counting

variable {cfg}

theorem activeCount_le {s after : Service} (entries : after.sessions.entries.Sublist
      s.sessions.entries)
    (active : ∀ id ∈ after.sessions,
      after.isSessionActive cfg id = true → s.isSessionActive cfg id = true)
    (kind : SessionRecord → Bool) : after.activeCount cfg kind ≤ s.activeCount cfg kind := by
  refine (List.countP_mono_left fun entry listed counted => ?_).trans entries.countP_le
  rw [Bool.and_eq_true] at counted ⊢
  exact ⟨active entry.1 (List.mem_keys_of_mem listed) counted.1, counted.2⟩

/-- Counting changes by one where the condition changes at one key. -/
theorem countP_of_gain {α : Type} {entries : List (Sigma fun _ : String => α)}
    (distinct : entries.NodupKeys) {id : String} {value : α} (member : ⟨id, value⟩ ∈ entries)
    {before after kind : (Sigma fun _ : String => α) → Bool}
    (others : ∀ entry : Sigma fun _ : String => α, entry.1 ≠ id → after entry = before entry)
    (inactive : before ⟨id, value⟩ = false) (active : after ⟨id, value⟩ = true) :
    entries.countP (fun entry => after entry && kind entry) =
      entries.countP (fun entry => before entry && kind entry) +
        if kind ⟨id, value⟩ then 1 else 0 := by
  induction entries with
  | nil => cases member
  | cons head rest ih =>
      have unique := (List.nodupKeys_cons.mp distinct).1
      rcases List.mem_cons.mp member with rfl | later
      · have same : rest.countP (fun entry => after entry && kind entry) =
            rest.countP fun entry => before entry && kind entry := by
          refine List.countP_congr fun entry listed => ?_
          have known : entry.1 ∈ rest.keys := List.mem_keys_of_mem listed
          have other : entry.1 ≠ id := by
            rintro rfl
            exact unique known
          rw [others entry other]
        simp only [List.countP_cons, same, inactive, active, Bool.false_and, Bool.true_and]
        simp
      · have other : head.1 ≠ id := by
          intro same
          exact unique (same ▸ List.mem_keys_of_mem later)
        rw [List.countP_cons, List.countP_cons, ih (List.nodupKeys_cons.mp distinct).2 later,
          others head other]
        omega

theorem activeCount_of_revived {s after : Service} (entries : after.sessions = s.sessions)
    {id : String} {record : SessionRecord} (known : s.sessions.lookup id = some record)
    (others : ∀ other, other ≠ id →
      after.isSessionActive cfg other = s.isSessionActive cfg other)
    (inactive : s.isSessionActive cfg id = false) (active : after.isSessionActive cfg id = true)
    (kind : SessionRecord → Bool) :
    after.activeCount cfg kind = s.activeCount cfg kind + if kind record then 1 else 0 := by
  rw [activeCount, activeCount, entries]
  exact countP_of_gain s.sessions.nodupKeys (List.of_mem_dlookup known)
    (fun entry different => others entry.1 different) inactive active

theorem activeCount_insert (cfg : Config) {s : Service} {id : String} (record : SessionRecord)
    (unknown : s.sessions.lookup id = none) (kind : SessionRecord → Bool) :
    activeCount cfg kind { s with sessions := s.sessions.insert id record } =
      s.activeCount cfg kind +
        if isActive cfg s.now (some record) (s.signals id) (s.mediaRelays id)
            (s.webrtcRelays id) && kind record then 1 else 0 := by
  have absent : id ∉ s.sessions := AList.lookup_eq_none.mp unknown
  rw [activeCount, AList.entries_insert_of_notMem absent, List.countP_cons, activeCount]
  congr 1
  · refine List.countP_congr fun entry listed => ?_
    have other : entry.1 ≠ id := by
      rintro rfl
      exact absent (List.mem_keys_of_mem listed)
    simp only [isSessionActive, AList.lookup_insert_ne other]
  · simp only [isSessionActive, AList.lookup_insert]

/-- A limit that is kept is exceeded by one more exactly where it is full. -/
theorem within_succ_iff {limit : Int} {count : Nat} (within : 0 < limit → count ≤ limit) :
    (0 < limit → ((count + 1 : Nat) : Int) ≤ limit) ↔ isFull limit count = false := by
  simp only [isFull, decide_eq_false_iff_not, not_and]
  constructor
  · intro room positive full
    have := room positive
    omega
  · intro room positive
    have := room positive
    have := within positive
    omega

theorem evaluateAdmission_eq_ok {s : Service} {req : SessionRequest} :
    s.evaluateAdmission cfg req = .ok () ↔
      isFull cfg.maxActiveSessions (s.activeSessions cfg) = false ∧
      isFull cfg.maxActiveSessionsPerTenant (tenantActiveSessions cfg s req.tenantID) = false ∧
      isFull cfg.maxActiveSessionsPerWorker
        (workerActiveSessions cfg s req.workerAssignment.workerID) = false := by
  unfold evaluateAdmission
  split
  · next full => simp [full]
  · next room =>
      split
      · next full => simp [full]
      · next room' =>
          split
          · next full => simp [full]
          · next room'' => simp [room, room', room'']

theorem WithinQuotas.of_le {s after : Service} (within : s.WithinQuotas cfg)
    (fewer : ∀ kind, after.activeCount cfg kind ≤ s.activeCount cfg kind) :
    after.WithinQuotas cfg := by
  have named (name : SessionRecord → String) (value : String) :
      (activeByName cfg name after value : Int) ≤ activeByName cfg name s value :=
    Int.ofNat_le.mpr (fewer _)
  constructor
  · exact fun positive => (Int.ofNat_le.mpr (fewer _)).trans (within.total positive)
  · exact fun positive tenant => (named _ tenant).trans (within.tenants positive tenant)
  · exact fun positive worker => (named _ worker).trans (within.workers positive worker)

/-- The quota of a name holds one more session exactly if it is not full. -/
theorem named_within_iff {s after : Service} {limit : Int} {name : SessionRecord → String}
    {record : SessionRecord} (within : 0 < limit → ∀ value, activeByName cfg name s value ≤ limit)
    (gained : ∀ kind, after.activeCount cfg kind =
      s.activeCount cfg kind + if kind record then 1 else 0) :
    (0 < limit → ∀ value, activeByName cfg name after value ≤ limit) ↔
      isFull limit (activeByName cfg name s (name record)) = false := by
  have counted (value : String) : activeByName cfg name after value =
      activeByName cfg name s value +
        if name record ≠ "" ∧ name record = value then 1 else 0 := by
    simpa [activeByName] using gained fun record => name record ≠ "" ∧ name record = value
  by_cases unnamed : name record = ""
  · -- The new session is not counted, and a count of zero is never full.
    have nobody : activeByName cfg name s "" = 0 := by
      refine List.countP_eq_zero.mpr fun entry _ => ?_
      simp
    simp only [unnamed, ne_eq, not_true, false_and, if_false, Nat.add_zero] at counted
    simp only [counted, unnamed, nobody]
    exact ⟨fun _ => by simp [isFull], fun _ => within⟩
  · have own : activeByName cfg name after (name record) =
        activeByName cfg name s (name record) + 1 := by
      simp [counted, unnamed]
    rw [← within_succ_iff fun positive => within positive (name record), ← own]
    constructor
    · exact fun kept positive => kept positive (name record)
    · intro kept positive value
      by_cases same : name record = value
      · exact same ▸ kept positive
      · simpa [counted, same] using within positive value

/-- One more session fits exactly if it would be admitted. -/
theorem WithinQuotas.iff_admitted {s after : Service} (within : s.WithinQuotas cfg)
    {record : SessionRecord}
    (gained : ∀ kind, after.activeCount cfg kind =
      s.activeCount cfg kind + if kind record then 1 else 0) :
    after.WithinQuotas cfg ↔ s.evaluateAdmission cfg record.request = .ok () := by
  have total : after.activeSessions cfg = s.activeSessions cfg + 1 := gained _
  rw [evaluateAdmission_eq_ok, ← within_succ_iff within.total, ← total]
  have tenants := named_within_iff within.tenants gained
  have workers := named_within_iff within.workers gained
  constructor
  · exact fun kept => ⟨kept.total, tenants.mp kept.tenants, workers.mp kept.workers⟩
  · exact fun room => ⟨room.1, tenants.mpr room.2.1, workers.mpr room.2.2⟩

end Counting

/-! ## What a step does to the activity of the sessions -/

section Activity

variable {cfg} {platform}

theorem isActive_congr {now : Int} {record : Option SessionRecord}
    {signals signals' media media' : Option RelayState} {relay : Option PionRelay}
    (signalsExist : signals'.isSome = signals.isSome)
    (signalsEnded : signals'.any (·.terminated) = signals.any (·.terminated))
    (mediaExist : media'.isSome = media.isSome)
    (mediaEnded : media'.any (·.terminated) = media.any (·.terminated)) :
    isActive cfg now record signals' media' relay = isActive cfg now record signals media relay := by
  simp only [isActive, signalsExist, signalsEnded, mediaExist, mediaEnded]

/-- A state that appears without a tombstone makes the session active if it is the first. -/
theorem isActive_openSignals {now : Int} {record : Option SessionRecord}
    {signals media : Option RelayState} {relay : Option PionRelay} {state : RelayState}
    (same : state.terminated = signals.any (·.terminated)) :
    isActive cfg now record (some state) media relay =
      if signals = none ∧ media = none ∧ relay = none then true
      else isActive cfg now record signals media relay := by
  cases signals with
  | some current =>
      simp only [reduceCtorEq, false_and, if_false]
      exact isActive_congr rfl same rfl rfl
  | none => cases media <;> cases relay <;> simp_all [isActive]

theorem isActive_openMedia {now : Int} {record : Option SessionRecord}
    {signals media : Option RelayState} {relay : Option PionRelay} {state : RelayState}
    (same : state.terminated = media.any (·.terminated)) :
    isActive cfg now record signals (some state) relay =
      if signals = none ∧ media = none ∧ relay = none then true
      else isActive cfg now record signals media relay := by
  cases media with
  | some current =>
      simp only [reduceCtorEq, false_and, and_false, if_false]
      exact isActive_congr rfl rfl rfl same
  | none => cases signals <;> cases relay <;> simp_all [isActive]

theorem isActive_openRelay {now : Int} {record : Option SessionRecord}
    {signals media : Option RelayState} {relay : Option PionRelay} :
    isActive cfg now record signals media (getOrCreatePionRelaySession relay) =
      if signals = none ∧ media = none ∧ relay = none then true
      else isActive cfg now record signals media relay := by
  cases relay with
  | some relay => simp [getOrCreatePionRelaySession]
  | none =>
      cases signals <;> cases media <;> simp_all [isActive, getOrCreatePionRelaySession]

variable {s : Service} {step : Step} {id : String}

theorem isSessionActive_setSignals (state : Option RelayState) (other : String) :
    (s.setSignals id state).isSessionActive cfg other =
      if other = id then
        isActive cfg s.now (s.sessions.lookup id) state (s.mediaRelays id) (s.webrtcRelays id)
      else s.isSessionActive cfg other := by
  by_cases same : other = id
  · subst same
    simp [isSessionActive, setSignals]
  · simp [isSessionActive, setSignals, same]

theorem isSessionActive_setMedia (state : Option RelayState) (other : String) :
    (s.setMedia id state).isSessionActive cfg other =
      if other = id then
        isActive cfg s.now (s.sessions.lookup id) (s.signals id) state (s.webrtcRelays id)
      else s.isSessionActive cfg other := by
  by_cases same : other = id
  · subst same
    simp [isSessionActive, setMedia]
  · simp [isSessionActive, setMedia, same]

theorem isSessionActive_setRelay (relay : Option PionRelay) (other : String) :
    (s.setRelay id relay).isSessionActive cfg other =
      if other = id then
        isActive cfg s.now (s.sessions.lookup id) (s.signals id) (s.mediaRelays id) relay
      else s.isSessionActive cfg other := by
  by_cases same : other = id
  · subst same
    simp [isSessionActive, setRelay]
  · simp [isSessionActive, setRelay, same]

instance (s : Service) (id : String) : Decidable (s.Unopened id) :=
  inferInstanceAs (Decidable (s.signals id = none ∧ s.mediaRelays id = none ∧
    s.webrtcRelays id = none))

/-- A step that opens a relay state keeps the records, and makes a session active exactly where
it opens the session's first state. -/
theorem exec_of_opens (cfg : Config) (platform : Platform) (s : Service)
    (opens : step.opens = some id) :
    (s.exec cfg platform step).sessions = s.sessions ∧ ∀ other,
      (s.exec cfg platform step).isSessionActive cfg other =
        if other = id ∧ s.Unopened id then true else s.isSessionActive cfg other := by
  have split (other : String) (changed : Bool)
      (opened : changed = if s.Unopened id then true else s.isSessionActive cfg id) :
      (if other = id then changed else s.isSessionActive cfg other) =
        if other = id ∧ s.Unopened id then true else s.isSessionActive cfg other := by
    by_cases same : other = id
    · subst same
      simp [opened]
    · simp [same]
  cases step <;> cases opens
  case registerSignalConnection role conn =>
      refine ⟨rfl, fun other => (isSessionActive_setSignals _ other).trans (split other _ ?_)⟩
      exact isActive_openSignals (registerConnection_terminated _ role conn)
  case enqueueSignal role payload =>
      refine ⟨rfl, fun other => (isSessionActive_setSignals _ other).trans (split other _ ?_)⟩
      exact isActive_openSignals (enqueueSignal_terminated _ role payload)
  case noteSignal =>
      refine ⟨rfl, fun other => (isSessionActive_setSignals _ other).trans (split other _ ?_)⟩
      exact isActive_openSignals (noteState_terminated _)
  case registerMediaConnection role conn =>
      refine ⟨rfl, fun other => (isSessionActive_setMedia _ other).trans (split other _ ?_)⟩
      exact isActive_openMedia (registerConnection_terminated _ role conn)
  case enqueueMedia role payload =>
      refine ⟨rfl, fun other => (isSessionActive_setMedia _ other).trans (split other _ ?_)⟩
      exact isActive_openMedia (enqueueMedia_terminated _ role payload)
  case noteMedia =>
      refine ⟨rfl, fun other => (isSessionActive_setMedia _ other).trans (split other _ ?_)⟩
      exact isActive_openMedia (noteState_terminated _)
  case getOrCreatePionRelaySession =>
      refine ⟨rfl, fun other => (isSessionActive_setRelay _ other).trans (split other _ ?_)⟩
      exact isActive_openRelay

/-- A step that neither adds a record nor opens a relay state. -/
def Step.Shrinks : Step → Prop
  | .createSession _ _ _ => False
  | .ensureLocalSessionRecord _ => False
  | step => step.opens = none

theorem isActive_pass {now : Int} {nanoseconds : Nat} {record : Option SessionRecord}
    {signals media : Option RelayState} {relay : Option PionRelay}
    (active : isActive cfg (now + nanoseconds) record signals media relay = true) :
    isActive cfg now record signals media relay = true := by
  -- The clock is read only where there is no relay state.
  cases relay with
  | some relay => exact active
  | none =>
      cases record with
      | none => exact active
      | some record =>
          simp only [isActive, Bool.if_false_left, Bool.and_eq_true, Bool.if_true_left,
            Bool.or_eq_true, decide_eq_true_eq] at active ⊢
          refine active.imp_right fun rest => rest.imp_right fun rest =>
            rest.imp_right fun rest => rest.imp_right fun recent => ?_
          omega

theorem isActive_endRelay {now : Int} {record : Option SessionRecord}
    {signals media : Option RelayState} {relay : Option PionRelay}
    (active : isActive cfg now record signals media
      (relay.map fun relay => { relay with terminated := true }) = true) :
    isActive cfg now record signals media relay = true := by
  cases relay with
  | none => exact active
  | some relay =>
      simp only [isActive, Option.map_some, Bool.not_true] at active
      split at active
      · cases active
      · split at active
        · cases active
        · cases active

/-- Such a step makes no session active. -/
theorem exec_of_shrinks (cfg : Config) (platform : Platform) (s : Service)
    (shrinks : step.Shrinks) :
    (s.exec cfg platform step).sessions.entries.Sublist s.sessions.entries ∧ ∀ other,
      other ∈ (s.exec cfg platform step).sessions →
      (s.exec cfg platform step).isSessionActive cfg other = true →
        s.isSessionActive cfg other = true := by
  cases step <;> simp only [Step.Shrinks, Step.opens, reduceCtorEq] at shrinks
  case forgetSession id =>
      refine ⟨List.kerase_sublist id _, fun other known active => ?_⟩
      have different : other ≠ id := (AList.mem_erase.mp known).1
      simpa [isSessionActive, exec, AList.lookup_erase_ne different] using active
  case unregisterSignalConnection id role connectionID =>
      have flags := MediaGateway.unregisterSignalConnection_flags (s.signals id) role connectionID
      refine ⟨List.Sublist.refl _, fun other _ active => ?_⟩
      rw [exec, isSessionActive_setSignals] at active
      split at active
      · next same => rwa [isActive_congr flags.1 flags.2 rfl rfl, ← same] at active
      · exact active
  case terminateSignalSession id =>
      refine ⟨List.Sublist.refl _, fun other _ active => ?_⟩
      rw [exec, isSessionActive_setSignals] at active
      split at active
      · simp [isActive, MediaGateway.terminateSignalSession] at active
      · exact active
  case unregisterMediaConnection id role connectionID =>
      have flags :=
        MediaGateway.unregisterMediaConnection_flags (s.mediaRelays id) role connectionID
      refine ⟨List.Sublist.refl _, fun other _ active => ?_⟩
      rw [exec, isSessionActive_setMedia] at active
      split at active
      · next same => rwa [isActive_congr rfl rfl flags.1 flags.2, ← same] at active
      · exact active
  case terminateMediaRelaySession id =>
      have flags := MediaGateway.terminateMediaRelaySession_flags (s.mediaRelays id)
      refine ⟨List.Sublist.refl _, fun other _ active => ?_⟩
      rw [exec, isSessionActive_setMedia] at active
      split at active
      · next same =>
          subst same
          cases media : s.mediaRelays other with
          | none => simpa [isSessionActive, media, MediaGateway.terminateMediaRelaySession]
              using active
          | some state =>
              have ended := flags.2
              rw [media] at ended active
              simp [isActive, ended] at active
      · exact active
  case closePionRelaySession id =>
      refine ⟨List.Sublist.refl _, fun other _ active => ?_⟩
      rw [exec, isSessionActive_setRelay] at active
      split at active
      · next same =>
          subst same
          exact isActive_endRelay active
      · exact active
  case pass nanoseconds =>
      exact ⟨List.Sublist.refl _, fun other _ active => isActive_pass active⟩

end Activity

/-! ## Steps and runs -/

section Runs

variable {cfg} {platform}

/-- A new record keeps the quotas exactly if it is admitted or does not count. -/
theorem insert_withinQuotas_iff {s : Service} (within : s.WithinQuotas cfg) {id : String}
    {record : SessionRecord} (unknown : s.sessions.lookup id = none) :
    WithinQuotas cfg { s with sessions := s.sessions.insert id record } ↔
      (isActive cfg s.now (some record) (s.signals id) (s.mediaRelays id)
          (s.webrtcRelays id) = true →
        s.evaluateAdmission cfg record.request = .ok ()) := by
  have counts (kind : SessionRecord → Bool) := activeCount_insert cfg record unknown kind
  cases active : isActive cfg s.now (some record) (s.signals id) (s.mediaRelays id)
      (s.webrtcRelays id) with
  | false =>
      simp only [active, Bool.false_and, Bool.false_eq_true, if_false, Nat.add_zero] at counts
      simp only [Bool.false_eq_true, false_implies, iff_true]
      exact within.of_le fun kind => (counts kind).le
  | true =>
      simp only [active, Bool.true_and] at counts
      simp only [true_implies]
      exact within.iff_admitted counts

theorem admitSession_withinQuotas {s : Service} (within : s.WithinQuotas cfg)
    (req : SessionRequest) (draws : Draws) :
    (s.admitSession cfg platform req draws).1.WithinQuotas cfg := by
  unfold admitSession
  split
  · exact within
  · next unknown =>
      split
      · exact within
      · next admitted => exact (insert_withinQuotas_iff within unknown).mpr fun _ => admitted

theorem createSession_withinQuotas {s : Service} (within : s.WithinQuotas cfg)
    (raw : SessionRequest) (stored : Option SessionRecord) (draws : Draws) :
    (s.createSession cfg platform raw stored draws).WithinQuotas cfg := by
  unfold createSession
  split
  · exact within
  · split
    · exact within
    · exact admitSession_withinQuotas within _ draws

theorem ensureLocalSessionRecord_withinQuotas_iff {s : Service} (within : s.WithinQuotas cfg)
    (record : SessionRecord) :
    (s.ensureLocalSessionRecord record).WithinQuotas cfg ↔
      s.Admissible cfg (.ensureLocalSessionRecord record) := by
  unfold ensureLocalSessionRecord
  split
  · next unnamed =>
      refine iff_of_true within fun revived revives => ?_
      exact absurd unnamed revives.2.1
  · next named =>
      split
      · next known found =>
          refine iff_of_true within fun revived revives => ?_
          have unknown := revives.2.2.1
          rw [found] at unknown
          cases unknown
      · next unknown =>
          rw [insert_withinQuotas_iff within unknown]
          constructor
          · rintro admitted revived ⟨rfl, -, -, active⟩
            exact admitted active
          · exact fun admissible active => admissible record ⟨rfl, named, unknown, active⟩

theorem exec_withinQuotas_iff_of_opens {s : Service} (within : s.WithinQuotas cfg) {step : Step}
    {id : String} (opens : step.opens = some id) :
    (s.exec cfg platform step).WithinQuotas cfg ↔ s.Admissible cfg step := by
  obtain ⟨sessions, active⟩ := exec_of_opens cfg platform s opens
  have revives (record : SessionRecord) : s.Revives cfg step record ↔
      s.sessions.lookup id = some record ∧ s.Unopened id ∧ s.isSessionActive cfg id = false := by
    cases step <;> cases opens <;> simp [Revives, Step.opens]
  by_cases revived : ∃ record, s.Revives cfg step record
  · obtain ⟨record, own⟩ := revived
    obtain ⟨known, unopened, inactive⟩ := (revives record).mp own
    have others (other : String) (different : other ≠ id) :
        (s.exec cfg platform step).isSessionActive cfg other = s.isSessionActive cfg other := by
      simp [active, different]
    have awake : (s.exec cfg platform step).isSessionActive cfg id = true := by
      simp [active, unopened]
    rw [within.iff_admitted (activeCount_of_revived sessions known others inactive awake)]
    constructor
    · intro admitted other also
      have same := (revives other).mp also |>.1
      rw [known] at same
      cases same
      exact admitted
    · exact fun admissible => admissible record own
  · -- The session was active before, or it is none of the service's.
    refine iff_of_true (within.of_le (activeCount_le (sessions ▸ List.Sublist.refl _) ?_))
      fun record own => absurd ⟨record, own⟩ revived
    intro other known awake
    rw [active] at awake
    split at awake
    · next opened =>
        rw [sessions] at known
        obtain ⟨record, found⟩ := Option.isSome_iff_exists.mp (AList.lookup_isSome.mpr known)
        rw [opened.1] at found ⊢
        by_contra inactive
        rw [Bool.not_eq_true] at inactive
        exact revived ⟨record, (revives record).mpr ⟨found, opened.2, inactive⟩⟩
    · exact awake

/-- A step keeps the quotas exactly if it revives no session that would not be admitted. -/
theorem exec_withinQuotas_iff {s : Service} (within : s.WithinQuotas cfg) (step : Step) :
    (s.exec cfg platform step).WithinQuotas cfg ↔ s.Admissible cfg step := by
  by_cases shrinks : step.Shrinks
  · -- Nothing is revived, and no count grows.
    obtain ⟨entries, active⟩ := exec_of_shrinks cfg platform s shrinks
    refine iff_of_true (within.of_le (activeCount_le entries active)) fun record revives => ?_
    cases step <;> simp only [Step.Shrinks, Step.opens, reduceCtorEq] at shrinks <;>
      simp [Revives, Step.opens] at revives
  · cases opened : step.opens with
    | none =>
        cases step <;> simp only [Step.Shrinks, opened, not_true, not_false_eq_true] at shrinks
        case createSession raw stored draws =>
            refine iff_of_true (createSession_withinQuotas within raw stored draws) ?_
            intro record revives
            simp [Revives, Step.opens] at revives
        case ensureLocalSessionRecord record =>
            exact ensureLocalSessionRecord_withinQuotas_iff within record
    | some id => exact exec_withinQuotas_iff_of_opens within opened

/-- Every step of a sequence satisfies a condition in the state it is taken in. -/
def Along (cfg : Config) (platform : Platform) (condition : Service → Step → Prop) (s : Service)
    (steps : List Step) : Prop :=
  ∀ taken step rest, steps = taken ++ step :: rest → condition (s.run cfg platform taken) step

/-- The service as it starts. -/
def initial (now : Int) : Service := { now := now }

theorem initial_withinQuotas (now : Int) : (initial now).WithinQuotas cfg :=
  ⟨fun positive => positive.le, fun positive _ => positive.le, fun positive _ => positive.le⟩

theorem run_append_singleton (s : Service) (steps : List Step) (step : Step) :
    s.run cfg platform (steps ++ [step]) = (s.run cfg platform steps).exec cfg platform step := by
  simp [run]

theorem run_withinQuotas {s : Service} (within : s.WithinQuotas cfg) {steps : List Step}
    (admissible : Along cfg platform (Admissible cfg) s steps) :
    (s.run cfg platform steps).WithinQuotas cfg := by
  induction steps using List.reverseRecOn with
  | nil => exact within
  | append_singleton steps step ih =>
      rw [run_append_singleton]
      refine (exec_withinQuotas_iff (ih ?_) step).mpr (admissible steps step [] rfl)
      intro taken next rest split
      exact admissible taken next (rest ++ [step]) (by simp [split])

end Runs

/-- In a sequence of steps from the start of the service, no quota is ever exceeded exactly if
every session that a step revives would be admitted at that time. -/
theorem quotas_kept_iff_admissible (cfg : Config) (platform : Platform) (now : Int)
    (steps : List Step) :
    (∀ taken, taken <+: steps → ((initial now).run cfg platform taken).WithinQuotas cfg) ↔
      Along cfg platform (Admissible cfg) (initial now) steps := by
  constructor
  · rintro kept taken step rest rfl
    have before := kept taken (List.prefix_append _ _)
    have after := kept (taken ++ [step]) ⟨rest, by simp⟩
    rw [run_append_singleton] at after
    exact (exec_withinQuotas_iff before step).mp after
  · rintro admissible taken ⟨rest, rfl⟩
    refine run_withinQuotas (initial_withinQuotas now) fun earlier step later split => ?_
    exact admissible earlier step (later ++ rest) (by simp [split])

/-- A session lapses, its worker's place is given to another session, and then the viewer of the
first one connects. -/
def lateViewer : List Step :=
  [.createSession (plainRequest "rbi-1" "worker-a") none ⟨"entry_1", "bridge_1"⟩,
    .pass 120000000001,
    .createSession (plainRequest "rbi-2" "worker-a") none ⟨"entry_2", "bridge_2"⟩,
    .registerSignalConnection "rbi-1" .viewer ⟨1, 1⟩]

theorem late_viewer_exceeds_worker_quota :
    ¬((initial 0).run defaultConfig plainPlatform lateViewer).WithinQuotas defaultConfig := by
  intro within
  have two : workerActiveSessions defaultConfig
      ((initial 0).run defaultConfig plainPlatform lateViewer) "worker-a" = 2 := by
    decide +kernel
  have one := within.workers (by decide) "worker-a"
  rw [two] at one
  revert one
  decide

end Service

end RemoteBrowser.MediaGateway
