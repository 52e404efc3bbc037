import RemoteBrowser.ControlPlane.Effects
import RemoteBrowser.ControlPlane.Jobs

/-!
# Sockets and their owners

A socket that has left `OPEN` does not open again, and its close handler gives it up
only then.  A socket claims one end of a session in the store and is entered in the
map of its instance by the next step of the same handler; where nothing comes between
the two, every open owner is in the map of its instance.
-/

namespace RemoteBrowser

open Async Program

/-! ## Sockets that have not closed -/

section Closing

variable {settings : Settings} {connection : Connection}

/-- The socket is open, or not there yet. -/
def Unclosed (connection : Connection) (config : Config (controlPlane settings)) : Prop :=
  ∀ socket, State.sockets config.state connection = some socket → socket.isOpen = true

theorem unclosed_of_step {before after : Config (controlPlane settings)}
    {action : Action (controlPlane settings)} (stepped : before.step action = some after)
    (unclosed : Unclosed connection after) : Unclosed connection before := by
  obtain ⟨job, rfl, -, rfl⟩ | ⟨index, outcome, thread, op, next, rfl, -, -, rfl⟩ :=
    Config.step_cases stepped
  · exact unclosed
  · intro socket found
    by_contra left
    obtain ⟨after, kept, stays⟩ :=
      @State.isOpen_of_exec settings outcome before.state op connection socket found
        (by simpa using left)
    exact absurd (unclosed after kept) (by simp [stays])

/-- The operation is one by which a close handler gives up the socket. -/
def Op.ClosesOut (connection : Connection) : Op → Prop
  | .session (.releaseSocketOwnership _ _ other) => other = connection
  | .pool (.releaseSocketOwnership _ other) => other = connection
  | .sync (.clearLocalSocket other _ _) => other = connection
  | .sync (.clearLocalPoolSocket other _) => other = connection
  | _ => False

theorem Op.ClosesOut.job {op : Op} {job : Job} (closes : op.ClosesOut connection)
    (issued : op.IssuedBy job) : job = .close connection := by
  cases op with
  | session call =>
      cases call with
      | releaseSocketOwnership id role other =>
          subst closes
          exact issued
      | _ => exact closes.elim
  | pool call =>
      cases call with
      | releaseSocketOwnership workerId other =>
          subst closes
          exact issued
      | _ => exact closes.elim
  | sync call =>
      cases call with
      | clearLocalSocket other id role =>
          subst closes
          exact issued
      | clearLocalPoolSocket other workerId =>
          subst closes
          exact issued
      | _ => exact closes.elim
  | _ => exact closes.elim

/-- The handler never gives up the socket, or is its close handler before the close event
is delivered. -/
def SparesSocket (connection : Connection) (thread : Thread (controlPlane settings)) : Prop :=
  thread.program.Issues (fun op : Op => ¬op.ClosesOut connection) ∨
    thread.program = onClose settings connection

theorem SparesSocket.not_closesOut {thread : Thread (controlPlane settings)}
    (spares : SparesSocket connection thread) {op : Op} {next : op.Reply → Handler Unit}
    (suspended : thread.program = .request op next) : ¬op.ClosesOut connection := by
  rcases spares with spares | fresh
  · rw [suspended] at spares
    exact spares.1
  · rw [suspended] at fresh
    cases fresh
    exact id

/-- No handler gives up a socket that has not closed. -/
theorem sparesSocket_of_run {allowed : Config (controlPlane settings) → Action _ → Prop}
    {final : Config (controlPlane settings)} (run : Run allowed ⟨State.initial, []⟩ final)
    (unclosed : Unclosed connection final) :
    ∀ thread ∈ final.threads, SparesSocket connection thread := by
  refine run.issues_or_fresh (fun op : Op => ¬op.ClosesOut connection)
    (fun left : Handler Unit => left = onClose settings connection) (Unclosed connection) ?_
    (fun _ _ _ stepped => unclosed_of_step stepped) ?_ unclosed
  · intro job
    by_cases own : job = .close connection
    · subst own
      exact .inr rfl
    · left
      exact (Job.body_issues settings job).mono fun op issued closes => own (closes.job issued)
  · -- the close event of an open socket is not delivered
    rintro config outcome op next stillOpen fresh
    cases fresh
    have undelivered : ((controlPlane settings).exec outcome
        (.sync (.closeEvent connection)) config.state).2 = false := by
      simp only [State.exec, State.execSync]
      split
      · rfl
      · next socket located => simp [stillOpen socket located]
    rw [undelivered]
    trivial

/-! ## Sockets that were accepted -/

/-- The operation registers the socket for one end of a session, or claims that end. -/
def Op.TakesUp (connection : Connection) : Op → Prop
  | .session (.mutate _ (.claimSocketOwnership _ other)) => other = connection
  | .sync (.registerSession other _) => other = connection
  | _ => False

/-- Only a socket that was accepted is registered and claimed. -/
theorem not_takesUp_of_run {allowed : Config (controlPlane settings) → Action _ → Prop}
    {final : Config (controlPlane settings)} (run : Run allowed ⟨State.initial, []⟩ final)
    (absent : State.sockets final.state connection = none) :
    ∀ thread ∈ final.threads,
      thread.program.Issues (fun op : Op => ¬op.TakesUp connection) ∨
        ∃ role id token, thread.program = handleRegister connection role id token := by
  refine run.issues_or_fresh (fun op : Op => ¬op.TakesUp connection)
    (fun left : Handler Unit => ∃ role id token, left = handleRegister connection role id token)
    (fun config => State.sockets config.state connection = none) ?_ ?_ ?_ absent
  · intro job
    by_cases own : ∃ role id token, job = .message connection (.register role id token)
    · obtain ⟨role, id, token, rfl⟩ := own
      exact .inr ⟨role, id, token, rfl⟩
    · left
      refine (Job.body_issues settings job).mono fun op issued takes => own ?_
      cases op with
      | session call =>
          cases call with
          | mutate id mutation =>
              cases mutation with
              | claimSocketOwnership role other =>
                  obtain rfl : other = connection := takes
                  obtain ⟨token, same⟩ := Job.Handles.register issued
                  exact ⟨role, id, token, same⟩
              | _ => exact takes.elim
          | _ => exact takes.elim
      | sync call =>
          cases call with
          | registerSession other binding =>
              obtain rfl : other = connection := takes
              obtain ⟨token, same⟩ := Job.Handles.register issued
              exact ⟨binding.role, binding.sessionId, token, same⟩
          | _ => exact takes.elim
      | _ => exact takes.elim
  · intro before after action stepped later
    obtain ⟨job, rfl, -, rfl⟩ | ⟨index, outcome, thread, op, next, rfl, -, -, rfl⟩ :=
      Config.step_cases stepped
    · exact later
    · exact State.sockets_of_exec later
  · -- a handler of a socket that is not there sees no upgrade request
    rintro config outcome op next unaccepted ⟨role, id, token, fresh⟩
    cases fresh
    have unseen : ((controlPlane settings).exec outcome
        (.sync (.upgradeRequest connection)) config.state).2 = none := by
      simp [State.exec, State.execSync, unaccepted]
    rw [unseen]
    trivial

end Closing

/-! ## Claims and adoptions -/

/-- A socket is entered in the map of its instance only right after its claim.  The
monitor remembers the last operation of a handler. -/
def adoption : Monitor controlPlane.face (Option Op) where
  allows := fun last op => match op with
    | .sync (.adoptSocket connection id role) =>
        last = some (.session (.mutate id (.claimSocketOwnership role connection)))
    | _ => True
  next := fun _ op _ => some (some op)

/-- The operation enters no session socket in a map. -/
def Op.AdoptsNone : Op → Prop
  | .sync (.adoptSocket _ _ _) => False
  | _ => True

theorem Op.AdoptsNone.allowed {op : Op} (none : op.AdoptsNone) (last : Option Op) :
    adoption.allows last op := by
  cases op with
  | sync call =>
      cases call with
      | adoptSocket connection id role => exact none.elim
      | _ => trivial
  | _ => trivial

theorem Op.Signaling.adoptsNone {op : Op} (signaling : op.Signaling) : op.AdoptsNone := by
  cases op with
  | sync call => cases call <;> trivial
  | _ => trivial

theorem handleRegister_adoption (connection : Connection) (role : Role) (id : SessionId)
    (token : Token) (last : Option Op) :
    (handleRegister connection role id token).Follows adoption (fun _ _ => True) last := by
  have fails (message : String) (last : Option Op) :
      (failWith connection message).Follows adoption (fun _ _ => True) last :=
    ⟨trivial, fun _ _ _ => trivial⟩
  have flushes (last : Option Op) : (flushSignals connection.instanceId id role).Follows
      adoption (fun _ _ => True) last :=
    (flushSignals_issues connection.instanceId id role).follows
      (fun _ signaling last => signaling.adoptsNone.allowed last) last
  have records (last : Option Op) : (recordRegistration role id).Follows adoption
      (fun _ _ => True) last := by
    cases role <;> exact ⟨trivial, fun _ _ _ => trivial⟩
  refine ⟨trivial, fun upgrade _ _ => ?_⟩
  cases upgrade with
  | none => trivial
  | some upgrade =>
      obtain ⟨path, cookies⟩ := upgrade
      dsimp only [Program.bind]
      split
      · exact fails _ _
      refine ⟨trivial, fun stored _ _ => ⟨trivial, fun now _ _ => ?_⟩⟩
      dsimp only [Program.bind]
      split
      · exact fails _ _
      refine ⟨trivial, fun _ _ _ => ⟨trivial, fun _ after claimed => ?_⟩⟩
      cases claimed
      refine ⟨rfl, fun _ _ _ => (records _).bind fun _ _ _ => ?_⟩
      exact ⟨trivial, fun _ _ _ => flushes _⟩

theorem Job.body_adoption (settings : Settings) (job : Job) :
    (job.body settings).Follows adoption (fun _ _ => True) none := by
  by_cases registers : ∃ connection role id token,
      job = .message connection (.register role id token)
  · obtain ⟨connection, role, id, token, rfl⟩ := registers
    exact handleRegister_adoption connection role id token none
  · have issues : (job.body settings).Issues Op.AdoptsNone := by
      refine (Job.body_issues settings job).mono fun op issued => ?_
      cases op with
      | sync call =>
          cases call with
          | adoptSocket connection id role =>
              obtain ⟨token, same⟩ := Job.Handles.register issued
              exact registers ⟨connection, role, id, token, same⟩
          | _ => trivial
      | _ => trivial
    exact issues.follows (fun _ none last => none.allowed last) none

/-- The socket claimed one end of the session. -/
def Claims (connection : Connection) (id : SessionId) (role : Role)
    (event : Event controlPlane.face) : Prop :=
  event.1 = .session (.mutate id (.claimSocketOwnership role connection))

/-- The handler is about to enter the socket in the map of its instance. -/
def Adopts {α : Type} (connection : Connection) (id : SessionId) (role : Role)
    (left : Handler α) : Prop :=
  ∃ next, left = .request (.sync (.adoptSocket connection id role)) next

section Adoption

variable {connection : Connection} {id : SessionId} {role : Role}

/-- The operation claims no end of a session. -/
def Op.ClaimsNone : Op → Prop
  | .session (.mutate _ (.claimSocketOwnership _ _)) => False
  | _ => True

theorem Op.ClaimsNone.silent {op : Op} (none : op.ClaimsNone) (reply : op.Reply) :
    ¬Claims connection id role ⟨op, reply⟩ := by
  intro claims
  cases claims
  exact none

theorem Op.Signaling.claimsNone {op : Op} (signaling : op.Signaling) : op.ClaimsNone := by
  cases op with
  | session call =>
      cases call with
      | mutate other mutation => exact signaling.elim
      | _ => trivial
  | _ => trivial

theorem reacts_of_claimsNone {α : Type} {handler : Handler α} {form : Handler α → Prop}
    (issues : handler.Issues Op.ClaimsNone) :
    handler.Reacts (Claims connection id role) form :=
  issues.reacts fun _ none reply => none.silent reply

theorem reacts_await {α : Type} {op : Op} {rest : op.Reply → Handler α}
    {form : Handler α → Prop} (none : op.ClaimsNone)
    (next : ∀ reply, (rest reply).Reacts (Claims connection id role) form) :
    (await op >>= rest).Reacts (Claims connection id role) form :=
  fun reply => ⟨fun claims => absurd claims (none.silent reply), next reply⟩

theorem acceptRegistration_reacts (other : Connection) (target : Role) (sessionId : SessionId)
    (session : Session) :
    (acceptRegistration other target sessionId session).Reacts (Claims connection id role)
      (Adopts connection id role) := by
  have records : (recordRegistration target sessionId).Issues Op.ClaimsNone := by
    cases target <;> exact ⟨trivial, fun _ => trivial⟩
  have flushes : (flushSignals other.instanceId sessionId target).Issues Op.ClaimsNone :=
    (flushSignals_issues other.instanceId sessionId target).mono
      fun _ signaling => signaling.claimsNone
  refine reacts_await trivial fun _ => fun reply => ⟨fun claims => ?_, ?_⟩
  · cases claims
    exact ⟨_, rfl⟩
  · refine reacts_await trivial fun _ => reacts_of_claimsNone ?_
    exact records.bind fun _ => ⟨trivial, fun _ => flushes⟩

theorem handleRegister_reacts (other : Connection) (target : Role) (sessionId : SessionId)
    (token : Token) :
    (handleRegister other target sessionId token).Reacts (Claims connection id role)
      (Adopts connection id role) := by
  have fails (message : String) : (failWith other message).Reacts (Claims connection id role)
      (Adopts connection id role) := reacts_of_claimsNone ⟨trivial, fun _ => trivial⟩
  refine reacts_await trivial fun upgrade => ?_
  cases upgrade with
  | none => trivial
  | some upgrade =>
      dsimp only
      split
      · exact fails _
      refine reacts_await trivial fun stored => reacts_await trivial fun now => ?_
      split
      · exact fails _
      · exact acceptRegistration_reacts other target sessionId _

/-- Every handler that claims a socket adopts it next. -/
theorem Job.body_reacts (settings : Settings) (job : Job) :
    (job.body settings).Reacts (Claims connection id role) (Adopts connection id role) := by
  by_cases registers : job.Handles connection (Message.RegistersSession id role)
  · obtain ⟨token, rfl⟩ := registers.register
    exact handleRegister_reacts connection role id token
  · apply (Job.body_issues settings job).reacts
    intro op issued reply claims
    cases claims
    exact registers issued

end Adoption

/-! ## Owners -/

section Owners

variable {settings : Settings} {id : SessionId} {role : Role}

/-- The stored owner of one end of a session. -/
def State.socketOwner (id : SessionId) (role : Role) (state : State) : Option Connection :=
  state.store.getSocketOwner state.clock id role

theorem State.socketOwner_eq_some {state : State} {connection : Connection} :
    state.socketOwner id role = some connection ↔
      ∃ session, state.stored id = some session ∧ session.socketOwner role = some connection :=
  Option.bind_eq_some_iff

/-- While a claimed socket is not yet entered in the map of its instance, that is what
happens next. -/
def AdoptsAtOnce (id : SessionId) (role : Role) (config : Config (controlPlane settings))
    (action : Action (controlPlane settings)) : Prop :=
  ∀ index connection, config.awaits index = some (.sync (.adoptSocket connection id role)) →
    ∃ outcome, action = .resume index outcome

/-- The owner of one end of the session was accepted as a socket; unless it has left
`OPEN`, it is in the map of its instance or about to be entered there.  A socket that is
about to be entered is the owner. -/
structure OwnerAdopted (id : SessionId) (role : Role) (config : Config (controlPlane settings)) :
    Prop where
  accepted : ∀ connection, State.socketOwner id role config.state = some connection →
    State.sockets config.state connection ≠ none
  adopted : ∀ connection, State.socketOwner id role config.state = some connection →
    Unclosed connection config →
    State.localSockets config.state connection.instanceId id role = some connection ∨
      ∃ index, config.awaits index = some (.sync (.adoptSocket connection id role))
  claimed : ∀ index connection,
    config.awaits index = some (.sync (.adoptSocket connection id role)) →
    ∀ session, State.stored config.state id = some session →
      session.socketOwner role = some connection

/-- What is known of the handlers of every run. -/
structure KnownHandlers (config : Config (controlPlane settings)) : Prop where
  obeys : ∀ thread ∈ config.threads, thread.Obeys adoption (fun _ => some none) fun _ => True
  reacts : ∀ connection id role, ∀ thread ∈ config.threads,
    thread.program.Reacts (Claims connection id role) (Adopts connection id role)
  spares : ∀ connection, Unclosed connection config →
    ∀ thread ∈ config.threads, SparesSocket connection thread
  takesUp : ∀ connection, State.sockets config.state connection = none →
    ∀ thread ∈ config.threads,
      thread.program.Issues (fun op : Op => ¬op.TakesUp connection) ∨
        ∃ role id token, thread.program = handleRegister connection role id token

theorem knownHandlers_of_run {allowed : Config (controlPlane settings) → Action _ → Prop}
    {config : Config (controlPlane settings)} (run : Run allowed ⟨State.initial, []⟩ config) :
    KnownHandlers config where
  obeys := by
    apply run.obeys ?_ (by simp)
    intro job last initially
    cases initially
    exact Job.body_adoption settings job
  reacts := fun _ _ _ => run.reacts (fun job => Job.body_reacts settings job) (by simp)
  spares := fun _ unclosed => sparesSocket_of_run run unclosed
  takesUp := fun _ absent => not_takesUp_of_run run absent

/-- The monitor state is the last operation. -/
theorem adoption_after (events : List (Event controlPlane.face)) :
    adoption.after (some none) events = some (events.head?.map Sigma.fst) := by
  induction events with
  | nil => rfl
  | cons event events ih =>
      obtain ⟨op, reply⟩ := event
      rw [Monitor.after_cons, ih]
      rfl

/-- A handler that is about to adopt a socket has just claimed it. -/
theorem KnownHandlers.claim_of_adopts {config : Config (controlPlane settings)}
    (known : KnownHandlers config) {thread : Thread (controlPlane settings)}
    (member : thread ∈ config.threads) {connection : Connection}
    {next : Unit → Handler Unit}
    (suspended : thread.program = .request (.sync (.adoptSocket connection id role)) next) :
    thread.past.head?.map Sigma.fst =
      some (.session (.mutate id (.claimSocketOwnership role connection))) :=
  (known.obeys thread member).allows (adoption_after thread.past) suspended

/-- An owner that has not closed is in the map of its instance after every operation of a
handler. -/
theorem OwnerAdopted.entered {before : Config (controlPlane settings)} {position : Nat}
    {outcome : LaunchOutcome} {thread : Thread (controlPlane settings)} {op : Op}
    {next : op.Reply → Handler Unit} {connection : Connection} {threads : List (Thread _)}
    (holds : OwnerAdopted id role before) (known : KnownHandlers before)
    (atOnce : AdoptsAtOnce id role before (.resume position outcome))
    (found : before.threads[position]? = some thread)
    (suspended : thread.program = .request op next)
    (owned : State.socketOwner id role before.state = some connection)
    (unclosed : Unclosed connection
      (⟨(State.exec settings outcome op before.state).1, threads⟩ : Config (controlPlane settings)))
    (unclosedBefore : Unclosed connection before) :
    State.localSockets (State.exec settings outcome op before.state).1 connection.instanceId id
      role = some connection := by
  have awaited := Config.awaits_eq_some found suspended
  obtain ⟨session, stored, owner⟩ := State.socketOwner_eq_some.mp owned
  rcases holds.adopted connection owned unclosedBefore with entered | ⟨index, pending⟩
  · have step : State.LocalStep connection.instanceId id role op
        (State.localSockets before.state connection.instanceId id role)
        (State.localSockets (State.exec settings outcome op before.state).1
          connection.instanceId id role) :=
      State.localStep_exec op connection.instanceId id role
    rw [entered] at step
    generalize State.localSockets (State.exec settings outcome op before.state).1
      connection.instanceId id role = after at step
    cases step with
    | kept => rfl
    | adopted =>
        have claimer := holds.claimed position _ awaited session stored
        exact claimer.symm.trans owner
    | cleared =>
        have spares := known.spares connection unclosedBefore thread (List.mem_of_getElem? found)
        exact absurd rfl (spares.not_closesOut suspended)
    | dismissed =>
        obtain ⟨socket, located⟩ := Option.ne_none_iff_exists'.mp (holds.accepted connection owned)
        obtain ⟨left, kept, closed⟩ :=
          @State.isOpen_dismissSockets settings outcome _ _ _ _ _ _ entered located
        exact absurd (unclosed left kept) (by simp [closed])
  · obtain ⟨_, same⟩ := atOnce index connection pending
    cases same
    cases awaited.symm.trans pending
    exact (State.localSockets_setLocalSocket ..).trans (if_pos ⟨rfl, rfl, rfl⟩)

/-- A claim, an adoption and every other operation keep the owner adopted. -/
theorem OwnerAdopted.step {before after : Config (controlPlane settings)}
    {action : Action (controlPlane settings)} (holds : OwnerAdopted id role before)
    (known : KnownHandlers before) (knownAfter : KnownHandlers after)
    (atOnce : AdoptsAtOnce id role before action) (stepped : before.step action = some after) :
    OwnerAdopted id role after := by
  have unclosedBefore {connection : Connection} (unclosed : Unclosed connection after) :
      Unclosed connection before := unclosed_of_step stepped unclosed
  obtain ⟨job, rfl, -, rfl⟩ | ⟨position, outcome, thread, op, next, rfl, found, suspended, rfl⟩ :=
    Config.step_cases stepped
  · -- the start of a handler
    refine ⟨holds.accepted, fun connection owns unclosed => ?_, fun index connection awaited => ?_⟩
    · rcases holds.adopted connection owns unclosed with entered | ⟨index, awaited⟩
      · exact .inl entered
      · obtain ⟨_, impossible⟩ := atOnce index connection awaited
        cases impossible
    · rcases Config.awaits_append before.state awaited with earlier | ⟨next, first⟩
      · obtain ⟨_, impossible⟩ := atOnce index connection earlier
        cases impossible
      · have follows := Job.body_adoption settings job
        change (Thread.new (controlPlane settings) job).program = _ at first
        rw [Thread.new_program] at first
        rw [show Job.body settings job = _ from first] at follows
        cases follows.1
  · have member := List.mem_of_getElem? found
    have awaited := Config.awaits_eq_some found suspended
    refine ⟨fun connection owns => ?_, fun connection owns unclosed => ?_,
      fun index connection later => ?_⟩
    · -- only an accepted socket is claimed
      intro absent
      obtain ⟨session, stored, owner⟩ := State.socketOwner_eq_some.mp owns
      rcases (State.stored_exec stored).owner_cases role with
        ⟨old, wasStored, same⟩ | ⟨claimer, rfl, claimed⟩ | none
      · apply holds.accepted connection ?_ (State.sockets_of_exec absent)
        exact State.socketOwner_eq_some.mpr ⟨old, wasStored, same.symm.trans owner⟩
      · cases claimed.symm.trans owner
        rcases known.takesUp connection (State.sockets_of_exec absent) thread member with
          declines | ⟨_, _, _, fresh⟩
        · rw [suspended] at declines
          exact declines.1 rfl
        · cases suspended.symm.trans fresh
      · cases none.symm.trans owner
    · obtain ⟨session, stored, owner⟩ := State.socketOwner_eq_some.mp owns
      rcases (State.stored_exec stored).owner_cases role with
        ⟨old, wasStored, same⟩ | ⟨claimer, rfl, claimed⟩ | none
      · left
        have owned : State.socketOwner id role before.state = some connection :=
          State.socketOwner_eq_some.mpr ⟨old, wasStored, same.symm.trans owner⟩
        exact holds.entered known atOnce found suspended owned unclosed
          (unclosedBefore unclosed)
      · -- a claim is followed by the adoption
        right
        cases claimed.symm.trans owner
        have reacts := known.reacts connection id role thread member
        rw [suspended] at reacts
        obtain ⟨rest, adopts⟩ := (reacts _).1 rfl
        refine ⟨position, Config.awaits_eq_some (List.getElem?_set_self ?_) adopts⟩
        exact (List.getElem?_eq_some_iff.mp found).1
      · cases none.symm.trans owner
    · intro session stored
      rcases Config.awaits_set before.state later with
        ⟨different, earlier⟩ | ⟨rfl, rest, adopts⟩
      · obtain ⟨_, same⟩ := atOnce index connection earlier
        cases same
        exact absurd rfl different
      · have claimed := knownAfter.claim_of_adopts (List.mem_set
          (List.getElem?_eq_some_iff.mp found).1 _) adopts
        obtain rfl := Option.some.inj claimed
        obtain ⟨old, -, rfl⟩ := @State.stored_mutate settings outcome _ _ _ _ stored
        cases role <;> rfl

/-- In every run in which claimed sockets are adopted at once, an owner that has not
closed is in the map of its instance. -/
theorem ownerAdopted_of_run {config : Config (controlPlane settings)}
    (run : Run (AdoptsAtOnce id role) ⟨State.initial, []⟩ config) :
    OwnerAdopted id role config := by
  induction run with
  | refl =>
      have unowned (connection : Connection)
          (owns : State.socketOwner id role State.initial = some connection) : False := by
        simp [State.socketOwner, State.initial, RedisSessionStore.getSocketOwner,
          RedisSessionStore.loadSession, RedisSessionStore.empty] at owns
      exact ⟨fun connection owns => (unowned connection owns).elim,
        fun connection owns => (unowned connection owns).elim,
        fun index connection awaited => by simp [Config.awaits] at awaited⟩
  | tail earlier atOnce stepped ih =>
      exact ih.step (knownHandlers_of_run earlier)
        (knownHandlers_of_run (earlier.tail atOnce stepped)) atOnce stepped

end Owners

end RemoteBrowser
