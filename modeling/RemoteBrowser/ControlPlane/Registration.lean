import RemoteBrowser.ControlPlane.Reconnect

/-!
# Messages that follow a registration

Every message of a socket starts its own handler.  The closure variables that a
`register` sets, and the claim that follows, are two awaits into its handler, so a
message sent right behind it can be handled first: it finds the socket unregistered, or
registered and not yet the stored owner, and is refused.  In every run in which such
messages consult the variables only once the registrations that have set them have
completed their claims, no message of the newest claimer is refused.
-/

namespace RemoteBrowser

open Async Program

/-! ## What a message handler consults -/

/-- The message is one that a socket without a session may be refused for. -/
def Message.NeedsSession : Message → Prop
  | .poolRegister _ _ _ _ _ => False
  | .register _ _ _ => False
  | .heartbeat _ => False
  | _ => True

/-- The message is neither of the two registrations. -/
def Message.Ordinary : Message → Prop
  | .poolRegister _ _ _ _ _ => False
  | .register _ _ _ => False
  | _ => True

/-- The handler has not yet asked for the owner of one end of a session. -/
def Unchecked (past : List (Event controlPlane.face)) : Prop :=
  ∀ id role, Op.session (.getSocketOwner id role) ∉ past.map Sigma.fst

/-- The handler has just read the registration of the socket, before any ownership check. -/
def HasReadBinding (connection : Connection) (session : Option Binding)
    (past : List (Event controlPlane.face)) : Prop :=
  ∃ (reply : Registration) (rest : List (Event controlPlane.face)),
    past = ⟨.sync (.registration connection), reply⟩ :: rest ∧ Unchecked rest ∧
      reply.session = session

/-- The handler has just asked for the owner of the end that it read. -/
def HasCheckedOwner (connection : Connection) (owner : Option Connection)
    (past : List (Event controlPlane.face)) : Prop :=
  ∃ (binding : Binding) (rest : List (Event controlPlane.face)),
    past = ⟨.session (.getSocketOwner binding.sessionId binding.role), owner⟩ :: rest ∧
      HasReadBinding connection (some binding) rest

/-- When the handler of a message may refuse it: it has read that the socket is not
registered, or the store has named another owner of the end that it has read. -/
def refusal (connection : Connection) (message : Message)
    (past : List (Event controlPlane.face)) : Op → Prop
  | .sync (.sendNotice _ (.error _)) => message.NeedsSession ∧ HasReadBinding connection none past
  | .sync (.closeSocket _) =>
      (∃ workerId, past.head?.map Sigma.fst = some (.pool (.getSocketOwner workerId))) ∨
        message.NeedsSession ∧ ∃ owner, owner ≠ some connection ∧ HasCheckedOwner connection owner past
  | _ => True

/-- The operation is one of those by which a message is refused. -/
def Op.Refuses : Op → Prop
  | .sync (.sendNotice _ (.error _)) => True
  | .sync (.closeSocket _) => True
  | _ => False

section Refusals

variable {connection : Connection} {message : Message}

theorem refusal_of_not_refuses {op : Op} (none : ¬op.Refuses)
    (past : List (Event controlPlane.face)) : refusal connection message past op := by
  cases op with
  | sync call =>
      cases call with
      | sendNotice other notice =>
          cases notice with
          | error text => exact absurd trivial none
          | _ => trivial
      | closeSocket other => exact absurd trivial none
      | _ => trivial
  | _ => trivial

theorem follows_of_not_refuses {handler : Handler Unit}
    (issues : handler.Issues fun op : Op => ¬op.Refuses)
    (past : List (Event controlPlane.face)) :
    handler.Follows (.history (refusal connection message)) (fun _ _ => True) past :=
  issues.follows (fun _ none past => refusal_of_not_refuses none past) past

/-- What a handler of no socket issues refuses no message. -/
theorem Op.not_refuses_of_issuedBy {op : Op} (issued : op.IssuedBy (.expiry 0)) :
    ¬op.Refuses := by
  intro refuses
  cases op with
  | sync call =>
      cases call with
      | sendNotice other notice => exact issued
      | closeSocket other => exact issued
      | _ => exact refuses
  | _ => exact refuses

theorem follows_of_issuedBy {handler : Handler Unit}
    (issues : handler.Issues (Op.IssuedBy (.expiry 0)))
    (past : List (Event controlPlane.face)) :
    handler.Follows (.history (refusal connection message)) (fun _ _ => True) past :=
  follows_of_not_refuses (issues.mono fun _ issued => Op.not_refuses_of_issuedBy issued) past

theorem unchecked_cons {op : Op} {reply : op.Reply} {past : List (Event controlPlane.face)}
    (unchecked : Unchecked past) (other : ∀ id role, op ≠ .session (.getSocketOwner id role)) :
    Unchecked (⟨op, reply⟩ :: past) := by
  intro id role member
  rcases List.mem_cons.mp member with same | earlier
  · exact other id role same.symm
  · exact unchecked id role earlier

theorem handleSessionMessage_follows (needs : message.NeedsSession)
    {past : List (Event controlPlane.face)} (unchecked : Unchecked past) :
    (handleSessionMessage connection message).Follows (.history (refusal connection message))
      (fun _ _ => True) past := by
  refine follows_history trivial fun registration => ?_
  obtain ⟨session, poolWorkerId⟩ := registration
  cases session with
  | none =>
      refine follows_history ⟨needs, ?_⟩ fun _ => trivial
      exact ⟨_, past, rfl, unchecked, rfl⟩
  | some binding =>
      refine follows_history trivial fun owner => ?_
      change Follows _ _ (if decide (owner = some connection) = true then _
        else sync (.closeSocket connection) : Handler Unit) _
      split
      · apply follows_of_issuedBy
        split
        · exact handleWorkerState_issuedBy ..
        · exact relayMessage_issuedBy ..
      · next refused =>
          have different : owner ≠ some connection := by simpa using refused
          refine follows_history (.inr ⟨needs, owner, different, ?_⟩) fun _ => trivial
          exact ⟨binding, _, rfl, _, past, rfl, unchecked, rfl⟩

theorem handleHeartbeat_issues (metadata : WorkerTraits) :
    (handleHeartbeat connection metadata).Issues fun op : Op => ¬op.Refuses := by
  have viewer : (heartbeatViewer connection).Issues fun op : Op => ¬op.Refuses := by
    refine Issues.bind ⟨id, fun _ => trivial⟩ fun registration => ?_
    split
    · exact ⟨id, fun _ => trivial⟩
    · trivial
  have worker : (heartbeatPoolWorker connection metadata).Issues fun op : Op => ¬op.Refuses := by
    refine Issues.bind ⟨id, fun _ => trivial⟩ fun registration => ?_
    split
    · trivial
    · exact ⟨id, fun _ => trivial⟩
  exact viewer.bind fun _ => worker.bind fun _ => ⟨id, fun _ => trivial⟩

theorem handleCurrentMessage_follows (settings : Settings) (ordinary : message.Ordinary)
    {past : List (Event controlPlane.face)} (unchecked : Unchecked past) :
    (handleCurrentMessage settings connection message).Follows
      (.history (refusal connection message)) (fun _ _ => True) past := by
  cases message with
  | poolRegister secret workerId traits metadata display => exact ordinary.elim
  | register role id token => exact ordinary.elim
  | heartbeat metadata => exact follows_of_not_refuses (handleHeartbeat_issues metadata) past
  | poolState state lastSessionId sessionId traits metadata =>
      refine follows_history trivial fun registration => ?_
      have further : Unchecked (⟨.sync (.registration connection), registration⟩ :: past) :=
        unchecked_cons unchecked fun _ _ => by simp
      obtain ⟨session, poolWorkerId⟩ := registration
      cases poolWorkerId with
      | none => exact handleSessionMessage_follows (by trivial) further
      | some workerId => exact follows_of_issuedBy (handlePoolState_issuedBy ..) _
  | workerState state reason => exact handleSessionMessage_follows (by trivial) unchecked
  | other text => exact handleSessionMessage_follows (by trivial) unchecked

/-- The handler of an ordinary message refuses it only for these reasons. -/
theorem onMessage_follows (settings : Settings) (ordinary : message.Ordinary) :
    (onMessage settings connection message).Follows (.history (refusal connection message))
      (fun _ _ => True) [] := by
  have unchecked : Unchecked [] := fun _ _ member => by simp at member
  unfold onMessage
  split
  case h_1 => exact ordinary.elim
  case h_2 => exact ordinary.elim
  case h_3 =>
    refine follows_history trivial fun registration => ?_
    have further : Unchecked [⟨.sync (.registration connection), registration⟩] :=
      unchecked_cons unchecked fun _ _ => by simp
    dsimp only [Program.bind]
    split
    case h_1 => exact handleCurrentMessage_follows settings ordinary further
    case h_2 workerId named =>
      refine follows_history trivial fun owner => ?_
      change Follows _ _ (if decide (owner = some connection) = true then _
        else sync (.closeSocket connection) : Handler Unit) _
      split
      case isTrue =>
        apply handleCurrentMessage_follows settings ordinary
        exact unchecked_cons further fun _ _ => by simp
      case isFalse => exact follows_history (.inl ⟨workerId, rfl⟩) fun _ => trivial

end Refusals

/-! ## Registrations and claims -/

/-- The ends of sessions for which a handler has set the variables of the socket. -/
def bindingsOf (connection : Connection) (past : List (Event controlPlane.face)) :
    List Binding :=
  past.filterMap fun event => match event.1 with
    | .sync (.registerSession other binding) =>
        if other = connection then some binding else none
    | _ => none

/-- The ends that a handler has claimed for the socket in the store. -/
def claimsOf (connection : Connection) (past : List (Event controlPlane.face)) :
    List (SessionId × Role) :=
  past.filterMap fun event => match event with
    | ⟨.session (.mutate id (.claimSocketOwnership role other)), some _⟩ =>
        if other = connection then some (id, role) else none
    | _ => none

/-- The end of a session that the variables of a socket name. -/
def State.bindingOf (state : State) (connection : Connection) : Option Binding :=
  (state.sockets connection).bind fun socket => socket.registration.session

section Registrations

variable {settings : Settings} {connection : Connection}

theorem mem_bindingsOf_cons {binding : Binding} {past : List (Event controlPlane.face)}
    (event : Event controlPlane.face) (member : binding ∈ bindingsOf connection past) :
    binding ∈ bindingsOf connection (event :: past) :=
  ((List.sublist_cons_self event past).filterMap _).subset member

theorem mem_claimsOf_cons {id : SessionId} {role : Role} {past : List (Event controlPlane.face)}
    (event : Event controlPlane.face) (member : (id, role) ∈ claimsOf connection past) :
    (id, role) ∈ claimsOf connection (event :: past) :=
  ((List.sublist_cons_self event past).filterMap _).subset member

theorem bindingsOf_cons_of_ne {op : Op} {reply : op.Reply}
    {past : List (Event controlPlane.face)}
    (other : ∀ binding, op ≠ .sync (.registerSession connection binding)) :
    bindingsOf connection (⟨op, reply⟩ :: past) = bindingsOf connection past := by
  apply List.filterMap_cons_none
  dsimp only
  split
  · next registered binding =>
      split
      · next same =>
          subst same
          exact absurd rfl (other binding)
      · rfl
  · rfl

theorem claim_of_mem_claimsOf_cons {id : SessionId} {role : Role} {op : Op} {reply : op.Reply}
    {past : List (Event controlPlane.face)}
    (member : (id, role) ∈ claimsOf connection (⟨op, reply⟩ :: past)) :
    (id, role) ∈ claimsOf connection past ∨
      ∃ session : Session, (⟨op, reply⟩ : Event controlPlane.face) =
        ⟨.session (.mutate id (.claimSocketOwnership role connection)), some session⟩ := by
  obtain ⟨event, among, claimed⟩ := List.mem_filterMap.mp member
  rcases List.mem_cons.mp among with rfl | earlier
  · right
    split at claimed
    · next session same =>
        split at claimed
        · next owner =>
            cases claimed
            subst owner
            exact ⟨session, same⟩
        · cases claimed
    · cases claimed
  · exact .inl (List.mem_filterMap.mpr ⟨event, earlier, claimed⟩)

namespace State

variable {outcome : LaunchOutcome} {state : State}

/-- The variables of a socket change only by a registration. -/
theorem bindingOf_exec {op : Op}
    (other : ∀ binding, op ≠ .sync (.registerSession connection binding)) :
    (exec settings outcome op state).1.bindingOf connection = state.bindingOf connection := by
  have step : SocketStep connection op (state.sockets connection)
    ((exec settings outcome op state).1.sockets connection) := socketStep_exec op connection
  unfold bindingOf
  generalize (exec settings outcome op state).1.sockets connection = after at step
  generalize state.sockets connection = before at step
  cases step with
  | left leaves =>
      rcases leaves with rfl | rfl
      · rfl
      · cases before <;> rfl
  | accepted => rfl
  | @registered binding => exact absurd rfl (other binding)
  | poolRegistered => rfl
  | closed => rfl

theorem bindingOf_registerSession {binding : Binding}
    (accepted : state.sockets connection ≠ none) :
    (exec settings outcome (.sync (.registerSession connection binding)) state).1.bindingOf
      connection = some binding := by
  obtain ⟨socket, found⟩ := Option.ne_none_iff_exists'.mp accepted
  simp [exec, execSync, bindingOf, modifySocket, found]

/-- The variables that a handler reads of a socket name that end. -/
theorem session_registration :
    (exec settings outcome (.sync (.registration connection)) state).2.session =
      state.bindingOf connection := by
  simp only [exec, execSync, bindingOf]
  cases state.sockets connection <;> rfl

/-- The store accepts a mutation of a stored session only. -/
theorem stored_of_mutate_reply {id : SessionId} {mutation : SessionMutation} {session : Session}
    (accepted : (exec settings outcome (.session (.mutate id mutation)) state).2 = some session) :
    ∃ old, state.stored id = some old := by
  simp only [exec, RedisSessionStore.exec, RedisSessionStore.runSessionMutation] at accepted
  split at accepted
  · cases accepted
  · next old found => exact ⟨old, found⟩

end State

/-- The variables of a socket are set by the handlers of its registrations and only by
them. -/
structure Registered (connection : Connection) (config : Config (controlPlane settings)) :
    Prop where
  set : ∀ thread ∈ config.threads, bindingsOf connection thread.past ≠ [] →
    State.bindingOf config.state connection ≠ none
  named : ∀ binding, State.bindingOf config.state connection = some binding →
    ∃ thread ∈ config.threads, binding ∈ bindingsOf connection thread.past

theorem registered_of_run {allowed : Config (controlPlane settings) → Action _ → Prop}
    {config : Config (controlPlane settings)} (run : Run allowed ⟨State.initial, []⟩ config) :
    Registered connection config := by
  induction run with
  | refl => exact ⟨by simp, fun binding named => by simp [State.bindingOf, State.initial] at named⟩
  | @tail before after action earlier _ stepped ih =>
      obtain ⟨job, rfl, -, rfl⟩ | ⟨index, outcome, thread, op, next, rfl, found, suspended, rfl⟩ :=
        Config.step_cases stepped
      · refine ⟨fun thread member registers => ?_, fun binding named => ?_⟩
        · rcases List.mem_append.mp member with old | new
          · exact ih.set thread old registers
          · cases List.mem_singleton.mp new
            exact absurd rfl registers
        · obtain ⟨thread, member, registers⟩ := ih.named binding named
          exact ⟨thread, List.mem_append_left _ member, registers⟩
      · have member := List.mem_of_getElem? found
        have inside := (List.getElem?_eq_some_iff.mp found).1
        by_cases registers : ∃ binding, op = .sync (.registerSession connection binding)
        · obtain ⟨binding, rfl⟩ := registers
          have accepted : State.sockets before.state connection ≠ none := by
            intro absent
            rcases not_takesUp_of_run earlier absent thread member with
              declines | ⟨_, _, _, fresh⟩
            · rw [suspended] at declines
              exact declines.1 rfl
            · cases suspended.symm.trans fresh
          have named := @State.bindingOf_registerSession settings connection outcome _ binding
            accepted
          refine ⟨fun _ _ _ unset => ?_, fun other same => ?_⟩
          · cases named.symm.trans unset
          · cases named.symm.trans same
            refine ⟨_, List.mem_set inside _, ?_⟩
            exact List.mem_filterMap.mpr ⟨_, List.mem_cons_self, by simp⟩
        · have other : ∀ binding, op ≠ .sync (.registerSession connection binding) :=
            fun binding same => registers ⟨binding, same⟩
          have same := @State.bindingOf_exec settings connection outcome before.state op
            other
          refine ⟨fun later member bound => ?_, fun binding named => ?_⟩
          · rw [same]
            rcases List.mem_or_eq_of_mem_set member with old | rfl
            · exact ih.set later old bound
            · rw [Thread.advance_past, bindingsOf_cons_of_ne other] at bound
              exact ih.set thread (List.mem_of_getElem? found) bound
          · rw [same] at named
            exact Config.exists_thread_step stepped
              (fun _ _ _ _ _ registers => mem_bindingsOf_cons _ registers) (ih.named binding named)

end Registrations

/-! ## Refused messages -/

section Runs

variable {settings : Settings} {connection : Connection}

/-- The action lets the handler of an ordinary message answer it on the open socket with
the error that the socket is not registered, or close the socket because it is not the
owner of its end of the session. -/
def Refused (connection : Connection) (config : Config (controlPlane settings))
    (action : Action (controlPlane settings)) : Prop :=
  ∃ index outcome thread message, action = .resume index outcome ∧
    config.threads[index]? = some thread ∧ thread.job = .message connection message ∧
    message.Ordinary ∧ State.isOpen config.state connection = true ∧
    (config.awaits index =
        some (.sync (.sendNotice connection (.error "Socket not registered"))) ∨
      config.awaits index = some (.sync (.closeSocket connection)) ∧
        ∃ id role, thread.past.head?.map Sigma.fst = some (.session (.getSocketOwner id role)))

/-- The action lets the handler of a message on the socket consult its variables or the
store, on the way to its ownership check. -/
def Consults (connection : Connection) (op : Op) (config : Config (controlPlane settings))
    (action : Action (controlPlane settings)) : Prop :=
  ∃ index outcome thread message, action = .resume index outcome ∧
    config.threads[index]? = some thread ∧ thread.job = .message connection message ∧
    message.NeedsSession ∧ Unchecked thread.past ∧ config.awaits index = some op

/-- Some handler has registered the socket, and every one that has set its variables has
completed the claim. -/
def ClaimsSettled (connection : Connection) (config : Config (controlPlane settings)) : Prop :=
  (∃ thread ∈ config.threads, bindingsOf connection thread.past ≠ []) ∧
    ∀ thread ∈ config.threads, ∀ binding ∈ bindingsOf connection thread.past,
      (binding.sessionId, binding.role) ∈ claimsOf connection thread.past

/-- The socket is the newest claimer of the ends that it has claimed; its other messages
consult the registration only while all claims are settled, and the owner only of a
session that is still stored. -/
structure RegistersFirst (connection : Connection) (config : Config (controlPlane settings))
    (action : Action (controlPlane settings)) : Prop where
  newest : ∀ index outcome id role other, action = .resume index outcome →
    config.awaits index = some (.session (.mutate id (.claimSocketOwnership role other))) →
    other ≠ connection → ∀ thread ∈ config.threads, (id, role) ∉ claimsOf connection thread.past
  settled : Consults connection (.sync (.registration connection)) config action →
    ClaimsSettled connection config
  stored : ∀ id role, Consults connection (.session (.getSocketOwner id role)) config action →
    State.stored config.state id ≠ none

/-- The socket owns the ends that a handler has claimed for it. -/
def HoldsClaims (connection : Connection) (state : State)
    (thread : Thread (controlPlane settings)) : Prop :=
  ∀ id role, (id, role) ∈ claimsOf connection thread.past → id < state.nextSessionId ∧
    ∀ session, state.stored id = some session → session.socketOwner role = some connection

theorem holdsClaims_of_run {config : Config (controlPlane settings)}
    (run : Run (Throughout (Unclosed connection) (RegistersFirst connection))
      ⟨State.initial, []⟩ config) :
    ∀ thread ∈ config.threads, HoldsClaims connection config.state thread := by
  have preserved : Inductive (fun (config : Config (controlPlane settings)) action =>
      RegistersFirst connection config action ∧
        ∀ thread ∈ config.threads, SparesSocket connection thread)
      State.IdsDrawn (HoldsClaims connection) := by
    refine ⟨fun config job _ _ _ id role claimed => by simp [claimsOf] at claimed, ?_⟩
    rintro config index outcome thread op next holds ⟨first, spares⟩ found suspended
    have member := List.mem_of_getElem? found
    -- a claim stays, since no other socket claims the end and an open socket is not released
    have kept : ∀ holder ∈ config.threads, HoldsClaims connection
        (State.exec settings outcome op config.state).1 holder := by
      intro holder held id role claimed
      obtain ⟨drawn, owns⟩ := holds.threads holder held id role claimed
      refine ⟨drawn.trans_le (State.nextSessionId_exec op), State.owner_exec drawn owns ?_ ?_⟩
      · rintro other rfl
        by_contra different
        exact first.newest index outcome id role other rfl
          (Config.awaits_eq_some found suspended) different holder held claimed
      · rintro rfl
        exact (spares thread member).not_closesOut suspended rfl
    refine ⟨holds.state.exec op, fun id role claimed => ?_, fun _ holder located _ =>
      kept holder (List.mem_of_getElem? located)⟩
    rcases claim_of_mem_claimsOf_cons claimed with earlier | ⟨session, same⟩
    · exact kept thread member id role earlier
    · obtain ⟨rfl, accepted⟩ := Sigma.mk.inj_iff.mp same
      obtain ⟨old, stored⟩ :=
        @State.stored_of_mutate_reply settings outcome _ _ _ _ (eq_of_heq accepted)
      refine ⟨(holds.state id old stored).2.trans_le
        (@State.nextSessionId_exec settings outcome _ _), ?_⟩
      intro claimant later
      obtain ⟨_, -, rfl⟩ := @State.stored_mutate settings outcome _ _ _ _ later
      cases role <;> rfl
  have spared : ∀ config : Config (controlPlane settings),
      Run (Throughout (Unclosed connection) (RegistersFirst connection))
        ⟨State.initial, []⟩ config →
      Unclosed connection config → ∀ thread ∈ config.threads, SparesSocket connection thread :=
    fun config reached unclosed => sparesSocket_of_run reached unclosed
  have checked := (run.assuming spared).mono
    (fun config action permitted => (⟨permitted.1.1, permitted.2 permitted.1.2.1⟩ :
      RegistersFirst connection config action ∧
        ∀ thread ∈ config.threads, SparesSocket connection thread))
  exact (preserved.run checked ⟨State.initial_idsDrawn, by simp⟩).threads

/-- What the handler of a message has read before its ownership check is an end that was
claimed for the socket, and the check has named the socket. -/
structure Informed (connection : Connection) (config : Config (controlPlane settings))
    (past : List (Event controlPlane.face)) : Prop where
  read : ∀ session rest, rest <:+ past → HasReadBinding connection session rest →
    ∃ binding, session = some binding ∧ ∃ thread ∈ config.threads,
      (binding.sessionId, binding.role) ∈ claimsOf connection thread.past
  checked : ∀ owner rest, rest <:+ past → HasCheckedOwner connection owner rest →
    owner = some connection

/-- The handlers of all messages on the socket are informed. -/
def AllInformed (connection : Connection) (config : Config (controlPlane settings)) : Prop :=
  ∀ thread ∈ config.threads, ∀ message, thread.job = .message connection message →
    message.NeedsSession → Informed connection config thread.past

theorem HasReadBinding.unchecked {session : Option Binding} {past : List (Event controlPlane.face)}
    (read : HasReadBinding connection session past) : Unchecked past := by
  obtain ⟨reply, rest, rfl, unchecked, -⟩ := read
  exact unchecked_cons unchecked fun _ _ => by simp

theorem AllInformed.step {before after : Config (controlPlane settings)}
    {action : Action (controlPlane settings)} (holds : AllInformed connection before)
    (permitted : RegistersFirst connection before action)
    (registered : Registered connection before)
    (claims : ∀ thread ∈ before.threads, HoldsClaims connection before.state thread)
    (stepped : before.step action = some after) : AllInformed connection after := by
  -- claims stay in the past of their handlers
  have kept {past : List (Event controlPlane.face)} (informed : Informed connection before past) :
      Informed connection after past := by
    refine ⟨fun session rest suffix read => ?_, informed.checked⟩
    obtain ⟨binding, rfl, claimed⟩ := informed.read session rest suffix read
    exact ⟨binding, rfl, Config.exists_thread_step stepped
      (fun _ _ _ _ _ claimed => mem_claimsOf_cons _ claimed) claimed⟩
  obtain ⟨job, rfl, -, rfl⟩ | ⟨index, outcome, thread, op, next, rfl, found, suspended, rfl⟩ :=
    Config.step_cases stepped
  · intro thread member message same needs
    rcases List.mem_append.mp member with old | new
    · exact kept (holds thread old message same needs)
    · cases List.mem_singleton.mp new
      constructor
      · rintro session rest suffix ⟨reply, earlier, rfl, -⟩
        simp at suffix
      · rintro owner rest suffix ⟨binding, earlier, rfl, -⟩
        simp at suffix
  · intro later member message same needs
    rcases List.mem_or_eq_of_mem_set member with old | rfl
    · exact kept (holds later old message same needs)
    have informed := holds thread (List.mem_of_getElem? found) message same needs
    have awaited := Config.awaits_eq_some found suspended
    have consults (unchecked : Unchecked thread.past) :
        Consults connection op before (.resume index outcome) :=
      ⟨index, outcome, thread, message, rfl, found, same, needs, unchecked, awaited⟩
    refine ⟨fun session rest suffix read => ?_, fun owner rest suffix checks => ?_⟩
    · rcases List.suffix_cons_iff.mp suffix with rfl | earlier
      · -- the variables are read while the claims are settled
        obtain ⟨reply, rest, past, unchecked, rfl⟩ := read
        obtain ⟨event, rfl⟩ := List.cons.inj past
        obtain ⟨rfl, replied⟩ := Sigma.mk.inj_iff.mp event
        obtain rfl := eq_of_heq replied
        obtain ⟨⟨setter, among, sets⟩, settled⟩ := permitted.settled (consults unchecked)
        obtain ⟨binding, named⟩ := Option.ne_none_iff_exists'.mp (registered.set setter among sets)
        obtain ⟨holder, held, binds⟩ := registered.named binding named
        refine ⟨binding, (@State.session_registration settings _ outcome _).trans named, ?_⟩
        exact Config.exists_thread_step stepped
          (fun _ _ _ _ _ claimed => mem_claimsOf_cons _ claimed)
          ⟨holder, held, settled holder held binding binds⟩
      · exact (kept informed).read session rest earlier read
    · rcases List.suffix_cons_iff.mp suffix with rfl | earlier
      · -- the owner of the end that was read is the socket
        obtain ⟨binding, rest, past, read⟩ := checks
        obtain ⟨event, rfl⟩ := List.cons.inj past
        obtain ⟨rfl, replied⟩ := Sigma.mk.inj_iff.mp event
        obtain rfl := eq_of_heq replied
        obtain ⟨_, same, holder, held, claimed⟩ :=
          informed.read (some binding) thread.past (List.suffix_refl _) read
        cases same
        obtain ⟨session, stored⟩ := Option.ne_none_iff_exists'.mp
          (permitted.stored _ _ (consults read.unchecked))
        have owns := (claims holder held _ _ claimed).2 session stored
        exact State.socketOwner_eq_some.mpr ⟨session, stored, owns⟩
      · exact informed.checked owner rest earlier checks

theorem allInformed_of_run {config : Config (controlPlane settings)}
    (run : Run (Throughout (Unclosed connection) (RegistersFirst connection))
      ⟨State.initial, []⟩ config) : AllInformed connection config := by
  induction run with
  | refl => exact fun thread member => by simp at member
  | tail earlier permitted stepped ih =>
      exact ih.step permitted.1 (registered_of_run earlier) (holdsClaims_of_run earlier) stepped

/-- In every run in which registrations are settled first, no message of a socket that is
the newest claimer is refused. -/
theorem no_message_refused {config : Config (controlPlane settings)}
    {action : Action (controlPlane settings)}
    (run : Run (RegistersFirst connection) ⟨State.initial, []⟩ config) :
    ¬Refused connection config action := by
  rintro ⟨index, outcome, thread, message, rfl, found, job, ordinary, isOpen, refuses⟩
  have member := List.mem_of_getElem? found
  have unclosed : Unclosed connection config := by
    intro socket located
    simpa [State.isOpen, located] using isOpen
  obtain ⟨-, checked⟩ := run.inherited (Unclosed connection)
    (fun _ _ _ stepped => unclosed_of_step stepped) unclosed
  have informed := allInformed_of_run checked thread member message job
  have obeys : thread.Obeys (.history (refusal connection message))
      (fun job : Job => if job = .message connection message then some [] else none)
      fun _ => True := by
    apply run.obeys ?_ (by simp) thread member
    intro job past watched
    split at watched
    · next same =>
        cases watched
        subst same
        exact onMessage_follows settings ordinary
    · cases watched
  have after : (Monitor.history (refusal connection message)).after
      (if thread.job = .message connection message then some [] else none) thread.past =
        some thread.past := by
    rw [if_pos job, Monitor.after_history]
  rcases refuses with awaited | ⟨awaited, id, role, asked⟩
  · obtain ⟨_, next, located, suspended⟩ := Config.exists_of_awaits awaited
    cases found.symm.trans located
    obtain ⟨needs, read⟩ := obeys.allows after suspended
    obtain ⟨binding, registered, -⟩ :=
      (informed needs).read none thread.past (List.suffix_refl _) read
    cases registered
  · obtain ⟨_, next, located, suspended⟩ := Config.exists_of_awaits awaited
    cases found.symm.trans located
    rcases obeys.allows after suspended with ⟨workerId, pool⟩ | ⟨needs, owner, other, checks⟩
    · cases asked.symm.trans pool
    · exact other ((informed needs).checked owner thread.past (List.suffix_refl _) checks)

end Runs

section RegistrationRuns

open controlPlane

variable {settings : Settings}

instance (connection : Connection) (config : Config (controlPlane settings)) :
    Decidable (ClaimsSettled connection config) :=
  inferInstanceAs (Decidable ((∃ thread ∈ config.threads, _ ≠ _) ∧ ∀ thread ∈ config.threads, _))

/-- Only the socket claims; variables are read while its claims are settled, and owners
are asked for of stored sessions. -/
def registersInOrder (connection : Connection) (config : Config (controlPlane settings)) :
    Action (controlPlane settings) → Bool
  | .start _ => true
  | .resume index _ => match config.awaits index with
      | some (.session (.mutate _ (.claimSocketOwnership _ other))) => other = connection
      | some (.sync (.registration _)) => ClaimsSettled connection config
      | some (.session (.getSocketOwner id _)) => (State.stored config.state id).isSome
      | _ => true

theorem registersFirst_of_order (connection : Connection)
    (config : Config (controlPlane settings)) (action : Action (controlPlane settings))
    (passes : registersInOrder connection config action = true) :
    RegistersFirst connection config action := by
  constructor
  · rintro index outcome id role other rfl awaited different
    exact absurd (by simpa [registersInOrder, awaited] using passes) different
  · rintro ⟨index, outcome, thread, message, rfl, -, -, -, -, awaited⟩
    simpa [registersInOrder, awaited] using passes
  · rintro id role ⟨index, outcome, thread, message, rfl, -, -, -, -, awaited⟩
    apply Option.isSome_iff_ne_none.mp
    simpa [registersInOrder, awaited] using passes

/-- A worker that reports its state after its registration is heard. -/
theorem settled_worker_is_heard :
    ∃ config : Config (controlPlane longSettings),
      Run (RegistersFirst ⟨0, 1⟩) ⟨State.initial, []⟩ config ∧
      (State.stored config.state 0).map Session.state = some "active" ∧
      ∀ action, ¬Refused ⟨0, 1⟩ config action := by
  obtain ⟨config, reached, holds⟩ := Run.exists_of_schedule (registersFirst_of_order ⟨0, 1⟩)
    (⟨State.initial, []⟩ : Config (controlPlane longSettings))
    (registerWorkerSocket ++ .start (.message ⟨0, 1⟩ (.workerState "active" "")) :: run 3 7)
    (fun config => decide ((State.stored config.state 0).map Session.state = some "active"))
    (by decide)
  exact ⟨config, reached, of_decide_eq_true holds, fun action => no_message_refused reached⟩

/-- The first message handler of a socket. -/
def firstMessage (connection : Connection) (config : Config (controlPlane settings)) :
    Option (Thread (controlPlane settings)) :=
  config.threads.find? fun thread => match thread.job with
    | .message other _ => other = connection
    | _ => false

/-- The messages of the socket begin with a `register` that the server has accepted. -/
def BeginsRegistered (connection : Connection) (config : Config (controlPlane settings)) :
    Prop :=
  ∃ thread role id token, firstMessage connection config = some thread ∧
    thread.job = .message connection (.register role id token) ∧
    Op.sync (.sendNotice connection (.registered role)) ∈ thread.past.map Sigma.fst

/-- The socket for which an operation claims one end of a session. -/
def Op.claimer : Op → Option Connection
  | .session (.mutate _ (.claimSocketOwnership _ owner)) => some owner
  | _ => none

/-- No other socket has claimed any end of a session. -/
def SoleClaimer (connection : Connection) (config : Config (controlPlane settings)) : Prop :=
  ∀ thread ∈ config.threads, ∀ op ∈ thread.past.map Sigma.fst, ∀ owner ∈ Op.claimer op,
    owner = connection

instance (connection : Connection) (config : Config (controlPlane settings)) :
    Decidable (SoleClaimer connection config) :=
  inferInstanceAs (Decidable (∀ thread ∈ config.threads, ∀ op ∈ thread.past.map Sigma.fst, _))

/-- The fourth handler is about to refuse a message on the open socket 1 of instance 0. -/
def isRefused (config : Config (controlPlane longSettings)) : Bool :=
  (config.threads[3]?.any fun thread : Thread (controlPlane longSettings) =>
    decide (thread.job = Job.message ⟨0, 1⟩ (.other "sdp-offer"))) &&
  decide (config.awaits 3 =
      some (.sync (.sendNotice ⟨0, 1⟩ (.error "Socket not registered"))) ∧
    State.isOpen config.state ⟨0, 1⟩ = true)

theorem refused_of_isRefused {config : Config (controlPlane longSettings)}
    (refuses : isRefused config = true) : Refused ⟨0, 1⟩ config (.resume 3 .succeeds) := by
  obtain ⟨received, rest⟩ := Bool.and_eq_true_iff.mp refuses
  obtain ⟨thread, found, job⟩ := (Option.any_eq_true _ _).mp received
  obtain ⟨awaited, isOpen⟩ := of_decide_eq_true rest
  exact ⟨3, .succeeds, thread, .other "sdp-offer", rfl, found, of_decide_eq_true job, trivial,
    isOpen, .inl awaited⟩

/-- The worker of session 0 was the first to be heard on the socket, was accepted, and no
other socket has claimed anything. -/
def isRegisteredAlone (config : Config (controlPlane longSettings)) : Bool :=
  ((firstMessage ⟨0, 1⟩ config).any fun thread : Thread (controlPlane longSettings) =>
    decide (thread.job = Job.message ⟨0, 1⟩ (.register .worker 0 (makeWorkerToken 0 100000 1)) ∧
      Op.sync (.sendNotice ⟨0, 1⟩ (.registered .worker)) ∈ thread.past.map Sigma.fst)) &&
  decide (SoleClaimer ⟨0, 1⟩ config)

theorem beginsRegistered_of_alone {config : Config (controlPlane longSettings)}
    (alone : isRegisteredAlone config = true) :
    BeginsRegistered ⟨0, 1⟩ config ∧ SoleClaimer ⟨0, 1⟩ config := by
  obtain ⟨begins, sole⟩ := Bool.and_eq_true_iff.mp alone
  obtain ⟨first, isFirst, registers⟩ := (Option.any_eq_true _ _).mp begins
  obtain ⟨registration, answered⟩ := of_decide_eq_true registers
  exact ⟨⟨first, .worker, 0, _, isFirst, registration, answered⟩, of_decide_eq_true sole⟩

/-- A message right behind the `register` is refused while that still awaits the session,
although the registration is then accepted. -/
theorem message_behind_register_is_refused :
    ¬∀ (settings : Settings) (connection : Connection)
      (config after final : Config (controlPlane settings))
      (action : Action (controlPlane settings)),
      Run anyAction ⟨State.initial, []⟩ config → config.step action = some after →
      Run anyAction after final → BeginsRegistered connection final →
      SoleClaimer connection final → ¬Refused connection config action := by
  intro accepted
  obtain ⟨config, reached, holds⟩ := Run.exists_of_actions
    (⟨State.initial, []⟩ : Config (controlPlane longSettings))
    (.start (.createSession 0 {}) :: run 0 4 ++ .start (.connect ⟨0, 1⟩ .worker []) :: run 1 1 ++
      .start (.message ⟨0, 1⟩ (.register .worker 0 (makeWorkerToken 0 100000 1))) :: run 2 1 ++
      .start (.message ⟨0, 1⟩ (.other "sdp-offer")) :: run 3 2)
    (fun config => isRefused config &&
      (config.schedule (fun _ _ => true) (.resume 3 .succeeds :: run 2 11)).any isRegisteredAlone)
    (by decide)
  obtain ⟨refuses, later⟩ := Bool.and_eq_true_iff.mp holds
  obtain ⟨final, performed, alone⟩ := (Option.any_eq_true _ _).mp later
  obtain ⟨after, stepped, rest⟩ := Option.bind_eq_some_iff.mp performed
  obtain ⟨begins, sole⟩ := beginsRegistered_of_alone alone
  exact accepted longSettings ⟨0, 1⟩ config after final _ reached stepped
    (Run.of_schedule (fun _ _ _ => trivial) rest) begins sole (refused_of_isRefused refuses)

end RegistrationRuns

end RemoteBrowser
