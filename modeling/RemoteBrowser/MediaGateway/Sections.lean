import RemoteBrowser.MediaGateway.Hub

/-!
# Sections of the signaling state

What each operation does to the part of the signaling state that belongs to one role.
-/

namespace RemoteBrowser.MediaGateway

namespace Hub

/-- The fields of the signaling state for a role. -/
def side (hub : Hub) (role : Role) : Side := (hub.signals.getD {}).side role

def isTerminated (hub : Hub) : Bool := hub.signals.any (·.terminated)

end Hub

/-- The operation may change what the signaling state has for the role. -/
def HubOp.touches (role : Role) : HubOp → Bool
  | .registerSignalConnection own _ => own = role
  | .unregisterSignalConnection own _ => own = role
  | .enqueueSignal own _ => own = role
  | .terminateSignalSession => true
  | _ => false

section Sections

variable {hub : Hub} {role : Role}

theorem hubExec_signals_terminated (choice : HubChoice) (op : HubOp) {hub : Hub}
    (terminated : hub.signals.any (·.terminated) = true) :
    (hubExec choice op hub).1.signals.any (·.terminated) = true := by
  cases op with
  | registerSignalConnection role conn =>
      simpa only [hubExec, Option.any_some, registerConnection_terminated] using terminated
  | unregisterSignalConnection role id =>
      simp only [hubExec]
      rw [(unregisterSignalConnection_flags hub.signals role id).2]
      exact terminated
  | enqueueSignal role payload =>
      simpa only [hubExec, Option.any_some, enqueueSignal_terminated] using terminated
  | noteSignal => simpa only [hubExec, Option.any_some, noteState_terminated] using terminated
  | terminateSignalSession => rfl
  | writePending ws payload | writeDirect ws payload | writeFrame ws payload =>
      simp only [hubExec, Hub.write]
      split <;> exact terminated
  | getOrCreatePionRelaySession =>
      simp only [hubExec]
      split <;> exact terminated
  | deleteStoredSession =>
      simp only [hubExec]
      split <;> exact terminated
  | _ => exact terminated

theorem isTerminated_eq_getD (hub : Hub) :
    hub.isTerminated = (hub.signals.getD {}).terminated := by
  unfold Hub.isTerminated
  cases hub.signals with
  | none => rfl
  | some current => rfl

/-- Nothing revives a session. -/
theorem isTerminated_of_exec {choice : HubChoice} {op : HubOp}
    (live : (hubExec choice op hub).1.isTerminated = false) : hub.isTerminated = false := by
  have kept (terminated : hub.signals.any (·.terminated) = true) :=
    hubExec_signals_terminated choice op terminated
  cases terminated : hub.isTerminated with
  | false => rfl
  | true => exact absurd (kept terminated) (by rw [← Hub.isTerminated, live]; decide)

theorem side_of_untouched (choice : HubChoice) {op : HubOp} (untouched : op.touches role = false) :
    (hubExec choice op hub).1.side role = hub.side role := by
  cases op with
  | registerSignalConnection own conn =>
      have different : role ≠ own := by simpa [HubOp.touches, eq_comm] using untouched
      simp only [hubExec, Hub.side, registerConnection]
      split
      · rfl
      · simp only [Option.getD_some, RelayState.change_side_of_ne _ _ different]
  | unregisterSignalConnection own id =>
      have different : role ≠ own := by simpa [HubOp.touches, eq_comm] using untouched
      simp only [hubExec, Hub.side, MediaGateway.unregisterSignalConnection, release]
      split
      · next absent => rw [absent]
      · next current found =>
          rw [found]
          split
          · rfl
          · split
            · rfl
            · split
              · simp only [Option.getD_some, RelayState.change_side_of_ne _ _ different]
              · rfl
  | enqueueSignal own payload =>
      have different : role ≠ own := by simpa [HubOp.touches, eq_comm] using untouched
      simp only [hubExec, Hub.side, MediaGateway.enqueueSignal]
      split
      · rfl
      · simp only [Option.getD_some, RelayState.change_side_of_ne _ _ different]
  | terminateSignalSession => cases untouched
  | writePending ws payload | writeDirect ws payload | writeFrame ws payload =>
      simp only [hubExec, Hub.write]
      split <;> rfl
  | getOrCreatePionRelaySession =>
      simp only [hubExec]
      split <;> rfl
  | deleteStoredSession =>
      simp only [hubExec]
      split <;> rfl
  | _ => rfl

/-- A registration in a session that is not terminated. -/
theorem register_of_live (live : hub.isTerminated = false) (choice : HubChoice)
    (conn : Connection) :
    (hubExec choice (.registerSignalConnection role conn) hub).1.side role =
        { hub.side role with
          connection := some conn
          pending := []
          pendingBytes := 0
          connectEvents := (hub.side role).connectEvents ++ [conn] } ∧
      (hubExec choice (.registerSignalConnection role conn) hub).2 =
        some ⟨(hub.side role).connection, (hub.side role).pending⟩ := by
  rw [isTerminated_eq_getD] at live
  simp only [hubExec, Hub.side, registerConnection, live, Bool.false_eq_true, if_false,
    Option.getD_some, RelayState.change_side, and_self]

/-- Giving up a registration leaves the queue alone, and the connection is not the current one
after it. -/
theorem unregister_of_live (live : hub.isTerminated = false) (choice : HubChoice) (id : Nat) :
    ∃ connection : Option Connection,
      (hubExec choice (.unregisterSignalConnection role id) hub).1.side role =
        { hub.side role with connection := connection } ∧
      (connection = none ∨ connection = (hub.side role).connection) ∧
      ∀ current, connection = some current → current.id ≠ id := by
  unfold Hub.isTerminated at live
  unfold Hub.side
  simp only [hubExec, MediaGateway.unregisterSignalConnection]
  cases found : hub.signals with
  | none => exact ⟨none, rfl, .inl rfl, fun _ impossible => by cases impossible⟩
  | some state =>
      rw [found, Option.any_some] at live
      simp only [live, Bool.false_eq_true, if_false, Option.getD_some, release]
      cases registered : (state.side role).connection with
      | none =>
          refine ⟨(state.side role).connection, rfl, .inl registered, fun _ whole => ?_⟩
          cases registered.symm.trans whole
      | some current =>
          by_cases same : current.id = id
          · refine ⟨none, ?_, .inl rfl, fun _ impossible => by cases impossible⟩
            simp only [same, if_true, RelayState.change_side]
          · refine ⟨some current, ?_, .inr rfl, fun _ whole => by cases whole; exact same⟩
            simp only [same, if_false, ← registered]

theorem enqueue_of_live (live : hub.isTerminated = false) (choice : HubChoice)
    (payload : Payload) :
    (hubExec choice (.enqueueSignal role payload) hub).1.side role =
      signalLimits.appendBounded (hub.side role) payload := by
  rw [isTerminated_eq_getD] at live
  simp only [hubExec, Hub.side, MediaGateway.enqueueSignal, live, Bool.false_eq_true, if_false,
    Option.getD_some, RelayState.change_side]

/-- In a terminated session nothing is registered, given up or queued. -/
theorem side_of_terminated (terminated : hub.isTerminated = true) (choice : HubChoice) {op : HubOp}
    (spared : op ≠ .terminateSignalSession) :
    (hubExec choice op hub).1.side role = hub.side role := by
  cases touched : op.touches role with
  | false => exact side_of_untouched choice touched
  | true =>
      cases op with
      | registerSignalConnection own conn =>
          rw [isTerminated_eq_getD] at terminated
          simp only [hubExec, Hub.side, registerConnection, terminated, if_true, Option.getD_some]
      | unregisterSignalConnection own id =>
          unfold Hub.isTerminated at terminated
          simp only [hubExec, Hub.side, MediaGateway.unregisterSignalConnection]
          cases found : hub.signals with
          | none => rfl
          | some current =>
              rw [found, Option.any_some] at terminated
              simp only [terminated, if_true]
      | enqueueSignal own payload =>
          rw [isTerminated_eq_getD] at terminated
          simp only [hubExec, Hub.side, MediaGateway.enqueueSignal, terminated, if_true,
            Option.getD_some]
      | terminateSignalSession => exact absurd rfl spared
      | _ => cases touched

theorem register_of_terminated (terminated : hub.isTerminated = true) (choice : HubChoice)
    (conn : Connection) : (hubExec choice (.registerSignalConnection role conn) hub).2 = none := by
  rw [isTerminated_eq_getD] at terminated
  simp only [hubExec, registerConnection, terminated, if_true]

/-- Only a registration makes a connection the current one. -/
theorem connection_of_exec {choice : HubChoice} {op : HubOp} {conn : Connection}
    (current : ((hubExec choice op hub).1.side role).connection = some conn) :
    (hub.side role).connection = some conn ∨
      op = .registerSignalConnection role conn ∧ hub.isTerminated = false := by
  by_cases ending : op = .terminateSignalSession
  · subst ending
    cases current
  · cases live : hub.isTerminated with
    | true =>
        rw [side_of_terminated live choice ending] at current
        exact .inl current
    | false =>
        cases touched : op.touches role with
        | false =>
            rw [side_of_untouched choice touched] at current
            exact .inl current
        | true =>
            cases op with
            | registerSignalConnection own registered =>
                cases (of_decide_eq_true touched : own = role)
                rw [(register_of_live live choice registered).1] at current
                cases current
                exact .inr ⟨rfl, rfl⟩
            | unregisterSignalConnection own id =>
                cases (of_decide_eq_true touched : own = role)
                obtain ⟨connection, side, gone | kept, -⟩ :=
                  @unregister_of_live _ role live choice id
                · rw [side, gone] at current
                  cases current
                · rw [side, kept] at current
                  exact .inl current
            | enqueueSignal own payload =>
                cases (of_decide_eq_true touched : own = role)
                rw [enqueue_of_live live choice payload, Limits.appendBounded_connection]
                  at current
                exact .inl current
            | terminateSignalSession => exact absurd rfl ending
            | _ => cases touched

end Sections

/-! ## Registered, queued and relayed -/

/-- The connection that the operation registers for the role. -/
def HubOp.enrolls (role : Role) : (op : HubOp) → op.Reply → List Connection
  | .registerSignalConnection own conn, some _ => if own = role then [conn] else []
  | _, _ => []

/-- The payload that the operation queues for the role. -/
def HubOp.queues (role : Role) : HubOp → List Payload
  | .enqueueSignal own payload => if own = role then [payload] else []
  | _ => []

/-- The payload of the other role that the operation writes to the socket. -/
def HubOp.relays (ws : Nat) : (op : HubOp) → op.Reply → List Payload
  | .writePending target payload, true => if target = ws then [payload] else []
  | .writeDirect target payload, true => if target = ws then [payload] else []
  | _, _ => []

section Effects

variable (choice : HubChoice) (op : HubOp) (hub : Hub)

theorem events_of_exec (role : Role) :
    ((hubExec choice op hub).1.side role).connectEvents =
      (hub.side role).connectEvents ++ op.enrolls role (hubExec choice op hub).2 := by
  have unchanged (same : ((hubExec choice op hub).1.side role).connectEvents =
      (hub.side role).connectEvents) (nobody : op.enrolls role (hubExec choice op hub).2 = []) :
      ((hubExec choice op hub).1.side role).connectEvents =
        (hub.side role).connectEvents ++ op.enrolls role (hubExec choice op hub).2 := by
    rw [same, nobody, List.append_nil]
  cases touched : op.touches role with
  | false =>
      refine unchanged (congrArg Side.connectEvents (side_of_untouched choice touched)) ?_
      cases op with
      | registerSignalConnection own conn =>
          have different : own ≠ role := of_decide_eq_false touched
          cases (hubExec choice (.registerSignalConnection own conn) hub).2 with
          | none => rfl
          | some registration => exact if_neg different
      | _ => rfl
  | true =>
      cases op with
      | registerSignalConnection own conn =>
          cases (of_decide_eq_true touched : own = role)
          cases live : hub.isTerminated with
          | true =>
              exact unchanged
                (congrArg Side.connectEvents (side_of_terminated live choice nofun))
                (by rw [register_of_terminated live]; rfl)
          | false =>
              obtain ⟨side, reply⟩ := @register_of_live _ role live choice conn
              rw [side, reply]
              simp [HubOp.enrolls]
      | unregisterSignalConnection own id =>
          cases (of_decide_eq_true touched : own = role)
          refine unchanged ?_ rfl
          cases live : hub.isTerminated with
          | true => exact congrArg Side.connectEvents (side_of_terminated live choice nofun)
          | false =>
              obtain ⟨connection, side, -⟩ := @unregister_of_live _ role live choice id
              rw [side]
      | enqueueSignal own payload =>
          cases (of_decide_eq_true touched : own = role)
          refine unchanged ?_ rfl
          cases live : hub.isTerminated with
          | true => exact congrArg Side.connectEvents (side_of_terminated live choice nofun)
          | false => rw [enqueue_of_live live, Limits.appendBounded_connectEvents]
      | terminateSignalSession => exact unchanged rfl rfl
      | _ => cases touched

theorem pending_of_exec (role : Role) :
    ((hubExec choice op hub).1.side role).pending.Sublist
      ((hub.side role).pending ++ op.queues role) := by
  have kept := List.sublist_append_left (hub.side role).pending (op.queues role)
  cases touched : op.touches role with
  | false => rwa [side_of_untouched choice touched]
  | true =>
      by_cases ending : op = .terminateSignalSession
      · subst ending
        exact List.nil_sublist _
      · cases live : hub.isTerminated with
        | true => rwa [side_of_terminated live choice ending]
        | false =>
            cases op with
            | registerSignalConnection own conn =>
                cases (of_decide_eq_true touched : own = role)
                rw [(register_of_live live choice conn).1]
                exact List.nil_sublist _
            | unregisterSignalConnection own id =>
                cases (of_decide_eq_true touched : own = role)
                obtain ⟨connection, side, -⟩ := @unregister_of_live _ role live choice id
                rwa [side]
            | enqueueSignal own payload =>
                cases (of_decide_eq_true touched : own = role)
                rw [enqueue_of_live live]
                simpa [HubOp.queues] using
                  (signalLimits.appendBounded_pending (hub.side role) payload).sublist
            | terminateSignalSession => exact absurd rfl ending
            | _ => cases touched

theorem relayed_of_exec (ws : Nat) :
    ((hubExec choice op hub).1.sockets ws).relayed =
      (hub.sockets ws).relayed ++ op.relays ws (hubExec choice op hub).2 := by
  cases op with
  | writePending target payload | writeDirect target payload =>
      simp only [hubExec, Hub.write]
      split
      · by_cases same : target = ws
        · subst same
          simp [HubOp.relays, Hub.setSocket]
        · simp [HubOp.relays, Hub.setSocket, same, Function.update_of_ne (Ne.symm same)]
      · simp [HubOp.relays]
  | writeFrame target payload =>
      simp only [hubExec, Hub.write]
      split
      · by_cases same : target = ws
        · subst same
          simp [HubOp.relays, Hub.setSocket]
        · simp [HubOp.relays, Hub.setSocket, Function.update_of_ne (Ne.symm same)]
      · simp [HubOp.relays]
  | close target code reason =>
      by_cases same : target = ws
      · subst same
        simp [hubExec, HubOp.relays, Hub.setSocket]
      · simp [hubExec, HubOp.relays, Hub.setSocket, Function.update_of_ne (Ne.symm same)]
  | getOrCreatePionRelaySession =>
      simp only [hubExec]
      split <;> simp [HubOp.relays]
  | deleteStoredSession =>
      simp only [hubExec]
      split <;> simp [HubOp.relays]
  | _ => simp [hubExec, HubOp.relays]

end Effects

end RemoteBrowser.MediaGateway
