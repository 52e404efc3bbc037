import RemoteBrowser.MediaGateway.Stay
import Mathlib.Data.List.Flatten

/-!
# The order of relayed payloads

A payload is written to the connection that is registered, or it waits in the queue of its role
until a registration takes the queue over.  What a registration was handed is written after the
runtime was told, so a payload that is written directly may overtake it.
-/

namespace RemoteBrowser.MediaGateway

open Async Program

/-! ## Registered connections -/

/-- The connection of a registration. -/
def SignalStage.conn (stage : SignalStage) : Option Connection := stage.stay.map Stay.conn

theorem SignalStage.ws_of_conn {stage : SignalStage} {conn : Connection}
    (known : conn ∈ stage.conn) : stage.ws = some conn.ws := by
  obtain ⟨stay, staying, rfl⟩ := Option.map_eq_some_iff.mp known
  exact ws_of_stay staying

/-- A connection of the role has registered. -/
def Joined (courses : Nat → Option SignalCourse) (role : Role) (conn : Connection) : Prop :=
  ∃ index course, courses index = some course ∧ course.role = role ∧ conn ∈ course.stage.conn

theorem enrolls_eq_nil_of_quiet {op : HubOp} (quiet : op.isQuiet = true) (role : Role)
    (reply : op.Reply) : op.enrolls role reply = [] := by
  cases op <;> cases quiet <;> rfl

/-- A connection registers at most once, and for its role. -/
theorem Move.conn_eq {role : Role} {stage after : SignalStage} {op : HubOp} {reply : op.Reply}
    {added : List Payload} (move : Move role stage op reply after added) :
    after.conn.toList = stage.conn.toList ++ op.enrolls role reply ∧
      ∀ other ≠ role, op.enrolls other reply = [] := by
  cases move with
  | idle _ quiet =>
      rw [enrolls_eq_nil_of_quiet quiet, List.append_nil]
      exact ⟨rfl, fun other _ => enrolls_eq_nil_of_quiet quiet other reply⟩
  | register conn registration =>
      refine ⟨?_, fun other different => if_neg (Ne.symm different)⟩
      simp only [HubOp.enrolls, if_true]
      rfl
  | _ => exact ⟨(List.append_nil _).symm, fun _ _ => rfl⟩

theorem joined_update {courses : Nat → Option SignalCourse} {index : Nat} {role : Role}
    {stage after : SignalStage} {sent more : List Payload} {op : HubOp} {reply : op.Reply}
    {added : List Payload} (located : courses index = some ⟨role, stage, sent⟩)
    (move : Move role stage op reply after added) (own : Role) (conn : Connection) :
    Joined (Function.update courses index (some ⟨role, after, more⟩)) own conn ↔
      Joined courses own conn ∨ conn ∈ op.enrolls own reply := by
  obtain ⟨grown, others⟩ := move.conn_eq
  have members (conn : Connection) :
      conn ∈ after.conn ↔ conn ∈ stage.conn ∨ conn ∈ op.enrolls role reply := by
    have listed : conn ∈ after.conn.toList ↔ conn ∈ stage.conn.toList ++ op.enrolls role reply := by
      rw [grown]
    simpa only [List.mem_append, Option.mem_toList, Option.mem_def] using listed
  constructor
  · rintro ⟨other, course, found, rfl, joined⟩
    rw [Function.update_apply] at found
    split at found
    · cases found
      exact ((members conn).mp joined).imp_left fun earlier => ⟨index, _, located, rfl, earlier⟩
    · exact .inl ⟨other, course, found, rfl, joined⟩
  · rintro (⟨other, course, found, rfl, joined⟩ | enrolled)
    · by_cases same : other = index
      · subst same
        cases located.symm.trans found
        exact ⟨other, _, Function.update_self .., rfl, (members conn).mpr (.inl joined)⟩
      · exact ⟨other, course, (Function.update_of_ne same ..).trans found, rfl, joined⟩
    · by_cases same : own = role
      · subst same
        exact ⟨index, _, Function.update_self .., rfl, (members conn).mpr (.inr enrolled)⟩
      · rw [others own same] at enrolled
        cases enrolled

/-- The registrations of the gateway are those of its connections, and payloads go to them. -/
structure Enrolled (hub : Hub) (courses : Nat → Option SignalCourse) : Prop where
  distinct : Distinct hub courses
  joined : ∀ role conn, conn ∈ (hub.side role).connectEvents ↔ Joined courses role conn
  single : ∀ role, ((hub.side role).connectEvents.map Connection.ws).Nodup
  current : ∀ role conn, (hub.side role).connection = some conn →
    conn ∈ (hub.side role).connectEvents
  written : ∀ ws, (hub.sockets ws).relayed ≠ [] →
    ∃ role conn, conn ∈ (hub.side role).connectEvents ∧ conn.ws = ws
  target : ∀ index course stay payload conn, courses index = some course →
    course.stage = .forwarding stay payload (some conn) →
    conn ∈ (hub.side (oppositeRole course.role)).connectEvents

/-- A connection that registers is not among the registered ones yet. -/
theorem Enrolled.fresh {hub : Hub} {courses : Nat → Option SignalCourse}
    (enrolled : Enrolled hub courses) {index : Nat} {course : SignalCourse} {ws : Nat}
    (located : courses index = some course) (connecting : course.stage = .connecting ws)
    {role : Role} {conn : Connection} (listed : conn ∈ (hub.side role).connectEvents) :
    conn.ws ≠ ws := by
  rintro rfl
  obtain ⟨other, owner, found, rfl, joined⟩ := (enrolled.joined role conn).mp listed
  have own : course.stage.ws = some conn.ws := by rw [connecting]; rfl
  cases enrolled.distinct.apart other index owner course conn.ws found located
    (SignalStage.ws_of_conn joined) own
  cases found.symm.trans located
  rw [connecting] at joined
  cases joined

/-- A socket belongs to a connection of one role. -/
theorem Enrolled.same_role {hub : Hub} {courses : Nat → Option SignalCourse}
    (enrolled : Enrolled hub courses) {first second : Role} {one other : Connection}
    (listedOne : one ∈ (hub.side first).connectEvents)
    (listedOther : other ∈ (hub.side second).connectEvents) (socket : one.ws = other.ws) :
    first = second := by
  obtain ⟨index, course, located, rfl, joinedOne⟩ := (enrolled.joined first one).mp listedOne
  obtain ⟨position, owner, found, rfl, joinedOther⟩ :=
    (enrolled.joined second other).mp listedOther
  cases enrolled.distinct.apart index position course owner one.ws located found
    (SignalStage.ws_of_conn joinedOne) (socket ▸ SignalStage.ws_of_conn joinedOther)
  cases located.symm.trans found
  rfl

/-- What connections of a role are written to. -/
theorem Move.relays_mem {hub : Hub} {courses : Nat → Option SignalCourse}
    (enrolled : Enrolled hub courses) {index : Nat} {role : Role} {stage after : SignalStage}
    {sent : List Payload} {op : HubOp} {reply : op.Reply} {added : List Payload}
    (located : courses index = some ⟨role, stage, sent⟩)
    (move : Move role stage op reply after added) {ws : Nat} (relayed : op.relays ws reply ≠ []) :
    ∃ role conn, conn ∈ (hub.side role).connectEvents ∧ conn.ws = ws := by
  cases move with
  | idle _ quiet => cases op <;> cases quiet <;> exact absurd rfl relayed
  | flush stay payload rest next =>
      simp only [HubOp.relays, ne_eq, ite_eq_right_iff, Classical.not_imp] at relayed
      exact ⟨role, stay.conn, (enrolled.joined _ _).mpr ⟨index, _, located, rfl, rfl⟩, relayed.1⟩
  | deliver stay payload target =>
      simp only [HubOp.relays, ne_eq, ite_eq_right_iff, Classical.not_imp] at relayed
      exact ⟨_, target, enrolled.target index _ stay payload target located rfl, relayed.1⟩
  | _ => exact absurd rfl relayed

/-- Only a connection that registers is added to the registered ones, and it is handed the
queue. -/
theorem Move.enrolls_cases {hub : Hub} {choice : HubChoice} {role : Role}
    {stage after : SignalStage} {op : HubOp} {added : List Payload}
    (move : Move role stage op (hubExec choice op hub).2 after added) (own : Role) :
    op.enrolls own (hubExec choice op hub).2 = [] ∨
      own = role ∧ ∃ conn, op = .registerSignalConnection role conn ∧ hub.isTerminated = false ∧
        stage = .connecting conn.ws ∧
        after = .joined ⟨conn, (hub.side role).pending, [], (hub.side role).pending⟩ := by
  generalize replied : (hubExec choice op hub).2 = reply at move
  cases move with
  | idle _ quiet => exact .inl (enrolls_eq_nil_of_quiet quiet own reply)
  | register conn registration =>
      cases live : hub.isTerminated with
      | true => cases (register_of_terminated live choice conn).symm.trans replied
      | false =>
          cases (register_of_live live choice conn).2.symm.trans replied
          by_cases same : role = own
          · exact .inr ⟨same.symm, conn, rfl, rfl, rfl, rfl⟩
          · exact .inl (if_neg same)
  | _ => exact .inl rfl

theorem current_of_signalTarget {hub : Hub} {role : Role} {conn : Connection}
    (found : MediaGateway.signalTarget hub.signals role = some conn) :
    (hub.side role).connection = some conn := by
  unfold Hub.side
  unfold MediaGateway.signalTarget at found
  split at found
  · cases found
  · split at found
    · cases found
    · next current present _ => rwa [present]

/-- A payload is on its way to a connection that was found to be the current one. -/
theorem Move.target_cases {hub : Hub} {choice : HubChoice} {role : Role}
    {stage after : SignalStage} {op : HubOp} {added : List Payload}
    (move : Move role stage op (hubExec choice op hub).2 after added) {stay : Stay}
    {payload : Payload} {conn : Connection}
    (forwarding : after = .forwarding stay payload (some conn)) :
    stage = .forwarding stay payload (some conn) ∨
      (hub.side (oppositeRole role)).connection = some conn := by
  generalize replied : (hubExec choice op hub).2 = reply at move
  cases move with
  | idle _ quiet => exact .inl forwarding
  | look stay payload target flushed =>
      cases forwarding
      exact .inr (current_of_signalTarget replied)
  | _ => cases forwarding

theorem Enrolled.move {hub : Hub} {courses : Nat → Option SignalCourse}
    (enrolled : Enrolled hub courses) {index : Nat} {role : Role} {stage after : SignalStage}
    {sent more : List Payload} {choice : HubChoice} {op : HubOp} {added : List Payload}
    (located : courses index = some ⟨role, stage, sent⟩)
    (move : Move role stage op (hubExec choice op hub).2 after added)
    (distinct : Distinct (hubExec choice op hub).1
      (Function.update courses index (some ⟨role, after, more⟩))) :
    Enrolled (hubExec choice op hub).1
      (Function.update courses index (some ⟨role, after, more⟩)) := by
  have grows (own : Role) {conn : Connection} (listed : conn ∈ (hub.side own).connectEvents) :
      conn ∈ ((hubExec choice op hub).1.side own).connectEvents := by
    rw [events_of_exec]
    exact List.mem_append_left _ listed
  refine ⟨distinct, ?_, ?_, ?_, ?_, ?_⟩
  · intro own conn
    rw [events_of_exec, List.mem_append, joined_update located move, enrolled.joined]
  · intro own
    rcases move.enrolls_cases own with nobody | ⟨rfl, conn, rfl, live, connecting, -⟩
    · rw [events_of_exec, nobody, List.append_nil]
      exact enrolled.single own
    · rw [(register_of_live live choice conn).1, List.map_append, List.map_singleton,
        List.nodup_append]
      refine ⟨enrolled.single own, List.pairwise_singleton _ _, ?_⟩
      intro ws listed other member
      obtain ⟨earlier, before, rfl⟩ := List.mem_map.mp listed
      rw [List.mem_singleton.mp member]
      exact enrolled.fresh located connecting before
  · intro own conn now
    rcases connection_of_exec now with before | ⟨rfl, live⟩
    · exact grows own (enrolled.current own conn before)
    · rw [(register_of_live live choice conn).1]
      exact List.mem_append_right _ (List.mem_singleton_self conn)
  · intro ws relayed
    rw [relayed_of_exec] at relayed
    by_cases before : (hub.sockets ws).relayed = []
    · rw [before, List.nil_append] at relayed
      obtain ⟨own, conn, listed, socket⟩ := move.relays_mem enrolled located relayed
      exact ⟨own, conn, grows own listed, socket⟩
    · obtain ⟨own, conn, listed, socket⟩ := enrolled.written ws before
      exact ⟨own, conn, grows own listed, socket⟩
  · intro other course stay payload conn found forwarding
    rw [Function.update_apply] at found
    split at found
    · cases found
      rcases move.target_cases forwarding with before | current
      · exact grows _ (enrolled.target index ⟨role, stage, sent⟩ stay payload conn located before)
      · exact grows _ (enrolled.current _ conn current)
    · exact grows _ (enrolled.target other course stay payload conn found forwarding)

theorem Enrolled.other {hub : Hub} {courses : Nat → Option SignalCourse}
    (enrolled : Enrolled hub courses) {choice : HubChoice} {op : HubOp} (foreign : op.Foreign)
    (distinct : Distinct (hubExec choice op hub).1 courses) :
    Enrolled (hubExec choice op hub).1 courses := by
  have events (role : Role) : ((hubExec choice op hub).1.side role).connectEvents =
      (hub.side role).connectEvents := by
    rw [events_of_exec]
    cases op <;> first | exact absurd rfl foreign | exact List.append_nil _
  have relayed (ws : Nat) : ((hubExec choice op hub).1.sockets ws).relayed =
      (hub.sockets ws).relayed := by
    rw [relayed_of_exec]
    cases op <;> first | exact absurd rfl foreign | exact List.append_nil _
  refine ⟨distinct, ?_, ?_, ?_, ?_, ?_⟩
  · intro role conn
    rw [events, enrolled.joined]
  · intro role
    rw [events]
    exact enrolled.single role
  · intro role conn now
    rw [events]
    rcases connection_of_exec now with before | ⟨rfl, -⟩
    · exact enrolled.current role conn before
    · exact absurd rfl foreign
  · intro ws some
    rw [relayed] at some
    simpa only [events] using enrolled.written ws some
  · intro index course stay payload conn located forwarding
    rw [events]
    exact enrolled.target index course stay payload conn located forwarding

/-! ## Lines -/

namespace Hub

/-- What was written to the connections of a role, in the order of their registrations. -/
def delivered (hub : Hub) (role : Role) : List Payload :=
  (hub.side role).connectEvents.flatMap fun conn => (hub.sockets conn.ws).relayed

/-- What was written to a connection, and what it holds. -/
def segment (hub : Hub) (held : Nat → List Payload) (conn : Connection) : List Payload :=
  (hub.sockets conn.ws).relayed ++ held conn.ws

/-- What was or will be written to the connections of a role, and then the queue. -/
def line (hub : Hub) (held : Nat → List Payload) (role : Role) : List Payload :=
  (hub.side role).connectEvents.flatMap (hub.segment held) ++ (hub.side role).pending

end Hub

/-- What the connections of a role hold, by their sockets. -/
def Holds (courses : Nat → Option SignalCourse) (role : Role) (held : Nat → List Payload) : Prop :=
  ∀ index course stay, courses index = some course → course.role = role →
    course.stage.stay = some stay → held stay.conn.ws = stay.rest

/-- The payload that the connection is about to forward. -/
def SignalStage.inflight : SignalStage → List Payload
  | .forwarding _ payload _ => [payload]
  | _ => []

section Lines

variable {hub after : Hub} {role : Role} {held now : Nat → List Payload}

theorem delivered_sublist_line : (hub.delivered role).Sublist (hub.line held role) :=
  (List.Sublist.flatMap_right _ fun _ _ => List.sublist_append_left _ _).trans
    (List.sublist_append_left _ _)

/-- Nothing comes into the line but at its end. -/
theorem line_sublist {queued : List Payload}
    (events : (after.side role).connectEvents = (hub.side role).connectEvents)
    (pending : (after.side role).pending.Sublist ((hub.side role).pending ++ queued))
    (segments : ∀ conn ∈ (hub.side role).connectEvents,
      (after.segment now conn).Sublist (hub.segment held conn)) :
    (after.line now role).Sublist (hub.line held role ++ queued) := by
  unfold Hub.line
  rw [events, List.append_assoc]
  exact (List.Sublist.flatMap_right _ segments).append pending

end Lines

section Moves

variable {hub : Hub} {courses : Nat → Option SignalCourse} {held : Nat → List Payload}
  {index : Nat} {role : Role} {stage after : SignalStage} {sent more : List Payload}
  {op : HubOp} {reply : op.Reply} {added : List Payload}

/-- What a connection writes to its own socket is the next that it holds. -/
theorem Move.segment (move : Move role stage op reply after added) (enrolled : Enrolled hub courses)
    (located : courses index = some ⟨role, stage, sent⟩) {stay : Stay}
    (staying : stage.stay = some stay)
    (listed : stay.conn ∈ (hub.side role).connectEvents) :
    ∃ now, after.stay = some now ∧ now.conn = stay.conn ∧
      (op.relays stay.conn.ws reply ++ now.rest).Sublist stay.rest := by
  cases move with
  | idle _ quiet =>
      refine ⟨stay, staying, rfl, ?_⟩
      cases op <;> cases quiet <;> exact List.Sublist.refl _
  | upgrade ws => cases staying
  | turnAway conn => cases staying
  | register conn registration => cases staying
  | abandon joined event =>
      cases staying
      exact ⟨_, rfl, rfl, List.nil_sublist _⟩
  | flush serving payload rest next =>
      cases staying
      refine ⟨_, rfl, rfl, ?_⟩
      simp only [HubOp.relays, if_true, next, List.singleton_append]
      exact List.Sublist.refl _
  | stop serving payload rest next =>
      cases staying
      exact ⟨_, rfl, rfl, List.nil_sublist _⟩
  | deliver serving payload target =>
      cases staying
      have elsewhere : target.ws ≠ stay.conn.ws := by
        intro same
        have roles := enrolled.same_role
          (enrolled.target index _ stay payload target located rfl) listed same
        cases role <;> cases roles
      refine ⟨_, rfl, rfl, ?_⟩
      simp only [HubOp.relays, if_neg elsewhere]
      exact List.Sublist.refl _
  | _ =>
      cases staying
      exact ⟨_, rfl, rfl, List.Sublist.refl _⟩

/-- To the other connections of its role a connection writes nothing. -/
theorem Move.relays_elsewhere (move : Move role stage op reply after added)
    (enrolled : Enrolled hub courses) (located : courses index = some ⟨role, stage, sent⟩)
    {conn : Connection} (listed : conn ∈ (hub.side role).connectEvents)
    (elsewhere : stage.ws ≠ some conn.ws) : op.relays conn.ws reply = [] := by
  cases move with
  | idle _ quiet => cases op <;> cases quiet <;> rfl
  | flush stay payload rest next => exact if_neg fun same => elsewhere (congrArg some same)
  | deliver stay payload target =>
      refine if_neg fun same => ?_
      have roles := enrolled.same_role
        (enrolled.target index _ stay payload target located rfl) listed same
      cases role <;> cases roles
  | _ => rfl

/-- To the connections of the other role it writes the payload that is on its way. -/
theorem Move.relays_across (move : Move role stage op reply after added)
    (enrolled : Enrolled hub courses) (located : courses index = some ⟨role, stage, sent⟩)
    {conn : Connection} (listed : conn ∈ (hub.side (oppositeRole role)).connectEvents)
    (direct : ∀ ws payload, op ≠ .writeDirect ws payload) : op.relays conn.ws reply = [] := by
  cases move with
  | idle _ quiet => cases op <;> cases quiet <;> rfl
  | flush stay payload rest next =>
      refine if_neg fun same => ?_
      have own : stay.conn ∈ (hub.side role).connectEvents :=
        (enrolled.joined _ _).mpr ⟨index, _, located, rfl, rfl⟩
      have roles := enrolled.same_role own listed same
      cases role <;> cases roles
  | deliver stay payload target => exact absurd rfl (direct _ _)
  | _ => rfl

theorem Move.queues_own (move : Move role stage op reply after added) : op.queues role = [] := by
  cases move with
  | idle _ quiet => cases op <;> cases quiet <;> rfl
  | queue stay payload =>
      refine if_neg fun same => ?_
      cases role <;> cases same
  | _ => rfl

/-- What is queued was on its way, and what is on its way was sent. -/
theorem Move.inflight (move : Move role stage op reply after added)
    (direct : ∀ ws payload, op ≠ .writeDirect ws payload) :
    op.queues (oppositeRole role) ++ after.inflight = stage.inflight ++ added := by
  cases move with
  | idle _ quiet =>
      rw [List.append_nil]
      cases op <;> cases quiet <;> rfl
  | deliver stay payload target => exact absurd rfl (direct _ _)
  | miss stay payload target => exact absurd rfl (direct _ _)
  | queue stay payload =>
      simp only [HubOp.queues, if_true]
      rfl
  | _ => rfl

end Moves

/-- What the connections hold when one of them has come to a stage. -/
def heldAfter (held : Nat → List Payload) (stage : SignalStage) : Nat → List Payload :=
  match stage.stay with
  | some stay => Function.update held stay.conn.ws stay.rest
  | none => held

theorem heldAfter_of_stay {held : Nat → List Payload} {stage : SignalStage} {stay : Stay}
    (staying : stage.stay = some stay) :
    heldAfter held stage = Function.update held stay.conn.ws stay.rest := by
  rw [heldAfter, staying]

theorem heldAfter_of_none {held : Nat → List Payload} {stage : SignalStage}
    (absent : stage.stay = none) : heldAfter held stage = held := by
  rw [heldAfter, absent]

section Steps

variable {hub : Hub} {courses : Nat → Option SignalCourse} {held : Nat → List Payload}
  {index : Nat} {role : Role} {stage after : SignalStage} {sent more : List Payload}
  {choice : HubChoice} {op : HubOp} {added : List Payload}

theorem Holds.update (holds : Holds courses role held)
    (distinct : Distinct hub (Function.update courses index (some ⟨role, after, more⟩))) :
    Holds (Function.update courses index (some ⟨role, after, more⟩)) role
      (heldAfter held after) := by
  intro other course stay found same staying
  by_cases here : other = index
  · subst here
    rw [Function.update_self] at found
    cases found
    rw [@heldAfter_of_stay _ after stay staying, Function.update_self]
  · have earlier : courses other = some course := by
      rwa [Function.update_of_ne here] at found
    cases ours : after.stay with
    | none =>
        rw [heldAfter_of_none ours]
        exact holds other course stay earlier same staying
    | some own =>
        have apart : stay.conn.ws ≠ own.conn.ws := fun socket =>
          here (distinct.apart other index course _ stay.conn.ws found (Function.update_self ..)
            (SignalStage.ws_of_stay staying) (socket ▸ SignalStage.ws_of_stay ours))
        rw [heldAfter_of_stay ours, Function.update_of_ne apart]
        exact holds other course stay earlier same staying

/-- A connection of the role keeps the line in order. -/
theorem line_of_receiver (enrolled : Enrolled hub courses)
    (located : courses index = some ⟨role, stage, sent⟩)
    (move : Move role stage op (hubExec choice op hub).2 after added)
    (holds : Holds courses role held) :
    ((hubExec choice op hub).1.line (heldAfter held after) role).Sublist (hub.line held role) := by
  rcases move.enrolls_cases role with nobody | ⟨-, conn, rfl, live, rfl, rfl⟩
  · have events := events_of_exec choice op hub role
    have pending := pending_of_exec choice op hub role
    rw [nobody, List.append_nil] at events
    rw [move.queues_own] at pending
    refine (line_sublist events pending ?_).trans (by rw [List.append_nil])
    intro conn listed
    unfold Hub.segment
    rw [relayed_of_exec, List.append_assoc]
    refine (List.Sublist.refl _).append ?_
    cases staying : stage.stay with
    | none =>
        have absent : after.stay = none := by
          have grown := move.conn_eq.1
          rw [nobody, List.append_nil, SignalStage.conn, SignalStage.conn, staying] at grown
          simpa using grown
        have elsewhere : stage.ws ≠ some conn.ws := by
          intro socket
          obtain ⟨other, owner, found, -, joined⟩ := (enrolled.joined role conn).mp listed
          cases enrolled.distinct.apart index other _ owner conn.ws located found socket
            (SignalStage.ws_of_conn joined)
          cases located.symm.trans found
          rw [SignalStage.conn, staying] at joined
          cases joined
        rw [move.relays_elsewhere enrolled located listed elsewhere, heldAfter_of_none absent]
        exact List.Sublist.refl _
    | some stay =>
        have own : stay.conn ∈ (hub.side role).connectEvents :=
          (enrolled.joined _ _).mpr ⟨index, _, located, rfl, by simp [SignalStage.conn, staying]⟩
        obtain ⟨now, remaining, same, rest⟩ := move.segment enrolled located staying own
        rw [heldAfter_of_stay remaining, same]
        by_cases socket : conn.ws = stay.conn.ws
        · rw [socket, holds index _ stay located rfl staying, Function.update_self]
          exact rest
        · have elsewhere : stage.ws ≠ some conn.ws := by
            rw [SignalStage.ws_of_stay staying]
            exact fun equal => socket (Option.some.inj equal).symm
          rw [move.relays_elsewhere enrolled located listed elsewhere,
            Function.update_of_ne socket]
          exact List.Sublist.refl _
  · have unwritten : (hub.sockets conn.ws).relayed = [] := by
      by_contra written
      obtain ⟨own, earlier, listed, socket⟩ := enrolled.written conn.ws written
      exact enrolled.fresh located rfl listed socket
    have kept : (hub.side role).connectEvents.flatMap
          (hub.segment (Function.update held conn.ws (hub.side role).pending)) =
        (hub.side role).connectEvents.flatMap (hub.segment held) := by
      refine List.flatMap_congr fun earlier listed => ?_
      rw [Hub.segment, Hub.segment, Function.update_of_ne (enrolled.fresh located rfl listed)]
    rw [Hub.line, (register_of_live live choice conn).1,
      @heldAfter_of_stay held (.joined _) _ rfl, List.flatMap_append]
    change ((hub.side role).connectEvents.flatMap
        (hub.segment (Function.update held conn.ws (hub.side role).pending)) ++
      [conn].flatMap (hub.segment (Function.update held conn.ws (hub.side role).pending)) ++
      []).Sublist _
    rw [kept]
    simp only [List.flatMap_singleton, Hub.segment, unwritten, Function.update_self,
      List.nil_append, List.append_nil]
    exact List.Sublist.refl _

/-- A connection of the other role, as long as it does not write directly. -/
theorem line_of_sender (enrolled : Enrolled hub courses)
    (located : courses index = some ⟨role, stage, sent⟩)
    (move : Move role stage op (hubExec choice op hub).2 after added)
    (direct : ∀ ws payload, op ≠ .writeDirect ws payload) :
    ((hubExec choice op hub).1.line held (oppositeRole role) ++ after.inflight).Sublist
      (hub.line held (oppositeRole role) ++ stage.inflight ++ added) := by
  have other : oppositeRole role ≠ role := by cases role <;> nofun
  have events := events_of_exec choice op hub (oppositeRole role)
  rw [move.conn_eq.2 _ other, List.append_nil] at events
  have kept := @line_sublist hub _ (oppositeRole role) held held _ events
    (pending_of_exec choice op hub (oppositeRole role)) fun conn listed => by
      rw [Hub.segment, relayed_of_exec, move.relays_across enrolled located listed direct,
        List.append_nil]
      exact List.Sublist.refl _
  refine (kept.append_right _).trans ?_
  rw [List.append_assoc, List.append_assoc, move.inflight direct]

/-- Nothing older than a payload that is written to the socket is still to be written, and
nothing newer was written to a later connection. -/
structure CaughtUp (hub : Hub) (held : Nat → List Payload) (role : Role) (ws : Nat) : Prop where
  pending : (hub.side role).pending = []
  held : ∀ conn ∈ (hub.side role).connectEvents.dropWhile fun conn => conn.ws ≠ ws,
    held conn.ws = []
  later : ∀ conn ∈ ((hub.side role).connectEvents.dropWhile fun conn => conn.ws ≠ ws).tail,
    (hub.sockets conn.ws).relayed = []

/-- What is written when nothing else is to come comes last in the line. -/
theorem line_of_written {target : Connection} (enrolled : Enrolled hub courses)
    (listed : target ∈ (hub.side role).connectEvents) (payload : Payload)
    (caughtUp : CaughtUp hub held role target.ws) :
    (hub.setSocket target.ws { hub.sockets target.ws with
      relayed := (hub.sockets target.ws).relayed ++ [payload] }).line held role =
        hub.line held role ++ [payload] := by
  obtain ⟨pending, nothing, later⟩ := caughtUp
  obtain ⟨front, back, split⟩ := List.append_of_mem listed
  have single := enrolled.single role
  rw [split, List.map_append, List.map_cons] at single
  have apart := List.nodup_append.mp single
  have before (conn : Connection) (earlier : conn ∈ front) : conn.ws ≠ target.ws := fun same =>
    apart.2.2 conn.ws (List.mem_map_of_mem earlier) target.ws (.head _) same
  have behind (conn : Connection) (following : conn ∈ back) : conn.ws ≠ target.ws := fun same =>
    (List.nodup_cons.mp apart.2.1).1 (same ▸ List.mem_map_of_mem following)
  have reached : ((hub.side role).connectEvents.dropWhile fun conn => conn.ws ≠ target.ws) =
      target :: back := by
    rw [split, List.dropWhile_append_of_pos (fun conn earlier => by simpa using before conn earlier)]
    simp
  rw [reached] at nothing later
  have unchanged (conn : Connection) (other : conn.ws ≠ target.ws) :
      (hub.setSocket target.ws { hub.sockets target.ws with
        relayed := (hub.sockets target.ws).relayed ++ [payload] }).segment held conn =
        hub.segment held conn := by
    simp only [Hub.segment, Hub.setSocket, Function.update_of_ne other]
  have empty (conn : Connection) (following : conn ∈ back) : hub.segment held conn = [] := by
    rw [Hub.segment, later conn following, nothing conn (.tail _ following), List.append_nil]
  have same : (hub.setSocket target.ws { hub.sockets target.ws with
      relayed := (hub.sockets target.ws).relayed ++ [payload] }).side role = hub.side role := rfl
  simp only [Hub.line, same, pending, split, List.flatMap_append, List.flatMap_cons,
    List.append_nil]
  rw [List.flatMap_congr fun conn earlier => unchanged conn (before conn earlier),
    List.flatMap_congr fun conn following => unchanged conn (behind conn following),
    List.flatMap_eq_nil_iff.mpr empty]
  simp only [Hub.segment, Hub.setSocket, Function.update_self, nothing target (.head _),
    List.append_nil, List.append_assoc]

theorem write_cases (hub : Hub) (choice : HubChoice) (ws : Nat) (record : Socket → Socket) :
    hub.write choice ws record = (hub, false) ∨
      choice.succeeds = true ∧ (hub.sockets ws).closed = false ∧
        hub.write choice ws record = (hub.setSocket ws (record (hub.sockets ws)), true) := by
  unfold Hub.write
  split
  · next written => exact .inr (by simpa using written)
  · exact .inl rfl

/-- A connection of the other role that writes directly. -/
theorem line_of_direct (enrolled : Enrolled hub courses) {ws : Nat} {payload : Payload}
    (located : courses index = some ⟨role, stage, sent⟩)
    (move : Move role stage (.writeDirect ws payload)
      (hubExec choice (.writeDirect ws payload) hub).2 after added)
    (caughtUp : choice.succeeds = true → (hub.sockets ws).closed = false →
      CaughtUp hub held (oppositeRole role) ws) :
    ((hubExec choice (.writeDirect ws payload) hub).1.line held (oppositeRole role) ++
        after.inflight).Sublist
      (hub.line held (oppositeRole role) ++ stage.inflight ++ added) := by
  have written := write_cases hub choice ws fun socket =>
    { socket with relayed := socket.relayed ++ [payload] }
  change hubExec choice (.writeDirect ws payload) hub = (hub, false) ∨ _ ∧ _ ∧
    hubExec choice (.writeDirect ws payload) hub = _ at written
  rcases written with failed | ⟨succeeds, opened, succeeded⟩
  · rw [failed] at move ⊢
    cases move with
    | idle _ quiet => cases quiet
    | miss stay payload target =>
        rw [List.append_nil]
        exact List.Sublist.refl _
  · rw [succeeded] at move ⊢
    cases move with
    | idle _ quiet => cases quiet
    | deliver stay payload target =>
        have listed := enrolled.target index _ stay payload target located rfl
        rw [line_of_written enrolled listed payload (caughtUp succeeds opened)]
        simp only [SignalStage.inflight, List.append_nil]
        exact List.Sublist.refl _

end Steps

/-! ## The condition -/

section Runs

variable {codec : Codec} {sessionID : String}

/-- The job is a signaling connection of the role. -/
def HubJob.sends (sender : Role) : HubJob → Bool
  | .signal role _ => role = sender
  | _ => false

/-- One connection of the role comes in the whole run. -/
def isOnlySender (sender : Role) (config : Async.Config (gatewayHub codec sessionID)) :
    Action (gatewayHub codec sessionID) → Bool
  | .start job => !HubJob.sends sender job ||
      config.threads.all fun thread => !HubJob.sends sender thread.job
  | _ => true

/-- The queue of the role is empty, no connection from the one with the socket on has anything
left of what it was handed, and nothing was written to a later one. -/
def isCaughtUp (config : Async.Config (gatewayHub codec sessionID)) (role : Role) (ws : Nat) :
    Bool :=
  let reached := (config.state.side role).connectEvents.dropWhile fun conn => conn.ws ≠ ws
  (config.state.side role).pending.isEmpty &&
    (reached.all fun conn => (List.range config.threads.length).all fun index =>
      ((signalCourseAt config index).bind fun course => course.stage.stay).all fun stay =>
        stay.conn.ws ≠ conn.ws || stay.rest.isEmpty) &&
    reached.tail.all fun conn => (config.state.sockets conn.ws).relayed.isEmpty

/-- The role has one connection, and what it writes directly overtakes nothing. -/
def isOrderly (sender : Role) (config : Async.Config (gatewayHub codec sessionID)) :
    Action (gatewayHub codec sessionID) → Bool
  | .start job => isOnlySender sender config (.start job)
  | .resume index choice =>
      match config.awaits index, signalCourseAt config index with
      | some (.writeDirect ws _), some course =>
          course.role ≠ sender || !choice.succeeds || (config.state.sockets ws).closed ||
            isCaughtUp config (oppositeRole sender) ws
      | _, _ => true

theorem caughtUp_of_isCaughtUp {config : Async.Config (gatewayHub codec sessionID)} {role : Role}
    {ws : Nat} {held : Nat → List Payload} (caughtUp : isCaughtUp config role ws = true)
    (enrolled : Enrolled config.state (signalCourseAt config))
    (holds : Holds (signalCourseAt config) role held) : CaughtUp config.state held role ws := by
  simp only [isCaughtUp, Bool.and_eq_true, List.all_eq_true, List.isEmpty_iff] at caughtUp
  obtain ⟨⟨pending, nothing⟩, later⟩ := caughtUp
  refine ⟨pending, fun conn reached => ?_, later⟩
  have listed := (List.dropWhile_sublist _).subset reached
  obtain ⟨index, course, located, same, joined⟩ := (enrolled.joined role conn).mp listed
  obtain ⟨stay, staying, rfl⟩ := Option.map_eq_some_iff.mp joined
  obtain ⟨thread, found, -⟩ := Config.watched_eq_some.mp located
  have inside := (List.getElem?_eq_some_iff.mp found).1
  have empty := nothing _ reached index (List.mem_range.mpr inside)
  rw [located] at empty
  simp only [Option.bind_some, staying, Option.all_some] at empty
  rw [holds index course stay located same staying]
  simpa using empty

/-! ## The invariant -/

/-- What was relayed, what is held, what waits and what is on its way are in the order in which
they were sent. -/
structure Ordered (sender : Role) (hub : Hub) (courses : Nat → Option SignalCourse) : Prop where
  enrolled : Enrolled hub courses
  alone : ∀ first second one other, courses first = some one → courses second = some other →
    one.role = sender → other.role = sender → first = second
  held : ∃ held, Holds courses (oppositeRole sender) held ∧
    (∀ index course, courses index = some course → course.role = sender →
      (hub.line held (oppositeRole sender) ++ course.stage.inflight).Sublist course.sent) ∧
    ((∀ index course, courses index = some course → course.role ≠ sender) →
      hub.line held (oppositeRole sender) = [])

theorem opening_cases (job : HubJob) :
    job.opening = none ∧ (∀ sender, HubJob.sends sender job = false) ∨
      ∃ role, job.opening = some ⟨role, .outside, []⟩ ∧
        ∀ sender, HubJob.sends sender job = decide (role = sender) := by
  cases job with
  | signal role budget => exact .inr ⟨role, rfl, fun _ => rfl⟩
  | media role budget | webrtc request | terminate body => exact .inl ⟨rfl, fun _ => rfl⟩

/-- The start of a connection enrolls nobody. -/
theorem Enrolled.start {hub : Hub} {courses : Nat → Option SignalCourse}
    (enrolled : Enrolled hub courses) {index : Nat} (vacant : courses index = none) {role : Role}
    (distinct : Distinct hub (Function.update courses index (some ⟨role, .outside, []⟩))) :
    Enrolled hub (Function.update courses index (some ⟨role, .outside, []⟩)) := by
  refine ⟨distinct, ?_, enrolled.single, enrolled.current, enrolled.written, ?_⟩
  · intro own conn
    rw [enrolled.joined]
    constructor
    · rintro ⟨other, course, found, same, joined⟩
      have elsewhere : other ≠ index := by
        rintro rfl
        cases vacant.symm.trans found
      exact ⟨other, course, (Function.update_of_ne elsewhere ..).trans found, same, joined⟩
    · rintro ⟨other, course, found, same, joined⟩
      rw [Function.update_apply] at found
      split at found
      · cases found
        cases joined
      · exact ⟨other, course, found, same, joined⟩
  · intro other course stay payload conn found forwarding
    rw [Function.update_apply] at found
    split at found
    · cases found
      cases forwarding
    · exact enrolled.target other course stay payload conn found forwarding

theorem next_role (course : SignalCourse) (op : HubOp) (reply : op.Reply) :
    (course.next op reply).role = course.role := by
  unfold SignalCourse.next
  split <;> first | rfl | (split <;> rfl)

theorem role_of_watched {thread : Thread (gatewayHub codec sessionID)} {course : SignalCourse}
    (known : thread.watched signalMonitor HubJob.opening = some course) :
    HubJob.sends course.role thread.job = true := by
  have kept (past : List (Event hubFace)) (opened : SignalCourse) :
      ∀ course, signalMonitor.after (some opened) past = some course →
        course.role = opened.role := by
    induction past with
    | nil =>
        intro course same
        cases same
        rfl
    | cons event past ih =>
        intro course reached
        obtain ⟨op, reply⟩ := event
        obtain ⟨before, earlier, moved⟩ := Option.bind_eq_some_iff.mp reached
        cases moved
        rw [next_role]
        exact ih before earlier
  unfold Thread.watched at known
  rcases opening_cases thread.job with ⟨absent, -⟩ | ⟨role, opened, sends⟩
  · rw [absent] at known
    have released (past : List (Event hubFace)) : signalMonitor.after none past = none := by
      induction past with
      | nil => rfl
      | cons event past ih => rw [Monitor.after_cons, ih, Option.bind_none]
    cases (released thread.past).symm.trans known
  · rw [opened] at known
    rw [sends, kept thread.past _ course known]
    exact decide_eq_true rfl

theorem Ordered.start {sender : Role} {hub : Hub} {courses : Nat → Option SignalCourse}
    (ordered : Ordered sender hub courses) {index : Nat} (vacant : courses index = none)
    {role : Role}
    (only : role = sender → ∀ other course, courses other = some course → course.role ≠ sender)
    (distinct : Distinct hub (Function.update courses index (some ⟨role, .outside, []⟩))) :
    Ordered sender hub (Function.update courses index (some ⟨role, .outside, []⟩)) := by
  obtain ⟨held, holds, queued, silent⟩ := ordered.held
  refine ⟨ordered.enrolled.start vacant distinct, ?_, held, ?_, ?_, ?_⟩
  · intro first second one other locatedFirst locatedSecond same own
    rw [Function.update_apply] at locatedFirst locatedSecond
    split at locatedFirst <;> split at locatedSecond
    · next atFirst atSecond => exact atFirst.trans atSecond.symm
    · cases locatedFirst
      exact absurd own (only same second other locatedSecond)
    · cases locatedSecond
      exact absurd same (only own first one locatedFirst)
    · exact ordered.alone first second one other locatedFirst locatedSecond same own
  · intro other course stay found same staying
    rw [Function.update_apply] at found
    split at found
    · cases found
      cases staying
    · exact holds other course stay found same staying
  · intro other course found same
    rw [Function.update_apply] at found
    split at found
    · cases found
      rw [silent (only same)]
      exact List.Sublist.refl _
    · exact queued other course found same
  · intro nobody
    refine silent fun other course found => ?_
    have elsewhere : other ≠ index := by
      rintro rfl
      cases vacant.symm.trans found
    exact nobody other course ((Function.update_of_ne elsewhere ..).trans found)

theorem oppositeRole_of_ne {role sender : Role} (different : role ≠ sender) :
    role = oppositeRole sender := by
  cases role <;> cases sender <;> first | rfl | exact absurd rfl different

/-- What one connection does keeps the order. -/
theorem Ordered.move {sender : Role} {hub : Hub} {courses : Nat → Option SignalCourse}
    (ordered : Ordered sender hub courses) {index : Nat} {role : Role}
    {stage after : SignalStage} {sent added : List Payload} {choice : HubChoice} {op : HubOp}
    (located : courses index = some ⟨role, stage, sent⟩)
    (move : Move role stage op (hubExec choice op hub).2 after added)
    (distinct : Distinct (hubExec choice op hub).1
      (Function.update courses index (some ⟨role, after, sent ++ added⟩)))
    (caughtUp : ∀ held ws payload, Holds courses (oppositeRole sender) held → role = sender →
      op = .writeDirect ws payload → choice.succeeds = true → (hub.sockets ws).closed = false →
      CaughtUp hub held (oppositeRole sender) ws) :
    Ordered sender (hubExec choice op hub).1
      (Function.update courses index (some ⟨role, after, sent ++ added⟩)) := by
  obtain ⟨held, holds, queued, silent⟩ := ordered.held
  have enrolled := ordered.enrolled
  have roleAt (other : Nat) (course : SignalCourse)
      (found : Function.update courses index (some ⟨role, after, sent ++ added⟩) other =
        some course) :
      ∃ before, courses other = some before ∧ before.role = course.role := by
    rw [Function.update_apply] at found
    split at found
    · next here =>
        cases found
        exact ⟨⟨role, stage, sent⟩, here ▸ located, rfl⟩
    · exact ⟨course, found, rfl⟩
  have alone : ∀ first second one other,
      Function.update courses index (some ⟨role, after, sent ++ added⟩) first = some one →
      Function.update courses index (some ⟨role, after, sent ++ added⟩) second = some other →
      one.role = sender → other.role = sender → first = second := by
    intro first second one other locatedFirst locatedSecond same own
    obtain ⟨before, foundFirst, roleFirst⟩ := roleAt first one locatedFirst
    obtain ⟨earlier, foundSecond, roleSecond⟩ := roleAt second other locatedSecond
    exact ordered.alone first second before earlier foundFirst foundSecond
      (roleFirst.trans same) (roleSecond.trans own)
  by_cases sends : role = sender
  · subst sends
    have ahead : ((hubExec choice op hub).1.line held (oppositeRole role) ++
        after.inflight).Sublist (hub.line held (oppositeRole role) ++ stage.inflight ++ added) := by
      by_cases direct : ∃ ws payload, op = .writeDirect ws payload
      · obtain ⟨ws, payload, rfl⟩ := direct
        exact line_of_direct enrolled located move (caughtUp held ws payload holds rfl rfl)
      · exact line_of_sender enrolled located move fun ws payload same =>
          direct ⟨ws, payload, same⟩
    refine ⟨enrolled.move located move distinct, alone, held, ?_, ?_, ?_⟩
    · intro other course stay found own staying
      rw [Function.update_apply] at found
      split at found
      · cases found
        cases role <;> cases own
      · exact holds other course stay found own staying
    · intro other course found own
      by_cases here : other = index
      · subst here
        rw [Function.update_self] at found
        cases found
        exact ahead.trans ((queued other ⟨role, stage, sent⟩ located rfl).append_right added)
      · rw [Function.update_of_ne here] at found
        exact absurd (ordered.alone other index course ⟨role, stage, sent⟩ found located own rfl) here
    · intro nobody
      exact absurd rfl (nobody index _ (Function.update_self ..))
  · cases oppositeRole_of_ne sends
    have behind := line_of_receiver enrolled located move holds
    refine ⟨enrolled.move located move distinct, alone, _, holds.update distinct, ?_, ?_⟩
    · intro other course found own
      rw [Function.update_apply] at found
      split at found
      · cases found
        exact absurd own sends
      · exact (behind.append_right _).trans (queued other course found own)
    · intro nobody
      refine List.sublist_nil.mp (behind.trans (List.sublist_nil.mpr (silent ?_)))
      intro other course found own
      by_cases here : other = index
      · subst here
        cases found.symm.trans located
        exact sends own
      · exact nobody other course ((Function.update_of_ne here ..).trans found) own

theorem Ordered.other {sender : Role} {hub : Hub} {courses : Nat → Option SignalCourse}
    (ordered : Ordered sender hub courses) {choice : HubChoice} {op : HubOp}
    (foreign : op.Foreign) (distinct : Distinct (hubExec choice op hub).1 courses) :
    Ordered sender (hubExec choice op hub).1 courses := by
  obtain ⟨held, holds, queued, silent⟩ := ordered.held
  have events := events_of_exec choice op hub (oppositeRole sender)
  have pending := pending_of_exec choice op hub (oppositeRole sender)
  have nobody : op.enrolls (oppositeRole sender) (hubExec choice op hub).2 = [] := by
    cases op <;> first | exact absurd rfl foreign | rfl
  have nothing : op.queues (oppositeRole sender) = [] := by
    cases op <;> first | exact absurd rfl foreign | rfl
  rw [nobody, List.append_nil] at events
  rw [nothing] at pending
  have behind := @line_sublist hub _ (oppositeRole sender) held held _ events pending
    fun conn _ => by
      have unwritten : op.relays conn.ws (hubExec choice op hub).2 = [] := by
        cases op <;> first | exact absurd rfl foreign | rfl
      rw [Hub.segment, relayed_of_exec, unwritten, List.append_nil]
      exact List.Sublist.refl _
  rw [List.append_nil] at behind
  refine ⟨ordered.enrolled.other foreign distinct, ordered.alone, held, holds, ?_, ?_⟩
  · intro index course located same
    exact (behind.append_right _).trans (queued index course located same)
  · intro absent
    exact List.sublist_nil.mp (behind.trans (List.sublist_nil.mpr (silent absent)))

theorem ordered_watch (sender : Role) :
    Watch (S := gatewayHub codec sessionID) signalMonitor HubJob.opening
      (fun config action => isOrderly sender config action = true) HubOp.Foreign
      (Ordered sender) := by
  have sockets : Watch (S := gatewayHub codec sessionID) signalMonitor HubJob.opening
      (fun config action => isOrderly sender config action = true) HubOp.Foreign Distinct :=
    distinct_watch
  refine ⟨?_, ?_, ?_⟩
  · intro config index job ordered vacant permitted enabled
    have distinct := sockets.start config index job ordered.enrolled.distinct vacant permitted
      enabled
    rcases opening_cases job with ⟨absent, -⟩ | ⟨role, opened, sends⟩
    · rwa [absent, ← vacant, Function.update_eq_self]
    · rw [opened] at distinct ⊢
      refine ordered.start vacant ?_ distinct
      intro same other course located own
      have only : (!HubJob.sends sender job ||
          config.threads.all fun thread => !HubJob.sends sender thread.job) = true := permitted
      rw [sends, decide_eq_true same, Bool.not_true, Bool.false_or, List.all_eq_true] at only
      obtain ⟨thread, found, known⟩ := Config.watched_eq_some.mp located
      have silent := only thread (List.mem_of_getElem? found)
      rw [← own, role_of_watched known] at silent
      cases silent
  · intro config index choice op current ordered located allowed awaited permitted
    have distinct := sockets.resume config index choice op current ordered.enrolled.distinct
      located allowed awaited permitted
    obtain ⟨stage, added, moved, move⟩ := current.move allowed (hubExec choice op config.state).2
    change Ordered sender (hubExec choice op config.state).1 (Function.update _ index
      (some (current.next op (hubExec choice op config.state).2)))
    change Distinct (hubExec choice op config.state).1 (Function.update _ index
      (some (current.next op (hubExec choice op config.state).2))) at distinct
    rw [moved] at distinct ⊢
    refine ordered.move located move distinct ?_
    rintro held ws payload holds same rfl succeeds opened
    simp only [isOrderly, awaited] at permitted
    rw [show signalCourseAt config index = some current from located] at permitted
    simp only [same, succeeds, opened, ne_eq, not_true_eq_false, decide_false, Bool.not_true,
      Bool.false_or] at permitted
    exact caughtUp_of_isCaughtUp permitted ordered.enrolled holds
  · intro hub courses choice op ordered foreign
    exact ordered.other foreign
      (sockets.other hub courses choice op ordered.enrolled.distinct foreign)

/-! ## What was sent -/

/-- The payloads that a handler has begun to forward, in order. -/
def forwarded : List (Event hubFace) → List Payload
  | [] => []
  | ⟨.signalTarget _ payload, _⟩ :: past => forwarded past ++ [payload]
  | _ :: past => forwarded past

theorem forwarded_of_move {role : Role} {stage after : SignalStage} {op : HubOp}
    {reply : op.Reply} {added : List Payload} (move : Move role stage op reply after added)
    (past : List (Event hubFace)) : forwarded (⟨op, reply⟩ :: past) = forwarded past ++ added := by
  cases move with
  | idle _ quiet =>
      rw [List.append_nil]
      cases op <;> cases quiet <;> rfl
  | look stay payload target flushed => rfl
  | _ => exact (List.append_nil _).symm

/-- The course of a connection tells what it has forwarded. -/
def Forwards (course : SignalCourse) (past : List (Event hubFace)) : Prop :=
  course.sent = forwarded past

theorem forwards_of_run {allowed : Async.Config (gatewayHub codec sessionID) →
      Action (gatewayHub codec sessionID) → Prop} {start : Hub}
    {final : Async.Config (gatewayHub codec sessionID)} (run : Run allowed ⟨start, []⟩ final) :
    ∀ thread ∈ final.threads, ∀ course,
      thread.watched signalMonitor HubJob.opening = some course →
        Forwards course thread.past := by
  refine run.recorded (runSignalConnection_follows codec sessionID) ?_ ?_
  · intro job course opened
    rcases opening_cases job with ⟨absent, -⟩ | ⟨role, opening, -⟩
    · cases absent.symm.trans opened
    · cases opening.symm.trans opened
      rfl
  · intro course op reply after past same allowed moved
    obtain ⟨stage, added, next, move⟩ := SignalCourse.move allowed reply
    cases (Option.some.inj moved).symm.trans next
    change course.sent ++ added = _
    rw [forwarded_of_move move, ← show course.sent = forwarded past from same]

end Runs

/-- In every run in which the one connection of a role overtakes nothing, what it has sent is
written to the connections of the other role in this order. -/
theorem signals_arrive_in_order (codec : Codec) (sessionID : String)
    (session stored : Option SessionRecord) (sender : Role)
    (final : Async.Config (gatewayHub codec sessionID))
    (run : Run (fun config action => isOrderly sender config action = true)
      ⟨Hub.opening session stored, []⟩ final)
    (thread : Thread (gatewayHub codec sessionID)) (member : thread ∈ final.threads)
    (sends : HubJob.sends sender thread.job = true) :
    (final.state.delivered (oppositeRole sender)).Sublist (forwarded thread.past) := by
  have empty : Ordered sender (Hub.opening session stored) fun _ => none := by
    refine ⟨⟨⟨nofun, nofun⟩, fun role conn => ⟨nofun, nofun⟩, fun role => List.nodup_nil, nofun,
      fun ws written => absurd rfl written, nofun⟩, nofun, fun _ => [], nofun, nofun, fun _ => rfl⟩
  have ordered := signal_watch_run (ordered_watch sender) run empty
  obtain ⟨held, holds, queued, -⟩ := ordered.held
  obtain ⟨index, found⟩ := List.mem_iff_getElem?.mp member
  rcases opening_cases thread.job with ⟨-, silent⟩ | ⟨role, opened, sending⟩
  · rw [silent] at sends
    cases sends
  · obtain ⟨course, known⟩ : ∃ course, thread.watched signalMonitor HubJob.opening = some course :=
      Option.isSome_iff_exists.mp
        (Monitor.isSome_after (fun _ _ _ => rfl) (by rw [opened]; rfl) thread.past)
    have located : signalCourseAt final index = some course :=
      (Config.watched_of_getElem? found).trans known
    have roles : course.role = sender := by
      have own := role_of_watched known
      rw [sending] at sends own
      exact (of_decide_eq_true own).symm.trans (of_decide_eq_true sends)
    rw [← show course.sent = forwarded thread.past from
      forwards_of_run run thread member course known]
    exact delivered_sublist_line.trans
      ((List.sublist_append_left _ _).trans (queued index course located roles))

/-! ## Sample runs -/

/-- A worker sends a payload before the viewer has come and one after the viewer has got it. -/
def patientWorker : List (Action sampleHub) :=
  comes (.signal .worker 3) :: advances 0 1 ++ reads 0 [2] :: advances 0 5 ++
    reads 0 [7] :: advances 0 2 ++
    comes (.signal .viewer 1) :: advances 1 1 ++ reads 1 [1] :: advances 1 6 ++
    reads 0 [8] :: advances 0 2

/-- The second payload comes while the viewer is registered and the runtime is not told yet. -/
def hastyWorker : List (Action sampleHub) :=
  comes (.signal .worker 3) :: advances 0 1 ++ reads 0 [2] :: advances 0 5 ++
    reads 0 [7] :: advances 0 2 ++
    comes (.signal .viewer 1) :: advances 1 1 ++ reads 1 [1] :: advances 1 3 ++
    reads 0 [8] :: advances 0 2 ++ advances 1 3

theorem patient_worker_is_heard_in_order :
    ∃ (final : Async.Config sampleHub) (thread : Thread sampleHub),
      Run (fun config action => isOrderly .worker config action = true) ⟨sampleOpening, []⟩ final ∧
      thread ∈ final.threads ∧ HubJob.sends .worker thread.job = true ∧
      final.state.delivered .viewer = [[7], [8]] ∧
      (final.state.delivered .viewer).Sublist (forwarded thread.past) := by
  obtain ⟨final, run, seen⟩ := Run.exists_of_schedule
    (fun config action (orderly : isOrderly .worker config action = true) => orderly)
    (⟨sampleOpening, []⟩ : Async.Config sampleHub) patientWorker
    (fun final => final.state.delivered .viewer = [[7], [8]] &&
      final.threads.any fun thread => HubJob.sends .worker thread.job) (by rfl)
  obtain ⟨delivered, present⟩ := Bool.and_eq_true_iff.mp seen
  obtain ⟨thread, member, sends⟩ := List.any_eq_true.mp present
  exact ⟨final, thread, run, member, sends, of_decide_eq_true delivered,
    signals_arrive_in_order sampleCodec "rbi-1" (some sampleRecord) none .worker final run thread
      member sends⟩

theorem hasty_worker_overtakes_itself :
    ¬∀ (final : Async.Config sampleHub) (thread : Thread sampleHub),
      Run (fun config action => isOnlySender .worker config action = true)
        ⟨sampleOpening, []⟩ final → thread ∈ final.threads →
      HubJob.sends .worker thread.job = true →
      (final.state.delivered .viewer).Sublist (forwarded thread.past) := by
  intro always
  obtain ⟨final, run, seen⟩ := Run.exists_of_schedule
    (fun config action (only : isOnlySender .worker config action = true) => only)
    (⟨sampleOpening, []⟩ : Async.Config sampleHub) hastyWorker
    (fun final => final.threads.any fun thread => HubJob.sends .worker thread.job &&
      !(final.state.delivered .viewer).isSublist (forwarded thread.past)) (by rfl)
  obtain ⟨thread, member, overtaken⟩ := List.any_eq_true.mp seen
  obtain ⟨sends, disordered⟩ := Bool.and_eq_true_iff.mp overtaken
  have ordered := List.isSublist_iff_sublist.mpr (always final thread run member sends)
  rw [ordered] at disordered
  cases disordered

end RemoteBrowser.MediaGateway
