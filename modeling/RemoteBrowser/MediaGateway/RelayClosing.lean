import RemoteBrowser.MediaGateway.DataLanes
import Mathlib.Algebra.Order.Group.Nat

/-!
# A closed relay

Closing a relay empties it and closes its peer connections.  It stays empty until something is
stored in it again: an offer, a data channel or a message, none of which look whether the relay is
closed.
-/

namespace RemoteBrowser.MediaGateway

open Async

/-- A closed relay holds no peer connection, no data channel and no message. -/
def Emptied (relay : PionRelaySession) : Prop :=
  relay.terminated = true → (∀ role, relay.peer role = none) ∧
    (∀ role, relay.channels role = []) ∧ ∀ role label, relay.pending role label = []

/-- What stores something in the relay. -/
def PionOp.stores : PionOp → Prop
  | .storePeer _ | .storeChannel _ _ _ | .dispatch _ _ _ _ => True
  | _ => False

/-- Nothing is stored in a closed relay. -/
def KeepsEmpty (config : Async.Config pionRelay) : Action pionRelay → Prop
  | .start _ => True
  | .resume index _ => ∀ op, config.awaits index = some op →
      config.state.terminated = true → ¬PionOp.stores op

section Exec

variable {relay : PionRelaySession} (choice : PionChoice) {op : PionOp}

/-- An open relay is emptied when it is closed. -/
theorem emptied_of_open (running : relay.terminated = false) (op : PionOp) :
    Emptied (pionExec choice op relay).1 := by
  intro closed
  cases op with
  | terminate reason =>
      unfold pionExec PionRelaySession.terminate
      simp only [running, Bool.false_eq_true, if_false, implies_true, and_self]
  | _ =>
      rw [terminated_of_other choice relay (by simp), running] at closed
      cases closed

/-- What is dispatched to a relay without channels is pending there. -/
theorem dispatch_of_no_channels {side : Role} {label : String} (empty : relay.channels side = [])
    (none : relay.pending side label = []) (payload : List UInt8) (isString : Bool) :
    (pionExec choice (.dispatch side label payload isString) relay).1.pending side label =
      [relay.arriving side label payload isString] := by
  have closed : relay.directTarget choice side label = .none := by
    unfold PionRelaySession.directTarget PionRelaySession.openChannel
    rw [empty]
    split
    · rfl
    · split <;> rfl
  have lane := congrArg Lane.pending
    (@lane_exec side label choice relay (.dispatch side label payload isString))
  refine lane.trans ?_
  simp only [PionOp.event, and_self, if_true, closed, Option.isSome_none, Bool.false_eq_true,
    if_false, Lane.after, Lane.queued, PionRelaySession.lane, none, List.nil_append]
  split <;> rfl

/-- Exactly what stores something leaves a closed relay not empty. -/
theorem emptied_exec_iff {stage : DataStage} (closed : relay.terminated = true)
    (empty : Emptied relay) (early : stage.late = 0) (allowed : stage.allows op) :
    Emptied (pionExec choice op relay).1 ↔ ¬op.stores := by
  obtain ⟨peers, channels, pending⟩ := empty closed
  have stays := terminated_exec choice relay op closed
  cases op with
  | storePeer role =>
      apply iff_of_false
      · intro stored
        have peer := (stored stays).1 role
        simp only [pionExec, PionRelaySession.storePeer, Function.update_self] at peer
        cases peer
      · exact fun quiet => quiet trivial
  | storeChannel role label channel =>
      apply iff_of_false
      · intro stored
        have channel := (stored stays).2.1 role
        simp only [pionExec, PionRelaySession.storeChannel, Function.update_self] at channel
        cases channel
      · exact fun quiet => quiet trivial
  | dispatch side label payload isString =>
      apply iff_of_false
      · intro stored
        have waits := (stored stays).2.2 side label
        rw [dispatch_of_no_channels choice (channels side) (pending side label)] at waits
        cases waits
      · exact fun quiet => quiet trivial
  | takePending side label =>
      apply iff_of_true _ id
      have none : (pionExec choice (.takePending side label) relay).1 = relay := by
        simp only [pionExec, PionRelaySession.takePending, pending side label]
        split
        · next waiting => cases waiting
        · rfl
      rw [none]
      exact empty
  | sendDirect side label target message =>
      apply iff_of_true _ id
      simp only [pionExec, PionRelaySession.send]
      split <;> exact empty
  | sendPending side label target message =>
      apply iff_of_true _ id
      simp only [pionExec, PionRelaySession.send]
      split <;> exact empty
  | putBack side label late message =>
      apply iff_of_true _ id
      have onTime : late = false := by
        cases stage with
        | failed role name closed kept =>
            cases allowed
            cases late with
            | true => cases early
            | false => rfl
        | free => cases allowed
        | direct => obtain ⟨target, same⟩ := allowed; cases same
        | taken => obtain ⟨target, same⟩ := allowed; cases same
        | counting => cases allowed
      simp only [pionExec, PionRelaySession.putBack, closed, onTime, Bool.true_eq_false, if_false]
      exact empty
  | terminate reason =>
      apply iff_of_true _ id
      simp only [pionExec, PionRelaySession.terminate, closed, if_true]
      exact empty
  | closePeer peer => exact iff_of_true empty id
  | channelReady channel => exact iff_of_true empty id
  | countDelivered side => exact iff_of_true empty id
  | closeChannel channel => exact iff_of_true empty id
  | cleanupRelaySession reason => exact iff_of_true empty id

end Exec

/-- A closed relay is empty, and so nothing was taken from it. -/
structure Closed (config : Async.Config pionRelay) : Prop where
  emptied : Emptied config.state
  early : stageTotal DataStage.late config = 0

/-- Exactly the actions that store nothing keep a closed relay empty. -/
theorem emptied_step_iff {before after : Async.Config pionRelay} {action : Action pionRelay}
    (obeying : Obeying before) (closed : Closed before)
    (stepped : before.step action = some after) :
    (Emptied after.state ↔ KeepsEmpty before action) ∧
      stageTotal DataStage.late after = 0 := by
  obtain ⟨job, rfl, same, total⟩ | ⟨index, choice, op, stage, rfl, resumed⟩ :=
    pion_step obeying stepped
  · rw [same]
    refine ⟨iff_of_true closed.emptied trivial, ?_⟩
    exact (total _ _).trans (closed.early ▸ add_zero _)
  · have share := resumed.share Nat DataStage.late
    have early : stage.late = 0 := Nat.le_zero.mp (closed.early ▸ share)
    have next := late_exec choice before.state
      (fun terminated => (closed.emptied terminated).2.1) early resumed.allows
    have total := resumed.total Nat DataStage.late
    rw [closed.early, early, next] at total
    refine ⟨?_, total⟩
    have own : KeepsEmpty before (.resume index choice) ↔
        (before.state.terminated = true → ¬PionOp.stores op) := by
      constructor
      · exact fun keeps => keeps op resumed.awaits
      · intro keeps other awaited
        cases resumed.awaits.symm.trans awaited
        exact keeps
    rw [own, resumed.state]
    cases running : before.state.terminated with
    | false =>
        apply iff_of_true (emptied_of_open choice running op)
        intro impossible
        cases impossible
    | true =>
        rw [emptied_exec_iff choice running closed.emptied early resumed.allows]
        exact ⟨fun quiet _ => quiet, fun quiet => quiet rfl⟩

/-! ## Peer connections -/

/-- A goroutine closes a peer connection before it returns. -/
def WillClose (peer : Nat) (program : PionHandler Unit) : Prop :=
  program.MustIssue (fun _ => False) fun op => op = PionOp.closePeer peer

/-- The section took a peer connection out of the relay. -/
def TakesOut (peer : Nat) : Event pionFace → Prop
  | ⟨.storePeer _, old⟩ => old = some peer
  | ⟨.terminate _, remains⟩ => ∃ left, remains = some left ∧ peer ∈ left.peers
  | _ => False

theorem issuesAnything {α : Type} (program : PionHandler α) :
    program.Issues fun _ => True :=
  Program.issues_of_all (fun _ => trivial) program

theorem closeRemains_closes {peer : Nat} (reason : String) {remains : Remains}
    (left : peer ∈ remains.peers) : WillClose peer (closeRemains reason remains) := by
  unfold WillClose closeRemains
  apply Program.MustIssue.bind_right (issuesAnything _) fun _ _ => id
  intro _
  apply Program.MustIssue.bind_left
  exact Program.MustIssue.forEach left (.inl rfl) (fun other _ => issuesAnything _) fun _ _ => id

/-- What neither stores a peer connection nor closes the relay takes none out. -/
def PionOp.KeepsPeers : PionOp → Prop
  | .storePeer _ | .terminate _ => False
  | _ => True

theorem reacts_of_keepsPeers {peer : Nat} {program : PionHandler Unit}
    (issues : program.Issues PionOp.KeepsPeers) :
    program.Reacts (TakesOut peer) (WillClose peer) :=
  issues.reacts fun op keeps reply takes => by cases op <;> first | exact keeps | exact takes

theorem flushPending_keepsPeers (side : Role) (label : String) (budget : Nat) :
    (flushPending side label budget).Issues PionOp.KeepsPeers := by
  induction budget with
  | zero => trivial
  | succ budget ih =>
      refine ⟨trivial, fun reply => ?_⟩
      cases reply with
      | none => trivial
      | some taken =>
          refine ⟨trivial, fun sent => ?_⟩
          cases sent with
          | false => exact ⟨trivial, fun _ => trivial⟩
          | true => exact ⟨trivial, fun _ => ih⟩

theorem closeRemains_keepsPeers (reason : String) (remains : Remains) :
    (closeRemains reason remains).Issues PionOp.KeepsPeers := by
  unfold closeRemains
  apply Program.Issues.bind
  · exact Program.Issues.forEach fun channel _ => Program.issues_call.mpr trivial
  · intro _
    apply Program.Issues.bind
    · exact Program.Issues.forEach fun peer _ => Program.issues_call.mpr trivial
    · exact fun _ => Program.issues_call.mpr trivial

/-- Whoever takes a peer connection out of the relay closes it. -/
theorem body_reacts (peer : Nat) (job : PionJob) :
    (pionRelay.body job).Reacts (TakesOut peer) (WillClose peer) := by
  cases job with
  | offer role =>
      intro old
      cases old with
      | none => exact ⟨fun takes => (by cases takes), trivial⟩
      | some old =>
          constructor
          · intro takes
            cases takes
            exact .inl rfl
          · exact fun _ => ⟨fun takes => takes.elim, trivial⟩
  | register role label channel budget =>
      apply reacts_of_keepsPeers
      refine ⟨trivial, fun _ => ⟨trivial, fun ready => ?_⟩⟩
      cases ready with
      | false => trivial
      | true => exact flushPending_keepsPeers role label budget
  | flush side label budget => exact reacts_of_keepsPeers (flushPending_keepsPeers side label budget)
  | forward side label payload isString =>
      apply reacts_of_keepsPeers
      refine ⟨trivial, fun reply => ?_⟩
      cases reply with
      | none => trivial
      | some direct =>
          refine ⟨trivial, fun sent => ?_⟩
          cases sent with
          | false => trivial
          | true => exact ⟨trivial, fun _ => trivial⟩
  | close reason =>
      intro remains
      cases remains with
      | none => exact ⟨fun ⟨_, same, _⟩ => (by cases same), trivial⟩
      | some remains =>
          constructor
          · rintro ⟨left, same, member⟩
            cases same
            exact closeRemains_closes _ member
          · exact reacts_of_keepsPeers (closeRemains_keepsPeers _ remains)

/-- Every peer connection that was stored is stored, closed, or about to be closed. -/
def PeersKept (config : Async.Config pionRelay) : Prop :=
  ∀ peer < config.state.peersStored, (∃ role, config.state.peer role = some peer) ∨
    peer ∈ config.state.peersClosed ∨ ∃ thread ∈ config.threads, WillClose peer thread.program

section Peers

variable (choice : PionChoice) (relay : PionRelaySession) {peer : Nat}

/-- The fields for peer connections. -/
def PionRelaySession.peers (relay : PionRelaySession) : (Role → Option Nat) × Nat × List Nat :=
  (relay.peer, relay.peersStored, relay.peersClosed)

theorem peers_of_other {op : PionOp} (keeps : op.KeepsPeers)
    (other : ∀ peer, op ≠ .closePeer peer) : (pionExec choice op relay).1.peers = relay.peers := by
  cases op with
  | dispatch side label payload isString =>
      unfold pionExec PionRelaySession.dispatch
      dsimp only
      split
      · rfl
      · unfold PionRelaySession.enqueueDataMessage
        dsimp only
        split <;> rfl
  | sendDirect side label target message =>
      unfold pionExec PionRelaySession.send
      dsimp only
      split <;> rfl
  | takePending side label =>
      unfold pionExec PionRelaySession.takePending
      dsimp only
      split <;> rfl
  | sendPending side label target message =>
      unfold pionExec PionRelaySession.send
      dsimp only
      split <;> rfl
  | putBack side label late message =>
      unfold pionExec PionRelaySession.putBack
      dsimp only
      split <;> rfl
  | closePeer peer => exact absurd rfl (other peer)
  | storePeer role => exact keeps.elim
  | terminate reason => exact keeps.elim
  | _ => rfl

/-- A peer connection that was stored before stays there or is taken out, and is closed for
good. -/
def StaysKnown (choice : PionChoice) (relay : PionRelaySession) (op : PionOp) (peer : Nat) :
    Prop :=
  peer < relay.peersStored ∧
    ((∃ role, relay.peer role = some peer) →
      (∃ role, (pionExec choice op relay).1.peer role = some peer) ∨
        TakesOut peer ⟨op, (pionExec choice op relay).2⟩) ∧
    (peer ∈ relay.peersClosed → peer ∈ (pionExec choice op relay).1.peersClosed)

theorem staysKnown_of_other {op : PionOp} (keeps : op.KeepsPeers)
    (other : ∀ peer, op ≠ .closePeer peer)
    (known : peer < (pionExec choice op relay).1.peersStored) :
    StaysKnown choice relay op peer := by
  have same := peers_of_other choice relay keeps other
  have peers := congrArg Prod.fst same
  have stored := congrArg (fun fields => fields.2.1) same
  have closed := congrArg (fun fields => fields.2.2) same
  simp only [PionRelaySession.peers] at peers stored closed
  rw [StaysKnown, peers, closed]
  rw [stored] at known
  exact ⟨known, .inl, id⟩

/-- A peer connection that was stored is stored just now, or was before. -/
theorem peer_exec (op : PionOp)
    (known : peer < (pionExec choice op relay).1.peersStored) :
    (∃ role, (pionExec choice op relay).1.peer role = some peer) ∨
      StaysKnown choice relay op peer := by
  cases op with
  | storePeer role =>
      cases Nat.lt_succ_iff_lt_or_eq.mp known with
      | inr new =>
          left
          exact ⟨role, by rw [new]; exact Function.update_self ..⟩
      | inl old =>
          right
          refine ⟨old, ?_, id⟩
          intro ⟨other, stored⟩
          by_cases same : other = role
          · right
            exact same ▸ stored
          · left
            exact ⟨other, (Function.update_of_ne same ..).trans stored⟩
  | terminate reason =>
      right
      unfold StaysKnown
      cases closed : relay.terminated with
      | true =>
          simp only [pionExec, PionRelaySession.terminate, closed, if_true] at known ⊢
          exact ⟨known, .inl, id⟩
      | false =>
          simp only [pionExec, PionRelaySession.terminate, closed] at known ⊢
          refine ⟨known, ?_, id⟩
          intro ⟨role, stored⟩
          right
          refine ⟨_, rfl, ?_⟩
          cases role with
          | worker => exact List.mem_append_left _ (Option.mem_toList.mpr stored)
          | viewer => exact List.mem_append_right _ (Option.mem_toList.mpr stored)
  | closePeer closed => exact .inr ⟨known, .inl, List.mem_cons_of_mem _⟩
  | _ => exact .inr (staysKnown_of_other choice relay trivial (by simp) known)

end Peers

/-- In every run all peer connections are kept. -/
theorem peersKept_of_run {allowed : Async.Config pionRelay → Action pionRelay → Prop}
    {final : Async.Config pionRelay} (run : Run allowed newRelay final) : PeersKept final := by
  have start : PeersKept newRelay := fun peer known => absurd known (Nat.not_lt_zero peer)
  have facts : ∀ config, Run allowed newRelay config → ∀ peer, ∀ thread ∈ config.threads,
      thread.program.Reacts (TakesOut peer) (WillClose peer) := by
    intro config reached peer
    apply reached.reacts (body_reacts peer)
    intro thread member
    cases member
  apply (run.assuming facts).invariant start
  intro before after action kept permitted stepped
  obtain ⟨job, rfl, -, rfl⟩ | ⟨index, choice, thread, op, next, rfl, found, suspended, rfl⟩ :=
    Config.step_cases stepped
  · intro peer known
    refine (kept peer known).imp id (Or.imp id ?_)
    intro ⟨closer, member, closes⟩
    exact ⟨closer, List.mem_append_left _ member, closes⟩
  · intro peer known
    cases peer_exec choice before.state op known with
    | inl stored => exact .inl stored
    | inr stays =>
        obtain ⟨earlier, taken, closed⟩ := stays
        have bound := (List.getElem?_eq_some_iff.mp found).1
        have reacts := permitted.2 peer thread (List.mem_of_getElem? found)
        rw [suspended] at reacts
        obtain stored | already | closing := kept peer earlier
        · cases taken stored with
          | inl still => exact .inl still
          | inr out =>
              right
              right
              exact ⟨_, List.mem_set bound _, (reacts _).1 out⟩
        · exact .inr (.inl (closed already))
        · right
          by_cases closes : op = .closePeer peer
          · left
            subst closes
            exact List.mem_cons_self
          · right
            cases Config.exists_mem_set (thread.advance op (pionExec choice op before.state).2
                (next (pionExec choice op before.state).2)) found closing with
            | inl own =>
                rw [suspended] at own
                exact ⟨_, List.mem_set bound _, own.next closes _⟩
            | inr others => exact others

/-! ## Runs -/

/-- In every run that stores nothing in a closed relay, a closed relay stays empty and all its
peer connections get closed; and the first action that stores something leaves it not empty. -/
theorem closed_relay_stays_empty {final : Async.Config pionRelay}
    (run : Run KeepsEmpty newRelay final) :
    (Emptied final.state ∧ (final.state.terminated = true → final.Quiescent →
      ∀ peer < final.state.peersStored, peer ∈ final.state.peersClosed)) ∧
    ∀ action after, final.step action = some after →
      (Emptied after.state ↔ KeepsEmpty final action) := by
  have start : Closed newRelay := ⟨fun closed => (by cases closed), rfl⟩
  have closed : Closed final := by
    apply (run.assuming fun config => obeying_of_run).invariant start
    intro before after action holds permitted stepped
    obtain ⟨emptied, early⟩ := emptied_step_iff permitted.2 holds stepped
    exact ⟨emptied.mpr permitted.1, early⟩
  refine ⟨⟨closed.emptied, ?_⟩, ?_⟩
  · intro terminated quiescent peer known
    obtain ⟨role, stored⟩ | already | ⟨thread, member, closing⟩ := peersKept_of_run run peer known
    · rw [(closed.emptied terminated).1 role] at stored
      cases stored
    · exact already
    · exact absurd (quiescent thread member) closing.not_finished
  · exact fun action after stepped =>
      (emptied_step_iff (obeying_of_run run) closed stepped).1

instance (op : PionOp) : Decidable op.stores :=
  match op with
  | .storePeer _ | .storeChannel _ _ _ | .dispatch _ _ _ _ => isTrue trivial
  | .closePeer _ | .channelReady _ | .sendDirect _ _ _ _ | .takePending _ _
  | .sendPending _ _ _ _ | .putBack _ _ _ _ | .countDelivered _ | .terminate _
  | .closeChannel _ | .cleanupRelaySession _ => isFalse id

def checksEmpty (config : Async.Config pionRelay) : Action pionRelay → Bool
  | .start _ => true
  | .resume index _ =>
      match config.awaits index with
      | none => true
      | some op => !(config.state.terminated && decide (PionOp.stores op))

theorem keepsEmpty_of_check {config : Async.Config pionRelay} {action : Action pionRelay}
    (passes : checksEmpty config action = true) : KeepsEmpty config action := by
  cases action with
  | start job => trivial
  | resume index choice =>
      intro op awaited terminated stores
      simp only [checksEmpty, awaited, terminated, Bool.true_and, Bool.not_eq_true',
        decide_eq_false_iff_not] at passes
      exact passes stores

/-- The worker's offer is answered, and the relay is closed. -/
def offerAndClose : List (Action pionRelay) :=
  .start (.offer .worker) :: .resume 0 {} :: .start (.close "done") :: Action.resumes 1 3 {}

theorem closed_relay_is_empty :
    ∃ final, Run KeepsEmpty newRelay final ∧ final.state.terminated = true ∧
      Emptied final.state ∧ final.state.peersStored = 1 ∧
        ∀ peer < final.state.peersStored, peer ∈ final.state.peersClosed := by
  obtain ⟨final, run, passed⟩ := @Run.exists_of_schedule pionRelay KeepsEmpty checksEmpty
    (fun _ _ passes => keepsEmpty_of_check passes) newRelay offerAndClose
    (fun final => final.state.terminated && decide final.Quiescent &&
      decide (final.state.peersStored = 1)) (by decide +kernel)
  simp only [Bool.and_eq_true, decide_eq_true_eq] at passed
  have stays := (closed_relay_stays_empty run).1
  exact ⟨final, run, passed.1.1, stays.1, passed.2, stays.2 passed.1.1 passed.1.2⟩

/-- An offer of the viewer that comes later is stored in the closed relay. -/
theorem offer_fills_closed_relay :
    ¬∀ final, Run anyAction newRelay final → Emptied final.state := by
  intro always
  obtain ⟨final, run, passed⟩ := Run.exists_of_actions newRelay
    (offerAndClose ++ [.start (.offer .viewer), .resume 2 {}])
    (fun final => final.state.terminated && (final.state.peer .viewer).isSome) (by decide +kernel)
  simp only [Bool.and_eq_true] at passed
  have none := (always final run passed.1).1 .viewer
  rw [none] at passed
  cases passed.2

end RemoteBrowser.MediaGateway
