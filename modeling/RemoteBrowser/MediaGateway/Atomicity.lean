import RemoteBrowser.MediaGateway.Creation
import RemoteBrowser.Async.Erasure
import Mathlib.Data.Finmap

/-!
# Creation on one gateway is all or nothing

A call makes its new record visible before it has saved it, and removes it again if the save
fails.  As long as no other call has found the session by then, a call that was told of the
session can rely on it, and a call that fails leaves no trace.
-/

namespace RemoteBrowser.MediaGateway

open Async

variable {cfg : Nat → Config} {platform : Platform} {sessionID : String} {gateway : Nat}

/-! ## Stages -/

namespace Stage

/-- The request is for the session under consideration. -/
def Concerns (sessionID : String) : Stage → Prop
  | .fresh req => req.sessionID = sessionID
  | .missing req => req.sessionID = sessionID
  | _ => True

/-- The call was told of the session, by the store or by the gateway's map. -/
def isFound : Stage → Bool
  | .ending (.found _) => true
  | .answered (.found _) => true
  | _ => false

/-- The call has saved the session that it created. -/
def isSaved : Stage → Bool
  | .ending (.saved _) => true
  | .answered (.saved _) => true
  | _ => false

/-- The call is about to remove the session that it could not save. -/
def isFailed : Stage → Bool
  | .failed _ => true
  | _ => false

/-- The call has created the session and has not saved or removed it. -/
def isPending : Stage → Bool
  | .creating _ => true
  | .failed _ => true
  | _ => false

/-- The call relies on the gateway's record of the session. -/
def needs (stage : Stage) : Bool := stage.isPending || stage.isFound || stage.isSaved

/-- Two calls that cannot both have come so far. -/
def clashes (first second : Stage) : Bool :=
  first.isPending && (second.isPending || second.isSaved) ||
    first.isSaved && second.isPending ||
    first.isFound && second.isFailed || first.isFailed && second.isFound

theorem clashes_comm (first second : Stage) : first.clashes second = second.clashes first := by
  rw [Bool.eq_iff_iff]
  simp only [clashes, Bool.or_eq_true, Bool.and_eq_true]
  tauto

/-- A call that relies on nothing is compatible with all others. -/
theorem clashes_of_idle {first : Stage} (idle : first.needs = false) (second : Stage) :
    first.clashes second = false := by
  cases first with
  | ending how => cases how <;> simp_all [needs, clashes, isPending, isFound, isSaved, isFailed]
  | answered how => cases how <;> simp_all [needs, clashes, isPending, isFound, isSaved, isFailed]
  | _ => simp_all [needs, clashes, isPending, isFound, isSaved, isFailed]

theorem isPending_of_clashes {first second : Stage} (apart : first.clashes second = false)
    (pending : first.isPending = true) : second.isPending = false := by
  simp only [clashes, pending, Bool.true_and, Bool.or_eq_false_iff] at apart
  exact apart.1.1.1.1

theorem clashes_found (result : CreateAnswer) (second : Stage) :
    (ending (.found result)).clashes second = second.isFailed := Bool.or_false _

theorem clashes_saved (record : SessionRecord) (second : Stage) :
    (ending (.saved record)).clashes second = second.isPending :=
  (Bool.or_false _).trans (Bool.or_false _)

theorem clashes_creating (record : SessionRecord) (second : Stage) :
    (creating record).clashes second = (second.isPending || second.isSaved) :=
  (Bool.or_false _).trans ((Bool.or_false _).trans (Bool.or_false _))

theorem clashes_failed (record : SessionRecord) (second : Stage) :
    (failed record).clashes second = second.needs := by
  change (((second.isPending || second.isSaved) || false) || false || second.isFound) = _
  simp only [needs, Bool.or_false, Bool.or_right_comm]

/-- An answer changes nothing in what a call relies on. -/
theorem clashes_answered (how : Ending) (second : Stage) :
    (answered how).clashes second = (ending how).clashes second := by
  cases how <;> rfl

theorem needs_answered (how : Ending) : (answered how).needs = (ending how).needs := by
  cases how <;> rfl

end Stage

/-! ## Considerate schedules -/

/-- The gateway has a record of the session. -/
def Deployment.knows (state : Deployment) (gateway : Nat) (sessionID : String) : Bool :=
  ((state.services gateway).sessions.lookup sessionID).isSome

/-- What a call may come to: it is told of the session only while the gateway has a record of it
that nobody is about to remove, and its save fails only if nobody was told of the session. -/
def Stage.isConsiderate (gateway : Nat)
    (config : Async.Config (creation cfg platform sessionID)) (choice : CreateChoice) :
    Stage → Bool
  | .fresh req =>
      !(choice.succeeds && (config.state.stored.bind SessionRecord.reload).any fun record =>
        requestsEquivalentForReplay record.request req) ||
      config.state.knows gateway sessionID && !someCall isFailed config
  | .missing _ => !config.state.knows gateway sessionID || !someCall isFailed config
  | .creating _ => choice.succeeds || !someCall isFound config
  | _ => true

/-- All calls are on one gateway, and every operation is considerate. -/
def considerate (gateway : Nat) (config : Async.Config (creation cfg platform sessionID)) :
    Action (creation cfg platform sessionID) → Bool
  | .start (call : CreateCall) => call.gateway = gateway
  | .resume index choice =>
      (courseAt config index).all fun course =>
        Stage.isConsiderate gateway config choice course.stage

/-! ## The invariant -/

/-- All calls are for the session and on the gateway, no two of them clash, and the record that
a call relies on is there. -/
structure Orderly (sessionID : String) (gateway : Nat) (state : Deployment)
    (courses : Nat → Option Course) : Prop where
  own : ∀ index course, courses index = some course →
    course.gateway = gateway ∧ course.stage.Concerns sessionID
  apart : ∀ first second one other, courses first = some one → courses second = some other →
    first ≠ second → one.stage.clashes other.stage = false
  present : ∀ index course, courses index = some course → course.stage.needs = true →
    state.knows gateway sessionID = true

/-- One call comes to another stage, which is compatible with those of the others. -/
theorem Orderly.change {state changed : Deployment} {courses : Nat → Option Course}
    (orderly : Orderly sessionID gateway state courses) {index : Nat} {stage : Stage}
    (concerns : stage.Concerns sessionID)
    (fits : ∀ other course, other ≠ index → courses other = some course →
      stage.clashes course.stage = false)
    (present : stage.needs = true → changed.knows gateway sessionID = true)
    (kept : ∀ other course, other ≠ index → courses other = some course →
      course.stage.needs = true → changed.knows gateway sessionID = true) :
    Orderly sessionID gateway changed
      (Function.update courses index (some ⟨gateway, stage⟩)) := by
  refine ⟨?_, ?_, ?_⟩
  · intro other course located
    rw [Function.update_apply] at located
    split at located
    · cases located
      exact ⟨rfl, concerns⟩
    · exact orderly.own other course located
  · intro first second one other foundFirst foundSecond different
    rw [Function.update_apply] at foundFirst foundSecond
    split at foundFirst <;> split at foundSecond
    · next atFirst atSecond => exact absurd (atFirst.trans atSecond.symm) different
    · next atFirst elsewhere =>
        cases foundFirst
        exact fits second other elsewhere foundSecond
    · next elsewhere atSecond =>
        cases foundSecond
        rw [Stage.clashes_comm]
        exact fits first one elsewhere foundFirst
    · exact orderly.apart first second one other foundFirst foundSecond different
  · intro other course located needed
    rw [Function.update_apply] at located
    split at located
    · cases located
      exact present needed
    · next elsewhere => exact kept other course elsewhere located needed

/-- A call comes to a stage in which it relies on nothing. -/
theorem Orderly.rest {state : Deployment} {courses : Nat → Option Course}
    (orderly : Orderly sessionID gateway state courses) (index : Nat) {stage : Stage}
    (concerns : stage.Concerns sessionID) (idle : stage.needs = false) :
    Orderly sessionID gateway state
      (Function.update courses index (some ⟨gateway, stage⟩)) := by
  refine orderly.change concerns (fun _ _ _ _ => Stage.clashes_of_idle idle _) ?_ ?_
  · intro needed
    simp [idle] at needed
  · exact fun other course _ located => orderly.present other course located

/-- A call is told of the session, which nobody is about to remove. -/
theorem Orderly.find {state : Deployment} {courses : Nat → Option Course}
    (orderly : Orderly sessionID gateway state courses) (index : Nat) (result : CreateAnswer)
    (known : state.knows gateway sessionID = true)
    (firm : ∀ other course, courses other = some course → course.stage.isFailed = false) :
    Orderly sessionID gateway state
      (Function.update courses index (some ⟨gateway, .ending (.found result)⟩)) := by
  refine orderly.change trivial ?_ (fun _ => known) fun _ _ _ _ _ => known
  intro other course _ located
  rw [Stage.clashes_found]
  exact firm other course located

theorem Deployment.knows_eq_false_iff {state : Deployment} :
    state.knows gateway sessionID = false ↔
      (state.services gateway).sessions.lookup sessionID = none := by
  simp [knows]

theorem Deployment.knows_setSessions (state : Deployment)
    (sessions : AList fun _ : String => SessionRecord) :
    (state.setSessions gateway sessions).knows gateway sessionID =
      (sessions.lookup sessionID).isSome := by
  simp [knows, Deployment.setSessions_sessions]

/-- The critical section keeps the order. -/
theorem Orderly.admission {state : Deployment} {courses : Nat → Option Course}
    (orderly : Orderly sessionID gateway state courses) {index : Nat} {req : SessionRequest}
    (located : courses index = some ⟨gateway, .missing req⟩) (choice : CreateChoice)
    (considered : state.knows gateway sessionID = true →
      ∀ other course, courses other = some course → course.stage.isFailed = false) :
    let outcome := state.admission cfg platform choice gateway req
    Orderly sessionID gateway (state.setSessions gateway outcome.1.sessions)
      (Function.update courses index
        (some ⟨gateway, Stage.after (.missing req) (.admission gateway req) outcome.2⟩)) := by
  have concerned : req.sessionID = sessionID := (orderly.own _ _ located).2
  obtain ⟨record, hit, told, same⟩ | ⟨failure, miss, told, same⟩ | ⟨miss, -, told, same⟩ :=
    state.admission_cases cfg platform choice gateway req
  · have known : state.knows gateway sessionID = true := by
      rw [← concerned]
      simp [Deployment.knows, hit]
    simp only [told, same, Deployment.setSessions_self]
    exact orderly.find index _ known (considered known)
  · simp only [told, same, Deployment.setSessions_self]
    exact orderly.rest index trivial rfl
  · rw [concerned] at miss same
    have unneeded : ∀ other course, courses other = some course →
        course.stage.needs = false := by
      intro other course found
      cases needed : course.stage.needs with
      | false => rfl
      | true =>
          have known := orderly.present other course found needed
          rw [Deployment.knows_eq_false_iff.mpr miss] at known
          cases known
    have known : (state.setSessions gateway
        (state.admission cfg platform choice gateway req).1.sessions).knows gateway sessionID =
        true := by
      rw [Deployment.knows_setSessions, same, AList.lookup_insert]
      rfl
    simp only [told]
    refine orderly.change trivial ?_ (fun _ => known) fun _ _ _ _ _ => known
    intro other course _ found
    rw [Stage.clashes_comm]
    exact Stage.clashes_of_idle (unneeded other course found) _

/-- A save keeps the order, if nobody relies on the session when it fails. -/
theorem Orderly.save {state changed : Deployment} {courses : Nat → Option Course}
    (orderly : Orderly sessionID gateway state courses) {index : Nat} {record : SessionRecord}
    (located : courses index = some ⟨gateway, .creating record⟩)
    (same : changed.services = state.services) (succeeded : Bool)
    (considered : succeeded = false →
      ∀ other course, courses other = some course → course.stage.isFound = false) :
    Orderly sessionID gateway changed (Function.update courses index
      (some ⟨gateway, Stage.after (.creating record) (.storeSession record) succeeded⟩)) := by
  have known : changed.knows gateway sessionID = true := by
    rw [Deployment.knows, same]
    exact orderly.present index _ located rfl
  refine orderly.change (by cases succeeded <;> trivial) ?_ (fun _ => known) fun _ _ _ _ _ => known
  intro other course different found
  have apart := orderly.apart index other _ _ located found (Ne.symm different)
  rw [Stage.clashes_creating, Bool.or_eq_false_iff] at apart
  cases succeeded with
  | true => exact (Stage.clashes_saved record _).trans apart.1
  | false =>
      change (Stage.failed record).clashes course.stage = false
      rw [Stage.clashes_failed, Stage.needs, apart.1, apart.2,
        considered rfl other course found]
      rfl

/-- Nobody relies on a session that is removed. -/
theorem Orderly.forget {state : Deployment} {courses : Nat → Option Course}
    (orderly : Orderly sessionID gateway state courses) {index : Nat} {record : SessionRecord}
    (located : courses index = some ⟨gateway, .failed record⟩) (changed : Deployment) :
    Orderly sessionID gateway changed
      (Function.update courses index (some ⟨gateway, .ending .removed⟩)) := by
  refine orderly.change trivial (fun _ _ _ _ => Stage.clashes_of_idle rfl _) ?_ ?_
  · intro needed
    cases needed
  · intro other course different found needed
    have apart := orderly.apart index other _ _ located found (Ne.symm different)
    rw [Stage.clashes_failed, needed] at apart
    cases apart

theorem Orderly.respond {state : Deployment} {courses : Nat → Option Course}
    (orderly : Orderly sessionID gateway state courses) {index : Nat} {how : Ending}
    (located : courses index = some ⟨gateway, .ending how⟩) :
    Orderly sessionID gateway state
      (Function.update courses index (some ⟨gateway, .answered how⟩)) := by
  refine orderly.change trivial ?_ ?_ ?_
  · intro other course different found
    rw [Stage.clashes_answered]
    exact orderly.apart index other _ _ located found (Ne.symm different)
  · intro needed
    rw [Stage.needs_answered] at needed
    exact orderly.present index _ located needed
  · exact fun other course _ found => orderly.present other course found

/-- The order is kept as long as all operations are considerate. -/
theorem orderly_watch : Watch (S := creation cfg platform sessionID) createCourse
    (CreateCall.opening cfg platform) (fun config action => considerate gateway config action)
    (fun _ => False) (Orderly sessionID gateway) := by
  refine ⟨?_, ?_, fun _ _ _ _ _ impossible => impossible.elim⟩
  · rintro config index ⟨target, request⟩ orderly - permitted enabled
    have same : target = gateway := of_decide_eq_true permitted
    subst same
    have concerned : CreateCall.concerns cfg platform sessionID ⟨target, request⟩ = true :=
      enabled
    unfold CreateCall.concerns at concerned
    unfold CreateCall.opening
    cases validated : validateRequest platform (cfg target) request with
    | error failure => exact orderly.rest index trivial rfl
    | ok req =>
        simp only [validated, decide_eq_true_eq] at concerned
        exact orderly.rest index concerned rfl
  · rintro config index choice op ⟨target, stage⟩ orderly located allowed - permitted
    have same : target = gateway := (orderly.own index _ located).1
    subst same
    have considered : Stage.isConsiderate target config choice stage = true := by
      simp only [considerate, courseAt, located] at permitted
      exact permitted
    have firm : someCall Stage.isFailed config = false → ∀ other course,
        courseAt config other = some course → course.stage.isFailed = false :=
      fun nobody _ _ found => stage_of_someCall nobody found
    cases stage with
    | fresh req =>
        cases (show op = .getStoredSession from allowed)
        have concerned : req.sessionID = sessionID := (orderly.own index _ located).2
        change Orderly sessionID target config.state (Function.update _ index
          (some ⟨target, Stage.after (.fresh req) .getStoredSession
            (if choice.succeeds then config.state.stored.bind SessionRecord.reload else none)⟩))
        cases stored : (if choice.succeeds then config.state.stored.bind SessionRecord.reload
          else none) with
        | none => exact orderly.rest index concerned rfl
        | some record =>
            obtain ⟨succeeds, loaded⟩ := Option.ite_none_right_eq_some.mp stored
            by_cases equivalent : requestsEquivalentForReplay record.request req = true
            · simp only [Stage.isConsiderate, succeeds, loaded, equivalent, Bool.true_and,
                Option.any_some, Bool.not_true, Bool.false_or, Bool.and_eq_true,
                Bool.not_eq_true'] at considered
              simp only [Stage.after, replayAnswer, equivalent, if_true, Ending.ofStored]
              exact orderly.find index _ considered.1 (firm considered.2)
            · simp only [Stage.after, replayAnswer, equivalent, Ending.ofStored]
              exact orderly.rest index trivial rfl
    | missing req =>
        cases (show op = .admission target req from allowed)
        refine orderly.admission located choice fun known => firm ?_
        simpa [Stage.isConsiderate, known] using considered
    | creating record =>
        cases (show op = .storeSession record from allowed)
        have unseen : choice.succeeds = false → someCall Stage.isFound config = false := by
          intro fails
          simpa [Stage.isConsiderate, fails] using considered
        change Orderly sessionID target (createExec cfg platform sessionID choice
          (.storeSession record) config.state).1 (Function.update _ index
            (some ⟨target, Stage.after (.creating record) (.storeSession record)
              (createExec cfg platform sessionID choice (.storeSession record)
                config.state).2⟩))
        simp only [createExec]
        cases succeeds : choice.succeeds with
        | true => exact orderly.save located (by rfl) true fun impossible => by cases impossible
        | false =>
            exact orderly.save located (by rfl) false fun _ other course found =>
              stage_of_someCall (unseen succeeds) found
    | failed record =>
        cases (show op = .forgetSession target from allowed)
        exact orderly.forget located _
    | ending how =>
        cases (show op = .answer how.result from allowed)
        exact orderly.respond located
    | answered how => exact allowed.elim

/-- The order is kept in every run. -/
theorem orderly_of_run {start : Deployment}
    {final : Async.Config (creation cfg platform sessionID)}
    (run : Run (fun config action => considerate gateway config action) ⟨start, []⟩ final) :
    Orderly sessionID gateway final.state (courseAt final) := by
  refine orderly_watch.run (createSession_follows cfg platform) (fun job => ?_)
    (fun _ _ _ => rfl) run ⟨?_, ?_, ?_⟩
  · exact Program.issues_of_all (fun op unopened => by cases unopened) _
  · intro index course located
    cases located
  · intro first second one other located
    cases located
  · intro index course located
    cases located

/-! ## The state without a call -/

/-- The record that a call has created and has not saved or removed. -/
def Stage.unsaved : Stage → Option SessionRecord
  | .creating record => some record
  | .failed record => some record
  | _ => none

theorem Stage.isPending_eq (stage : Stage) : stage.isPending = stage.unsaved.isSome := by
  cases stage <;> rfl

/-- A state differs from another one by this record of the session, if there is one. -/
def Differs (sessionID : String) (gateway : Nat) (state without : Deployment) :
    Option SessionRecord → Prop
  | none => state = without
  | some record =>
      (without.services gateway).sessions.lookup sessionID = none ∧
      state = without.setSessions gateway
        ((without.services gateway).sessions.insert sessionID record)

/-- Nobody sees the difference in the store. -/
theorem Differs.stored {state without : Deployment} {unsaved : Option SessionRecord}
    (differs : Differs sessionID gateway state without unsaved) :
    state.stored = without.stored := by
  cases unsaved with
  | none => exact congrArg Deployment.stored differs
  | some record =>
      rw [differs.2]
      rfl

theorem erase_insert_of_lookup_eq_none {sessions : AList fun _ : String => SessionRecord}
    (unknown : sessions.lookup sessionID = none) (record : SessionRecord) :
    (sessions.insert sessionID record).erase sessionID = sessions := by
  have fresh : sessionID ∉ sessions := AList.lookup_eq_none.mp unknown
  apply AList.ext
  simp only [AList.erase, AList.entries_insert_of_notMem fresh]
  exact List.kerase_cons_eq rfl

/-- What a call does leaves no other difference than its record, until it is saved. -/
theorem Differs.own {state without : Deployment} {stage : Stage}
    (differs : Differs sessionID gateway state without stage.unsaved)
    (concerns : stage.Concerns sessionID) (unsaved : stage.isSaved = false) {op : CreateOp}
    (allowed : stage.Allows gateway op) (choice : CreateChoice) :
    let outcome := createExec cfg platform sessionID choice op state
    (stage.after op outcome.2).isSaved = true ∨
      Differs sessionID gateway outcome.1 without (stage.after op outcome.2).unsaved := by
  cases stage with
  | fresh req =>
      cases (show op = .getStoredSession from allowed)
      right
      change Differs sessionID gateway state without (Stage.after (.fresh req) .getStoredSession
        (if choice.succeeds then state.stored.bind SessionRecord.reload else none)).unsaved
      cases (if choice.succeeds then state.stored.bind SessionRecord.reload else none) with
      | none => exact differs
      | some record => exact differs
  | missing req =>
      cases (show op = .admission gateway req from allowed)
      cases (show state = without from differs)
      cases (show req.sessionID = sessionID from concerns)
      right
      simp only [createExec]
      obtain ⟨record, hit, told, same⟩ | ⟨failure, miss, told, same⟩ | ⟨miss, -, told, same⟩ :=
        state.admission_cases cfg platform choice gateway req
      · simp only [told, same, Deployment.setSessions_self]
        rfl
      · simp only [told, same, Deployment.setSessions_self]
        rfl
      · simp only [told, same]
        exact ⟨miss, rfl⟩
  | creating record =>
      cases (show op = .storeSession record from allowed)
      simp only [createExec]
      cases choice.succeeds with
      | true => exact .inl rfl
      | false => exact .inr differs
  | failed record =>
      cases (show op = .forgetSession gateway from allowed)
      right
      obtain ⟨unknown, rfl⟩ := differs
      simp only [createExec, Deployment.setSessions_sessions, if_true,
        erase_insert_of_lookup_eq_none unknown, Deployment.setSessions_setSessions,
        Deployment.setSessions_self]
      rfl
  | ending how =>
      cases (show op = .answer how.result from allowed)
      right
      exact differs
  | answered how => exact allowed.elim

/-- What another call does is the same in both states, unless it is told of the record. -/
theorem Differs.other {state without : Deployment} {unsaved : Option SessionRecord}
    (differs : Differs sessionID gateway state without unsaved) {stage : Stage}
    (concerns : stage.Concerns sessionID)
    (settled : unsaved.isSome = true → stage.isPending = false) {op : CreateOp}
    (allowed : stage.Allows gateway op) (choice : CreateChoice) :
    let outcome := createExec cfg platform sessionID choice op state
    let alternative := createExec cfg platform sessionID choice op without
    alternative.2 = outcome.2 ∧ Differs sessionID gateway outcome.1 alternative.1 unsaved ∨
      unsaved.isSome = true ∧ (stage.after op outcome.2).isFound = true := by
  cases unsaved with
  | none =>
      cases (show state = without from differs)
      exact .inl ⟨rfl, rfl⟩
  | some record =>
      have idle := settled rfl
      cases stage with
      | fresh req =>
          cases (show op = .getStoredSession from allowed)
          left
          refine ⟨?_, differs⟩
          simp only [createExec, differs.stored]
      | missing req =>
          cases (show op = .admission gateway req from allowed)
          cases (show req.sessionID = sessionID from concerns)
          have known : (state.services gateway).sessions.lookup req.sessionID = some record := by
            rw [differs.2, Deployment.setSessions_sessions, if_pos rfl]
            exact AList.lookup_insert _
          obtain ⟨found, -, told, -⟩ | ⟨failure, miss, -⟩ | ⟨miss, -⟩ :=
            state.admission_cases cfg platform choice gateway req
          · right
            simp only [createExec, told]
            exact ⟨rfl, rfl⟩
          · cases miss.symm.trans known
          · cases miss.symm.trans known
      | creating record => cases idle
      | failed record => cases idle
      | ending how =>
          cases (show op = .answer how.result from allowed)
          exact .inl ⟨rfl, differs⟩
      | answered how => exact allowed.elim

/-! ## Runs without a call -/

theorem Stage.isFound_after {stage : Stage} (found : stage.isFound = true) (op : CreateOp)
    (reply : op.Reply) : (stage.after op reply).isFound = true := by
  cases stage with
  | ending how =>
      cases how with
      | found result => cases op <;> rfl
      | _ => cases found
  | answered how => exact found
  | _ => cases found

/-- A call that was told of the session remains so. -/
theorem someCall_isFound_step {before after : Async.Config (creation cfg platform sessionID)}
    {action : Action (creation cfg platform sessionID)}
    (stepped : before.step action = some after)
    (told : someCall Stage.isFound before = true) : someCall Stage.isFound after = true := by
  refine List.any_eq_true.mpr (Config.exists_thread_step stepped ?_ (List.any_eq_true.mp told))
  intro thread op next reply _ found
  cases known : courseOf thread with
  | none =>
      rw [known] at found
      cases found
  | some course =>
      rw [known] at found
      rw [courseOf_advance known op reply]
      exact Stage.isFound_after found op reply

/-- The others would have done the same without the call at a position, and the state differs
from theirs only by the record that it has not saved; or it has saved the record or another call
was told of it. -/
def Removable (gateway : Nat) (start : Deployment) (index : Nat)
    (config : Async.Config (creation cfg platform sessionID)) : Prop :=
  (∃ without, Run anyAction ⟨start, []⟩
      (⟨without, config.threads.eraseIdx index⟩ : Async.Config (creation cfg platform sessionID)) ∧
    Differs sessionID gateway config.state without
      ((courseAt config index).bind fun course => course.stage.unsaved)) ∨
  ∃ course, courseAt config index = some course ∧ (course.stage.isSaved = true ∨
    course.stage.isPending = true ∧ someCall Stage.isFound config = true)

theorem opening_unsaved (call : CreateCall) :
    ((call.opening cfg platform).bind fun course => course.stage.unsaved) = none := by
  simp only [CreateCall.opening, Option.bind_some]
  split <;> rfl

theorem Removable.start {start : Deployment} {index : Nat}
    {config : Async.Config (creation cfg platform sessionID)}
    (removable : Removable gateway start index config) (call : CreateCall)
    (enabled : call.concerns cfg platform sessionID = true) :
    Removable gateway start index
      { config with threads := config.threads ++ [Thread.new _ call] } := by
  unfold Removable
  rw [courseAt_start config.state config.threads call]
  rcases removable with ⟨without, run, differs⟩ | ⟨course, located, lost⟩
  · have enabledThere : (creation cfg platform sessionID).canStart without call = true := enabled
    have further := Run.without_start (S := creation cfg platform sessionID) call run enabledThere
    refine .inl ⟨without, further, ?_⟩
    by_cases last : index = config.threads.length
    · subst last
      have nothing : courseAt config config.threads.length = none := by
        simp [courseAt, Config.watched]
      rw [nothing] at differs
      rw [Function.update_self, opening_unsaved]
      exact differs
    · rw [Function.update_of_ne last]
      exact differs
  · obtain ⟨thread, found, -⟩ := Config.watched_eq_some.mp located
    have inside := (List.getElem?_eq_some_iff.mp found).1
    refine .inr ⟨course, ?_, lost.imp_right fun both => ⟨both.1, ?_⟩⟩
    · rw [Function.update_of_ne (Nat.ne_of_lt inside)]
      exact located
    · have told := both.2
      unfold someCall at told ⊢
      rw [List.any_append, told]
      rfl

theorem Stage.isSaved_after {stage : Stage} (saved : stage.isSaved = true) (op : CreateOp)
    (reply : op.Reply) : (stage.after op reply).isSaved = true := by
  cases stage with
  | ending how =>
      cases how with
      | saved record => cases op <;> rfl
      | _ => cases saved
  | answered how => exact saved
  | _ => cases saved

/-- An operation of the call itself. -/
theorem Removable.own {start : Deployment} {index : Nat}
    {config : Async.Config (creation cfg platform sessionID)}
    (removable : Removable gateway start index config)
    (orderly : Orderly sessionID gateway config.state (courseAt config)) {choice : CreateChoice}
    {thread : Thread (creation cfg platform sessionID)} {stage : Stage} {op : CreateOp}
    (found : config.threads[index]? = some thread)
    (known : courseOf thread = some ⟨gateway, stage⟩) (allowed : stage.Allows gateway op)
    (considered : Stage.isConsiderate gateway config choice stage = true)
    (program : Program createFace Unit) :
    let outcome := createExec cfg platform sessionID choice op config.state
    Removable gateway start index
      ⟨outcome.1, config.threads.set index (thread.advance op outcome.2 program)⟩ := by
  have located : courseAt config index = some ⟨gateway, stage⟩ :=
    (courseAt_of_getElem? found).trans known
  unfold Removable
  simp only [courseAt_resume config.state _ found known, Function.update_self,
    Option.bind_some, Option.some.injEq, exists_eq_left']
  cases saved : stage.isSaved with
  | true => exact .inr (.inl (Stage.isSaved_after saved op _))
  | false =>
      rcases removable with ⟨without, run, differs⟩ | ⟨course, same, lost⟩
      · rw [located] at differs
        rcases differs.own (orderly.own index _ located).2 saved allowed choice with done | further
        · exact .inr (.inl done)
        · exact .inl ⟨without, run.without_own _, further⟩
      · cases located.symm.trans same
        obtain ⟨pending, told⟩ := lost.resolve_left (by simp [saved])
        cases stage with
        | creating record =>
            cases (show op = .storeSession record from allowed)
            have succeeds : choice.succeeds = true := by
              simpa [Stage.isConsiderate, told] using considered
            refine .inr (.inl ?_)
            simp only [createExec, succeeds, if_true]
            rfl
        | failed record =>
            obtain ⟨other, course, elsewhere, foundThere⟩ := exists_of_someCall told
            have different : index ≠ other := by
              rintro rfl
              cases located.symm.trans elsewhere
              cases foundThere
            have apart := orderly.apart index other _ _ located elsewhere different
            rw [Stage.clashes_failed, Stage.needs, foundThere, Bool.or_true] at apart
            cases apart
        | _ => cases pending

/-- An operation of another call. -/
theorem Removable.other {start : Deployment} {index position : Nat}
    {config : Async.Config (creation cfg platform sessionID)}
    (removable : Removable gateway start index config)
    (orderly : Orderly sessionID gateway config.state (courseAt config)) {choice : CreateChoice}
    {thread : Thread (creation cfg platform sessionID)} {stage : Stage} {op : CreateOp}
    {next : op.Reply → Program createFace Unit}
    (found : config.threads[position]? = some thread)
    (suspended : thread.program = .request op next) (different : position ≠ index)
    (known : courseOf thread = some ⟨gateway, stage⟩) (allowed : stage.Allows gateway op) :
    let outcome := createExec cfg platform sessionID choice op config.state
    Removable gateway start index
      ⟨outcome.1, config.threads.set position
        (thread.advance op outcome.2 (next outcome.2))⟩ := by
  intro outcome
  have located : courseAt config position = some ⟨gateway, stage⟩ :=
    (courseAt_of_getElem? found).trans known
  have moved := courseAt_resume config.state outcome.1 found known op outcome.2
    (next outcome.2)
  have told : (stage.after op outcome.2).isFound = true → someCall Stage.isFound
      (⟨outcome.1, config.threads.set position (thread.advance op outcome.2 (next outcome.2))⟩ :
        Async.Config (creation cfg platform sessionID)) = true := by
    intro finds
    have placed := congrFun moved position
    rw [Function.update_self] at placed
    exact someCall_of_courseAt placed finds
  unfold Removable
  rw [moved, Function.update_of_ne (Ne.symm different)]
  rcases removable with ⟨without, run, differs⟩ | ⟨course, there, lost⟩
  · cases there : courseAt config index with
    | none =>
        rw [there] at differs
        obtain ⟨replied, further⟩ | ⟨impossible, -⟩ := differs.other
          (orderly.own position _ located).2 (fun impossible => by cases impossible) allowed choice
        · exact .inl ⟨_, run.without_resume found suspended different choice replied, further⟩
        · cases impossible
    | some course =>
        rw [there, Option.bind_some] at differs
        have settled : course.stage.unsaved.isSome = true → stage.isPending = false := by
          intro pending
          rw [← Stage.isPending_eq] at pending
          exact Stage.isPending_of_clashes
            (orderly.apart index position _ _ there located (Ne.symm different)) pending
        obtain ⟨replied, further⟩ | ⟨pending, finds⟩ := differs.other
          (orderly.own position _ located).2 settled allowed choice
        · exact .inl ⟨_, run.without_resume found suspended different choice replied, further⟩
        · rw [← Stage.isPending_eq] at pending
          exact .inr ⟨course, rfl, .inr ⟨pending, told finds⟩⟩
  · refine .inr ⟨course, there, lost.imp_right fun ⟨pending, toldBefore⟩ => ⟨pending, ?_⟩⟩
    have stepped : config.step (.resume position choice) = some ⟨outcome.1,
        config.threads.set position (thread.advance op outcome.2 (next outcome.2))⟩ := by
      simp only [Config.step, found, suspended]
      rfl
    exact someCall_isFound_step stepped toldBefore

/-- As long as all operations are considerate, every call can be removed. -/
theorem removable_of_run {start : Deployment}
    {final : Async.Config (creation cfg platform sessionID)}
    (run : Run (fun config action => considerate gateway config action) ⟨start, []⟩ final)
    (index : Nat) : Removable gateway start index final := by
  have established : ∀ config, Run (fun config action => considerate gateway config action)
      ⟨start, []⟩ config → Orderly sessionID gateway config.state (courseAt config) ∧
      ∀ thread ∈ config.threads,
        thread.Obeys createCourse (CreateCall.opening cfg platform) Course.Ended :=
    fun config reached => ⟨orderly_of_run reached,
      reached.obeys (createSession_follows cfg platform) (by simp)⟩
  refine (run.assuming established).invariant (.inl ⟨start, .refl _, rfl⟩) ?_
  rintro before after action removable ⟨permitted, orderly, obeys⟩ stepped
  obtain ⟨call, rfl, enabled, rfl⟩ | ⟨position, choice, thread, op, next, rfl, found, suspended,
    rfl⟩ := Config.step_cases stepped
  · exact removable.start call enabled
  · obtain ⟨⟨target, stage⟩, known⟩ : ∃ course, courseOf thread = some course :=
      Option.isSome_iff_exists.mp (Monitor.isSome_after (fun _ _ _ => rfl) rfl thread.past)
    have located : courseAt before position = some ⟨target, stage⟩ :=
      (courseAt_of_getElem? found).trans known
    have same : target = gateway := (orderly.own position _ located).1
    subst same
    have allowed : stage.Allows target op :=
      (obeys thread (List.mem_of_getElem? found)).allows known suspended
    by_cases own : position = index
    · subst own
      have considered : Stage.isConsiderate target before choice stage = true := by
        simp only [considerate, located] at permitted
        exact permitted
      exact removable.own orderly found known allowed considered _
    · exact removable.other orderly found suspended own known allowed

/-- Every call that was told of the session leaves it in the gateway's map, and every call that
got an error leaves the gateways and the store as they would be if the others had made the same
calls, with the same answers, without it. -/
def AllOrNothing (gateway : Nat) (start : Deployment)
    (final : Async.Config (creation cfg platform sessionID)) : Prop :=
  (∀ thread ∈ final.threads, ∀ status response, Answered thread (.ok (status, response)) →
    final.state.knows gateway sessionID = true) ∧
  ∀ index thread failure, final.threads[index]? = some thread →
    Answered thread (.error failure) →
    Run anyAction ⟨start, []⟩
      (⟨final.state, final.threads.eraseIdx index⟩ :
        Async.Config (creation cfg platform sessionID))

/-- Creation on one gateway is all or nothing in every run in which a call is told of the session
only while the gateway has a record that nobody is about to remove, and a save fails only if
nobody was told. -/
theorem creation_all_or_nothing (cfg : Nat → Config) (platform : Platform) (sessionID : String)
    (gateway : Nat) (start : Deployment)
    (final : Async.Config (creation cfg platform sessionID))
    (run : Run (fun config action => considerate gateway config action) ⟨start, []⟩ final) :
    AllOrNothing gateway start final := by
  constructor
  · intro thread member status response answered
    obtain ⟨index, found⟩ := List.mem_iff_getElem?.mp member
    obtain ⟨target, how, located, result⟩ := answered_of_run run found answered
    refine (orderly_of_run run).present index _ located ?_
    cases how with
    | found result => rfl
    | saved record => rfl
    | refused failure => cases result
    | removed => cases result
  · intro index thread failure found answered
    obtain ⟨target, how, located, result⟩ := answered_of_run run found answered
    obtain ⟨without, others, differs⟩ | ⟨course, same, lost⟩ := removable_of_run run index
    · rw [located] at differs
      rw [show final.state = without from differs]
      exact others
    · cases located.symm.trans same
      cases how with
      | saved record => cases result
      | _ => simp [Stage.isSaved, Stage.isPending] at lost

/-! ## Sample runs -/

def storeFails : CreateChoice := { succeeds := false }

def isTold : CreateAnswer → Bool
  | .ok _ => true
  | .error _ => false

/-- The first call cannot save its record and removes it, the second one creates the session, and
the third one, which cannot reach the store, finds it in the gateway's map. -/
def failedCreation : List (Action sampleCreation) :=
  sampleStart 0 :: Action.resumes 0 2 usualChoice ++ [.resume 0 storeFails] ++
    Action.resumes 0 2 usualChoice ++
    sampleStart 0 :: Action.resumes 1 4 usualChoice ++
    sampleStart 0 :: .resume 2 storeFails :: Action.resumes 2 2 usualChoice

theorem failed_creation_leaves_no_trace :
    ∃ final : Async.Config sampleCreation,
      Run (fun config action => considerate 0 config action) ⟨emptyDeployment, []⟩ final ∧
      final.state.knows 0 "rbi-1" = true ∧
      Run anyAction ⟨emptyDeployment, []⟩
        (⟨final.state, final.threads.eraseIdx 0⟩ : Async.Config sampleCreation) := by
  obtain ⟨final, run, seen⟩ := Run.exists_of_schedule
    (fun config action (considered : considerate 0 config action = true) => considered)
    (⟨emptyDeployment, []⟩ : Async.Config sampleCreation) failedCreation
    (fun final => answeredAt (fun result => !isTold result) final 0 && answeredAt isTold final 2)
    (by decide +kernel)
  obtain ⟨failed, found⟩ := Bool.and_eq_true_iff.mp seen
  obtain ⟨kept, reversed⟩ :=
    creation_all_or_nothing (fun _ => defaultConfig) plainPlatform "rbi-1" 0 emptyDeployment final run
  obtain ⟨thread, result, located, answered, refused⟩ := exists_of_answeredAt failed
  obtain ⟨replay, told, there, replied, positive⟩ := exists_of_answeredAt found
  refine ⟨final, run, ?_, ?_⟩
  · cases told with
    | error failure => cases positive
    | ok reply =>
        exact kept replay (List.mem_of_getElem? there) reply.1 reply.2 replied
  · cases result with
    | error failure => exact reversed 0 thread failure located answered
    | ok reply => cases refused

/-- All calls are on one gateway. -/
def onGateway (gateway : Nat) (_ : Async.Config sampleCreation) : Action sampleCreation → Bool
  | .start (call : CreateCall) => call.gateway = gateway
  | .resume _ _ => true

/-- The second call finds the session before the first one fails to save it. -/
def earlyReplay : List (Action sampleCreation) :=
  sampleStart 0 :: sampleStart 0 :: Action.resumes 0 2 usualChoice ++
    Action.resumes 1 3 usualChoice ++ .resume 0 storeFails :: Action.resumes 0 2 usualChoice

theorem early_replay_is_told_of_removed_session :
    ¬∀ final : Async.Config sampleCreation,
      Run (fun config action => onGateway 0 config action) ⟨emptyDeployment, []⟩ final →
        AllOrNothing 0 emptyDeployment final := by
  intro always
  obtain ⟨final, run, seen⟩ := Run.exists_of_schedule
    (fun config action (own : onGateway 0 config action = true) => own)
    (⟨emptyDeployment, []⟩ : Async.Config sampleCreation) earlyReplay
    (fun final => answeredAt isTold final 1 && !final.state.knows 0 "rbi-1")
    (by decide +kernel)
  obtain ⟨found, unknown⟩ := Bool.and_eq_true_iff.mp seen
  obtain ⟨thread, result, located, answered, positive⟩ := exists_of_answeredAt found
  cases result with
  | error failure => cases positive
  | ok reply =>
      have known := (always final run).1 thread (List.mem_of_getElem? located) reply.1 reply.2
        answered
      rw [known] at unknown
      cases unknown

end RemoteBrowser.MediaGateway
