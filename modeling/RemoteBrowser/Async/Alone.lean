import RemoteBrowser.Async.Monitor

/-!
# A handler that runs alone

When nothing else happens between its awaits, a handler is a sequential program: every operation
finds the state that the previous one has left.  An operation that fails ends a handler that does
not catch the failure.
-/

namespace RemoteBrowser.Async.Program

variable {face : Interface} {σ α β : Type}

/-- The handler returns on every path. -/
abbrev Returns (program : Program face α) : Prop :=
  program.Yields (fun _ => True) fun _ => True

theorem Returns.bind {program : Program face α} {rest : α → Program face β}
    (first : program.Returns) (second : ∀ value, (rest value).Returns) :
    (program >>= rest).Returns := by
  induction program with
  | pure value => exact second value
  | stalled => exact first.elim
  | request op next ih => exact fun reply _ => ih reply (first reply trivial)

theorem Returns.forEach {values : List α} {action : α → Program face Unit}
    (each : ∀ value ∈ values, (action value).Returns) :
    (Program.forEach values action).Returns := by
  induction values with
  | nil => trivial
  | cons value rest ih =>
      refine (each value (by simp)).bind fun _ => ih fun other member => ?_
      exact each other (by simp [member])

section Alone

variable (exec : (op : face.Op) → σ → σ × face.Reply op)

/-- The operations that the handler issues, in order. -/
def issuedAlone : Program face α → σ → List face.Op
  | .pure _, _ => []
  | .request op next, state =>
      op :: (next (exec op state).2).issuedAlone (exec op state).1
  | .stalled, _ => []

/-- The operations that the handler issues up to the first that fails. -/
def issuedUntil (fails : face.Op → Bool) : Program face α → σ → List face.Op
  | .pure _, _ => []
  | .request op next, state =>
      op :: bif fails op then []
        else (next (exec op state).2).issuedUntil fails (exec op state).1
  | .stalled, _ => []

/-- The state that the handler leaves. -/
def stateAlone : Program face α → σ → σ
  | .pure _, state => state
  | .request op next, state => (next (exec op state).2).stateAlone (exec op state).1
  | .stalled, state => state

/-- What the handler returns, if it does. -/
def resultAlone : Program face α → σ → Option α
  | .pure value, _ => some value
  | .request op next, state => (next (exec op state).2).resultAlone (exec op state).1
  | .stalled, _ => none

variable {exec} {fails : face.Op → Bool} {program : Program face α} {state : σ}

theorem issuedAlone_bind {value : α} {rest : α → Program face β}
    (returns : program.resultAlone exec state = some value) :
    (program >>= rest).issuedAlone exec state =
      program.issuedAlone exec state ++
        (rest value).issuedAlone exec (program.stateAlone exec state) := by
  induction program generalizing state with
  | pure result =>
      cases returns
      rfl
  | stalled => cases returns
  | request op next ih => exact congrArg (op :: ·) (ih _ returns)

theorem issuedUntil_false :
    program.issuedUntil exec (fun _ => false) state = program.issuedAlone exec state := by
  induction program generalizing state with
  | pure value => rfl
  | stalled => rfl
  | request op next ih => exact congrArg (op :: ·) (ih _)

theorem mem_issuedAlone_of_issuedUntil {op : face.Op}
    (issued : op ∈ program.issuedUntil exec fails state) : op ∈ program.issuedAlone exec state := by
  induction program generalizing state with
  | pure value => cases issued
  | stalled => cases issued
  | request first next ih =>
      rw [issuedUntil] at issued
      rcases List.mem_cons.mp issued with rfl | later
      · exact List.mem_cons_self
      · cases failed : fails first with
        | true =>
            rw [failed] at later
            cases later
        | false =>
            rw [failed] at later
            exact List.mem_cons_of_mem _ (ih _ later)

/-- A sequence goes on after its first part if nothing has failed there. -/
theorem mem_issuedUntil_bind {value : α} {rest : α → Program face β} {op : face.Op}
    (returns : program.resultAlone exec state = some value) :
    op ∈ (program >>= rest).issuedUntil exec fails state ↔
      op ∈ program.issuedUntil exec fails state ∨
        (∀ issued ∈ program.issuedAlone exec state, fails issued = false) ∧
          op ∈ (rest value).issuedUntil exec fails (program.stateAlone exec state) := by
  induction program generalizing state with
  | pure result =>
      cases returns
      simp [issuedUntil, issuedAlone, stateAlone]
  | stalled => cases returns
  | request first next ih =>
      have later := ih _ returns
      rw [request_bind, issuedUntil, issuedUntil, issuedAlone, List.forall_mem_cons]
      cases failed : fails first with
      | true => simp
      | false =>
          simp only [cond_false, List.mem_cons, later, true_and, or_assoc]
          rfl

theorem stateAlone_bind {value : α} {rest : α → Program face β}
    (returns : program.resultAlone exec state = some value) :
    (program >>= rest).stateAlone exec state =
      (rest value).stateAlone exec (program.stateAlone exec state) := by
  induction program generalizing state with
  | pure result =>
      cases returns
      rfl
  | stalled => cases returns
  | request op next ih => exact ih _ returns

theorem Returns.resultAlone (returns : program.Returns) :
    ∃ value, program.resultAlone exec state = some value := by
  induction program generalizing state with
  | pure value => exact ⟨value, rfl⟩
  | stalled => exact returns.elim
  | request op next ih => exact ih _ (returns _ trivial)

theorem Issues.issuedAlone {kind : face.Op → Prop} (issues : program.Issues kind) :
    ∀ op ∈ program.issuedAlone exec state, kind op := by
  induction program generalizing state with
  | pure value => simp [Program.issuedAlone]
  | stalled => simp [Program.issuedAlone]
  | request op next ih =>
      intro issued member
      rcases List.mem_cons.mp member with rfl | later
      · exact issues.1
      · exact ih _ (issues.2 _) issued later

/-- What all operations of the handler keep, the handler keeps. -/
theorem Issues.stateAlone {kind : face.Op → Prop} {keeps : σ → Prop}
    (issues : program.Issues kind)
    (kept : ∀ op state, kind op → keeps state → keeps (exec op state).1)
    (holds : keeps state) : keeps (program.stateAlone exec state) := by
  induction program generalizing state with
  | pure value => exact holds
  | stalled => exact holds
  | request op next ih => exact ih _ (issues.2 _) (kept op state issues.1 holds)

/-- A loop comes to an element if nothing has failed for those before it. -/
theorem mem_issuedUntil_forEach {values : List α} {action : α → Program face Unit}
    (returns : ∀ value ∈ values, (action value).Returns) {op : face.Op} :
    op ∈ (Program.forEach values action).issuedUntil exec fails state ↔
      ∃ earlier value later, values = earlier ++ value :: later ∧
        (∀ issued ∈ (Program.forEach earlier action).issuedAlone exec state,
          fails issued = false) ∧
        op ∈ (action value).issuedUntil exec fails
          ((Program.forEach earlier action).stateAlone exec state) := by
  induction values generalizing state with
  | nil => simp [Program.forEach, issuedUntil]
  | cons first rest ih =>
      obtain ⟨result, returned⟩ : ∃ value, (action first).resultAlone exec state = some value :=
        (returns first (by simp)).resultAlone
      rw [Program.forEach, mem_issuedUntil_bind returned,
        ih fun value member => returns value (by simp [member])]
      constructor
      · rintro (own | ⟨fine, earlier, value, later, rfl, before, issued⟩)
        · exact ⟨[], first, rest, rfl, nofun, own⟩
        · refine ⟨first :: earlier, value, later, rfl, ?_, ?_⟩
          · rw [Program.forEach, issuedAlone_bind returned, List.forall_mem_append]
            exact ⟨fine, before⟩
          · rw [Program.forEach, stateAlone_bind returned]
            exact issued
      · rintro ⟨earlier, value, later, split, before, issued⟩
        cases earlier with
        | nil =>
            cases split
            exact .inl issued
        | cons other earlier =>
            cases split
            rw [Program.forEach, issuedAlone_bind returned, List.forall_mem_append] at before
            rw [Program.forEach, stateAlone_bind returned] at issued
            exact .inr ⟨before.1, earlier, value, later, rfl, before.2, issued⟩

/-- What a loop issues is issued for one of the elements, in the state that the rounds before
it have left. -/
theorem mem_issuedAlone_forEach {values : List α} {action : α → Program face Unit}
    (returns : ∀ value ∈ values, (action value).Returns) {op : face.Op} :
    op ∈ (Program.forEach values action).issuedAlone exec state ↔
      ∃ earlier value later, values = earlier ++ value :: later ∧
        op ∈ (action value).issuedAlone exec
          ((Program.forEach earlier action).stateAlone exec state) := by
  rw [← issuedUntil_false, mem_issuedUntil_forEach returns]
  simp only [issuedUntil_false, implies_true, true_and]

/-- The rounds of a loop follow each other. -/
theorem stateAlone_forEach_append {earlier later : List α} {action : α → Program face Unit}
    (returns : ∀ value ∈ earlier, (action value).Returns) :
    (Program.forEach (earlier ++ later) action).stateAlone exec state =
      (Program.forEach later action).stateAlone exec
        ((Program.forEach earlier action).stateAlone exec state) := by
  induction earlier generalizing state with
  | nil => rfl
  | cons first rest ih =>
      obtain ⟨result, returned⟩ : ∃ value, (action first).resultAlone exec state = some value :=
        (returns first (by simp)).resultAlone
      rw [List.cons_append, Program.forEach, Program.forEach, stateAlone_bind returned,
        stateAlone_bind returned, ih fun value member => returns value (by simp [member])]

/-- What comes after a first part is issued if it is issued after every result and state. -/
theorem Returns.mem_issuedAlone_bind {rest : α → Program face β} {op : face.Op}
    (returns : program.Returns)
    (issues : ∀ value later, op ∈ (rest value).issuedAlone exec later) :
    op ∈ (program >>= rest).issuedAlone exec state := by
  obtain ⟨value, returned⟩ : ∃ value, program.resultAlone exec state = some value :=
    returns.resultAlone
  rw [issuedAlone_bind returned]
  exact List.mem_append_right _ (issues value _)

end Alone

end RemoteBrowser.Async.Program
