import RemoteBrowser.Async.Program

/-!
# What a suspended handler can still do

A suspended handler is a tree, so statements about its future are statements
about the paths of that tree.  `Issues` bounds the operations on all paths;
`CanIssue` says that some path issues an operation before the handler consults
the shared state again, which is what a check-then-act gap is.  `Reacts` says how
the handler continues right after certain replies.  All three are closed under sequential
composition.  `Yields` says what the handler returns if all replies are as expected, and
`MustIssue` what it does on every path that returns.
-/

namespace RemoteBrowser.Async.Program

variable {face : Interface} {α β : Type}

/-- Every operation on every path is of the given kind. -/
def Issues (kind : face.Op → Prop) : Program face α → Prop
  | .pure _ => True
  | .request op next => kind op ∧ ∀ reply, (next reply).Issues kind
  | .stalled => True

/-- Some path issues an operation in `goal` with no earlier operation in `stop`. -/
def CanIssue (stop goal : face.Op → Prop) : Program face α → Prop
  | .pure _ => False
  | .request op next => goal op ∨ ¬stop op ∧ ∃ reply, (next reply).CanIssue stop goal
  | .stalled => False

/-- After every reply that is a trigger, what is left to do has the given form. -/
def Reacts (trigger : Event face → Prop) (form : Program face α → Prop) :
    Program face α → Prop
  | .pure _ => True
  | .request op next => ∀ reply,
      (trigger ⟨op, reply⟩ → form (next reply)) ∧ (next reply).Reacts trigger form
  | .stalled => True

/-- On every path whose replies are as expected, the handler returns such a value. -/
def Yields (expected : Event face → Prop) (post : α → Prop) : Program face α → Prop
  | .pure value => post value
  | .request op next => ∀ reply, expected ⟨op, reply⟩ → (next reply).Yields expected post
  | .stalled => False

/-- On every path that returns, an operation in `goal` is issued, and none in `stop` before it. -/
def MustIssue (stop goal : face.Op → Prop) : Program face α → Prop
  | .pure _ => False
  | .request op next => goal op ∨ ¬stop op ∧ ∀ reply, (next reply).MustIssue stop goal
  | .stalled => True

/-- The program continues as `left` after it has completed the given awaits (latest
first). -/
inductive Reaches (program : Program face α) : List (Event face) → Program face α → Prop where
  | refl : Reaches program [] program
  | step {past : List (Event face)} {op : face.Op} {next : face.Reply op → Program face α}
      (reached : Reaches program past (.request op next)) (reply : face.Reply op) :
      Reaches program (⟨op, reply⟩ :: past) (next reply)

theorem reaches_nil {program left : Program face α} :
    program.Reaches [] left ↔ left = program := by
  constructor
  · intro reached
    cases reached
    rfl
  · rintro rfl
    exact .refl

theorem reaches_cons {program left : Program face α} {op : face.Op} {reply : face.Reply op}
    {past : List (Event face)} :
    program.Reaches (⟨op, reply⟩ :: past) left ↔
      ∃ next, program.Reaches past (.request op next) ∧ left = next reply := by
  constructor
  · intro reached
    cases reached with
    | step earlier => exact ⟨_, earlier, rfl⟩
  · rintro ⟨next, earlier, rfl⟩
    exact earlier.step reply

section Equations

variable {kind stop goal : face.Op → Prop} {op : face.Op}
  {next : face.Reply op → Program face α}

@[simp] theorem issues_pure (value : α) :
    (.pure value : Program face α).Issues kind := trivial

@[simp] theorem issues_request :
    (Program.request op next).Issues kind ↔
      kind op ∧ ∀ reply, (next reply).Issues kind := Iff.rfl

@[simp] theorem issues_call : (call op).Issues kind ↔ kind op := by
  simp [call]

end Equations

theorem Issues.mono {kind wider : face.Op → Prop} {program : Program face α}
    (issues : program.Issues kind) (weaker : ∀ op, kind op → wider op) :
    program.Issues wider := by
  induction program with
  | pure value => trivial
  | stalled => trivial
  | request op next ih =>
      exact ⟨weaker op issues.1, fun reply => ih reply (issues.2 reply)⟩

/-- A kind that holds of all operations restricts no program. -/
theorem issues_of_all {kind : face.Op → Prop} (all : ∀ op, kind op)
    (program : Program face α) : program.Issues kind := by
  induction program with
  | pure value => trivial
  | stalled => trivial
  | request op next ih => exact ⟨all op, ih⟩

theorem Issues.bind {kind : face.Op → Prop} {program : Program face α}
    {rest : α → Program face β} (first : program.Issues kind)
    (second : ∀ value, (rest value).Issues kind) : (program >>= rest).Issues kind := by
  induction program with
  | pure value => exact second value
  | stalled => trivial
  | request op next ih => exact ⟨first.1, fun reply => ih reply (first.2 reply)⟩

theorem Reacts.bind {trigger : Event face → Prop} {form : Program face α → Prop}
    {form' : Program face β → Prop} {program : Program face α} {rest : α → Program face β}
    (first : program.Reacts trigger form) (second : ∀ value, (rest value).Reacts trigger form')
    (keeps : ∀ left : Program face α, form left → form' (left >>= rest)) :
    (program >>= rest).Reacts trigger form' := by
  induction program with
  | pure value => exact second value
  | stalled => trivial
  | request op next ih =>
      exact fun reply => ⟨fun fires => keeps _ ((first reply).1 fires),
        ih reply (first reply).2⟩

/-- A program that never awaits a trigger need not react. -/
theorem Issues.reacts {kind : face.Op → Prop} {trigger : Event face → Prop}
    {form : Program face α → Prop} {program : Program face α} (issues : program.Issues kind)
    (silent : ∀ op, kind op → ∀ reply, ¬trigger ⟨op, reply⟩) :
    program.Reacts trigger form := by
  induction program with
  | pure value => trivial
  | stalled => trivial
  | request op next ih =>
      exact fun reply => ⟨fun fires => absurd fires (silent op issues.1 reply),
        ih reply (issues.2 reply)⟩

/-- What precedes the reaction may await anything but a trigger. -/
theorem Issues.reacts_bind {kind : face.Op → Prop} {trigger : Event face → Prop}
    {form : Program face β → Prop} {program : Program face α} {rest : α → Program face β}
    (issues : program.Issues kind) (silent : ∀ op, kind op → ∀ reply, ¬trigger ⟨op, reply⟩)
    (second : ∀ value, (rest value).Reacts trigger form) :
    (program >>= rest).Reacts trigger form :=
  Reacts.bind (issues.reacts silent : program.Reacts trigger fun _ => False) second
    fun _ impossible => impossible.elim

theorem Issues.forEach {kind : face.Op → Prop} {values : List α}
    {action : α → Program face Unit} (each : ∀ value ∈ values, (action value).Issues kind) :
    (Program.forEach values action).Issues kind := by
  induction values with
  | nil => trivial
  | cons value rest ih =>
      refine (each value (by simp)).bind fun _ => ih fun other member => ?_
      exact each other (by simp [member])

theorem not_canIssue_of_finished {stop goal : face.Op → Prop} {program : Program face α}
    (finished : program.Finished) : ¬program.CanIssue stop goal := by
  cases program with
  | pure value => exact id
  | request op next => exact finished.elim
  | stalled => exact id

/-- A gap that is not open stays so until the handler consults the state. -/
theorem not_canIssue_next {stop goal : face.Op → Prop} {op : face.Op}
    {next : face.Reply op → Program face α}
    (closed : ¬(Program.request op next).CanIssue stop goal) (passes : ¬stop op)
    (reply : face.Reply op) : ¬(next reply).CanIssue stop goal :=
  fun later => closed (.inr ⟨passes, reply, later⟩)

theorem not_canIssue_bind {stop goal : face.Op → Prop} {program : Program face α}
    {rest : α → Program face β} (first : ¬program.CanIssue stop goal)
    (second : ∀ value, ¬(rest value).CanIssue stop goal) :
    ¬(program >>= rest).CanIssue stop goal := by
  induction program with
  | pure value => exact second value
  | stalled => exact id
  | request op next ih =>
      rintro (issued | ⟨passes, reply, later⟩)
      · exact first (.inl issued)
      · exact ih reply (not_canIssue_next first passes reply) later

theorem Issues.not_canIssue {kind stop goal : face.Op → Prop} {program : Program face α}
    (issues : program.Issues kind) (never : ∀ op, kind op → ¬goal op) :
    ¬program.CanIssue stop goal := by
  induction program with
  | pure value => exact id
  | stalled => exact id
  | request op next ih =>
      rintro (issued | ⟨-, reply, later⟩)
      · exact never op issues.1 issued
      · exact ih reply (issues.2 reply) later

/-! ## Duties -/

section Duties

variable {stop goal : face.Op → Prop}

/-- A handler with a duty has not returned. -/
theorem MustIssue.not_finished {program : Program face α} (must : program.MustIssue stop goal) :
    ¬program.Finished := by
  cases program with
  | pure value => exact must.elim
  | request op next => exact id
  | stalled => exact id

/-- A duty stays until it is done. -/
theorem MustIssue.next {op : face.Op} {next : face.Reply op → Program face α}
    (must : (Program.request op next).MustIssue stop goal) (other : ¬goal op)
    (reply : face.Reply op) : (next reply).MustIssue stop goal :=
  (must.resolve_left other).2 reply

theorem MustIssue.bind_left {program : Program face α} {rest : α → Program face β}
    (must : program.MustIssue stop goal) : (program >>= rest).MustIssue stop goal := by
  induction program with
  | pure value => exact must.elim
  | stalled => trivial
  | request op next ih =>
      refine must.imp id fun later => ?_
      exact ⟨later.1, fun reply => ih reply (later.2 reply)⟩

theorem MustIssue.bind_right {kind : face.Op → Prop} {program : Program face α}
    {rest : α → Program face β} (issues : program.Issues kind)
    (passes : ∀ op, kind op → ¬stop op) (must : ∀ value, (rest value).MustIssue stop goal) :
    (program >>= rest).MustIssue stop goal := by
  induction program with
  | pure value => exact must value
  | stalled => trivial
  | request op next ih =>
      exact .inr ⟨passes op issues.1, fun reply => ih reply (issues.2 reply)⟩

/-- Every element for which `action` has a duty contributes it to the loop. -/
theorem MustIssue.forEach {kind : face.Op → Prop} {values : List α}
    {action : α → Program face Unit} {value : α} (member : value ∈ values)
    (must : (action value).MustIssue stop goal)
    (issues : ∀ other ∈ values, (action other).Issues kind)
    (passes : ∀ op, kind op → ¬stop op) : (Program.forEach values action).MustIssue stop goal := by
  induction values with
  | nil => cases member
  | cons first rest ih =>
      rcases List.mem_cons.mp member with rfl | later
      · exact must.bind_left
      · refine MustIssue.bind_right (issues first (by simp)) passes fun _ => ?_
        exact ih later fun other listed => issues other (by simp [listed])

end Duties

/-! ## Checks before acting -/

/-- Operations in `goal` are issued only after one in `stop` whose reply was not
reassuring. -/
structure Guarded (stop goal : face.Op → Prop) (reassuring : Event face → Prop)
    (program : Program face α) : Prop where
  closed : ¬program.CanIssue stop goal
  reacts : program.Reacts reassuring fun left => ¬left.CanIssue stop goal

section Guarded

variable {stop goal : face.Op → Prop} {reassuring : Event face → Prop}

theorem Guarded.pure (value : α) :
    (.pure value : Program face α).Guarded stop goal reassuring := ⟨id, trivial⟩

theorem Guarded.bind {program : Program face α} {rest : α → Program face β}
    (first : program.Guarded stop goal reassuring)
    (second : ∀ value, (rest value).Guarded stop goal reassuring) :
    (program >>= rest).Guarded stop goal reassuring := by
  have closed (value : α) := (second value).closed
  exact ⟨not_canIssue_bind first.closed closed,
    first.reacts.bind (fun value => (second value).reacts)
      fun left quiet => not_canIssue_bind quiet closed⟩

/-- A program that never acts need not check. -/
theorem Issues.guarded {kind : face.Op → Prop} {program : Program face α}
    (issues : program.Issues kind) (never : ∀ op, kind op → ¬goal op) :
    program.Guarded stop goal reassuring := by
  refine ⟨issues.not_canIssue never, ?_⟩
  induction program with
  | pure value => trivial
  | stalled => trivial
  | request op next ih =>
      exact fun reply => ⟨fun _ => (issues.2 reply).not_canIssue never, ih reply (issues.2 reply)⟩

/-- A guarded program stays so after every reply, if a check reassures it. -/
theorem Guarded.next {op : face.Op} {next : face.Reply op → Program face α}
    (guarded : (Program.request op next).Guarded stop goal reassuring) (reply : face.Reply op)
    (reassured : stop op → reassuring ⟨op, reply⟩) :
    (next reply).Guarded stop goal reassuring := by
  refine ⟨?_, (guarded.reacts reply).2⟩
  by_cases stops : stop op
  · exact (guarded.reacts reply).1 (reassured stops)
  · exact not_canIssue_next guarded.closed stops reply

end Guarded

end RemoteBrowser.Async.Program
