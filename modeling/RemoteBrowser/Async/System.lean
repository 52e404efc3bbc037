import RemoteBrowser.Async.Path
import Mathlib.Algebra.BigOperators.Group.List.Basic

/-!
# Interleaving of cooperative handlers

A configuration is a shared state together with every handler started so far.
One action either starts a handler or lets one suspended handler perform the
operation it awaits; an operation is atomic on the shared state.  All
interleavings at await points are the sequences of such actions.

A run is taken under a side condition on its actions.  A property of unrestricted
runs uses the condition that always holds; a scheduling or input assumption is
stated as the condition of the runs it is about.
-/

namespace RemoteBrowser.Async

/-- Handlers over a shared state.  A `Choice` resolves what an operation leaves
open, such as whether an external call succeeds. -/
structure System where
  face : Interface
  State : Type
  Choice : Type
  Job : Type
  exec : Choice → (op : face.Op) → State → State × face.Reply op
  body : Job → Program face Unit
  canStart : State → Job → Bool

/-- A started handler: what it was started for, the awaits it has completed
(latest first) and what it still has to do. -/
structure Thread (S : System) where
  job : S.Job
  past : List (Event S.face)
  program : Program S.face Unit

namespace Thread

variable {S : System}

/-- A handler that has not yet reached its first await. -/
def new (S : System) (job : S.Job) : Thread S := ⟨job, [], S.body job⟩

/-- The handler after its awaited operation was answered. -/
def advance (thread : Thread S) (op : S.face.Op) (reply : S.face.Reply op)
    (program : Program S.face Unit) : Thread S :=
  { thread with past := ⟨op, reply⟩ :: thread.past, program := program }

@[simp] theorem new_job (job : S.Job) : (new S job).job = job := rfl

@[simp] theorem new_past (job : S.Job) : (new S job).past = [] := rfl

@[simp] theorem new_program (job : S.Job) : (new S job).program = S.body job := rfl

@[simp] theorem advance_job (thread : Thread S) (op : S.face.Op)
    (reply : S.face.Reply op) (program : Program S.face Unit) :
    (thread.advance op reply program).job = thread.job := rfl

@[simp] theorem advance_past (thread : Thread S) (op : S.face.Op)
    (reply : S.face.Reply op) (program : Program S.face Unit) :
    (thread.advance op reply program).past = ⟨op, reply⟩ :: thread.past := rfl

@[simp] theorem advance_program (thread : Thread S) (op : S.face.Op)
    (reply : S.face.Reply op) (program : Program S.face Unit) :
    (thread.advance op reply program).program = program := rfl

end Thread

/-- A shared state and all handlers started so far. -/
structure Config (S : System) where
  state : S.State
  threads : List (Thread S)

/-- The scheduler starts a handler or resumes the one at a position. -/
inductive Action (S : System) where
  | start (job : S.Job)
  | resume (index : Nat) (choice : S.Choice)

/-- Resume one handler several times. -/
def Action.resumes {S : System} (index count : Nat) (choice : S.Choice) :
    List (Action S) :=
  List.replicate count (.resume index choice)

namespace Config

variable {S : System}

/-- No handler is in progress. -/
def Quiescent (config : Config S) : Prop :=
  ∀ thread ∈ config.threads, thread.program.Finished

instance (config : Config S) : Decidable config.Quiescent :=
  inferInstanceAs (Decidable (∀ thread ∈ config.threads, _))

/-- The operation that the handler at a position awaits. -/
def awaits (config : Config S) (index : Nat) : Option S.face.Op :=
  match config.threads[index]? with
  | some ⟨_, _, .request op _⟩ => some op
  | _ => none

/-- Every handler other than the one at `index` satisfies `property`. -/
def Others (config : Config S) (index : Nat) (property : Thread S → Prop) : Prop :=
  ∀ (other : Nat) (thread : Thread S),
    config.threads[other]? = some thread → other ≠ index → property thread

/-- Perform one action, if it is possible. -/
def step (config : Config S) : Action S → Option (Config S)
  | .start job =>
      if S.canStart config.state job then
        some { config with threads := config.threads ++ [Thread.new S job] }
      else none
  | .resume index choice =>
      match config.threads[index]? with
      | none => none
      | some thread =>
          match thread.program with
          | .request op next =>
              let result := S.exec choice op config.state
              some ⟨result.1,
                config.threads.set index (thread.advance op result.2 (next result.2))⟩
          | _ => none

/-- Perform a list of actions as long as each passes a check. -/
def schedule (check : Config S → Action S → Bool) (config : Config S) :
    List (Action S) → Option (Config S)
  | [] => some config
  | action :: rest =>
      if check config action then
        (config.step action).bind fun after => after.schedule check rest
      else none

/-- All handlers other than the one at `index` pass a test. -/
def othersPass (config : Config S) (index : Nat) (test : Thread S → Bool) : Bool :=
  (List.range config.threads.length).all fun other =>
    other = index || (config.threads[other]?).all test

theorem others_of_pass {config : Config S} {index : Nat} {test : Thread S → Bool}
    (passes : config.othersPass index test = true) :
    config.Others index fun thread => test thread = true := by
  intro other thread found different
  have bound := List.getElem?_eq_some_iff.mp found |>.1
  have checked := List.all_eq_true.mp passes other (List.mem_range.mpr bound)
  simpa [different, found] using checked

/-- All handlers other than the resumed one have returned. -/
def alone (config : Config S) : Action S → Bool
  | .start _ => true
  | .resume index _ => config.othersPass index fun thread => thread.program.Finished

theorem others_of_alone {config : Config S} {index : Nat} {choice : S.Choice}
    (isAlone : config.alone (.resume index choice) = true) :
    config.Others index fun thread => thread.program.Finished :=
  fun other thread found different =>
    of_decide_eq_true (others_of_pass isAlone other thread found different)

/-- Inversion of one step: everything an action can do to a configuration. -/
theorem step_cases {before after : Config S} {action : Action S}
    (stepped : before.step action = some after) :
    (∃ job, action = .start job ∧ S.canStart before.state job = true ∧
      after = { before with threads := before.threads ++ [Thread.new S job] }) ∨
    (∃ index choice thread op next, action = .resume index choice ∧
      before.threads[index]? = some thread ∧ thread.program = .request op next ∧
      after = ⟨(S.exec choice op before.state).1,
        before.threads.set index
          (thread.advance op (S.exec choice op before.state).2
            (next (S.exec choice op before.state).2))⟩) := by
  cases action with
  | start job =>
      simp only [step] at stepped
      split at stepped
      · next enabled => exact .inl ⟨job, rfl, enabled, (Option.some.inj stepped).symm⟩
      · simp at stepped
  | resume index choice =>
      simp only [step] at stepped
      cases found : before.threads[index]? with
      | none => simp [found] at stepped
      | some thread =>
          cases suspended : thread.program with
          | pure value => simp [found, suspended] at stepped
          | stalled => simp [found, suspended] at stepped
          | request op next =>
              simp only [found, suspended, Option.some.injEq] at stepped
              exact .inr ⟨index, choice, thread, op, next, rfl, found, suspended, stepped.symm⟩

/-- The operation awaited by a handler is the head of its program. -/
theorem awaits_eq_some {config : Config S} {index : Nat} {thread : Thread S}
    {op : S.face.Op} {next : S.face.Reply op → Program S.face Unit}
    (found : config.threads[index]? = some thread)
    (suspended : thread.program = .request op next) : config.awaits index = some op := by
  obtain ⟨job, past, program⟩ := thread
  simp only at suspended
  subst suspended
  simp [awaits, found]

/-- A resumed handler does what it awaits. -/
theorem step_resume {before after : Config S} {index : Nat} {choice : S.Choice} {op : S.face.Op}
    (stepped : before.step (.resume index choice) = some after)
    (awaited : before.awaits index = some op) :
    ∃ thread next, before.threads[index]? = some thread ∧ thread.program = .request op next ∧
      after = ⟨(S.exec choice op before.state).1,
        before.threads.set index
          (thread.advance op (S.exec choice op before.state).2
            (next (S.exec choice op before.state).2))⟩ := by
  obtain ⟨_, start, -, -⟩ | ⟨_, _, thread, other, next, same, found, suspended, rfl⟩ :=
    step_cases stepped
  · cases start
  · cases same
    cases (awaits_eq_some found suspended).symm.trans awaited
    exact ⟨thread, next, found, suspended, rfl⟩

theorem exists_of_awaits {config : Config S} {index : Nat} {op : S.face.Op}
    (awaited : config.awaits index = some op) :
    ∃ thread next, config.threads[index]? = some thread ∧ thread.program = .request op next := by
  unfold awaits at awaited
  split at awaited
  · next job past awaiting next found =>
      cases awaited
      exact ⟨_, next, found, rfl⟩
  · simp at awaited

/-- After the start of a handler, an await is an old one or the first of the new handler. -/
theorem awaits_append (state : S.State) {changed : S.State} {threads : List (Thread S)}
    {thread : Thread S} {index : Nat} {op : S.face.Op}
    (awaited : Config.awaits ⟨changed, threads ++ [thread]⟩ index = some op) :
    Config.awaits ⟨state, threads⟩ index = some op ∨ ∃ next, thread.program = .request op next := by
  obtain ⟨holder, next, found, suspended⟩ := exists_of_awaits awaited
  rw [List.getElem?_append] at found
  split at found
  · exact .inl (awaits_eq_some found suspended)
  · cases List.mem_singleton.mp (List.mem_of_getElem? found)
    exact .inr ⟨next, suspended⟩

/-- After an await has completed, the next one of the same handler is new. -/
theorem awaits_set (state : S.State) {changed : S.State} {threads : List (Thread S)}
    {thread : Thread S} {position index : Nat} {op : S.face.Op}
    (awaited : Config.awaits ⟨changed, threads.set position thread⟩ index = some op) :
    index ≠ position ∧ Config.awaits ⟨state, threads⟩ index = some op ∨
      index = position ∧ ∃ next, thread.program = .request op next := by
  obtain ⟨holder, next, found, suspended⟩ := exists_of_awaits awaited
  rw [List.getElem?_set] at found
  split at found
  · next same =>
      split at found <;> cases found
      exact .inr ⟨same.symm, next, suspended⟩
  · next different => exact .inl ⟨Ne.symm different, awaits_eq_some found suspended⟩

/-- Where the handler at a position comes from. -/
theorem thread_of_step {before after : Config S} {action : Action S}
    (stepped : before.step action = some after) {index : Nat} {thread : Thread S}
    (found : after.threads[index]? = some thread) :
    before.threads[index]? = some thread ∨ (∃ job, thread = Thread.new S job) ∨
      ∃ choice old op next, before.threads[index]? = some old ∧
        old.program = .request op next ∧
        thread = old.advance op (S.exec choice op before.state).2
          (next (S.exec choice op before.state).2) := by
  obtain ⟨job, rfl, -, rfl⟩ | ⟨position, choice, old, op, next, rfl, located, suspended, rfl⟩ :=
    step_cases stepped
  · rw [List.getElem?_append] at found
    split at found
    · exact .inl found
    · exact .inr (.inl ⟨job, List.mem_singleton.mp (List.mem_of_getElem? found)⟩)
  · rw [List.getElem?_set] at found
    split at found
    · next same =>
        subst same
        split at found <;> cases found
        exact .inr (.inr ⟨choice, old, op, next, located, suspended, rfl⟩)
    · exact .inl found

/-- When one element is replaced, whoever satisfied a property still does, unless it
was the replaced one. -/
theorem exists_mem_set {α : Type} {values : List α} {index : Nat} {old : α} (new : α)
    {property : α → Prop} (found : values[index]? = some old)
    (holds : ∃ value ∈ values, property value) :
    property old ∨ ∃ value ∈ values.set index new, property value := by
  obtain ⟨holder, member, satisfied⟩ := holds
  obtain ⟨position, held⟩ := List.mem_iff_getElem?.mp member
  by_cases same : position = index
  · subst same
    cases found.symm.trans held
    exact .inl satisfied
  · have unchanged : (values.set index new)[position]? = some holder :=
      (List.getElem?_set_ne (Ne.symm same)).trans held
    exact .inr ⟨holder, List.mem_of_getElem? unchanged, satisfied⟩

/-- What some handler satisfies and completed awaits keep is still satisfied by
some handler after an action. -/
theorem exists_thread_step {property : Thread S → Prop} {before after : Config S}
    {action : Action S} (stepped : before.step action = some after)
    (kept : ∀ thread op next reply, thread.program = .request op next →
      property thread → property (thread.advance op reply (next reply)))
    (holds : ∃ thread ∈ before.threads, property thread) :
    ∃ thread ∈ after.threads, property thread := by
  obtain ⟨job, rfl, -, rfl⟩ | ⟨index, choice, thread, op, next, rfl, found, suspended, rfl⟩ :=
    step_cases stepped
  · obtain ⟨holder, member, satisfied⟩ := holds
    exact ⟨holder, List.mem_append_left _ member, satisfied⟩
  · rcases exists_mem_set _ found holds with satisfied | elsewhere
    · exact ⟨_, List.mem_set (List.getElem?_eq_some_iff.mp found).1 _,
        kept thread op next _ suspended satisfied⟩
    · exact elsewhere

end Config

/-- Finite runs all of whose actions meet a side condition. -/
inductive Run {S : System} (allowed : Config S → Action S → Prop) :
    Config S → Config S → Prop where
  | refl (config : Config S) : Run allowed config config
  | tail {start before after : Config S} {action : Action S} :
      Run allowed start before → allowed before action →
      before.step action = some after → Run allowed start after

/-- The side condition of unrestricted runs. -/
def anyAction {S : System} (_ : Config S) (_ : Action S) : Prop := True

namespace Run

variable {S : System} {allowed : Config S → Action S → Prop}

theorem mono {weaker : Config S → Action S → Prop} {start final : Config S}
    (run : Run allowed start final)
    (implies : ∀ config action, allowed config action → weaker config action) :
    Run weaker start final := by
  induction run with
  | refl => exact .refl start
  | tail _ permitted stepped ih => exact ih.tail (implies _ _ permitted) stepped

theorem trans {start middle final : Config S} (first : Run allowed start middle)
    (second : Run allowed middle final) : Run allowed start final := by
  induction second with
  | refl => exact first
  | tail _ permitted stepped ih => exact ih.tail permitted stepped

theorem head {start middle final : Config S} {action : Action S}
    (permitted : allowed start action) (stepped : start.step action = some middle)
    (rest : Run allowed middle final) : Run allowed start final :=
  (Run.refl start |>.tail permitted stepped).trans rest

/-- Executing a checked schedule is a run under what the check guarantees. -/
theorem of_schedule {check : Config S → Action S → Bool}
    (guaranteed : ∀ config action, check config action = true → allowed config action)
    {start final : Config S} {actions : List (Action S)}
    (performed : start.schedule check actions = some final) : Run allowed start final := by
  induction actions generalizing start with
  | nil =>
      simp only [Config.schedule, Option.some.injEq] at performed
      exact performed ▸ .refl start
  | cons action rest ih =>
      simp only [Config.schedule] at performed
      split at performed
      · next passes =>
          obtain ⟨middle, stepped, remaining⟩ := Option.bind_eq_some_iff.mp performed
          exact head (guaranteed _ _ passes) stepped (ih remaining)
      · simp at performed

/-- A checked schedule leads to a configuration of which a test can tell. -/
theorem exists_of_schedule {check : Config S → Action S → Bool}
    (guaranteed : ∀ config action, check config action = true → allowed config action)
    (start : Config S) (actions : List (Action S)) (test : Config S → Bool)
    (passed : (start.schedule check actions).any test = true) :
    ∃ final, Run allowed start final ∧ test final = true := by
  cases performed : start.schedule check actions with
  | none => simp [performed] at passed
  | some final =>
      rw [performed] at passed
      exact ⟨final, of_schedule guaranteed performed, passed⟩

/-- An unchecked schedule is an unrestricted run. -/
theorem exists_of_actions (start : Config S) (actions : List (Action S))
    (test : Config S → Bool)
    (passed : (start.schedule (fun _ _ => true) actions).any test = true) :
    ∃ final, Run anyAction start final ∧ test final = true :=
  exists_of_schedule (fun _ _ _ => trivial) start actions test passed

/-- An executed schedule is a run of its actions. -/
theorem exists_of_listed (start : Config S) (actions : List (Action S))
    (test : Config S → Bool)
    (passed : (start.schedule (fun _ _ => true) actions).any test = true) :
    ∃ final, Run (fun _ action => action ∈ actions) start final ∧ test final = true := by
  cases performed : start.schedule (fun _ _ => true) actions with
  | none => simp [performed] at passed
  | some final =>
      rw [performed] at passed
      refine ⟨final, ?_, passed⟩
      clear passed
      induction actions generalizing start with
      | nil =>
          simp only [Config.schedule, Option.some.injEq] at performed
          exact performed ▸ .refl start
      | cons action rest ih =>
          simp only [Config.schedule, if_true] at performed
          obtain ⟨middle, stepped, remaining⟩ := Option.bind_eq_some_iff.mp performed
          exact head List.mem_cons_self stepped
            ((ih middle remaining).mono fun _ _ listed => List.mem_cons_of_mem _ listed)

/-- What holds at the start and is kept by every permitted action holds throughout. -/
theorem invariant {inv : Config S → Prop} {start final : Config S}
    (run : Run allowed start final) (initially : inv start)
    (kept : ∀ before after action, inv before → allowed before action →
      before.step action = some after → inv after) : inv final := by
  induction run with
  | refl => exact initially
  | tail _ permitted stepped ih => exact kept _ _ _ ih permitted stepped

/-- What holds of every reachable configuration may be assumed at every action. -/
theorem assuming {fact : Config S → Prop} {start final : Config S}
    (run : Run allowed start final)
    (established : ∀ config, Run allowed start config → fact config) :
    Run (fun config action => allowed config action ∧ fact config) start final := by
  induction run with
  | refl => exact .refl start
  | tail reached permitted stepped ih =>
      exact ih.tail ⟨permitted, established _ reached⟩ stepped

end Run

/-- The action is allowed, and a fact holds before and after it. -/
def Throughout {S : System} (fact : Config S → Prop) (allowed : Config S → Action S → Prop)
    (config : Config S) (action : Action S) : Prop :=
  allowed config action ∧ fact config ∧ ∀ after, config.step action = some after → fact after

theorem Run.holds {S : System} {allowed : Config S → Action S → Prop} {fact : Config S → Prop}
    {start final : Config S} (run : Run (Throughout fact allowed) start final)
    (initially : fact start) : fact final := by
  cases run with
  | refl => exact initially
  | tail _ permitted stepped => exact permitted.2.2 _ stepped

/-- What holds at the end, and before an action if it holds after it, holds throughout. -/
theorem Run.inherited {S : System} {allowed : Config S → Action S → Prop}
    {start final : Config S} (run : Run allowed start final) (fact : Config S → Prop)
    (inherits : ∀ before after action, before.step action = some after → fact after →
      fact before) (ultimately : fact final) :
    fact start ∧ Run (Throughout fact allowed) start final := by
  induction run with
  | refl => exact ⟨ultimately, .refl start⟩
  | tail reached permitted stepped ih =>
      have before := inherits _ _ _ stepped ultimately
      refine ⟨(ih before).1, (ih before).2.tail ⟨permitted, before, ?_⟩ stepped⟩
      intro after reaches
      cases stepped.symm.trans reaches
      exact ultimately

/-! ## Invariants of all handlers -/

/-- The shared state satisfies `shared` and every handler satisfies `each` in it. -/
structure Config.Satisfies {S : System} (shared : S.State → Prop)
    (each : S.State → Thread S → Prop) (config : Config S) : Prop where
  state : shared config.state
  threads : ∀ thread ∈ config.threads, each config.state thread

/-- A condition on the shared state and on each handler is an invariant when new
handlers meet it and an operation keeps it for its own handler and the others. -/
structure Inductive {S : System} (allowed : Config S → Action S → Prop)
    (shared : S.State → Prop) (each : S.State → Thread S → Prop) : Prop where
  start : ∀ (config : Config S) (job : S.Job), config.Satisfies shared each →
    allowed config (.start job) → S.canStart config.state job = true →
    each config.state (Thread.new S job)
  resume : ∀ (config : Config S) (index : Nat) (choice : S.Choice) (thread : Thread S)
    (op : S.face.Op) (next : S.face.Reply op → Program S.face Unit),
    config.Satisfies shared each → allowed config (.resume index choice) →
    config.threads[index]? = some thread → thread.program = .request op next →
    shared (S.exec choice op config.state).1 ∧
    each (S.exec choice op config.state).1
      (thread.advance op (S.exec choice op config.state).2
        (next (S.exec choice op config.state).2)) ∧
    config.Others index (each (S.exec choice op config.state).1)

namespace Inductive

variable {S : System} {allowed : Config S → Action S → Prop}
  {shared : S.State → Prop} {each : S.State → Thread S → Prop}

theorem step (preserved : Inductive allowed shared each) {before after : Config S}
    {action : Action S} (holds : before.Satisfies shared each)
    (permitted : allowed before action) (stepped : before.step action = some after) :
    after.Satisfies shared each := by
  obtain ⟨job, rfl, enabled, rfl⟩ | ⟨index, choice, thread, op, next, rfl, found,
    suspended, rfl⟩ := Config.step_cases stepped
  · refine ⟨holds.state, fun thread member => ?_⟩
    rcases List.mem_append.mp member with old | new
    · exact holds.threads thread old
    · rw [List.mem_singleton.mp new]
      exact preserved.start before job holds permitted enabled
  · obtain ⟨state, own, others⟩ :=
      preserved.resume before index choice thread op next holds permitted found suspended
    refine ⟨state, fun other member => ?_⟩
    obtain ⟨position, at'⟩ := List.mem_iff_getElem?.mp member
    rw [List.getElem?_set] at at'
    split at at'
    · split at at'
      · cases at'
        exact own
      · simp at at'
    · next different => exact others position other at' (Ne.symm different)

theorem run (preserved : Inductive allowed shared each) {start final : Config S}
    (run : Run allowed start final) (initially : start.Satisfies shared each) :
    final.Satisfies shared each :=
  run.invariant initially fun _ _ _ holds permitted stepped =>
    preserved.step holds permitted stepped

end Inductive

/-! ## Handlers by themselves -/

section Each

variable {S : System} {allowed : Config S → Action S → Prop} {start final : Config S}

/-- A condition on each handler alone holds of all when new handlers meet it and a reply
keeps it. -/
theorem Run.each {each : Thread S → Prop}
    (starts : ∀ config job, allowed config (.start job) → each (Thread.new S job))
    (resumes : ∀ (config : Config S) index choice thread op next,
      allowed config (.resume index choice) → config.threads[index]? = some thread →
      thread.program = .request op next → each thread →
      each (thread.advance op (S.exec choice op config.state).2
        (next (S.exec choice op config.state).2)))
    (run : Run allowed start final) (started : ∀ thread ∈ start.threads, each thread) :
    ∀ thread ∈ final.threads, each thread := by
  have preserved : Inductive allowed (fun _ => True) fun _ thread => each thread := by
    constructor
    case start => exact fun config job _ permitted _ => starts config job permitted
    case resume =>
      intro config index choice thread op next holds permitted found suspended
      have before := holds.threads thread (List.mem_of_getElem? found)
      exact ⟨trivial, resumes config index choice thread op next permitted found suspended before,
        fun _ other located _ => holds.threads other (List.mem_of_getElem? located)⟩
  exact (preserved.run run ⟨trivial, started⟩).threads

/-- Handlers have the jobs that were started. -/
theorem Run.jobs {kind : S.Job → Prop}
    (starts : ∀ config job, allowed config (.start job) → kind job) {start : S.State}
    (run : Run allowed ⟨start, []⟩ final) : ∀ thread ∈ final.threads, kind thread.job :=
  run.each starts (fun _ _ _ _ _ _ _ _ _ holds => holds) (by simp)

/-- Handlers issue only what the bodies of their jobs issue. -/
theorem Run.issues {kind : S.Job → S.face.Op → Prop}
    (bodies : ∀ config job, allowed config (.start job) → (S.body job).Issues (kind job))
    (run : Run allowed start final)
    (started : ∀ thread ∈ start.threads, thread.program.Issues (kind thread.job)) :
    ∀ thread ∈ final.threads, thread.program.Issues (kind thread.job) := by
  refine run.each bodies ?_ started
  intro config index choice thread op next _ _ suspended issues
  rw [suspended] at issues
  exact issues.2 _

/-- Handlers continue the bodies of their jobs. -/
theorem Run.reaches {start : S.State} (run : Run allowed ⟨start, []⟩ final) :
    ∀ thread ∈ final.threads, (S.body thread.job).Reaches thread.past thread.program := by
  refine run.each (fun _ _ _ => .refl) ?_ (by simp)
  intro config index choice thread op next _ _ suspended reached
  rw [suspended] at reached
  exact reached.step _

/-- A handler that could go beyond a kind of operations first awaits a reply that keeps
it within, as long as a fact holds that is inherited backwards. -/
theorem Run.issues_or_fresh {start : S.State} (run : Run allowed ⟨start, []⟩ final)
    (kind : S.face.Op → Prop) (fresh : Program S.face Unit → Prop) (fact : Config S → Prop)
    (bodies : ∀ job, (S.body job).Issues kind ∨ fresh (S.body job))
    (inherits : ∀ before after action, before.step action = some after → fact after →
      fact before)
    (declines : ∀ (config : Config S) choice op next, fact config →
      fresh (.request op next) → (next (S.exec choice op config.state).2).Issues kind)
    (ultimately : fact final) :
    ∀ thread ∈ final.threads, thread.program.Issues kind ∨ fresh thread.program := by
  refine (run.inherited fact inherits ultimately).2.each (fun _ job _ => bodies job) ?_ (by simp)
  intro config index choice thread op next permitted _ suspended either
  left
  rw [suspended] at either
  cases either with
  | inl issues => exact issues.2 _
  | inr unstarted => exact declines config choice op next permitted.2.1 unstarted

/-- Handlers react as the bodies of their jobs do. -/
theorem Run.reacts {trigger : Event S.face → Prop} {form : Program S.face Unit → Prop}
    (bodies : ∀ job, (S.body job).Reacts trigger form) (run : Run allowed start final)
    (started : ∀ thread ∈ start.threads, thread.program.Reacts trigger form) :
    ∀ thread ∈ final.threads, thread.program.Reacts trigger form := by
  refine run.each (fun _ job _ => bodies job) ?_ started
  intro config index choice thread op next _ _ suspended reacts
  rw [suspended] at reacts
  exact (reacts _).2

end Each

/-! ## Quantities summed over all handlers -/

section Total

variable {S : System} {G : Type} [AddCommMonoid G]

/-- Sum of a quantity over all handlers. -/
def Config.total (amount : Thread S → G) (config : Config S) : G :=
  (config.threads.map amount).sum

theorem Config.total_append (amount : Thread S → G) (state : S.State)
    (threads : List (Thread S)) (thread : Thread S) :
    Config.total amount ⟨state, threads ++ [thread]⟩ =
      Config.total amount ⟨state, threads⟩ + amount thread := by
  simp [Config.total]

/-- Replacing one handler exchanges its contribution for that of its successor. -/
theorem Config.total_set (amount : Thread S → G) {threads : List (Thread S)}
    {index : Nat} {old : Thread S} (found : threads[index]? = some old)
    (state after : S.State) (new : Thread S) :
    Config.total amount ⟨after, threads.set index new⟩ + amount old =
      Config.total amount ⟨state, threads⟩ + amount new := by
  induction threads generalizing index with
  | nil => simp at found
  | cons head rest ih =>
      cases index with
      | zero =>
          simp only [List.getElem?_cons_zero, Option.some.injEq] at found
          subst found
          simp only [Config.total, List.set_cons_zero, List.map_cons, List.sum_cons]
          ac_rfl
      | succ index =>
          have tail := ih (by simpa using found)
          simp only [Config.total, List.set_cons_succ, List.map_cons, List.sum_cons]
            at tail ⊢
          rw [add_assoc, tail, add_assoc]

end Total

/-- An await that moves something between the shared state and its own handler keeps
the sum of both. -/
theorem Config.add_total_set {S : System} {G : Type} [AddCancelCommMonoid G]
    {amount : Thread S → G} {threads : List (Thread S)} {index : Nat} {old new : Thread S}
    (found : threads[index]? = some old) {shared changed : G}
    (moved : changed + amount new = shared + amount old) (state after : S.State) :
    changed + Config.total amount ⟨after, threads.set index new⟩ =
      shared + Config.total amount ⟨state, threads⟩ := by
  refine add_right_cancel (b := amount new + amount old) ?_
  calc
    _ = changed + amount new +
        (Config.total amount ⟨after, threads.set index new⟩ + amount old) := by ac_rfl
    _ = shared + amount old + (Config.total amount ⟨state, threads⟩ + amount new) := by
        rw [moved, Config.total_set amount found state]
    _ = _ := by ac_rfl

end RemoteBrowser.Async
