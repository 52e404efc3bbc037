import Mathlib.Data.List.Basic
import Mathlib.Data.List.Infix

/-!
# Runs of a step function

A system takes one event at a time.  A run is the state after a list of events; what holds at its
start and is kept by every step holds throughout, and a property that a step keeps exactly if a
condition is met holds throughout exactly if every step meets the condition.
-/

namespace RemoteBrowser.Runs

variable {State Event : Type} (step : State → Event → State) (initial : State)

def run (events : List Event) : State := events.foldl step initial

variable {step initial}

@[simp]
theorem run_nil : run step initial [] = initial := rfl

@[simp]
theorem run_concat (events : List Event) (event : Event) :
    run step initial (events ++ [event]) = step (run step initial events) event := by
  rw [run, run, List.foldl_append, List.foldl_cons, List.foldl_nil]

theorem run_append (before after : List Event) :
    run step initial (before ++ after) = run step (run step initial before) after :=
  List.foldl_append

theorem run_invariant {Invariant : State → Prop} (start : Invariant initial)
    (kept : ∀ state event, Invariant state → Invariant (step state event))
    (events : List Event) : Invariant (run step initial events) := by
  induction events using List.reverseRecOn with
  | nil => exact start
  | append_singleton events event ih =>
      rw [run_concat]
      exact kept _ event ih

/-- Every step of a run meets the condition. -/
def Throughout (step : State → Event → State) (initial : State)
    (Meets : State → Event → Prop) (events : List Event) : Prop :=
  ∀ before event, before ++ [event] <+: events → Meets (run step initial before) event

theorem throughout_concat {Meets : State → Event → Prop} {events : List Event} {event : Event} :
    Throughout step initial Meets (events ++ [event]) ↔
      Throughout step initial Meets events ∧ Meets (run step initial events) event := by
  constructor
  case mp =>
    intro all
    constructor
    case left => exact fun before other first => all before other (first.trans (List.prefix_append ..))
    case right => exact all events event List.prefix_rfl
  case mpr =>
    intro both before other first
    rcases List.prefix_concat_iff.mp first with same | earlier
    · obtain ⟨rfl, last⟩ := List.append_inj' same rfl
      rw [List.singleton_inj.mp last]
      exact both.2
    · exact both.1 before other earlier

/-- Conditions that agree under an invariant agree on every run. -/
theorem throughout_congr {Invariant : State → Prop} {Meets Other : State → Event → Prop}
    (start : Invariant initial)
    (kept : ∀ state event, Invariant state → Invariant (step state event))
    (same : ∀ state event, Invariant state → (Meets state event ↔ Other state event))
    (events : List Event) :
    Throughout step initial Meets events ↔ Throughout step initial Other events := by
  unfold Throughout
  apply forall_congr'
  intro before
  apply forall_congr'
  intro event
  apply imp_congr_right
  intro _
  exact same _ event (run_invariant start kept before)

/-- If a step keeps a property exactly when it meets the condition, a run has the property in
every state exactly when all its steps meet the condition. -/
theorem always_iff_throughout {Invariant Holds : State → Prop} {Meets : State → Event → Prop}
    (start : Invariant initial)
    (kept : ∀ state event, Invariant state → Invariant (step state event))
    (holds : Holds initial)
    (exact : ∀ state event, Invariant state → Holds state →
      (Holds (step state event) ↔ Meets state event)) (events : List Event) :
    (∀ before, before <+: events → Holds (run step initial before)) ↔
      Throughout step initial Meets events := by
  induction events using List.reverseRecOn with
  | nil =>
      constructor
      case mp =>
        intro _ before event first
        exact absurd (List.prefix_nil.mp first) (List.append_ne_nil_of_right_ne_nil _ (by simp))
      case mpr =>
        intro _ before first
        rw [List.prefix_nil.mp first]
        exact holds
  | append_singleton events event ih =>
      have invariant := run_invariant start kept events
      rw [throughout_concat, ← ih]
      constructor
      case mp =>
        intro all
        have before : ∀ before, before <+: events → Holds (run step initial before) :=
          fun before first => all before (first.trans (List.prefix_append ..))
        have last := all (events ++ [event]) List.prefix_rfl
        rw [run_concat] at last
        exact ⟨before, (exact _ event invariant (before events List.prefix_rfl)).mp last⟩
      case mpr =>
        intro both before first
        rcases List.prefix_concat_iff.mp first with rfl | earlier
        · rw [run_concat]
          exact (exact _ event invariant (both.1 events List.prefix_rfl)).mpr both.2
        · exact both.1 before earlier

end RemoteBrowser.Runs
