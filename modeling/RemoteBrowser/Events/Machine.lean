import Mathlib.Order.Basic

/-!
# State machines

A machine takes one action at a time; an action that is not possible in a state has no next
state. A state is reached under a condition when some sequence of actions leads to it and each
of them met the condition in the state in which it was taken.
-/

namespace RemoteBrowser

structure Machine (State Action : Type) where
  initial : State
  step : State → Action → Option State

namespace Machine

variable {State Action : Type} {machine : Machine State Action}
  {allowed : State → Action → Prop}

inductive Reached (machine : Machine State Action) (allowed : State → Action → Prop) :
    State → Prop where
  | start : Reached machine allowed machine.initial
  | next {before after : State} {action : Action} (reached : Reached machine allowed before)
      (meets : allowed before action) (taken : machine.step before action = some after) :
      Reached machine allowed after

/-- What holds at the start and is kept by every allowed action holds in every state reached. -/
theorem Reached.invariant {state : State} (invariant : State → Prop)
    (reached : Reached machine allowed state) (start : invariant machine.initial)
    (kept : ∀ before action after, invariant before → allowed before action →
      machine.step before action = some after → invariant after) : invariant state := by
  induction reached with
  | start => exact start
  | next _ meets taken ih => exact kept _ _ _ ih meets taken

/-- Take a sequence of actions, as long as each is possible and allowed. -/
def exec (machine : Machine State Action) (allowed : State → Action → Prop)
    [∀ state action, Decidable (allowed state action)] :
    State → List Action → Option State
  | state, [] => some state
  | state, action :: rest =>
      if allowed state action then
        match machine.step state action with
        | none => none
        | some after => exec machine allowed after rest
      else none

theorem Reached.exec [∀ state action, Decidable (allowed state action)] {actions : List Action}
    {before after : State} (reached : Reached machine allowed before)
    (executed : machine.exec allowed before actions = some after) :
    Reached machine allowed after := by
  induction actions generalizing before with
  | nil =>
      obtain rfl : before = after := by simpa [Machine.exec] using executed
      exact reached
  | cons action rest ih =>
      rw [Machine.exec] at executed
      split at executed
      case isFalse => simp at executed
      case isTrue meets =>
          split at executed
          case h_1 => simp at executed
          case h_2 middle taken => exact ih (reached.next meets taken) executed

/-- A sequence of actions whose last state passes a test reaches a state that passes it. -/
theorem exists_reached [∀ state action, Decidable (allowed state action)] {actions : List Action}
    {test : State → Bool}
    (passes : (machine.exec allowed machine.initial actions).any test = true) :
    ∃ state, machine.Reached allowed state ∧ test state = true := by
  rw [Option.any_eq_true] at passes
  obtain ⟨state, executed, passed⟩ := passes
  exact ⟨state, Reached.start.exec executed, passed⟩

end Machine

end RemoteBrowser
