import Mathlib.Logic.Basic

/-!
# Cooperative handlers as typed request trees

An asynchronous handler runs without interruption between two awaits and gives
up control only while it awaits a reply.  Its meaning is therefore a tree: at
every node the handler either has returned, or has issued one operation and
carries the continuation that consumes the reply.

The trees are finitely deep.  A loop without a static bound is represented by its
finite unrollings; an unrolling that is exhausted is `stalled`, which neither
returns nor takes a step.  Every finite run of such a loop is a run of all its
sufficiently long unrollings.
-/

namespace RemoteBrowser.Async

/-- Operations that a handler can await, each with the type of its reply. -/
structure Interface where
  Op : Type
  Reply : Op → Type

/-- A handler that is suspended at an await, has returned, or is inside a loop
beyond the unrolling under consideration. -/
inductive Program (face : Interface) (α : Type) where
  | pure (value : α)
  | request (op : face.Op) (next : face.Reply op → Program face α)
  | stalled

/-- One completed await: the operation and the reply it received. -/
abbrev Event (face : Interface) := (op : face.Op) × face.Reply op

namespace Program

variable {face : Interface} {α β γ : Type}

/-- Sequential composition: run `program`, then continue with its result. -/
def bind : Program face α → (α → Program face β) → Program face β
  | .pure value, rest => rest value
  | .request op next, rest => .request op fun reply => (next reply).bind rest
  | .stalled, _ => .stalled

instance : Monad (Program face) where
  pure := .pure
  bind := .bind

/-- Await a single operation. -/
def call (op : face.Op) : Program face (face.Reply op) := .request op .pure

@[simp] theorem pure_eq (value : α) :
    (Pure.pure value : Program face α) = .pure value := rfl

@[simp] theorem pure_bind (value : α) (rest : α → Program face β) :
    ((.pure value : Program face α) >>= rest) = rest value := rfl

@[simp] theorem request_bind (op : face.Op) (next : face.Reply op → Program face α)
    (rest : α → Program face β) :
    ((.request op next : Program face α) >>= rest) =
      .request op fun reply => next reply >>= rest := rfl

theorem bind_assoc (program : Program face α) (first : α → Program face β)
    (second : β → Program face γ) :
    ((program >>= first) >>= second) =
      program >>= fun value => first value >>= second := by
  induction program with
  | pure value => rfl
  | stalled => rfl
  | request op next ih =>
      simp only [request_bind, Program.request.injEq, heq_eq_eq, true_and]
      funext reply
      exact ih reply

/-- Await `action` for every element of a list, in order. -/
def forEach : List α → (α → Program face Unit) → Program face Unit
  | [], _ => .pure ()
  | value :: rest, action => do
      action value
      forEach rest action

/-- The handler has returned. -/
def Finished : Program face α → Prop
  | .pure _ => True
  | .request _ _ => False
  | .stalled => False

instance (program : Program face α) : Decidable program.Finished :=
  match program with
  | .pure _ => isTrue trivial
  | .request _ _ => isFalse id
  | .stalled => isFalse id

@[simp] theorem not_finished_request (op : face.Op)
    (next : face.Reply op → Program face α) :
    ¬(Program.request op next).Finished := id

@[simp] theorem not_finished_stalled : ¬(Program.stalled : Program face α).Finished := id

end Program

end RemoteBrowser.Async
