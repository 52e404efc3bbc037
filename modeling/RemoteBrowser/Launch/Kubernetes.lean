import RemoteBrowser.Async.Path
import RemoteBrowser.Text.Utf16
import Mathlib.Data.List.DropRight
import Mathlib.Algebra.Order.Field.Rat

/-!
# Kubernetes workers

The names and labels that `app/worker-runtime.js` gives to the job of a session, and the reaper of
`app/server.js` that finds the session of a job by its label.  Texts are lists of code units, as
the regular expressions see them.
-/

namespace RemoteBrowser

namespace Async.Program

variable {face : Interface} {α β : Type}

/-- Every operation is allowed in view of the awaits before it, the latest first. -/
def Checked (allowed : List (Event face) → face.Op → Prop) :
    List (Event face) → Program face α → Prop
  | _, .pure _ => True
  | past, .request op next =>
      allowed past op ∧ ∀ reply, (next reply).Checked allowed (⟨op, reply⟩ :: past)
  | _, .stalled => True

section Checked

variable {allowed : List (Event face) → face.Op → Prop} {past : List (Event face)}

theorem Checked.bind {program : Program face α} {rest : α → Program face β}
    (first : program.Checked allowed past)
    (second : ∀ value later, past <:+ later → (rest value).Checked allowed later) :
    (program >>= rest).Checked allowed past := by
  induction program generalizing past with
  | pure value => exact second value past List.suffix_rfl
  | stalled => trivial
  | request op next ih =>
      refine ⟨first.1, fun reply => ih reply (first.2 reply) fun value later longer => ?_⟩
      exact second value later ((List.suffix_cons _ past).trans longer)

theorem Checked.forEach {values : List α} {action : α → Program face Unit}
    (all : ∀ value ∈ values, ∀ past, (action value).Checked allowed past) :
    (Program.forEach values action).Checked allowed past := by
  induction values generalizing past with
  | nil => trivial
  | cons value rest ih =>
      apply Checked.bind (all value List.mem_cons_self past)
      exact fun _ later _ => ih fun other member => all other (List.mem_cons_of_mem _ member)

theorem Checked.reaches {program left : Program face α}
    (checked : program.Checked allowed []) (reached : program.Reaches past left) :
    left.Checked allowed past := by
  induction reached with
  | refl => exact checked
  | step _ reply ih => exact ih.2 reply

end Checked

/-- The marks of the operations on a path are, in order, the given ones as far as the path goes,
and all of them if it returns. -/
def Marks {mark : Type} (marked : face.Op → Option mark) : List mark → Program face α → Prop
  | marks, .pure _ => marks = []
  | marks, .request op next =>
      ∃ rest, marks = (marked op).toList ++ rest ∧ ∀ reply, (next reply).Marks marked rest
  | _, .stalled => True

section Marks

variable {mark : Type} {marked : face.Op → Option mark} {marks more : List mark}

theorem Marks.bind {program : Program face α} {rest : α → Program face β}
    (first : program.Marks marked marks) (second : ∀ value, (rest value).Marks marked more) :
    (program >>= rest).Marks marked (marks ++ more) := by
  induction program generalizing marks with
  | pure value =>
      cases first
      exact second value
  | stalled => trivial
  | request op next ih =>
      obtain ⟨left, rfl, first⟩ := first
      rw [List.append_assoc]
      exact ⟨left ++ more, rfl, fun reply => ih reply (first reply)⟩

theorem Marks.forEach {values : List α} {action : α → Program face Unit} {markOf : α → mark}
    (all : ∀ value ∈ values, (action value).Marks marked [markOf value]) :
    (Program.forEach values action).Marks marked (values.map markOf) := by
  induction values with
  | nil => rfl
  | cons value rest ih =>
      apply Marks.bind (all value List.mem_cons_self)
      exact fun _ => ih fun other member => all other (List.mem_cons_of_mem _ member)

/-- What a path has marked so far is followed by what is left to be marked. -/
theorem Marks.reaches {program left : Program face α} {past : List (Event face)}
    (sets : program.Marks marked marks) (reached : program.Reaches past left) :
    ∃ rest, marks = past.reverse.filterMap (marked ·.1) ++ rest ∧ left.Marks marked rest := by
  induction reached with
  | refl => exact ⟨marks, rfl, sets⟩
  | step _ reply ih =>
      obtain ⟨_, rfl, rest, rfl, next⟩ := ih
      refine ⟨rest, ?_, next reply⟩
      rw [List.reverse_cons, List.filterMap_append, List.append_assoc]
      cases chosen : marked _ with
      | none => simp [chosen]
      | some value => simp [chosen]

end Marks

end Async.Program

namespace Launch

open Utf16 (ascii)

/-! ## Names -/

def dash : UInt16 := 0x2D

def isDigit (unit : UInt16) : Bool := 0x30 ≤ unit && unit ≤ 0x39

def isLower (unit : UInt16) : Bool := 0x61 ≤ unit && unit ≤ 0x7A

def isUpper (unit : UInt16) : Bool := 0x41 ≤ unit && unit ≤ 0x5A

namespace NamePlatform

variable (platform : NamePlatform)

end NamePlatform

section Trims

variable {keeps drops : UInt16 → Bool} {text : List UInt16} {unit : UInt16}

end Trims

/-! ## Job names -/

section Names

variable (platform : NamePlatform)

end Names

/-! ## Label values -/

section Labels

end Labels

/-! ## The reaper -/

structure SessionWorker where
  jobName : List UInt16
  namespaceName : String
  sessionId : List UInt16
  createdAtMs : ℚ

/-- The worker of a stored session.  Texts that are not set are empty. -/
structure WorkerRecord where
  launchMode : String
  jobName : List UInt16
  workerId : List UInt16
  namespaceName : String

structure StoredSession where
  id : List UInt16
  state : String
  worker : Option WorkerRecord

inductive ReaperOp where
  | get (id : List UInt16)
  | shouldIdleTerminate (id : List UInt16)
  | acquireTerminationLock (id : List UInt16)
  | setState (id : List UInt16) (state : String)
  /-- The gateway and both peers are told, and their sockets closed. -/
  | tellPeers (id : List UInt16)
  | deleteJob (jobName : List UInt16) (namespaceName : String)

def ReaperOp.Reply : ReaperOp → Type
  | get _ => Option StoredSession
  | shouldIdleTerminate _ | acquireTerminationLock _ => Bool
  | setState _ _ | tellPeers _ | deleteJob _ _ => Unit

abbrev reaperFace : Async.Interface := ⟨ReaperOp, ReaperOp.Reply⟩

abbrev ReaperHandler := Async.Program reaperFace

def ReaperOp.await (op : ReaperOp) : ReaperHandler op.Reply := @Async.Program.call reaperFace op

/-- `worker?.jobName || worker?.workerId`. -/
def WorkerRecord.job (worker : WorkerRecord) : List UInt16 :=
  if worker.jobName = [] then worker.workerId else worker.jobName

/-- The runtime's `stop`, with the namespace of the runtime. -/
def stop (kubernetesNamespace : String) : Option WorkerRecord → ReaperHandler Unit
  | none => .pure ()
  | some worker =>
      let namespaceName :=
        if worker.namespaceName = "" then kubernetesNamespace else worker.namespaceName
      if worker.job = [] ∨ namespaceName = "" then .pure ()
      else (ReaperOp.deleteJob worker.job namespaceName).await

def terminateSession (kubernetesNamespace : String) (session : StoredSession) :
    ReaperHandler Unit :=
  if session.state = "terminated" then .pure ()
  else do
    let acquired : Bool ← (ReaperOp.acquireTerminationLock session.id).await
    if acquired then do
      (ReaperOp.setState session.id "terminated").await
      (ReaperOp.tellPeers session.id).await
      if session.worker.map (·.launchMode) = some "warm-pool" then .pure ()
      else stop kubernetesNamespace session.worker
    else .pure ()

section Reaper

variable {workers : List SessionWorker} {kubernetesNamespace : String} {graceMs now : ℚ}
  {past : List (Async.Event reaperFace)}

/-- The reaper has found the session and has terminated it in the store. -/
def HasTerminated (workers : List SessionWorker) (past : List (Async.Event reaperFace))
    (session : StoredSession) : Prop :=
  (∃ worker ∈ workers, ⟨ReaperOp.get worker.sessionId, some session⟩ ∈ past) ∧
    ⟨ReaperOp.setState session.id "terminated", ()⟩ ∈ past

end Reaper

end Launch

end RemoteBrowser
