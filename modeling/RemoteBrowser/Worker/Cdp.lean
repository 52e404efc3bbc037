import RemoteBrowser.Async.Monitor

/-!
# Commands to the browser

Many tasks of a worker send commands to the browser over one DevTools socket, which may close, be
replaced with the browser, or lead to a call that is cancelled while it waits.  A call that returns
has the answer to its own command, never the one to a command that another call gave up on.
-/

namespace RemoteBrowser.Cdp

open Async

/-! ## The socket -/

structure Request where
  method : String
  params : String

/-- What Chromium answers to a command. -/
inductive Outcome where
  | result (value : String)
  | error (message : String)

/-- A message on the socket; an event has no id. -/
structure Payload where
  id : Option ℕ
  outcome : Outcome

/-- A command that was handed to a socket. -/
structure Command where
  id : ℕ
  socket : ℕ
  request : Request

structure State where
  cdpLock : Bool
  cdpWs : Option ℕ
  cdpMessageId : ℕ
  /-- How many sockets have been opened. -/
  sockets : ℕ
  /-- What has arrived on each socket and was not received yet. -/
  inbox : ℕ → List Payload
  commands : List Command
  /-- What Chromium has answered. -/
  answers : ℕ → Option Outcome

def State.initial : State := ⟨false, none, 0, 0, fun _ => [], [], fun _ => none⟩

inductive Sending where
  | noSocket
  | closed
  | failed
  | sent (id : ℕ)

inductive Received where
  | closed
  | failed
  | message (payload : Payload)

inductive Op where
  /-- `async with self.cdp_lock` -/
  | acquire
  | release
  | isConnected
  /-- The process runs and there is a socket. -/
  | isStarted
  | waitForTarget
  | connect
  | send (request : Request)
  | currentSocket
  | recv (socket : ℕ)
  /-- `_close_cdp_socket` -/
  | closeSocket
  /-- `stop` closes the socket that it finds, and then forgets the one that there is. -/
  | stopSocket
  | forgetSocket
  /-- A call returns a value, or raises. -/
  | finish (value : Option String)
  /-- Chromium answers a command. -/
  | answer (id : ℕ) (outcome : Outcome)
  /-- Chromium tells of an event. -/
  | emit (socket : ℕ) (outcome : Outcome)

@[reducible] def Op.Reply : Op → Type
  | .acquire => Bool
  | .isConnected => Bool
  | .isStarted => Bool
  | .waitForTarget => Bool
  | .connect => Bool
  | .send _ => Sending
  | .currentSocket => Option ℕ
  | .recv _ => Received
  | _ => Unit

abbrev face : Interface := ⟨Op, Op.Reply⟩

abbrev Handler := Program face

def await (op : Op) : Handler op.Reply := @Program.call face op

/-- How an await ends; a cancelled one fails. -/
inductive Choice where
  | proceeds
  | closes
  | fails
  deriving DecidableEq

namespace State

def put (state : State) (socket : ℕ) (payload : Payload) : State :=
  { state with inbox := Function.update state.inbox socket (state.inbox socket ++ [payload]) }

/-- Chromium answers each command at most once, on the socket that it came from. -/
def answer (state : State) (id : ℕ) (outcome : Outcome) : State :=
  match state.commands.find? (·.id = id), state.answers id with
  | some command, none =>
      { state.put command.socket ⟨some id, outcome⟩ with
        answers := Function.update state.answers id (some outcome) }
  | _, _ => state

/-- The next message of a socket. -/
def receive (state : State) (socket : ℕ) : State × Received :=
  match state.inbox socket with
  | [] => (state, .failed)
  | payload :: rest =>
      ({ state with inbox := Function.update state.inbox socket rest }, .message payload)

/-- The command with the next id. -/
def issue (state : State) (socket : ℕ) (request : Request) : State :=
  { state with
    cdpMessageId := state.cdpMessageId + 1
    commands := ⟨state.cdpMessageId + 1, socket, request⟩ :: state.commands }

def exec (choice : Choice) : (op : Op) → State → State × op.Reply
  | .acquire, state =>
      -- a call that waits for the lock goes on when it is free, unless it is cancelled
      if choice = .proceeds ∧ state.cdpLock = false then ({ state with cdpLock := true }, true)
      else (state, false)
  | .release, state => ({ state with cdpLock := false }, ())
  | .isConnected, state => (state, state.cdpWs.isSome)
  | .isStarted, state => (state, decide (choice = .proceeds) && state.cdpWs.isSome)
  | .waitForTarget, state => (state, decide (choice = .proceeds))
  | .connect, state =>
      if choice = .proceeds then
        ({ state with cdpWs := some state.sockets, sockets := state.sockets + 1 }, true)
      else (state, false)
  | .send request, state =>
      match state.cdpWs with
      | none => (state, .noSocket)
      | some socket =>
          (state.issue socket request,
            match choice with
            | .proceeds => .sent (state.cdpMessageId + 1)
            | .closes => .closed
            | .fails => .failed)
  | .currentSocket, state => (state, state.cdpWs)
  | .recv socket, state =>
      match choice with
      | .proceeds => state.receive socket
      | .closes => (state, .closed)
      | .fails => (state, .failed)
  | .closeSocket, state => ({ state with cdpWs := none }, ())
  | .stopSocket, state => (state, ())
  | .forgetSocket, state => ({ state with cdpWs := none }, ())
  | .finish _, state => (state, ())
  | .answer id outcome, state => (state.answer id outcome, ())
  | .emit socket outcome, state => (state.put socket ⟨none, outcome⟩, ())

end State

/-! ## The calls -/

/-- The loop of `_send_cdp_on_open_socket`, with a bound on its rounds. -/
def receiveAnswer (id : ℕ) : ℕ → Handler (Option String)
  | 0 => .stalled
  | rounds + 1 => do
      match ← await .currentSocket with
      | none => pure none
      | some socket =>
          match ← await (.recv socket) with
          | .closed => do
              await .closeSocket
              pure none
          | .failed => pure none
          | .message payload =>
              if payload.id = some id then
                match payload.outcome with
                | .result value => pure (some value)
                | .error _ => pure none
              else receiveAnswer id rounds

/-- `_send_cdp_on_open_socket`, with `none` where it raises. -/
def sendCdpOnOpenSocket (rounds : ℕ) (request : Request) : Handler (Option String) := do
  match ← await (.send request) with
  | .noSocket => pure none
  | .failed => pure none
  | .closed => do
      await .closeSocket
      pure none
  | .sent id => receiveAnswer id rounds

/-- The commands that prepare a page. -/
def prepare (rounds : ℕ) : List Request → Handler Bool
  | [] => pure true
  | request :: rest => do
      match ← sendCdpOnOpenSocket rounds request with
      | none => pure false
      | some _ => prepare rounds rest

def connectCdp (rounds : ℕ) (preparation : List Request) : Handler Bool := do
  if ← await .waitForTarget then
    if ← await .connect then prepare rounds preparation else pure false
  else pure false

def sendCdp (rounds : ℕ) (preparation : List Request) (request : Request) : Handler Unit := do
  if ← await .acquire then
    let connected ← await .isConnected
    let ready ← if connected then pure true else connectCdp rounds preparation
    let value ← if ready then sendCdpOnOpenSocket rounds request else pure none
    await .release
    await (.finish value)
  else await (.finish none)

def resetCdpConnection (rounds : ℕ) (preparation : List Request) : Handler Unit := do
  if ← await .acquire then
    await .closeSocket
    let _ ← connectCdp rounds preparation
    await .release
  else pure ()

def stop : Handler Unit := do
  if ← await .isConnected then
    await .stopSocket
    await .forgetSocket
  else pure ()

def ensureStarted (rounds : ℕ) (preparation : List Request) : Handler Unit := do
  if ← await .isStarted then pure ()
  else do
    stop
    let _ ← connectCdp rounds preparation

inductive Job where
  | sendCdp (request : Request)
  | resetCdpConnection
  | stop
  | ensureStarted
  | chromiumAnswers (id : ℕ) (outcome : Outcome)
  | chromiumEmits (socket : ℕ) (outcome : Outcome)

def Job.body (rounds : ℕ) (preparation : List Request) : Job → Handler Unit
  | .sendCdp request => Cdp.sendCdp rounds preparation request
  | .resetCdpConnection => Cdp.resetCdpConnection rounds preparation
  | .stop => Cdp.stop
  | .ensureStarted => Cdp.ensureStarted rounds preparation
  | .chromiumAnswers id outcome => await (.answer id outcome)
  | .chromiumEmits socket outcome => await (.emit socket outcome)

@[reducible] def controller (rounds : ℕ) (preparation : List Request) : System where
  face := face
  State := State
  Choice := Choice
  Job := Job
  exec := State.exec
  body := Job.body rounds preparation
  canStart _ _ := true

/-! ## What a call returns -/

/-- The call has sent the request and received this answer to it. -/
def Answered (request : Request) (value : String) (past : List (Event face)) : Prop :=
  ∃ id, (⟨.send request, .sent id⟩ : Event face) ∈ past ∧
    ∃ socket, (⟨.recv socket, .message ⟨some id, .result value⟩⟩ : Event face) ∈ past

def Job.rule (job : Job) (past : List (Event face)) : Op → Prop
  | .finish (some value) => ∃ request, job = .sendCdp request ∧ Answered request value past
  | _ => True

/-- The operation is not the return of a value. -/
def Op.Unfinished (op : Op) : Prop := ∀ value, op ≠ .finish (some value)

section Discipline

variable {job : Job} {request : Request} {past : List (Event face)} {rounds : ℕ}
  {preparation : List Request}

theorem rule_of_unfinished {op : Op} (unfinished : op.Unfinished) : job.rule past op := by
  cases op with
  | finish value =>
      cases value with
      | none => trivial
      | some value => exact absurd rfl (unfinished value)
  | _ => trivial

theorem receiveAnswer_issues (id : ℕ) : (receiveAnswer id rounds).Issues Op.Unfinished := by
  induction rounds with
  | zero => trivial
  | succ rounds ih =>
      refine ⟨fun _ same => Op.noConfusion same, fun current => ?_⟩
      cases current with
      | none => trivial
      | some socket =>
          refine ⟨fun _ same => Op.noConfusion same, fun reply => ?_⟩
          cases reply with
          | closed => exact ⟨fun _ same => Op.noConfusion same, fun _ => trivial⟩
          | failed => trivial
          | message payload =>
              dsimp only [Program.bind]
              split
              case isTrue => cases payload.outcome <;> trivial
              case isFalse => exact ih

theorem sendCdpOnOpenSocket_issues :
    (sendCdpOnOpenSocket rounds request).Issues Op.Unfinished := by
  refine ⟨fun _ same => Op.noConfusion same, fun reply => ?_⟩
  cases reply with
  | noSocket => trivial
  | failed => trivial
  | closed => exact ⟨fun _ same => Op.noConfusion same, fun _ => trivial⟩
  | sent id => exact receiveAnswer_issues id

theorem prepare_issues : (prepare rounds preparation).Issues Op.Unfinished := by
  induction preparation with
  | nil => trivial
  | cons request rest ih =>
      refine sendCdpOnOpenSocket_issues.bind fun value => ?_
      cases value with
      | none => trivial
      | some value => exact ih

theorem connectCdp_issues : (connectCdp rounds preparation).Issues Op.Unfinished := by
  refine ⟨fun _ same => Op.noConfusion same, fun found => ?_⟩
  cases found with
  | false => trivial
  | true =>
      refine ⟨fun _ same => Op.noConfusion same, fun connected => ?_⟩
      cases connected with
      | false => trivial
      | true => exact prepare_issues

theorem stop_issues : stop.Issues Op.Unfinished := by
  refine ⟨fun _ same => Op.noConfusion same, fun connected => ?_⟩
  cases connected with
  | false => trivial
  | true =>
      refine ⟨fun _ same => Op.noConfusion same, fun _ => ?_⟩
      exact ⟨fun _ same => Op.noConfusion same, fun _ => trivial⟩

/-- A message that does not answer the command is passed over. -/
theorem receiveAnswer_follows {id : ℕ} (sent : (⟨.send request, .sent id⟩ : Event face) ∈ past) :
    (receiveAnswer id rounds).Follows (.history job.rule)
      (fun answer after => ∀ value, answer = some value → Answered request value after) past := by
  induction rounds generalizing past with
  | zero => trivial
  | succ rounds ih =>
      apply Program.follows_history (rule_of_unfinished fun _ same => Op.noConfusion same)
      intro current
      cases current with
      | none =>
          intro value same
          cases same
      | some socket =>
          apply Program.follows_history (rule_of_unfinished fun _ same => Op.noConfusion same)
          intro reply
          cases reply with
          | closed =>
              apply Program.follows_history (rule_of_unfinished fun _ same => Op.noConfusion same)
              intro _ value same
              cases same
          | failed =>
              intro value same
              cases same
          | message payload =>
              dsimp only [Program.bind]
              split
              case isFalse => exact ih (.tail _ (.tail _ sent))
              case isTrue own =>
                rcases payload with ⟨other, outcome⟩
                cases own
                cases outcome with
                | error message =>
                    intro value same
                    cases same
                | result answer =>
                    intro value same
                    cases same
                    exact ⟨id, .tail _ (.tail _ sent), socket, .head _⟩

theorem sendCdpOnOpenSocket_follows :
    (sendCdpOnOpenSocket rounds request).Follows (.history job.rule)
      (fun answer after => ∀ value, answer = some value → Answered request value after) past := by
  apply Program.follows_history (rule_of_unfinished fun _ same => Op.noConfusion same)
  intro reply
  cases reply with
  | noSocket =>
      intro value same
      cases same
  | failed =>
      intro value same
      cases same
  | closed =>
      apply Program.follows_history (rule_of_unfinished fun _ same => Op.noConfusion same)
      intro _ value same
      cases same
  | sent id => exact receiveAnswer_follows (.head _)

theorem connectCdp_follows :
    (connectCdp rounds preparation).Follows (.history job.rule) (fun _ _ => True) past :=
  (connectCdp_issues.follows_history (fun _ unfinished _ => rule_of_unfinished unfinished)
    past).mono fun _ _ _ => trivial

theorem sendCdp_follows :
    (sendCdp rounds preparation request).Follows (.history (Job.sendCdp request).rule)
      (fun _ _ => True) past := by
  have free {op : Op} {earlier : List (Event face)} (unfinished : op.Unfinished) :
      (Job.sendCdp request).rule earlier op := rule_of_unfinished unfinished
  -- both ways through the lock end with what the command has brought
  have ends {value : Option String} {earlier : List (Event face)}
      (answered : ∀ answer, value = some answer → Answered request answer earlier) :
      (do await .release; await (.finish value) : Handler Unit).Follows
        (.history (Job.sendCdp request).rule) (fun _ _ => True) earlier := by
    apply Program.follows_history (free fun _ same => Op.noConfusion same)
    intro _
    apply Program.follows_history
    case allowed =>
      cases value with
      | none => trivial
      | some value =>
          obtain ⟨id, sent, socket, received⟩ := answered value rfl
          exact ⟨request, rfl, id, .tail _ sent, socket, .tail _ received⟩
    case continues => exact fun _ => trivial
  apply Program.follows_history (free fun _ same => Op.noConfusion same)
  intro acquired
  cases acquired with
  | false =>
      apply Program.follows_history (free fun _ same => by cases same)
      exact fun _ => trivial
  | true =>
      apply Program.follows_history (free fun _ same => Op.noConfusion same)
      intro connected
      cases connected with
      | true => exact sendCdpOnOpenSocket_follows.bind fun value after answered => ends answered
      | false =>
          refine connectCdp_follows.bind fun ready after _ => ?_
          cases ready with
          | true => exact sendCdpOnOpenSocket_follows.bind fun value after answered => ends answered
          | false => exact ends fun _ same => by cases same

theorem Job.body_follows (job : Job) :
    (job.body rounds preparation).Follows (.history job.rule) (fun _ _ => True) [] := by
  have quiet {program : Handler Unit} (issues : program.Issues Op.Unfinished) :
      program.Follows (.history job.rule) (fun _ _ => True) [] :=
    (issues.follows_history (fun _ unfinished _ => rule_of_unfinished unfinished) []).mono
      fun _ _ _ => trivial
  cases job with
  | sendCdp request => exact sendCdp_follows
  | resetCdpConnection =>
      apply quiet
      refine ⟨fun _ same => Op.noConfusion same, fun acquired => ?_⟩
      cases acquired with
      | false => trivial
      | true =>
          refine ⟨fun _ same => Op.noConfusion same, fun _ => ?_⟩
          refine connectCdp_issues.bind fun _ => ?_
          exact ⟨fun _ same => Op.noConfusion same, fun _ => trivial⟩
  | stop => exact quiet stop_issues
  | ensureStarted =>
      apply quiet
      refine ⟨fun _ same => Op.noConfusion same, fun started => ?_⟩
      cases started with
      | true => trivial
      | false =>
          refine stop_issues.bind fun _ => ?_
          exact connectCdp_issues.bind fun _ => trivial
  | chromiumAnswers id outcome =>
      exact quiet ⟨fun _ same => Op.noConfusion same, fun _ => trivial⟩
  | chromiumEmits socket outcome =>
      exact quiet ⟨fun _ same => Op.noConfusion same, fun _ => trivial⟩

end Discipline

/-! ## What Chromium was asked and has answered -/

/-- The commands have different ids, and whatever has arrived with an id is the answer to it. -/
structure State.Consistent (state : State) : Prop where
  numbered : ∀ command ∈ state.commands, command.id ≤ state.cdpMessageId
  distinct : ∀ first ∈ state.commands, ∀ second ∈ state.commands,
    first.id = second.id → first = second
  arrived : ∀ socket, ∀ payload ∈ state.inbox socket, ∀ id, payload.id = some id →
    state.answers id = some payload.outcome

/-- Neither commands nor answers are taken back. -/
structure State.Extends (after before : State) : Prop where
  commands : ∀ command ∈ before.commands, command ∈ after.commands
  answers : ∀ id outcome, before.answers id = some outcome → after.answers id = some outcome
  cdpMessageId : before.cdpMessageId ≤ after.cdpMessageId

/-- What a completed await has told its handler. -/
def Tells (state : State) : (op : Op) → op.Reply → Prop
  | .send request, .sent id => ∃ socket, ⟨id, socket, request⟩ ∈ state.commands
  | .recv _, .message payload => ∀ id, payload.id = some id →
      state.answers id = some payload.outcome
  | _, _ => True

section Answers

variable {state after before : State}

theorem State.Extends.refl : state.Extends state :=
  ⟨fun _ listed => listed, fun _ _ answered => answered, Nat.le_refl _⟩

theorem Tells.extend (longer : after.Extends before) {op : Op} {reply : op.Reply}
    (tells : Tells before op reply) : Tells after op reply := by
  cases op with
  | send request =>
      cases reply with
      | sent id =>
          obtain ⟨socket, listed⟩ := tells
          exact ⟨socket, longer.commands _ listed⟩
      | _ => trivial
  | recv socket =>
      cases reply with
      | message payload => exact fun id own => longer.answers id _ (tells id own)
      | _ => trivial
  | _ => trivial

theorem State.Consistent.initial : State.initial.Consistent := by
  constructor
  case numbered =>
    intro command listed
    cases listed
  case distinct =>
    intro first listed
    cases listed
  case arrived =>
    intro socket payload listed
    cases listed

theorem State.mem_put {socket other : ℕ} {payload found : Payload}
    (listed : found ∈ (state.put socket payload).inbox other) :
    found = payload ∨ found ∈ state.inbox other := by
  change found ∈ Function.update state.inbox socket (state.inbox socket ++ [payload]) other
    at listed
  by_cases same : other = socket
  case pos =>
    subst same
    rw [Function.update_self, List.mem_append, List.mem_singleton] at listed
    exact listed.symm
  case neg =>
    rw [Function.update_of_ne same] at listed
    exact .inr listed

theorem State.Consistent.answer (consistent : state.Consistent) (id : ℕ) (outcome : Outcome) :
    (state.answer id outcome).Consistent ∧ (state.answer id outcome).Extends state := by
  rw [State.answer]
  split
  case h_2 => exact ⟨consistent, .refl⟩
  case h_1 command found unanswered =>
    have kept (other : ℕ) (earlier : Outcome) (answered : state.answers other = some earlier) :
        Function.update state.answers id (some outcome) other = some earlier := by
      rw [Function.update_of_ne, answered]
      intro same
      rw [same, unanswered] at answered
      cases answered
    refine ⟨⟨consistent.numbered, consistent.distinct, ?_⟩,
      fun _ listed => listed, kept, Nat.le_refl _⟩
    intro socket payload listed other own
    rcases mem_put listed with rfl | earlier
    · cases own
      exact Function.update_self ..
    · exact kept other _ (consistent.arrived socket payload earlier other own)

theorem State.Consistent.receive (consistent : state.Consistent) (socket : ℕ) :
    (state.receive socket).1.Consistent ∧ (state.receive socket).1.Extends state ∧
      Tells (state.receive socket).1 (.recv socket) (state.receive socket).2 := by
  rw [State.receive]
  split
  case h_1 => exact ⟨consistent, .refl, trivial⟩
  case h_2 payload rest waiting =>
    have first : payload ∈ state.inbox socket := by
      rw [waiting]
      exact .head rest
    refine ⟨⟨consistent.numbered, consistent.distinct, ?_⟩,
      ⟨fun _ listed => listed, fun _ _ answered => answered, Nat.le_refl _⟩,
      consistent.arrived socket payload first⟩
    intro other found listed
    by_cases same : other = socket
    case pos =>
      subst same
      refine consistent.arrived other found ?_
      rw [waiting]
      refine List.mem_cons_of_mem payload ?_
      simpa only [Function.update_self] using listed
    case neg =>
      exact consistent.arrived other found (by simpa only [Function.update_of_ne same] using listed)

theorem State.Consistent.issue (consistent : state.Consistent) (socket : ℕ) (request : Request) :
    (state.issue socket request).Consistent ∧ (state.issue socket request).Extends state := by
  have fresh (command : Command) (listed : command ∈ state.commands) :
      command.id ≠ state.cdpMessageId + 1 :=
    Nat.ne_of_lt (Nat.lt_succ_of_le (consistent.numbered command listed))
  refine ⟨⟨?_, ?_, consistent.arrived⟩,
    fun _ listed => .tail _ listed, fun _ _ answered => answered, Nat.le_succ _⟩
  case refine_1 =>
    intro command listed
    rcases List.mem_cons.mp listed with rfl | earlier
    · exact Nat.le_refl _
    · exact Nat.le_succ_of_le (consistent.numbered command earlier)
  case refine_2 =>
    intro first firstListed second secondListed same
    rcases List.mem_cons.mp firstListed with rfl | firstListed
    · rcases List.mem_cons.mp secondListed with rfl | secondListed
      · rfl
      · exact absurd same.symm (fresh second secondListed)
    · rcases List.mem_cons.mp secondListed with rfl | secondListed
      · exact absurd same (fresh first firstListed)
      · exact consistent.distinct first firstListed second secondListed same

/-- The lock and the current socket say nothing of commands and answers. -/
theorem State.Consistent.beside (consistent : state.Consistent) (inbox : after.inbox = state.inbox)
    (commands : after.commands = state.commands) (answers : after.answers = state.answers)
    (counter : after.cdpMessageId = state.cdpMessageId) :
    after.Consistent ∧ after.Extends state := by
  obtain ⟨numbered, distinct, arrived⟩ := consistent
  rw [← commands, ← counter] at numbered
  rw [← commands] at distinct
  rw [← inbox, ← answers] at arrived
  refine ⟨⟨numbered, distinct, arrived⟩, ?_, ?_, Nat.le_of_eq counter.symm⟩
  · rw [commands]
    exact fun _ listed => listed
  · rw [answers]
    exact fun _ _ answered => answered

/-- An event has no id. -/
theorem State.Consistent.emit (consistent : state.Consistent) (socket : ℕ) (outcome : Outcome) :
    (state.put socket ⟨none, outcome⟩).Consistent ∧
      (state.put socket ⟨none, outcome⟩).Extends state := by
  refine ⟨⟨consistent.numbered, consistent.distinct, ?_⟩,
    fun _ listed => listed, fun _ _ answered => answered, Nat.le_refl _⟩
  intro other payload listed id own
  rcases mem_put listed with rfl | earlier
  · cases own
  · exact consistent.arrived other payload earlier id own

/-- What an operation changes, and what its reply says of the state after it. -/
theorem State.Consistent.exec (consistent : state.Consistent) (choice : Choice) (op : Op) :
    (State.exec choice op state).1.Consistent ∧ (State.exec choice op state).1.Extends state ∧
      Tells (State.exec choice op state).1 op (State.exec choice op state).2 := by
  cases op with
  | acquire =>
      rw [State.exec]
      split
      case isTrue => exact and_assoc.mp ⟨consistent.beside rfl rfl rfl rfl, trivial⟩
      case isFalse => exact ⟨consistent, .refl, trivial⟩
  | connect =>
      rw [State.exec]
      split
      case isTrue => exact and_assoc.mp ⟨consistent.beside rfl rfl rfl rfl, trivial⟩
      case isFalse => exact ⟨consistent, .refl, trivial⟩
  | release => exact and_assoc.mp ⟨consistent.beside rfl rfl rfl rfl, trivial⟩
  | closeSocket => exact and_assoc.mp ⟨consistent.beside rfl rfl rfl rfl, trivial⟩
  | forgetSocket => exact and_assoc.mp ⟨consistent.beside rfl rfl rfl rfl, trivial⟩
  | send request =>
      simp only [State.exec]
      split
      case h_1 => exact ⟨consistent, .refl, trivial⟩
      case h_2 socket current =>
        obtain ⟨kept, longer⟩ := consistent.issue socket request
        refine ⟨kept, longer, ?_⟩
        cases choice with
        | proceeds => exact ⟨socket, .head _⟩
        | closes => trivial
        | fails => trivial
  | recv socket =>
      cases choice with
      | proceeds => exact consistent.receive socket
      | closes => exact ⟨consistent, .refl, trivial⟩
      | fails => exact ⟨consistent, .refl, trivial⟩
  | answer id outcome => exact and_assoc.mp ⟨consistent.answer id outcome, trivial⟩
  | emit socket outcome => exact and_assoc.mp ⟨consistent.emit socket outcome, trivial⟩
  | _ => exact ⟨consistent, .refl, trivial⟩

end Answers

/-! ## Whose command it is -/

section Runs

variable {rounds : ℕ} {preparation : List Request}

/-- Every reply that a handler has received is still true. -/
def Informed (state : State) (thread : Thread (controller rounds preparation)) : Prop :=
  ∀ (op : Op) (reply : op.Reply), (⟨op, reply⟩ : Event face) ∈ thread.past → Tells state op reply

theorem inductive_informed :
    Inductive (S := controller rounds preparation) anyAction State.Consistent Informed := by
  constructor
  case start =>
    intro config job _ _ _ op reply listed
    cases listed
  case resume =>
    intro config index choice thread op next holds _ found _
    obtain ⟨kept, longer, tells⟩ := holds.state.exec choice op
    refine ⟨kept, ?_, ?_⟩
    case refine_1 =>
      intro other reply listed
      rcases List.mem_cons.mp listed with same | earlier
      · cases same
        exact tells
      · exact (holds.threads thread (List.mem_of_getElem? found) other reply earlier).extend longer
    case refine_2 =>
      intro position other located _ asked reply listed
      exact (holds.threads other (List.mem_of_getElem? located) asked reply listed).extend longer

variable {before after final : Config (controller rounds preparation)}
  {thread : Thread (controller rounds preparation)}

/-- The handler has sent the command with the id. -/
def Sent (id : ℕ) (thread : Thread (controller rounds preparation)) : Prop :=
  ∃ request, (⟨.send request, .sent id⟩ : Event face) ∈ thread.past

/-- No two handlers have sent commands with one id, and unused ids are larger. -/
structure Owned (config : Config (controller rounds preparation)) : Prop where
  numbered : ∀ (index : ℕ) (thread : Thread (controller rounds preparation)) (id : ℕ),
    config.threads[index]? = some thread → Sent id thread → id ≤ State.cdpMessageId config.state
  unique : ∀ (first second : ℕ) (left right : Thread (controller rounds preparation)) (id : ℕ),
    config.threads[first]? = some left → config.threads[second]? = some right →
    Sent id left → Sent id right → first = second

/-- A command that is sent takes the next id. -/
theorem State.sent_exec {state : State} {choice : Choice} {op : Op} {request : Request} {id : ℕ}
    (sent : (⟨op, (State.exec choice op state).2⟩ : Event face) = ⟨.send request, .sent id⟩) :
    id = state.cdpMessageId + 1 ∧ (State.exec choice op state).1.cdpMessageId = id := by
  obtain ⟨rfl, same⟩ := Sigma.mk.inj sent
  have reply := eq_of_heq same
  simp only [State.exec] at reply ⊢
  cases current : state.cdpWs with
  | none =>
      rw [current] at reply
      cases reply
  | some socket =>
      rw [current] at reply
      cases choice with
      | proceeds =>
          cases reply
          exact ⟨rfl, rfl⟩
      | closes => cases reply
      | fails => cases reply

/-- At most one handler sends a command in a step, and with the next id. -/
theorem sent_of_step {action : Action (controller rounds preparation)}
    (stepped : before.step action = some after) :
    ∃ position, ∀ (index : ℕ) (thread : Thread (controller rounds preparation)) (id : ℕ),
      after.threads[index]? = some thread → Sent id thread →
      (∃ old, before.threads[index]? = some old ∧ Sent id old) ∨
        index = position ∧ id = State.cdpMessageId before.state + 1 ∧
          State.cdpMessageId after.state = id := by
  obtain ⟨job, rfl, -, rfl⟩ | ⟨position, choice, old, op, next, rfl, found, suspended, rfl⟩ :=
    Config.step_cases stepped
  case inl =>
    refine ⟨0, fun index thread id located sent => .inl ?_⟩
    rw [List.getElem?_append] at located
    split at located
    case isTrue => exact ⟨thread, located, sent⟩
    case isFalse =>
      obtain ⟨request, listed⟩ := sent
      cases List.mem_singleton.mp (List.mem_of_getElem? located)
      cases listed
  case inr =>
    refine ⟨position, fun index thread id located sent => ?_⟩
    by_cases here : position = index
    case neg =>
      rw [List.getElem?_set_ne here] at located
      exact .inl ⟨thread, located, sent⟩
    case pos =>
      subst here
      rw [List.getElem?_set_self (List.getElem?_eq_some_iff.mp found).1] at located
      cases located
      obtain ⟨request, listed⟩ := sent
      rcases List.mem_cons.mp listed with same | earlier
      · exact .inr ⟨rfl, State.sent_exec same.symm⟩
      · exact .inl ⟨old, found, request, earlier⟩

theorem Owned.step (owned : Owned before) {action : Action (controller rounds preparation)}
    (consistent : State.Consistent before.state) (stepped : before.step action = some after) :
    Owned after := by
  have later : State.cdpMessageId before.state ≤ State.cdpMessageId after.state := by
    obtain ⟨job, rfl, -, rfl⟩ | ⟨position, choice, old, op, next, rfl, -, -, rfl⟩ :=
      Config.step_cases stepped
    · exact Nat.le_refl _
    · exact (consistent.exec choice op).2.1.cdpMessageId
  obtain ⟨position, origins⟩ := sent_of_step stepped
  constructor
  case numbered =>
    intro index thread id found sent
    rcases origins index thread id found sent with ⟨old, located, earlier⟩ | ⟨-, -, newest⟩
    · exact Nat.le_trans (owned.numbered index old id located earlier) later
    · exact Nat.le_of_eq newest.symm
  case unique =>
    intro first second left right id foundLeft foundRight sentLeft sentRight
    rcases origins first left id foundLeft sentLeft with ⟨old, located, earlier⟩ | ⟨here, fresh, -⟩
    · rcases origins second right id foundRight sentRight with ⟨other, there, also⟩ | ⟨-, fresh, -⟩
      · exact owned.unique first second old other id located there earlier also
      · have bound := owned.numbered first old id located earlier
        omega
    · rcases origins second right id foundRight sentRight with ⟨other, there, also⟩ | ⟨there, -⟩
      · have bound := owned.numbered second other id there also
        omega
      · exact here.trans there.symm

variable (run : Run (S := controller rounds preparation) anyAction ⟨.initial, []⟩ final)

include run

theorem satisfies_of_run : final.Satisfies State.Consistent Informed :=
  inductive_informed.run run ⟨.initial, by simp⟩

theorem owned_of_run : Owned final := by
  have initially : Owned (⟨.initial, []⟩ : Config (controller rounds preparation)) := by
    constructor
    case numbered =>
      intro index thread id found
      cases found
    case unique =>
      intro first second left right id found
      cases found
  have consistent (config : Config (controller rounds preparation))
      (reached : Run (S := controller rounds preparation) anyAction ⟨.initial, []⟩ config) :
      State.Consistent config.state :=
    (satisfies_of_run reached).state
  refine (run.assuming consistent).invariant initially ?_
  intro before after action owned permitted stepped
  exact owned.step permitted.2 stepped

end Runs

/-- A call that returns a value has Chromium's answer to a command that it has sent itself, with
the method and the parameters that it was called with and an id that no other call has used. -/
theorem answers_own_command {rounds : ℕ} {preparation : List Request}
    {final : Config (controller rounds preparation)}
    (run : Run (S := controller rounds preparation) anyAction ⟨.initial, []⟩ final)
    {index : ℕ} {thread : Thread (controller rounds preparation)}
    (found : final.threads[index]? = some thread) {value : String}
    (returned : (⟨.finish (some value), ()⟩ : Event face) ∈ thread.past) :
    ∃ request id, thread.job = .sendCdp request ∧
      (⟨.send request, .sent id⟩ : Event face) ∈ thread.past ∧
      (∃ socket, ∀ command : Command, command ∈ State.commands final.state ∧ command.id = id ↔
        command = ⟨id, socket, request⟩) ∧
      State.answers final.state id = some (.result value) ∧
      ∀ (other : ℕ) (elsewhere : Thread (controller rounds preparation)),
        final.threads[other]? = some elsewhere → Sent id elsewhere → other = index := by
  obtain ⟨consistent, informed⟩ := satisfies_of_run run
  have member := List.mem_of_getElem? found
  have told := informed thread member
  obtain ⟨past, earlier, request, called, id, sent, socket, received⟩ :=
    (run.keeps Job.body_follows thread member).of_mem returned
  have answered := told _ _ (earlier.subset received) id rfl
  obtain ⟨carrier, issued⟩ := told _ _ (earlier.subset sent)
  refine ⟨request, id, called, earlier.subset sent, ⟨carrier, fun command => ?_⟩, answered, ?_⟩
  case refine_1 =>
    constructor
    case mp =>
      intro own
      exact consistent.distinct command own.1 _ issued own.2
    case mpr =>
      intro same
      rw [same]
      exact ⟨issued, rfl⟩
  case refine_2 =>
    intro other elsewhere located also
    exact (owned_of_run run).unique other index elsewhere thread id located found also
      ⟨request, earlier.subset sent⟩

/-- The operation returns this value. -/
def Op.returns (value : String) : Op → Bool
  | .finish (some returned) => returned = value
  | _ => false

theorem mem_of_returns {value : String} {past : List (Event face)}
    (returns : past.any (fun event => Op.returns value event.1) = true) :
    (⟨.finish (some value), ()⟩ : Event face) ∈ past := by
  obtain ⟨⟨op, reply⟩, listed, same⟩ := List.any_eq_true.mp returns
  cases op with
  | finish returned =>
      cases returned with
      | none => cases same
      | some returned =>
          cases of_decide_eq_true same
          exact listed
  | _ => cases same

/-- A handler completes awaits that all succeed. -/
def proceed (index count : ℕ) : List (Action (controller 2 [])) :=
  Action.resumes (S := controller 2 []) index count Choice.proceeds

/-- The first call connects, sends its command and is cancelled.  Chromium answers it when the
second call is already waiting. -/
def cancelledCall : List (Action (controller 2 [])) :=
  .start (.sendCdp ⟨"Page.reload", "first"⟩) :: .start (.sendCdp ⟨"Page.reload", "second"⟩) ::
    proceed 0 6 ++ .resume 0 .fails :: proceed 0 2 ++ proceed 1 4 ++
    .start (.chromiumAnswers 1 (.result "first")) :: proceed 2 1 ++
    .start (.chromiumAnswers 2 (.result "second")) :: proceed 3 1 ++ proceed 1 5

theorem answers_own_command_after_cancelled :
    ∃ (final : Config (controller 2 [])) (thread : Thread (controller 2 [])) (id : ℕ),
      final.threads[1]? = some thread ∧ Sent id thread ∧
        State.answers final.state id = some (.result "second") := by
  obtain ⟨final, run, seen⟩ := Run.exists_of_actions (S := controller 2 []) ⟨.initial, []⟩
    cancelledCall (fun final => final.threads[1]?.any fun thread =>
      thread.past.any fun event => Op.returns "second" event.1) (by decide)
  obtain ⟨thread, found, returns⟩ := (Option.any_eq_true _ _).mp seen
  obtain ⟨request, id, -, sent, -, answered, -⟩ :=
    answers_own_command run found (mem_of_returns returns)
  exact ⟨final, thread, id, found, ⟨request, sent⟩, answered⟩

end RemoteBrowser.Cdp
