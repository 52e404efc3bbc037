import RemoteBrowser.Async.System

/-!
# Typestate of handlers

A monitor watches the awaits of one handler.  It carries a state, says which
operations may be issued in it and how a reply changes it; a reply that it does
not follow releases the handler from all further obligations.

`Program.Follows` is the weakest precondition of a program for a monitor, so a
handler is checked against it function by function.  Since monitors are
deterministic, the monitor state of a running handler is a function of its
completed awaits, and every handler of every run obeys the monitor that its body
follows.
-/

namespace RemoteBrowser.Async

/-- What a handler may issue in each state, and the state after each reply. -/
structure Monitor (face : Interface) (σ : Type) where
  allows : σ → face.Op → Prop
  next : σ → (op : face.Op) → face.Reply op → Option σ

namespace Program

variable {face : Interface} {σ α β : Type} {monitor : Monitor face σ}

/-- Started in the given monitor state, the program issues only what the monitor
allows and returns in a state that satisfies `post`. -/
def Follows (monitor : Monitor face σ) (post : α → σ → Prop) : Program face α → σ → Prop
  | .pure value, current => post value current
  | .request op next, current => monitor.allows current op ∧
      ∀ reply after, monitor.next current op reply = some after →
        (next reply).Follows monitor post after
  | .stalled, _ => True

@[simp] theorem follows_pure {post : α → σ → Prop} {value : α} {current : σ} :
    (.pure value : Program face α).Follows monitor post current ↔ post value current := Iff.rfl

@[simp] theorem follows_request {post : α → σ → Prop} {op : face.Op}
    {next : face.Reply op → Program face α} {current : σ} :
    (Program.request op next).Follows monitor post current ↔
      monitor.allows current op ∧
        ∀ reply after, monitor.next current op reply = some after →
          (next reply).Follows monitor post after := Iff.rfl

/-- The rule of consequence. -/
theorem Follows.mono {post weaker : α → σ → Prop} {program : Program face α} {current : σ}
    (follows : program.Follows monitor post current)
    (implies : ∀ value after, post value after → weaker value after) :
    program.Follows monitor weaker current := by
  induction program generalizing current with
  | pure value => exact implies value current follows
  | stalled => trivial
  | request op next ih =>
      exact ⟨follows.1, fun reply after moved => ih reply (follows.2 reply after moved)⟩

/-- The rule of sequential composition. -/
theorem follows_bind {post : β → σ → Prop} {program : Program face α}
    {rest : α → Program face β} {current : σ} :
    (program >>= rest).Follows monitor post current ↔
      program.Follows monitor (fun value after => (rest value).Follows monitor post after)
        current := by
  induction program generalizing current with
  | pure value => exact Iff.rfl
  | stalled => exact Iff.rfl
  | request op next ih =>
      simp only [request_bind, follows_request]
      exact and_congr_right fun _ => forall_congr' fun reply => forall_congr' fun after =>
        forall_congr' fun _ => ih reply

/-- Composition through an intermediate assertion. -/
theorem Follows.bind {middle : α → σ → Prop} {post : β → σ → Prop}
    {program : Program face α} {rest : α → Program face β} {current : σ}
    (first : program.Follows monitor middle current)
    (second : ∀ value after, middle value after → (rest value).Follows monitor post after) :
    (program >>= rest).Follows monitor post current :=
  follows_bind.mpr (first.mono second)

/-- The rule of iteration: every round keeps the invariant. -/
theorem Follows.forEach {inv : σ → Prop} {values : List α}
    {action : α → Program face Unit} {current : σ} (initially : inv current)
    (round : ∀ value ∈ values, ∀ before, inv before →
      (action value).Follows monitor (fun _ after => inv after) before) :
    (Program.forEach values action).Follows monitor (fun _ after => inv after) current := by
  induction values generalizing current with
  | nil => exact initially
  | cons value rest ih =>
      refine (round value (by simp) current initially).bind fun _ after kept => ih kept ?_
      exact fun other member => round other (by simp [member])

/-- A program that issues only what is always allowed follows the monitor. -/
theorem Issues.follows {kind : face.Op → Prop} {program : Program face α}
    (issues : program.Issues kind)
    (always : ∀ op, kind op → ∀ current, monitor.allows current op) (current : σ) :
    program.Follows monitor (fun _ _ => True) current := by
  induction program generalizing current with
  | pure value => trivial
  | stalled => trivial
  | request op next ih =>
      exact ⟨always op issues.1 current, fun reply after _ => ih reply (issues.2 reply) after⟩

/-- A program that issues only what the monitor ignores leaves its state alone. -/
theorem Issues.follows_unchanged {kind : face.Op → Prop} {program : Program face α}
    (issues : program.Issues kind) (current : σ)
    (ignored : ∀ op, kind op → monitor.allows current op ∧
      ∀ reply after, monitor.next current op reply = some after → after = current) :
    program.Follows monitor (fun _ after => after = current) current := by
  induction program with
  | pure value => rfl
  | stalled => trivial
  | request op next ih =>
      refine ⟨(ignored op issues.1).1, fun reply after moved => ?_⟩
      rw [(ignored op issues.1).2 reply after moved]
      exact ih reply (issues.2 reply)

end Program

namespace Monitor

variable {face : Interface} {σ : Type}

/-- The monitor state after the completed awaits of a handler (latest first), or
none once the monitor has released it. -/
def after (monitor : Monitor face σ) (initial : Option σ) :
    List (Event face) → Option σ
  | [] => initial
  | ⟨op, reply⟩ :: past => (monitor.after initial past).bind fun current =>
      monitor.next current op reply

@[simp] theorem after_cons (monitor : Monitor face σ) (initial : Option σ)
    (op : face.Op) (reply : face.Reply op) (past : List (Event face)) :
    monitor.after initial (⟨op, reply⟩ :: past) =
      (monitor.after initial past).bind fun current => monitor.next current op reply := rfl

/-- A monitor that follows every reply never releases a handler. -/
theorem isSome_after {monitor : Monitor face σ} {initial : Option σ}
    (follows : ∀ current op reply, (monitor.next current op reply).isSome = true)
    (watched : initial.isSome = true) (past : List (Event face)) :
    (monitor.after initial past).isSome = true := by
  induction past with
  | nil => exact watched
  | cons event past ih =>
      obtain ⟨op, reply⟩ := event
      obtain ⟨current, reached⟩ := Option.isSome_iff_exists.mp ih
      rw [after_cons, reached]
      exact follows current op reply

/-- The monitor that remembers all completed awaits (latest first), for a rule on what may
be issued after them. -/
def history (rule : List (Event face) → face.Op → Prop) : Monitor face (List (Event face)) where
  allows := rule
  next := fun past op reply => some (⟨op, reply⟩ :: past)

theorem after_history (rule : List (Event face) → face.Op → Prop) (past : List (Event face)) :
    (history rule).after (some []) past = some past := by
  induction past with
  | nil => rfl
  | cons event past ih =>
      rw [after_cons, ih]
      rfl

end Monitor

/-- What a program awaits first under the rule, and how it goes on. -/
theorem Program.follows_history {face : Interface} {α : Type}
    {rule : List (Event face) → face.Op → Prop} {post : α → List (Event face) → Prop}
    {op : face.Op} {next : face.Reply op → Program face α} {past : List (Event face)}
    (allowed : rule past op)
    (continues : ∀ reply, (next reply).Follows (.history rule) post (⟨op, reply⟩ :: past)) :
    (Program.request op next).Follows (.history rule) post past := by
  refine ⟨allowed, fun reply after moved => ?_⟩
  cases moved
  exact continues reply

/-- A program that issues only what the rule leaves free adds to the completed awaits. -/
theorem Program.Issues.follows_history {face : Interface} {α : Type} {kind : face.Op → Prop}
    {rule : List (Event face) → face.Op → Prop} {program : Program face α}
    (issues : program.Issues kind) (free : ∀ op, kind op → ∀ past, rule past op)
    (past : List (Event face)) :
    program.Follows (.history rule) (fun _ after => past <:+ after) past := by
  induction program generalizing past with
  | pure value => exact List.suffix_refl past
  | stalled => trivial
  | request op next ih =>
      refine Program.follows_history (free op issues.1 past) fun reply => ?_
      exact (ih reply (issues.2 reply) _).mono fun _ after longer =>
        (List.suffix_cons _ past).trans longer

variable {S : System} {σ : Type}

/-- A started handler continues as its monitor state demands. -/
def Thread.Obeys (monitor : Monitor S.face σ) (initial : S.Job → Option σ)
    (post : σ → Prop) (thread : Thread S) : Prop :=
  ∀ current, monitor.after (initial thread.job) thread.past = some current →
    thread.program.Follows monitor (fun _ => post) current

/-- Every handler of every run obeys the monitor that its body follows. -/
theorem Run.obeys {allowed : Config S → Action S → Prop} {monitor : Monitor S.face σ}
    {initial : S.Job → Option σ} {post : σ → Prop}
    (bodies : ∀ job current, initial job = some current →
      (S.body job).Follows monitor (fun _ => post) current)
    {start final : Config S} (run : Run allowed start final)
    (started : ∀ thread ∈ start.threads, thread.Obeys monitor initial post) :
    ∀ thread ∈ final.threads, thread.Obeys monitor initial post := by
  refine run.each (fun _ job _ current known => bodies job current known) ?_ started
  intro config index choice thread op next _ _ suspended obeys current known
  simp only [Thread.advance_job, Thread.advance_past, Monitor.after_cons,
    Option.bind_eq_some_iff] at known
  obtain ⟨before, reached, moved⟩ := known
  have follows := obeys before reached
  rw [suspended] at follows
  exact follows.2 _ current moved

/-- An obedient handler issues what its monitor state allows. -/
theorem Thread.Obeys.allows {monitor : Monitor S.face σ} {initial : S.Job → Option σ}
    {post : σ → Prop} {thread : Thread S} (obeys : thread.Obeys monitor initial post)
    {current : σ} (known : monitor.after (initial thread.job) thread.past = some current)
    {op : S.face.Op} {next : S.face.Reply op → Program S.face Unit}
    (suspended : thread.program = .request op next) : monitor.allows current op := by
  have follows := obeys current known
  rw [suspended] at follows
  exact follows.1

/-- An obedient handler that has returned has met its obligations. -/
theorem Thread.Obeys.post_of_finished {monitor : Monitor S.face σ}
    {initial : S.Job → Option σ} {post : σ → Prop} {thread : Thread S}
    (obeys : thread.Obeys monitor initial post) {current : σ}
    (known : monitor.after (initial thread.job) thread.past = some current)
    (finished : thread.program.Finished) : post current := by
  have follows := obeys current known
  cases returned : thread.program with
  | pure value => rwa [returned] at follows
  | request op next => simp [returned] at finished
  | stalled => simp [returned] at finished

/-! ## The monitor states of all handlers -/

section States

variable (monitor : Monitor S.face σ) (initial : S.Job → Option σ)

/-- The monitor state of a handler. -/
def Thread.watched (thread : Thread S) : Option σ :=
  monitor.after (initial thread.job) thread.past

/-- The monitor states of the handlers by position. -/
def Config.watched (config : Config S) (index : Nat) : Option σ :=
  config.threads[index]?.bind (Thread.watched monitor initial)

variable {monitor initial}

theorem Config.watched_eq_some {config : Config S} {index : Nat} {current : σ} :
    config.watched monitor initial index = some current ↔
      ∃ thread, config.threads[index]? = some thread ∧
        thread.watched monitor initial = some current :=
  Option.bind_eq_some_iff

theorem Config.watched_of_getElem? {config : Config S} {index : Nat} {thread : Thread S}
    (found : config.threads[index]? = some thread) :
    config.watched monitor initial index = thread.watched monitor initial := by
  simp [Config.watched, found]

theorem Thread.watched_advance (thread : Thread S) (op : S.face.Op) (reply : S.face.Reply op)
    (program : Program S.face Unit) :
    (thread.advance op reply program).watched monitor initial =
      (thread.watched monitor initial).bind fun current => monitor.next current op reply := rfl

/-- What every allowed operation keeps holds between the monitor state and the completed awaits
of every handler. -/
theorem Run.recorded {allowed : Config S → Action S → Prop} {post : σ → Prop}
    {record : σ → List (Event S.face) → Prop}
    (bodies : ∀ job current, initial job = some current →
      (S.body job).Follows monitor (fun _ => post) current)
    (opened : ∀ job current, initial job = some current → record current [])
    (kept : ∀ current op reply after past, record current past → monitor.allows current op →
      monitor.next current op reply = some after → record after (⟨op, reply⟩ :: past))
    {start : S.State} {final : Config S} (run : Run allowed ⟨start, []⟩ final) :
    ∀ thread ∈ final.threads, ∀ current, thread.watched monitor initial = some current →
      record current thread.past := by
  have obeying : ∀ config, Run allowed ⟨start, []⟩ config →
      ∀ thread ∈ config.threads, thread.Obeys monitor initial post :=
    fun config reached => reached.obeys bodies (by simp)
  refine (run.assuming obeying).each (fun _ job _ current known => opened job current known) ?_
    (by simp)
  intro config index choice thread op next permitted found suspended holds current known
  rw [Thread.watched_advance] at known
  obtain ⟨before, reached, moved⟩ := Option.bind_eq_some_iff.mp known
  have obeys := permitted.2 thread (List.mem_of_getElem? found)
  exact kept before op _ current thread.past (holds before reached)
    (obeys.allows reached suspended) moved

theorem Config.watched_append (state : S.State) (threads : List (Thread S)) (thread : Thread S) :
    Config.watched monitor initial ⟨state, threads ++ [thread]⟩ =
      Function.update (Config.watched monitor initial ⟨state, threads⟩) threads.length
        (thread.watched monitor initial) := by
  funext index
  by_cases last : index = threads.length
  · subst last
    simp [Config.watched]
  · rw [Function.update_of_ne last]
    rcases Nat.lt_or_gt_of_ne last with inside | beyond
    · simp [Config.watched, List.getElem?_append_left inside]
    · have outside : (threads ++ [thread])[index]? = none :=
        List.getElem?_eq_none (by simp; omega)
      simp [Config.watched, outside, List.getElem?_eq_none (Nat.le_of_lt beyond)]

theorem Config.watched_set (state changed : S.State) {threads : List (Thread S)} {index : Nat}
    {old : Thread S} (found : threads[index]? = some old) (thread : Thread S) :
    Config.watched monitor initial ⟨changed, threads.set index thread⟩ =
      Function.update (Config.watched monitor initial ⟨state, threads⟩) index
        (thread.watched monitor initial) := by
  funext position
  by_cases same : position = index
  · subst same
    simp [Config.watched, (List.getElem?_eq_some_iff.mp found).1]
  · rw [Function.update_of_ne same]
    simp [Config.watched, List.getElem?_set_ne (Ne.symm same)]

/-- A handler whose monitor state allows nothing any more keeps that state. -/
theorem Config.watched_step_of_done {post : σ → Prop} {before after : Config S}
    {action : Action S} (obeys : ∀ thread ∈ before.threads, thread.Obeys monitor initial post)
    (stepped : before.step action = some after) {index : Nat} {current : σ}
    (located : before.watched monitor initial index = some current)
    (done : ∀ op, ¬monitor.allows current op) :
    after.watched monitor initial index = some current := by
  obtain ⟨thread, found, known⟩ := Config.watched_eq_some.mp located
  obtain ⟨job, rfl, -, rfl⟩ | ⟨position, choice, old, op, next, rfl, resumed, suspended, rfl⟩ :=
    Config.step_cases stepped
  · have inside : index < before.threads.length := (List.getElem?_eq_some_iff.mp found).1
    rw [Config.watched_append before.state, Function.update_of_ne (Nat.ne_of_lt inside)]
    exact located
  · rw [Config.watched_set before.state _ resumed]
    have different : index ≠ position := by
      rintro rfl
      cases found.symm.trans resumed
      exact done op ((obeys thread (List.mem_of_getElem? found)).allows known suspended)
    rw [Function.update_of_ne different]
    exact located

/-- A relation between the shared state and the monitor states of all handlers, kept by
the start of a handler, by an allowed operation of a watched handler, and by the
operations of the others. -/
structure Watch (monitor : Monitor S.face σ) (initial : S.Job → Option σ)
    (allowed : Config S → Action S → Prop) (ignored : S.face.Op → Prop)
    (relation : S.State → (Nat → Option σ) → Prop) : Prop where
  start : ∀ (config : Config S) index job,
    relation config.state (config.watched monitor initial) →
    config.watched monitor initial index = none → allowed config (.start job) →
    S.canStart config.state job = true →
    relation config.state
      (Function.update (config.watched monitor initial) index (initial job))
  resume : ∀ (config : Config S) index choice op current,
    relation config.state (config.watched monitor initial) →
    config.watched monitor initial index = some current → monitor.allows current op →
    config.awaits index = some op → allowed config (.resume index choice) →
    relation (S.exec choice op config.state).1
      (Function.update (config.watched monitor initial) index
        (monitor.next current op (S.exec choice op config.state).2))
  other : ∀ state states choice op, relation state states → ignored op →
    relation (S.exec choice op state).1 states

/-- The shared state and the monitor states are so related. -/
def Config.Related (monitor : Monitor S.face σ) (initial : S.Job → Option σ)
    (relation : S.State → (Nat → Option σ) → Prop) (config : Config S) : Prop :=
  relation config.state (config.watched monitor initial)

/-- Such a relation holds throughout every run of bodies that follow the monitor, or else
issue only what the relation ignores. -/
theorem Watch.run {allowed : Config S → Action S → Prop} {ignored : S.face.Op → Prop}
    {relation : S.State → (Nat → Option σ) → Prop} {post : σ → Prop}
    (watch : Watch monitor initial allowed ignored relation)
    (bodies : ∀ job current, initial job = some current →
      (S.body job).Follows monitor (fun _ => post) current)
    (others : ∀ job, (S.body job).Issues fun op => initial job = none → ignored op)
    (follows : ∀ current op reply, (monitor.next current op reply).isSome = true)
    {start : S.State} {final : Config S} (run : Run allowed ⟨start, []⟩ final)
    (initially : relation start fun _ => none) :
    final.Related monitor initial relation := by
  have obeying : ∀ config, Run allowed ⟨start, []⟩ config →
      (∀ thread ∈ config.threads, thread.Obeys monitor initial post) ∧
      ∀ thread ∈ config.threads, thread.program.Issues fun op =>
        initial thread.job = none → ignored op := by
    intro config reached
    constructor
    · exact reached.obeys bodies (by simp)
    · exact reached.issues (fun _ job _ => others job) (by simp)
  have unwatched : ∀ thread : Thread S, thread.watched monitor initial = none →
      initial thread.job = none := by
    intro thread without
    cases opened : initial thread.job with
    | none => rfl
    | some current =>
        have watched := Monitor.isSome_after follows (Option.isSome_of_eq_some opened) thread.past
        rw [show monitor.after (initial thread.job) thread.past = none from without]
          at watched
        cases watched
  have empty : Config.Related monitor initial relation ⟨start, []⟩ := initially
  apply (run.assuming obeying).invariant empty
  intro before after action holds permitted stepped
  obtain ⟨job, rfl, enabled, rfl⟩ | ⟨index, choice, thread, op, next, rfl, found, suspended,
    rfl⟩ := Config.step_cases stepped
  · unfold Config.Related
    rw [Config.watched_append before.state]
    exact watch.start before _ job holds (by simp [Config.watched]) permitted.1 enabled
  · have member := List.mem_of_getElem? found
    have located : before.watched monitor initial index = thread.watched monitor initial :=
      Config.watched_of_getElem? found
    unfold Config.Related
    rw [Config.watched_set before.state _ found, Thread.watched_advance]
    cases known : thread.watched monitor initial with
    | none =>
        have issues := permitted.2.2 thread member
        rw [suspended] at issues
        rw [Option.bind_none, ← known, ← located, Function.update_eq_self]
        exact watch.other _ _ choice op holds (issues.1 (unwatched thread known))
    | some current =>
        exact watch.resume before index choice op current holds (located.trans known)
          ((permitted.2.1 thread member).allows known suspended)
          (Config.awaits_eq_some found suspended) permitted.1

end States

/-! ## Rules that depend on the job -/

/-- A program whose operations the rule leaves free once the given awaits have completed. -/
theorem Program.Issues.follows_history_from {face : Interface} {α : Type} {kind : face.Op → Prop}
    {rule : List (Event face) → face.Op → Prop} {program : Program face α}
    {past : List (Event face)} (issues : program.Issues kind)
    (free : ∀ op, kind op → ∀ after, past <:+ after → rule after op) :
    program.Follows (.history rule) (fun _ after => past <:+ after) past := by
  induction program generalizing past with
  | pure value => exact List.suffix_refl past
  | stalled => trivial
  | request op next ih =>
      apply Program.follows_history (free op issues.1 past (List.suffix_refl past))
      intro reply
      have longer : past <:+ ⟨op, reply⟩ :: past := List.suffix_cons _ past
      refine (ih reply (issues.2 reply) fun other issued after further => ?_).mono ?_
      · exact free other issued after (longer.trans further)
      · exact fun _ after further => longer.trans further

/-- All operations of a handler followed the rule of its job, and those to come will. -/
structure Thread.Keeps {S : System} (rule : S.Job → List (Event S.face) → S.face.Op → Prop)
    (thread : Thread S) : Prop where
  follows : thread.program.Follows (.history (rule thread.job)) (fun _ _ => True) thread.past
  followed : ∀ op reply past, (⟨op, reply⟩ :: past : List (Event S.face)) <:+ thread.past →
    rule thread.job past op

namespace Thread.Keeps

variable {S : System} {rule : S.Job → List (Event S.face) → S.face.Op → Prop} {thread : Thread S}

theorem allows (keeps : thread.Keeps rule) {op : S.face.Op}
    {next : S.face.Reply op → Program S.face Unit} (suspended : thread.program = .request op next) :
    rule thread.job thread.past op := by
  have follows := keeps.follows
  rw [suspended] at follows
  exact follows.1

theorem of_mem (keeps : thread.Keeps rule) {op : S.face.Op} {reply : S.face.Reply op}
    (member : (⟨op, reply⟩ : Event S.face) ∈ thread.past) :
    ∃ past, past <:+ thread.past ∧ rule thread.job past op := by
  obtain ⟨later, past, whole⟩ := List.append_of_mem member
  have suffix : (⟨op, reply⟩ :: past : List (Event S.face)) <:+ thread.past := ⟨later, whole.symm⟩
  exact ⟨past, (List.suffix_cons _ past).trans suffix, keeps.followed op reply past suffix⟩

end Thread.Keeps

/-- Every handler of every run keeps the rule that the bodies follow. -/
theorem Run.keeps {S : System} {allowed : Config S → Action S → Prop}
    {rule : S.Job → List (Event S.face) → S.face.Op → Prop}
    (bodies : ∀ job, (S.body job).Follows (.history (rule job)) (fun _ _ => True) [])
    {start : S.State} {final : Config S} (run : Run allowed ⟨start, []⟩ final) :
    ∀ thread ∈ final.threads, thread.Keeps rule := by
  refine run.each ?starts ?resumes (by simp)
  case starts =>
    intro config job _
    exact ⟨bodies job, fun op reply past suffix => by simp [Thread.new] at suffix⟩
  case resumes =>
    intro config index choice thread op next _ _ suspended keeps
    constructor
    case follows =>
      have follows := keeps.follows
      rw [suspended] at follows
      exact follows.2 _ _ rfl
    case followed =>
      intro other reply past suffix
      rcases List.suffix_cons_iff.mp suffix with same | earlier
      · cases same
        exact keeps.allows suspended
      · exact keeps.followed other reply past earlier

end RemoteBrowser.Async
