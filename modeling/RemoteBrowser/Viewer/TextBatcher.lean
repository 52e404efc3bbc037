import RemoteBrowser.Text.Utf16
import RemoteBrowser.Viewer.Input

/-!
# The text batcher

`createViewerTextInsertBatcher` collects typed text and sends it in messages of limited length:
full batches at once, the rest when a timer fires or somebody asks for it.
-/

namespace RemoteBrowser.TextBatcher

open Utf16

/-- A batcher whose `maxChars` is zero would never return from its loop. -/
structure Options where
  maxChars : ℕ
  positive : 0 < maxChars

structure TextInsert where
  text : List UInt16
  reason : String
  deriving DecidableEq

/-- A call of `send` with what it returned. -/
structure Sent where
  message : TextInsert
  answer : Bool
  deriving DecidableEq

structure Batcher where
  pendingText : List UInt16
  timer : Bool
  /-- All calls of `send`, oldest first. -/
  sent : List Sent
  deriving DecidableEq

inductive Event where
  | enqueue (text : List UInt16)
  | timer
  | flush (reason : String)
  deriving DecidableEq

/-- What the calls of `send` return, by their number. -/
abbrev Answers := ℕ → Bool

variable (options : Options) (answers : Answers)

def Batcher.initial : Batcher where
  pendingText := []
  timer := false
  sent := []

namespace Batcher

def send (batcher : Batcher) (message : TextInsert) : Batcher :=
  { batcher with sent := batcher.sent ++ [⟨message, answers batcher.sent.length⟩] }

def flush (batcher : Batcher) (reason : String) : Batcher × Bool :=
  let batcher := { batcher with timer := false }
  if batcher.pendingText = [] then (batcher, false)
  else
    ({ batcher with pendingText := [] }.send answers ⟨batcher.pendingText, reason⟩,
      answers batcher.sent.length)

/-- The loop of `enqueue`: full batches are sent at once. -/
def sendFull (batcher : Batcher) : Batcher :=
  if options.maxChars ≤ batcher.pendingText.length then
    let batch := batcher.pendingText.take options.maxChars
    let rest := { batcher with pendingText := batcher.pendingText.drop options.maxChars }
    sendFull (rest.send answers ⟨batch, "max-chars"⟩)
  else batcher
termination_by batcher.pendingText.length
decreasing_by
  have positive := options.positive
  simp only [send, List.length_drop]
  omega

def scheduleFlush (batcher : Batcher) : Batcher :=
  if batcher.timer ∨ batcher.pendingText = [] then batcher else { batcher with timer := true }

def enqueue (batcher : Batcher) (value : List UInt16) : Batcher × Bool :=
  if value = [] then (batcher, false)
  else
    let batcher := { batcher with pendingText := batcher.pendingText ++ value }
    ((batcher.sendFull options answers).scheduleFlush, true)

/-- A timer that was cleared does not fire. -/
def handle (batcher : Batcher) : Event → Batcher
  | .enqueue text => (batcher.enqueue options answers text).1
  | .timer => if batcher.timer then (batcher.flush answers "timer").1 else batcher
  | .flush reason => (batcher.flush answers reason).1

end Batcher

def run (events : List Event) : Batcher :=
  events.foldl (Batcher.handle options answers) .initial

theorem run_concat (events : List Event) (event : Event) :
    run options answers (events ++ [event]) =
      (run options answers events).handle options answers event := by
  rw [run, run, List.foldl_append, List.foldl_cons, List.foldl_nil]

/-- The texts of the calls that returned true. -/
def Batcher.acceptedTexts (batcher : Batcher) : List (List UInt16) :=
  (batcher.sent.filter (·.answer)).map (·.message.text)

def Batcher.sentTexts (batcher : Batcher) : List (List UInt16) :=
  batcher.sent.map (·.message.text)

/-! ## What is typed between two flushes -/

def enqueuedTexts (events : List Event) : List (List UInt16) :=
  events.filterMap fun
    | .enqueue text => some text
    | _ => none

/-- The texts that were typed up to a timer or a flush, and the text that was typed since. -/
structure Stretches where
  closed : List (List UInt16)
  current : List UInt16

def Stretches.next (stretches : Stretches) : Event → Stretches
  | .enqueue text => { stretches with current := stretches.current ++ text }
  | .timer | .flush _ => ⟨stretches.closed ++ [stretches.current], []⟩

def stretches (events : List Event) : Stretches := events.foldl Stretches.next ⟨[], []⟩

def Stretches.all (stretches : Stretches) : List (List UInt16) :=
  stretches.closed ++ [stretches.current]

theorem stretches_concat (events : List Event) (event : Event) :
    stretches (events ++ [event]) = (stretches events).next event := by
  rw [stretches, stretches, List.foldl_append, List.foldl_cons, List.foldl_nil]

theorem flatten_stretches (events : List Event) :
    (stretches events).all.flatten = (enqueuedTexts events).flatten := by
  induction events using List.reverseRecOn with
  | nil => rfl
  | append_singleton events event ih =>
      rw [stretches_concat, enqueuedTexts, List.filterMap_append, List.flatten_append]
      rw [enqueuedTexts] at ih
      rw [← ih]
      cases event <;> simp [Stretches.next, Stretches.all]

/-- A stretch is put together from texts that were enqueued. -/
theorem wellFormed_stretches {events : List Event}
    (typed : ∀ text ∈ enqueuedTexts events, isWellFormed text) :
    ∀ text ∈ (stretches events).all, isWellFormed text := by
  induction events using List.reverseRecOn with
  | nil =>
      intro text member
      obtain rfl : text = [] := by simpa [stretches, Stretches.all] using member
      rfl
  | append_singleton events event ih =>
      rw [enqueuedTexts, List.filterMap_append, List.forall_mem_append] at typed
      have before := ih typed.1
      rw [Stretches.all, List.forall_mem_append, List.forall_mem_singleton] at before
      rw [stretches_concat]
      cases event with
      | enqueue text =>
          have last : isWellFormed text := typed.2 text (by simp)
          rw [Stretches.all, Stretches.next, List.forall_mem_append, List.forall_mem_singleton]
          exact ⟨before.1, isWellFormed_append before.2 last⟩
      | timer | flush =>
          rw [Stretches.all, Stretches.next, List.forall_mem_append, List.forall_mem_singleton,
            List.forall_mem_append, List.forall_mem_singleton]
          exact ⟨before, rfl⟩

/-! ## What is sent -/

/-- The messages for a text that is flushed at its end. -/
def flushedBatches (size : ℕ) (text : List UInt16) : List (List UInt16) :=
  batches size text ++ if remainder size text = [] then [] else [remainder size text]

/-- The number of calls of `send`. -/
def sendCount (options : Options) (events : List Event) : ℕ :=
  ((stretches events).closed.map
    fun text => (text.length + options.maxChars - 1) / options.maxChars).sum +
    (stretches events).current.length / options.maxChars

/-- A batcher after some stretches. -/
structure Follows (stretches : Stretches) (batcher : Batcher) : Prop where
  texts : batcher.sentTexts =
    stretches.closed.flatMap (flushedBatches options.maxChars) ++
      batches options.maxChars stretches.current
  answered : batcher.sent.map (·.answer) = (List.range batcher.sent.length).map answers
  pending : batcher.pendingText = remainder options.maxChars stretches.current
  timed : batcher.pendingText ≠ [] → batcher.timer

section Sending

variable {options answers} {batcher : Batcher} {soFar : Stretches}

theorem sentTexts_send (message : TextInsert) :
    (batcher.send answers message).sentTexts = batcher.sentTexts ++ [message.text] := by
  rw [Batcher.sentTexts, Batcher.send, List.map_append]
  rfl

theorem answered_send (answered : batcher.sent.map (·.answer) =
    (List.range batcher.sent.length).map answers) (message : TextInsert) :
    (batcher.send answers message).sent.map (·.answer) =
      (List.range (batcher.send answers message).sent.length).map answers := by
  rw [Batcher.send, List.map_append, answered, List.length_append, List.length_singleton,
    List.range_succ, List.map_append]
  rfl

/-- The loop sends the full batches of the pending text and keeps the rest. -/
theorem sendFull_spec (batcher : Batcher) :
    (batcher.sendFull options answers).sentTexts =
        batcher.sentTexts ++ batches options.maxChars batcher.pendingText ∧
      (batcher.sendFull options answers).pendingText =
        remainder options.maxChars batcher.pendingText ∧
      (batcher.sendFull options answers).timer = batcher.timer ∧
      (batcher.sent.map (·.answer) = (List.range batcher.sent.length).map answers →
        (batcher.sendFull options answers).sent.map (·.answer) =
          (List.range (batcher.sendFull options answers).sent.length).map answers) := by
  fun_induction batcher.sendFull options answers with
  | case1 batcher full batch rest ih =>
      obtain ⟨texts, pending, timer, answered⟩ := ih
      rw [batches_full options.positive full, remainder_full options.positive full]
      refine ⟨?_, pending, timer, fun before => answered (answered_send before _)⟩
      rw [texts, sentTexts_send, List.append_assoc]
      rfl
  | case2 batcher short =>
      rw [batches_short (not_le.mp short), remainder_short (not_le.mp short)]
      exact ⟨(List.append_nil _).symm, rfl, rfl, id⟩

theorem Follows.enqueue (follows : Follows options answers soFar batcher) (text : List UInt16) :
    Follows options answers (soFar.next (.enqueue text)) (batcher.enqueue options answers text).1 := by
  have more := batches_append options.positive soFar.current text
  unfold Batcher.enqueue
  split
  case isTrue empty =>
    rw [empty, Stretches.next, List.append_nil]
    exact follows
  case isFalse =>
    dsimp only
    obtain ⟨texts, pending, timer, answered⟩ := @sendFull_spec options answers
      { batcher with pendingText := batcher.pendingText ++ text }
    generalize Batcher.sendFull options answers _ = next at *
    have kept : Follows options answers (soFar.next (.enqueue text))
        { next with timer := true } := by
      constructor
      case texts =>
        have sent : next.sentTexts = _ := texts
        calc next.sentTexts
            = batcher.sentTexts ++ batches options.maxChars (batcher.pendingText ++ text) := texts
          _ = _ := by rw [follows.texts, follows.pending, List.append_assoc, ← more.1]; rfl
      case answered => exact answered follows.answered
      case pending =>
        rw [pending, follows.pending, ← more.2]
        rfl
      case timed => exact fun _ => rfl
    have scheduled : Follows options answers (soFar.next (.enqueue text)) next.scheduleFlush := by
      unfold Batcher.scheduleFlush
      split
      case isFalse => exact kept
      case isTrue idle =>
        exact ⟨kept.texts, kept.answered, kept.pending, fun some => idle.resolve_right some⟩
    exact scheduled

/-- A flush sends the rest and closes the stretch. -/
theorem Follows.flush (follows : Follows options answers soFar batcher) (reason : String) :
    Follows options answers ⟨soFar.closed ++ [soFar.current], []⟩
      (batcher.flush answers reason).1 := by
  have empty : batches options.maxChars ([] : List UInt16) = [] :=
    batches_short options.positive
  have nothing : remainder options.maxChars ([] : List UInt16) = [] :=
    remainder_short options.positive
  unfold Batcher.flush
  dsimp only
  split
  case isTrue none =>
    have rest := follows.pending.symm.trans none
    constructor
    case texts =>
      have sent : batcher.sentTexts = _ := follows.texts
      rw [List.flatMap_append, List.flatMap_singleton, flushedBatches, if_pos rest, empty,
        List.append_nil, List.append_nil]
      exact sent
    case answered => exact follows.answered
    case pending => rw [nothing, none]
    case timed => exact fun some => absurd none some
  case isFalse some =>
    constructor
    case texts =>
      have sent : batcher.sentTexts = _ := follows.texts
      rw [sentTexts_send, List.flatMap_append, List.flatMap_singleton, flushedBatches,
        if_neg (follows.pending ▸ some), empty, List.append_nil, ← List.append_assoc, ← sent,
        ← follows.pending]
      rfl
    case answered => exact answered_send follows.answered _
    case pending => exact nothing.symm
    case timed => exact fun some => absurd rfl some

theorem Follows.handle (follows : Follows options answers soFar batcher) (event : Event) :
    Follows options answers (soFar.next event) (batcher.handle options answers event) := by
  cases event with
  | enqueue text => exact follows.enqueue text
  | flush reason => exact follows.flush reason
  | timer =>
      rw [Batcher.handle]
      split
      case isTrue => exact follows.flush "timer"
      case isFalse idle =>
        -- no text is pending then, and a flush would change nothing
        have none : batcher.pendingText = [] := by
          by_contra some
          exact idle (follows.timed some)
        have flushed := follows.flush "timer"
        have same : (batcher.flush answers "timer").1 = batcher := by
          rw [Bool.not_eq_true] at idle
          rw [Batcher.flush, if_pos none, ← idle]
        rwa [same] at flushed

theorem follows_run (events : List Event) :
    Follows options answers (stretches events) (run options answers events) := by
  induction events using List.reverseRecOn with
  | nil =>
      constructor
      case texts =>
        rw [stretches, List.foldl_nil, batches_short options.positive]
        rfl
      case answered => rfl
      case pending =>
        rw [stretches, List.foldl_nil, remainder_short options.positive]
        rfl
      case timed => exact fun some => absurd rfl some
  | append_singleton events event ih =>
      rw [stretches_concat, run_concat]
      exact ih.handle event

end Sending

/-! ## What is lost and what is cut -/

section Flushed

variable {size : ℕ} (positive : 0 < size) (text : List UInt16)
include positive

theorem flatten_flushedBatches : (flushedBatches size text).flatten = text := by
  have whole := batches_flatten positive text
  rw [flushedBatches, List.flatten_append]
  split
  case isTrue none => rwa [none] at whole
  case isFalse => rwa [List.flatten_singleton]

theorem length_flushedBatches :
    (flushedBatches size text).length = (text.length + size - 1) / size := by
  have count := Nat.div_add_mod text.length size
  have rest := length_remainder positive text
  have small := Nat.mod_lt text.length positive
  rw [flushedBatches, List.length_append, length_batches positive]
  split
  case isTrue none =>
    rw [none, List.length_nil] at rest
    have total : text.length + size - 1 = size * (text.length / size) + (size - 1) := by omega
    rw [total, Nat.mul_add_div positive, Nat.div_eq_of_lt (show size - 1 < size by omega)]
    rfl
  case isFalse some =>
    have nonzero := List.length_pos_iff.mpr some
    have total : text.length + size - 1 =
        size * (text.length / size) + (text.length % size + size - 1) := by omega
    have one : (text.length % size + size - 1) / size = 1 :=
      Nat.div_eq_of_lt_le (by omega) (by omega)
    rw [total, Nat.mul_add_div positive, one]
    rfl

theorem batch_fits {batch : List UInt16} (member : batch ∈ flushedBatches size text) :
    batch ≠ [] ∧ batch.length ≤ size := by
  rw [flushedBatches, List.mem_append] at member
  rcases member with full | last
  · have length := length_of_mem_batches positive full
    exact ⟨List.ne_nil_of_length_pos (by omega), length.le⟩
  · have small := Nat.mod_lt text.length positive
    rw [← length_remainder positive] at small
    split at last
    case isTrue => cases last
    case isFalse some =>
      rw [List.mem_singleton.mp last]
      exact ⟨some, small.le⟩

theorem wellFormed_flushedBatches_iff (whole : isWellFormed text) :
    (∀ batch ∈ flushedBatches size text, isWellFormed batch) ↔
      ∀ number, ¬SplitsPair text (number * size) := by
  obtain ⟨full, rest⟩ := wellFormed_batches_iff positive whole
  rw [flushedBatches, List.forall_mem_append, full]
  apply and_iff_left_of_imp
  intro uncut batch last
  split at last
  case isTrue => cases last
  case isFalse =>
    rw [List.mem_singleton.mp last]
    exact rest uncut

end Flushed

/-- A message that is not accepted is text that is missing, as no message is empty. -/
theorem accepted_length {sent : List Sent} (some : ∀ call ∈ sent, call.message.text ≠ []) :
    ((sent.filter (·.answer)).map (·.message.text)).flatten.length ≤
        (sent.map (·.message.text)).flatten.length ∧
      (((sent.filter (·.answer)).map (·.message.text)).flatten.length =
          (sent.map (·.message.text)).flatten.length →
        ∀ call ∈ sent, call.answer) := by
  induction sent with
  | nil => simp
  | cons call rest ih =>
      rw [List.forall_mem_cons] at some
      obtain ⟨le, all⟩ := ih some.2
      rw [List.map_cons, List.flatten_cons, List.length_append]
      cases accepted : call.answer with
      | true =>
          rw [List.filter_cons_of_pos accepted, List.map_cons, List.flatten_cons,
            List.length_append, List.forall_mem_cons]
          exact ⟨Nat.add_le_add_left le _, fun same => ⟨accepted, all (Nat.add_left_cancel same)⟩⟩
      | false =>
          have positive := List.length_pos_iff.mpr some.1
          have refused : (call :: rest).filter (·.answer) = rest.filter (·.answer) := by
            simp [accepted]
          have fewer := le.trans_lt (Nat.lt_add_of_pos_left positive)
          rw [refused]
          exact ⟨fewer.le, fun same => absurd same fewer.ne⟩

section Runs

variable {options answers} {batcher : Batcher} {soFar : Stretches}

theorem Follows.flatten (follows : Follows options answers soFar batcher) :
    batcher.sentTexts.flatten ++ batcher.pendingText = soFar.all.flatten := by
  have closed : (soFar.closed.flatMap (flushedBatches options.maxChars)).flatten =
      soFar.closed.flatten := by
    induction soFar.closed with
    | nil => rfl
    | cons text rest ih =>
        rw [List.flatMap_cons, List.flatten_append, List.flatten_cons, ih,
          flatten_flushedBatches options.positive]
  rw [follows.texts, follows.pending, List.flatten_append, closed, List.append_assoc,
    batches_flatten options.positive, Stretches.all, List.flatten_append, List.flatten_singleton]

theorem Follows.fits (follows : Follows options answers soFar batcher) :
    ∀ text ∈ batcher.sentTexts, text ≠ [] ∧ text.length ≤ options.maxChars := by
  rw [follows.texts, List.forall_mem_append]
  constructor
  case left =>
    intro batch member
    obtain ⟨text, -, sent⟩ := List.mem_flatMap.mp member
    exact batch_fits options.positive text sent
  case right =>
    intro batch member
    exact batch_fits options.positive soFar.current (List.mem_append_left _ member)

theorem Follows.wellFormed_iff (follows : Follows options answers soFar batcher)
    (whole : ∀ text ∈ soFar.all, isWellFormed text) :
    (∀ text ∈ batcher.sentTexts, isWellFormed text) ↔
      ∀ text ∈ soFar.all, ∀ number, ¬SplitsPair text (number * options.maxChars) := by
  rw [Stretches.all, List.forall_mem_append, List.forall_mem_singleton] at whole
  rw [follows.texts, Stretches.all, List.forall_mem_append, List.forall_mem_append,
    List.forall_mem_singleton, (wellFormed_batches_iff options.positive whole.2).1]
  apply and_congr_left'
  simp only [List.mem_flatMap, forall_exists_index, and_imp]
  constructor
  case mp =>
    intro sent text member
    rw [← wellFormed_flushedBatches_iff options.positive text (whole.1 text member)]
    exact fun batch part => sent batch text member part
  case mpr =>
    intro uncut batch text member
    exact (wellFormed_flushedBatches_iff options.positive text (whole.1 text member)).mpr
      (uncut text member) batch

theorem length_sent (events : List Event) :
    (run options answers events).sent.length = sendCount options events := by
  have texts := congrArg List.length (@follows_run options answers events).texts
  rw [Batcher.sentTexts, List.length_map, List.length_append, List.length_flatMap,
    length_batches options.positive] at texts
  rw [texts, sendCount]
  congr 2
  apply List.map_congr_left
  exact fun text _ => length_flushedBatches options.positive text

theorem all_accepted_iff (events : List Event) :
    (∀ call ∈ (run options answers events).sent, call.answer = true) ↔
      ∀ call < sendCount options events, answers call = true := by
  have answered := (@follows_run options answers events).answered
  have all := congrArg (fun list => ∀ answer ∈ list, answer = true) answered
  simp only [List.forall_mem_map, List.mem_range, length_sent] at all
  exact Iff.of_eq all

/-- No text is lost exactly if every message is accepted. -/
theorem lossless_iff (events : List Event) :
    (run options answers events).acceptedTexts.flatten ++ (run options answers events).pendingText =
        (enqueuedTexts events).flatten ↔
      ∀ call < sendCount options events, answers call = true := by
  have follows := @follows_run options answers events
  have whole := follows.flatten
  rw [flatten_stretches] at whole
  rw [← all_accepted_iff, ← whole]
  have some : ∀ call ∈ (run options answers events).sent, call.message.text ≠ [] := by
    intro call member
    exact (follows.fits _ (List.mem_map_of_mem member)).1
  constructor
  case mp =>
    intro same
    have length := congrArg List.length same
    rw [List.length_append, List.length_append, Nat.add_right_cancel_iff] at length
    exact (accepted_length some).2 length
  case mpr =>
    intro accepted
    rw [Batcher.acceptedTexts, List.filter_eq_self.mpr accepted]
    rfl

/-- The text arrives whole and uncut exactly if every message is accepted and no pair of
surrogates lies across a multiple of the batch size. -/
theorem typed_text_arrives_iff (options : Options) (answers : Answers) (events : List Event) :
    let batcher := run options answers events
    (batcher.acceptedTexts.flatten ++ batcher.pendingText = (enqueuedTexts events).flatten ∧
      (∀ text ∈ batcher.sentTexts, text ≠ [] ∧ text.length ≤ options.maxChars) ∧
      ((∀ text ∈ enqueuedTexts events, isWellFormed text) →
        ∀ text ∈ batcher.sentTexts, isWellFormed text)) ↔
    (∀ call < sendCount options events, answers call = true) ∧
      ((∀ text ∈ enqueuedTexts events, isWellFormed text) →
        ∀ text ∈ (stretches events).all, ∀ number,
          ¬SplitsPair text (number * options.maxChars)) := by
  have follows := @follows_run options answers events
  dsimp only
  rw [lossless_iff, and_iff_right follows.fits]
  apply and_congr_right
  intro _
  apply imp_congr_right
  intro typed
  exact follows.wellFormed_iff (wellFormed_stretches typed)

end Runs

/-! ## The batcher of the input handlers -/

def defaultOptions : Options := ⟨Viewer.textInsertBatchMaxChars, by decide⟩

/-- The text that an envelope carries to the worker. -/
def carriedText (envelope : Viewer.Envelope) : Option (List UInt16) :=
  match envelope.message with
  | .textInsert text _ => some text
  | _ => none

/-- A channel for text is open. -/
def acceptsText (page : Viewer.Page) : Bool :=
  Viewer.isViewerInputChannelOpen page.channels.control ||
    Viewer.isViewerInputChannelOpen page.channels.legacy

/-- The input handlers' variables are those of the batcher, whose accepted messages they have put
on a channel. -/
structure Carries (batcher : Batcher) (state : Viewer.InputState) : Prop where
  pending : state.pendingText = batcher.pendingText
  timer : state.textTimer = batcher.timer
  texts : state.sent.filterMap carriedText = batcher.acceptedTexts

theorem Carries.scheduleFlush {batcher : Batcher} {state : Viewer.InputState}
    (carries : Carries batcher state) :
    Carries batcher.scheduleFlush (Viewer.scheduleFlush state) := by
  unfold Batcher.scheduleFlush Viewer.scheduleFlush
  by_cases idle : batcher.timer ∨ batcher.pendingText = []
  · simp only [carries.pending, carries.timer, if_pos idle]
    exact carries
  · simp only [carries.pending, carries.timer, if_neg idle]
    exact ⟨rfl, rfl, carries.texts⟩

section Handlers

variable {page : Viewer.Page} {answers : Answers} {batcher : Batcher} {state : Viewer.InputState}
  (answered : ∀ call, answers call = acceptsText page)
include answered

theorem Carries.send (carries : Carries batcher state) (text : List UInt16)
    (reason : Viewer.FlushReason) (name : String) :
    Carries (batcher.send answers ⟨text, name⟩)
      (Viewer.sendInput page (.textInsert text reason) true state) := by
  obtain ⟨pending, timer, texts⟩ := carries
  have accepted : (batcher.send answers ⟨text, name⟩).acceptedTexts =
      batcher.acceptedTexts ++ if acceptsText page then [text] else [] := by
    simp only [Batcher.acceptedTexts, Batcher.send, answered, List.filter_append, List.map_append]
    cases acceptsText page <;> rfl
  have delivered (channel : Viewer.ChannelRole) :
      (state.deliver page (.textInsert text reason) channel).sent.filterMap carriedText =
        batcher.acceptedTexts ++ [text] := by
    rw [Viewer.InputState.deliver, List.filterMap_append, texts]
    rfl
  rw [acceptsText] at accepted
  unfold Viewer.sendInput Viewer.chooseViewerInputChannel
  cases control : Viewer.isViewerInputChannelOpen page.channels.control with
  | true =>
      rw [control, Bool.true_or, if_pos rfl] at accepted
      simp only [Viewer.InputMessage.isPointerMove, control, Bool.false_eq_true, false_and, if_true,
        if_false]
      exact ⟨pending, timer, (delivered .control).trans accepted.symm⟩
  | false =>
      rw [control, Bool.false_or] at accepted
      cases legacy : Viewer.isViewerInputChannelOpen page.channels.legacy with
      | true =>
          rw [legacy, if_pos rfl] at accepted
          simp only [Viewer.InputMessage.isPointerMove, control, Bool.false_eq_true,
            false_and, if_true, if_false]
          exact ⟨pending, timer, (delivered .legacy).trans accepted.symm⟩
      | false =>
          rw [legacy, if_neg Bool.false_ne_true, List.append_nil] at accepted
          simp only [control, Bool.false_eq_true, if_true, if_false]
          exact ⟨pending, timer, texts.trans accepted.symm⟩

theorem Carries.flush (carries : Carries batcher state) (reason : Viewer.FlushReason)
    (name : String) :
    Carries (batcher.flush answers name).1 (Viewer.flush page reason state) := by
  obtain ⟨pending, timer, texts⟩ := carries
  have cleared : Carries { batcher with timer := false, pendingText := [] }
      { state with textTimer := false, pendingText := [] } := ⟨rfl, rfl, texts⟩
  unfold Batcher.flush Viewer.flush
  by_cases empty : batcher.pendingText = []
  · simp only [pending, if_pos empty]
    exact ⟨rfl, rfl, texts⟩
  · simp only [pending, if_neg empty]
    exact cleared.send answered batcher.pendingText reason name

theorem carries_sendFull (batcher : Batcher) : ∀ state, Carries batcher state →
    Carries (batcher.sendFull defaultOptions answers) (Viewer.sendFullBatches page state) := by
  fun_induction batcher.sendFull defaultOptions answers with
  | case1 batcher full batch rest ih =>
      intro state carries
      have shorter : Carries rest { state with
          pendingText := state.pendingText.drop Viewer.textInsertBatchMaxChars } :=
        ⟨congrArg (List.drop _) carries.pending, carries.timer, carries.texts⟩
      rw [Viewer.sendFullBatches, if_pos (carries.pending ▸ full)]
      refine ih _ ?_
      rw [carries.pending] at shorter ⊢
      exact shorter.send answered batch .maxChars "max-chars"
  | case2 batcher short =>
      intro state carries
      rw [Viewer.sendFullBatches, if_neg (carries.pending ▸ short)]
      exact carries

/-- Typing and the timer do to the handlers' variables what they do to the batcher. -/
theorem Carries.handle (carries : Carries batcher state) (text : List UInt16) :
    Carries (batcher.handle defaultOptions answers (.enqueue text))
        (Viewer.enqueue page text state) ∧
      Carries (batcher.handle defaultOptions answers .timer)
        (Viewer.handle page .textTimer state) := by
  constructor
  case left =>
    rw [Batcher.handle, Batcher.enqueue, Viewer.enqueue]
    split
    case isTrue => exact carries
    case isFalse =>
      have longer : Carries { batcher with pendingText := batcher.pendingText ++ text }
          { state with pendingText := state.pendingText ++ text } :=
        ⟨congrArg (· ++ text) carries.pending, carries.timer, carries.texts⟩
      exact (carries_sendFull answered _ _ longer).scheduleFlush
  case right =>
    rw [Batcher.handle, Viewer.handle, carries.timer]
    split
    case isTrue => exact carries.flush answered .timer "timer"
    case isFalse => exact carries

end Handlers

set_option maxRecDepth 4000 in
/-- A letter whose message is refused is gone; a pair that ends at the 257th unit is cut. -/
theorem typed_text_is_lost_or_cut :
    (¬∀ answers events, (run defaultOptions answers events).acceptedTexts.flatten ++
        (run defaultOptions answers events).pendingText = (enqueuedTexts events).flatten) ∧
      ¬∀ answers events, (∀ text ∈ enqueuedTexts events, isWellFormed text) →
        ∀ text ∈ (run defaultOptions answers events).sentTexts, isWellFormed text := by
  constructor
  case left =>
    intro lossless
    have lost := (lossless_iff [.enqueue [0x61], .timer]).mp
      (lossless (fun _ => false) [.enqueue [0x61], .timer]) 0 (by decide)
    cases lost
  case right =>
    intro uncut
    have typed := @follows_run defaultOptions (fun _ => true)
      [.enqueue (List.replicate 255 0x78 ++ [0xD83D, 0xDE00])]
    have sent := uncut (fun _ => true) [.enqueue (List.replicate 255 0x78 ++ [0xD83D, 0xDE00])]
      (by decide) (List.replicate 255 0x78 ++ [0xD83D])
    rw [typed.texts] at sent
    have cut := sent (by
      rw [batches_full (by decide) (by decide)]
      exact List.mem_append_right _ List.mem_cons_self)
    revert cut
    decide

end RemoteBrowser.TextBatcher
