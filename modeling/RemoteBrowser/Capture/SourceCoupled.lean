import RemoteBrowser.Events.Runs
import Mathlib.Tactic.Common

/-!
# The queues of a source-coupled capture

`SourceCoupledAVCapture` passes frames from its reader thread to the tracks through two bounded
queues, in callbacks of the event loop.  The end of the stream is an element of the queues.
-/

namespace RemoteBrowser.SourceCoupled

/-- An `asyncio.Queue` of frames with a maximum; `None` marks the end of the stream.  What the reader
has offered, what `recv` has returned and whether it has raised `MediaStreamError` is recorded. -/
structure FrameQueue (Frame : Type) where
  maxsize : ℕ
  limited : 0 < maxsize
  items : List (Option Frame)
  droppedFrames : ℕ
  offered : List Frame
  delivered : List Frame
  raised : Bool

namespace FrameQueue

variable {Frame : Type} (queue : FrameQueue Frame)

def empty (maxsize : ℕ) (limited : 0 < maxsize) : FrameQueue Frame :=
  ⟨maxsize, limited, [], 0, [], [], false⟩

/-- `queue.full()`. -/
def full (maxsize : ℕ) (items : List (Option Frame)) : Bool := maxsize ≤ items.length

/-- `while queue.full(): queue.get_nowait()`. -/
def makeRoom (maxsize : ℕ) : List (Option Frame) → List (Option Frame)
  | [] => []
  | item :: rest => if full maxsize (item :: rest) then makeRoom maxsize rest else item :: rest

/-- `_enqueue_video_frame` and `_enqueue_audio_frame`. -/
def enqueueFrame (frame : Frame) : FrameQueue Frame :=
  let kept := makeRoom queue.maxsize queue.items
  let dropped := queue.droppedFrames + (queue.items.length - kept.length)
  if full queue.maxsize kept then
    { queue with
      items := kept
      droppedFrames := dropped + 1
      offered := queue.offered ++ [frame] }
  else
    { queue with
      items := kept ++ [some frame]
      droppedFrames := dropped
      offered := queue.offered ++ [frame] }

/-- What `_enqueue_end_of_stream` does to a queue. -/
def enqueueEnd : FrameQueue Frame :=
  let kept := makeRoom queue.maxsize queue.items
  { queue with items := if full queue.maxsize kept then kept else kept ++ [none] }

/-- What `_flush_queues` does to a queue. -/
def flush : FrameQueue Frame := { queue with items := [] }

/-- A `recv` goes on; while the queue is empty it waits. -/
def recv : FrameQueue Frame :=
  match queue.items with
  | [] => queue
  | none :: rest => { queue with items := rest, raised := true }
  | some frame :: rest =>
      { queue with items := rest, delivered := queue.delivered ++ [frame] }

end FrameQueue

structure AVCapture (Frame : Type) where
  videoQueue : FrameQueue Frame
  audioQueue : FrameQueue Frame

/-- What runs on the event loop besides the reader's frames. -/
inductive LoopEvent where
  | enqueueEndOfStream
  | flushQueues
  | recvVideoFrame
  | recvAudioFrame

inductive CaptureEvent (Frame : Type) where
  | enqueueVideoFrame (frame : Frame)
  | enqueueAudioFrame (frame : Frame)
  | other (event : LoopEvent)

namespace AVCapture

variable {Frame : Type}

def started : AVCapture Frame where
  videoQueue := .empty 12 (by decide)
  audioQueue := .empty 48 (by decide)

def loopStep (capture : AVCapture Frame) : LoopEvent → AVCapture Frame
  | .enqueueEndOfStream => ⟨capture.videoQueue.enqueueEnd, capture.audioQueue.enqueueEnd⟩
  | .flushQueues => ⟨capture.videoQueue.flush, capture.audioQueue.flush⟩
  | .recvVideoFrame => { capture with videoQueue := capture.videoQueue.recv }
  | .recvAudioFrame => { capture with audioQueue := capture.audioQueue.recv }

def step (capture : AVCapture Frame) : CaptureEvent Frame → AVCapture Frame
  | .enqueueVideoFrame frame =>
      { capture with videoQueue := capture.videoQueue.enqueueFrame frame }
  | .enqueueAudioFrame frame =>
      { capture with audioQueue := capture.audioQueue.enqueueFrame frame }
  | .other event => capture.loopStep event

end AVCapture

/-! ## One queue -/

namespace FrameQueue

variable {Frame : Type} {queue : FrameQueue Frame}

/-- The queue is within its maximum, and the frames that were and will be delivered are frames of
the source in its order. -/
structure InOrder (queue : FrameQueue Frame) : Prop where
  bounded : queue.items.length ≤ queue.maxsize
  ordered : (queue.delivered ++ queue.items.filterMap id).Sublist queue.offered

/-- A consumer of the queue does not wait for ever: it has seen the end, or there is something to
take. -/
def Awake (queue : FrameQueue Frame) : Prop := queue.raised ∨ queue.items ≠ []

/-- No frame is the last in the queue. -/
def Ended (queue : FrameQueue Frame) : Prop :=
  ∀ frame, queue.items.getLast? ≠ some (some frame)

theorem makeRoom_suffix (maxsize : ℕ) (items : List (Option Frame)) :
    makeRoom maxsize items <:+ items := by
  induction items with
  | nil => exact List.suffix_rfl
  | cons item rest ih =>
      unfold makeRoom
      split
      case isTrue => exact ih.trans (List.suffix_cons item rest)
      case isFalse => exact List.suffix_rfl

/-- There is room for one more. -/
theorem length_makeRoom {maxsize : ℕ} (limited : 0 < maxsize) (items : List (Option Frame)) :
    (makeRoom maxsize items).length < maxsize := by
  induction items with
  | nil => exact limited
  | cons item rest ih =>
      unfold makeRoom
      split
      case isTrue => exact ih
      case isFalse room => simpa [full] using room

theorem not_full_makeRoom (queue : FrameQueue Frame) :
    full queue.maxsize (makeRoom queue.maxsize queue.items) = false :=
  decide_eq_false (not_le.mpr (length_makeRoom queue.limited queue.items))

theorem enqueueFrame_eq (frame : Frame) :
    queue.enqueueFrame frame =
      { queue with
        items := makeRoom queue.maxsize queue.items ++ [some frame]
        droppedFrames := queue.droppedFrames +
          (queue.items.length - (makeRoom queue.maxsize queue.items).length)
        offered := queue.offered ++ [frame] } := by
  rw [enqueueFrame, not_full_makeRoom]
  rfl

theorem enqueueEnd_eq :
    queue.enqueueEnd =
      { queue with items := makeRoom queue.maxsize queue.items ++ [none] } := by
  rw [enqueueEnd, not_full_makeRoom]
  rfl

/-- Making room leaves a part of the frames. -/
theorem kept_sublist (queue : FrameQueue Frame) :
    (queue.delivered ++ (makeRoom queue.maxsize queue.items).filterMap id).Sublist
      (queue.delivered ++ queue.items.filterMap id) :=
  ((makeRoom_suffix queue.maxsize queue.items).sublist.filterMap id).append_left _

theorem InOrder.enqueueFrame (sound : queue.InOrder) (frame : Frame) :
    (queue.enqueueFrame frame).InOrder := by
  rw [enqueueFrame_eq]
  constructor
  case bounded =>
    rw [List.length_append]
    exact length_makeRoom queue.limited queue.items
  case ordered =>
    have kept := (kept_sublist queue).trans sound.ordered
    simpa [List.filterMap_append] using kept.append (List.Sublist.refl [frame])

theorem InOrder.enqueueEnd (sound : queue.InOrder) : queue.enqueueEnd.InOrder := by
  rw [enqueueEnd_eq]
  constructor
  case bounded =>
    rw [List.length_append]
    exact length_makeRoom queue.limited queue.items
  case ordered =>
    have kept := (kept_sublist queue).trans sound.ordered
    simpa [List.filterMap_append] using kept

theorem InOrder.flush (sound : queue.InOrder) : queue.flush.InOrder := by
  constructor
  case bounded => exact Nat.zero_le _
  case ordered =>
    have delivered := (List.sublist_append_left _ _).trans sound.ordered
    simpa [FrameQueue.flush] using delivered

theorem InOrder.recv (sound : queue.InOrder) : queue.recv.InOrder := by
  obtain ⟨bounded, ordered⟩ := sound
  unfold FrameQueue.recv
  split
  case h_1 => exact ⟨bounded, ordered⟩
  case h_2 rest items =>
    rw [items] at bounded ordered
    constructor
    case bounded => exact (Nat.le_succ _).trans bounded
    case ordered => simpa using ordered
  case h_3 frame rest items =>
    rw [items] at bounded ordered
    constructor
    case bounded => exact (Nat.le_succ _).trans bounded
    case ordered => simpa using ordered

theorem ended_enqueueEnd : queue.enqueueEnd.Ended := by
  rw [enqueueEnd_eq]
  intro frame
  simp

theorem awake_enqueueEnd : queue.enqueueEnd.Awake := by
  rw [enqueueEnd_eq]
  exact .inr (List.append_ne_nil_of_right_ne_nil _ (by simp))

theorem ended_flush : queue.flush.Ended := fun _ => nofun

theorem awake_flush : queue.flush.Awake ↔ queue.raised := by
  simp [Awake, FrameQueue.flush]

theorem Ended.recv (ended : queue.Ended) : queue.recv.Ended := by
  have rest {item : Option Frame} {rest : List (Option Frame)} (items : queue.items = item :: rest)
      (frame : Frame) : rest.getLast? ≠ some (some frame) := by
    intro behind
    apply ended frame
    rw [items, List.getLast?_cons, behind]
    rfl
  unfold FrameQueue.recv
  split
  case h_1 => exact ended
  case h_2 items => exact rest items
  case h_3 items => exact rest items

/-- A consumer takes the end of the stream last. -/
theorem Ended.awake_recv (ended : queue.Ended) (awake : queue.Awake) : queue.recv.Awake := by
  unfold FrameQueue.recv
  split
  case h_1 => exact awake
  case h_2 => exact .inl rfl
  case h_3 frame rest items =>
    refine .inr fun none => ended frame ?_
    rw [items, show rest = [] from none]
    rfl

end FrameQueue

/-! ## Both queues -/

namespace AVCapture

variable {Frame : Type}

structure InOrder (capture : AVCapture Frame) : Prop where
  video : capture.videoQueue.InOrder
  audio : capture.audioQueue.InOrder

/-- No consumer waits for ever. -/
structure Awake (capture : AVCapture Frame) : Prop where
  video : capture.videoQueue.Awake
  audio : capture.audioQueue.Awake

structure Ended (capture : AVCapture Frame) : Prop where
  video : capture.videoQueue.Ended
  audio : capture.audioQueue.Ended

/-- Both consumers have seen the end of the stream. -/
def Raised (capture : AVCapture Frame) : Prop :=
  capture.videoQueue.raised ∧ capture.audioQueue.raised

theorem inOrder_started : (started : AVCapture Frame).InOrder := by
  constructor
  case video => exact ⟨Nat.zero_le _, List.Sublist.refl _⟩
  case audio => exact ⟨Nat.zero_le _, List.Sublist.refl _⟩

theorem InOrder.step {capture : AVCapture Frame} (sound : capture.InOrder)
    (event : CaptureEvent Frame) : (capture.step event).InOrder := by
  obtain ⟨video, audio⟩ := sound
  cases event with
  | enqueueVideoFrame frame => exact ⟨video.enqueueFrame frame, audio⟩
  | enqueueAudioFrame frame => exact ⟨video, audio.enqueueFrame frame⟩
  | other event =>
      cases event with
      | enqueueEndOfStream => exact ⟨video.enqueueEnd, audio.enqueueEnd⟩
      | flushQueues => exact ⟨video.flush, audio.flush⟩
      | recvVideoFrame => exact ⟨video.recv, audio⟩
      | recvAudioFrame => exact ⟨video, audio.recv⟩

theorem Ended.loopStep {capture : AVCapture Frame} (ended : capture.Ended) (event : LoopEvent) :
    (capture.loopStep event).Ended := by
  obtain ⟨video, audio⟩ := ended
  cases event with
  | enqueueEndOfStream => exact ⟨FrameQueue.ended_enqueueEnd, FrameQueue.ended_enqueueEnd⟩
  | flushQueues => exact ⟨FrameQueue.ended_flush, FrameQueue.ended_flush⟩
  | recvVideoFrame => exact ⟨video.recv, audio⟩
  | recvAudioFrame => exact ⟨video, audio.recv⟩

/-- After the end, only a flush can leave a consumer waiting. -/
theorem Ended.awake_loopStep {capture : AVCapture Frame} (ended : capture.Ended)
    (awake : capture.Awake) (event : LoopEvent) :
    (capture.loopStep event).Awake ↔ (event = .flushQueues → capture.Raised) := by
  cases event with
  | enqueueEndOfStream =>
      refine iff_of_true ⟨FrameQueue.awake_enqueueEnd, FrameQueue.awake_enqueueEnd⟩ nofun
  | flushQueues =>
      constructor
      case mp =>
        intro left _
        exact ⟨FrameQueue.awake_flush.mp left.video, FrameQueue.awake_flush.mp left.audio⟩
      case mpr =>
        intro raised
        obtain ⟨video, audio⟩ := raised rfl
        exact ⟨FrameQueue.awake_flush.mpr video, FrameQueue.awake_flush.mpr audio⟩
  | recvVideoFrame =>
      exact iff_of_true ⟨ended.video.awake_recv awake.video, awake.audio⟩ nofun
  | recvAudioFrame =>
      exact iff_of_true ⟨awake.video, ended.audio.awake_recv awake.audio⟩ nofun

/-- The state after a run in which no frame comes after an end of the stream. -/
def runEnded (before : List (CaptureEvent Frame)) (after : List LoopEvent) : AVCapture Frame :=
  Runs.run step started (before ++ .other .enqueueEndOfStream :: after.map .other)

theorem runEnded_eq (before : List (CaptureEvent Frame)) (after : List LoopEvent) :
    runEnded before after =
      Runs.run loopStep ((Runs.run step started before).loopStep .enqueueEndOfStream) after := by
  have later (capture : AVCapture Frame) :
      Runs.run step capture (after.map .other) = Runs.run loopStep capture after := by
    rw [Runs.run, Runs.run, List.foldl_map]
    rfl
  rw [runEnded, Runs.run_append, ← later]
  rfl

end AVCapture

open AVCapture in
/-- The queues are always within their maxima and in order; in every state after the reader's last
callback no consumer waits for ever exactly if no flush comes after it while a consumer has not
seen the end. -/
theorem end_of_stream_is_kept_iff {Frame : Type} (before : List (CaptureEvent Frame)) :
    (∀ events : List (CaptureEvent Frame), (Runs.run step started events).InOrder) ∧
    ∀ after : List LoopEvent,
      (∀ first, first <+: after → (runEnded before first).Awake) ↔
        ∀ first, first ++ [.flushQueues] <+: after → (runEnded before first).Raised := by
  constructor
  case left =>
    intro events
    exact Runs.run_invariant inOrder_started (fun _ event sound => sound.step event) events
  case right =>
    intro after
    have ended : ((Runs.run step started before).loopStep .enqueueEndOfStream).Ended :=
      ⟨FrameQueue.ended_enqueueEnd, FrameQueue.ended_enqueueEnd⟩
    have awake : ((Runs.run step started before).loopStep .enqueueEndOfStream).Awake :=
      ⟨FrameQueue.awake_enqueueEnd, FrameQueue.awake_enqueueEnd⟩
    have steps := Runs.always_iff_throughout ended (fun _ event ended => ended.loopStep event)
      awake (fun _ event ended awake => ended.awake_loopStep awake event) after
    simp only [runEnded_eq]
    rw [steps]
    constructor
    case mp => exact fun flushes first early => flushes first .flushQueues early rfl
    case mpr =>
      rintro flushes first event early rfl
      exact flushes first early

/-- A flush after the end leaves both consumers waiting. -/
theorem flush_loses_end_of_stream :
    ¬(AVCapture.runEnded [.enqueueVideoFrame 1] [.recvVideoFrame, .flushQueues]).Awake := by
  intro awake
  rcases awake.video with raised | items
  · cases raised
  · exact items rfl

end RemoteBrowser.SourceCoupled
