import RemoteBrowser.Events.Runs
import Mathlib.Data.Rat.Lemmas
import Mathlib.Tactic.FieldSimp
import Mathlib.Tactic.Linarith

/-!
# Video tracks

A video track of the worker stamps the frames that it hands to the sender with a counter and the
time base of its current rate.  Times are exact.
-/

namespace RemoteBrowser.Capture

/-- The values of the environment variables; one that is missing is `none`. -/
structure Environment where
  CAPTURE_FRAMERATE : Option ℤ
  INTERACTION_CAPTURE_FRAMERATE : Option ℤ
  INTERACTION_MODE_HOLD_SEC : Option ℚ

namespace Environment

variable (env : Environment)

def captureFramerate : ℤ := max 8 (min 30 (env.CAPTURE_FRAMERATE.getD 20))

def interactionCaptureFramerate : ℤ :=
  max 4 (min env.captureFramerate
    (env.INTERACTION_CAPTURE_FRAMERATE.getD (max 8 (min env.captureFramerate 12))))

def interactionModeHoldSec : ℚ := max (1 / 4) (env.INTERACTION_MODE_HOLD_SEC.getD 2)

/-- `max(1, min(CAPTURE_FRAMERATE, int(framerate)))`. -/
def clampFramerate (framerate : ℤ) : ℤ := max 1 (min env.captureFramerate framerate)

theorem clampFramerate_pos (framerate : ℤ) : 0 < env.clampFramerate framerate :=
  Int.one_pos.trans_le (le_max_left ..)

theorem captureFramerate_pos : 0 < env.captureFramerate :=
  lt_of_lt_of_le (by decide) (le_max_left ..)

/-- The rates are in range, so that clamping changes nothing. -/
theorem clampFramerate_capture :
    env.clampFramerate env.captureFramerate = env.captureFramerate := by
  have positive := env.captureFramerate_pos
  rw [clampFramerate, min_self, max_eq_right (by omega)]

theorem clampFramerate_interaction :
    env.clampFramerate env.interactionCaptureFramerate = env.interactionCaptureFramerate := by
  have large : 4 ≤ env.interactionCaptureFramerate := le_max_left ..
  have small : env.interactionCaptureFramerate ≤ env.captureFramerate := by
    have capture : 8 ≤ env.captureFramerate := le_max_left ..
    rw [interactionCaptureFramerate]
    exact max_le (by omega) (min_le_left ..)
  rw [clampFramerate, min_eq_right small, max_eq_right (by omega)]

end Environment

/-- A `SourceCoupledVideoTrack` or an `AdaptiveVideoTrack`: they pace and stamp alike. -/
structure VideoTrack where
  outputFramerate : ℤ
  outputPts : ℕ
  /-- Zero before the first frame and after a change of the rate. -/
  nextDeliveryAt : ℚ
  positive : 0 < outputFramerate

namespace VideoTrack

def new (env : Environment) : VideoTrack where
  outputFramerate := max 1 env.captureFramerate
  outputPts := 0
  nextDeliveryAt := 0
  positive := Int.one_pos.trans_le (le_max_left ..)

def outputFrameIntervalSec (track : VideoTrack) : ℚ := 1 / track.outputFramerate

def setOutputFramerate (env : Environment) (track : VideoTrack) (framerate : ℤ) : VideoTrack :=
  if env.clampFramerate framerate = track.outputFramerate then track
  else
    { track with
      outputFramerate := env.clampFramerate framerate
      nextDeliveryAt := 0
      positive := env.clampFramerate_pos framerate }

end VideoTrack

/-- A frame as the sender gets it. -/
structure SentFrame where
  /-- The number of the track, counted from the first. -/
  track : ℕ
  framerate : ℤ
  pts : ℕ
  positive : 0 < framerate

/-- `pts * time_base`. -/
def SentFrame.time (frame : SentFrame) : ℚ := frame.pts * (1 / frame.framerate)

/-- What the sender waits for.  A track that was replaced may still answer. -/
inductive Awaited where
  | nothing
  | current
  | replaced (track : VideoTrack) (number : ℕ)

/-- The sender with the video track of the session. -/
structure Feed where
  track : VideoTrack
  number : ℕ
  awaited : Awaited
  /-- The frames handed to the sender, the last one first. -/
  sent : List SentFrame

inductive FeedEvent where
  /-- The sender calls `recv` of its track. -/
  | recv
  /-- A frame of the source arrives, which the awaited call drops or delivers. -/
  | source (now : ℚ)
  /-- The awaited call raises. -/
  | failed
  | setOutputFramerate (framerate : ℤ)
  /-- `replace_media_capture_pipeline` installs a track. -/
  | replaced

/-- The frame that a track stamps now. -/
def VideoTrack.stamp (track : VideoTrack) (number : ℕ) : SentFrame where
  track := number
  framerate := track.outputFramerate
  pts := track.outputPts
  positive := track.positive

/-- The end of a round of `recv`: the track afterwards and whether it delivers the frame. -/
def VideoTrack.receive (track : VideoTrack) (now : ℚ) : VideoTrack × Bool :=
  let next := if track.nextDeliveryAt = 0 then now else track.nextDeliveryAt
  if next ≤ now + 1 / 1000 then
    ({ track with
        nextDeliveryAt := now + track.outputFrameIntervalSec
        outputPts := track.outputPts + 1 }, true)
  else ({ track with nextDeliveryAt := next }, false)

namespace Feed

variable (env : Environment)

def initial : Feed where
  track := .new env
  number := 0
  awaited := .nothing
  sent := []

/-- The track that the sender waits for, with its number. -/
def supplier (feed : Feed) : Option (VideoTrack × ℕ) :=
  match feed.awaited with
  | .nothing => none
  | .current => some (feed.track, feed.number)
  | .replaced track number => some (track, number)

/-- Put the track back that the sender waits for. -/
def withSupplier (feed : Feed) (track : VideoTrack) : Feed :=
  match feed.awaited with
  | .nothing => feed
  | .current => { feed with track := track }
  | .replaced _ number => { feed with awaited := .replaced track number }

def handle (feed : Feed) : FeedEvent → Feed
  | .recv =>
      match feed.awaited with
      | .nothing => { feed with awaited := .current }
      | _ => feed
  | .source now =>
      match feed.supplier with
      | none => feed
      | some (track, number) =>
          let feed := feed.withSupplier (track.receive now).1
          if (track.receive now).2 then
            { feed with awaited := .nothing, sent := track.stamp number :: feed.sent }
          else feed
  | .failed => { feed with awaited := .nothing }
  | .setOutputFramerate framerate =>
      { feed with track := feed.track.setOutputFramerate env framerate }
  | .replaced =>
      { feed with
        track := .new env
        number := feed.number + 1
        awaited :=
          match feed.awaited with
          | .current => .replaced feed.track feed.number
          | other => other }

/-- The presentation times of the frames that were sent increase. -/
def TimesIncrease (feed : Feed) : Prop :=
  feed.sent.Pairwise fun later earlier => earlier.time < later.time

/-- A frame that is delivered comes from the track of the last frame, and the rate was not raised
since by as much as the frame is a later one of its track. -/
def KeepsPace (feed : Feed) : FeedEvent → Prop
  | .source now =>
      ∀ track number, feed.supplier = some (track, number) → (track.receive now).2 →
        ∀ last, feed.sent.head? = some last →
          last.track = number ∧
            ((track.outputPts : ℤ) - 1) * track.outputFramerate <
              track.outputPts * last.framerate
  | _ => True

end Feed

/-! ## The counter of a track -/

/-- A track goes on where the last frame ended, if that was its own, and starts at zero
otherwise. -/
def ContinuesFrom (last : Option SentFrame) (track : VideoTrack) (number : ℕ) : Prop :=
  match last with
  | none => track.outputPts = 0
  | some frame =>
      frame.track ≤ number ∧ track.outputPts = if frame.track = number then frame.pts + 1 else 0

/-- The current track and the one that is awaited go on after the last frame. -/
structure Feed.Continues (feed : Feed) : Prop where
  current : ContinuesFrom feed.sent.head? feed.track feed.number
  awaited : ∀ track number, feed.awaited = .replaced track number →
    number < feed.number ∧ ContinuesFrom feed.sent.head? track number

section Counter

variable {env : Environment} {feed : Feed} {last : Option SentFrame} {track next : VideoTrack}
  {number : ℕ}

theorem ContinuesFrom.of_pts (continues : ContinuesFrom last track number)
    (same : next.outputPts = track.outputPts) : ContinuesFrom last next number := by
  unfold ContinuesFrom at *
  rwa [same]

theorem outputPts_setOutputFramerate (framerate : ℤ) :
    (track.setOutputFramerate env framerate).outputPts = track.outputPts := by
  unfold VideoTrack.setOutputFramerate
  split <;> rfl

theorem outputPts_receive (now : ℚ) :
    (track.receive now).1.outputPts =
      if (track.receive now).2 then track.outputPts + 1 else track.outputPts := by
  unfold VideoTrack.receive
  generalize (if track.nextDeliveryAt = 0 then now else track.nextDeliveryAt) = next
  dsimp only
  split <;> rfl

theorem continuesFrom_stamp (same : next.outputPts = track.outputPts + 1) :
    ContinuesFrom (some (track.stamp number)) next number := by
  unfold ContinuesFrom
  exact ⟨le_rfl, by rw [if_pos (show (track.stamp number).track = number from rfl), same]; rfl⟩

theorem continuesFrom_new (bound : ∀ frame, last = some frame → frame.track < number) :
    ContinuesFrom last (.new env) number := by
  cases last with
  | none => rfl
  | some frame =>
      have earlier := bound frame rfl
      exact ⟨earlier.le, by rw [if_neg earlier.ne]; rfl⟩

/-- A track that was installed after the last frame is at zero. -/
theorem ContinuesFrom.fresh (continues : ContinuesFrom last track number)
    (bound : ∀ frame, last = some frame → frame.track < number) : track.outputPts = 0 := by
  cases last with
  | none => exact continues
  | some frame =>
      rw [continues.2, if_neg (bound frame rfl).ne]

theorem continuesFrom_of_fresh (fresh : track.outputPts = 0)
    (bound : ∀ frame, last = some frame → frame.track < number) :
    ContinuesFrom last track number := by
  cases last with
  | none => exact fresh
  | some frame =>
      have earlier := bound frame rfl
      exact ⟨earlier.le, by rw [if_neg earlier.ne, fresh]⟩

theorem ContinuesFrom.bound (continues : ContinuesFrom last track number) :
    ∀ frame, last = some frame → frame.track ≤ number := by
  intro frame same
  subst same
  exact continues.1

theorem Feed.Continues.supplier (continues : feed.Continues)
    (supplied : feed.supplier = some (track, number)) :
    ContinuesFrom feed.sent.head? track number := by
  rw [Feed.supplier] at supplied
  split at supplied
  case h_1 => cases supplied
  case h_2 =>
    cases supplied
    exact continues.current
  case h_3 awaited =>
    cases supplied
    exact (continues.awaited _ _ awaited).2

theorem continues_initial : (Feed.initial env).Continues := by
  constructor
  case current => rfl
  case awaited =>
    intro track number awaited
    cases awaited

/-- A frame of the source is dropped or delivered, and the track goes on. -/
theorem Feed.Continues.source (continues : feed.Continues) (now : ℚ) :
    (feed.handle env (.source now)).Continues := by
  have pts {track : VideoTrack} := @outputPts_receive track now
  rw [Feed.handle, Feed.supplier]
  cases awaited : feed.awaited with
  | nothing => exact continues
  | current =>
      simp only [Feed.withSupplier, awaited]
      split
      case isTrue delivered =>
        have next := @pts feed.track
        rw [if_pos delivered] at next
        constructor
        case current => exact continuesFrom_stamp next
        case awaited => exact fun _ _ replaced => nomatch replaced
      case isFalse dropped =>
        have next := @pts feed.track
        rw [if_neg dropped] at next
        constructor
        case current => exact continues.current.of_pts next
        case awaited =>
          intro track number replaced
          cases replaced
  | replaced track number =>
      obtain ⟨earlier, own⟩ := continues.awaited track number awaited
      have next := @pts track
      simp only [Feed.withSupplier, awaited]
      split
      case isTrue delivered =>
        rw [if_pos delivered] at next
        constructor
        case current =>
          -- the new track has delivered nothing yet
          have fresh := continues.current.fresh fun frame last =>
            (own.bound frame last).trans_lt earlier
          apply continuesFrom_of_fresh fresh
          intro frame last
          cases last
          exact earlier
        case awaited => exact fun _ _ replaced => nomatch replaced
      case isFalse dropped =>
        rw [if_neg dropped] at next
        constructor
        case current => exact continues.current
        case awaited =>
          intro other otherNumber replaced
          cases replaced
          exact ⟨earlier, own.of_pts next⟩

theorem Feed.Continues.handle (continues : feed.Continues) (event : FeedEvent) :
    (feed.handle env event).Continues := by
  cases event with
  | source now => exact continues.source now
  | recv =>
      rw [Feed.handle]
      split
      case h_1 =>
        constructor
        case current => exact continues.current
        case awaited => exact fun _ _ replaced => nomatch replaced
      case h_2 => exact continues
  | failed =>
      constructor
      case current => exact continues.current
      case awaited => exact fun _ _ replaced => nomatch replaced
  | setOutputFramerate framerate =>
      constructor
      case current => exact continues.current.of_pts (outputPts_setOutputFramerate framerate)
      case awaited => exact continues.awaited
  | replaced =>
      constructor
      case current =>
        exact continuesFrom_new fun frame last =>
          Nat.lt_succ_of_le (continues.current.bound frame last)
      case awaited =>
        intro track number replaced
        simp only [Feed.handle] at replaced
        split at replaced
        case h_1 =>
          cases replaced
          exact ⟨Nat.lt_succ_self _, continues.current⟩
        case h_2 =>
          obtain ⟨earlier, own⟩ := continues.awaited track number replaced
          exact ⟨Nat.lt_succ_of_lt earlier, own⟩

end Counter

/-! ## Presentation times -/

section Times

variable {env : Environment} {feed : Feed} {last : SentFrame} {track : VideoTrack} {number : ℕ}

theorem SentFrame.time_nonneg (frame : SentFrame) : 0 ≤ frame.time := by
  have positive : (0 : ℚ) < frame.framerate := Int.cast_pos.mpr frame.positive
  exact mul_nonneg (Nat.cast_nonneg _) (one_div_nonneg.mpr positive.le)

/-- The next frame of the last track is later unless the rate has grown too much; the first frame
of another track is not. -/
theorem time_lt_iff (continues : ContinuesFrom (some last) track number) :
    last.time < (track.stamp number).time ↔
      last.track = number ∧
        ((track.outputPts : ℤ) - 1) * track.outputFramerate <
          track.outputPts * last.framerate := by
  obtain ⟨-, pts⟩ := continues
  split at pts
  case isTrue same =>
    have own : (0 : ℚ) < track.outputFramerate := Int.cast_pos.mpr track.positive
    have others : (0 : ℚ) < last.framerate := Int.cast_pos.mpr last.positive
    rw [and_iff_right same, SentFrame.time, SentFrame.time, mul_one_div, mul_one_div]
    dsimp only [VideoTrack.stamp]
    rw [div_lt_div_iff₀ others own, pts, Nat.cast_succ, Nat.cast_succ, add_sub_cancel_right]
    exact_mod_cast Iff.rfl
  case isFalse other =>
    have zero : (track.stamp number).time = 0 := by
      rw [SentFrame.time, VideoTrack.stamp, pts, Nat.cast_zero, zero_mul]
    rw [zero]
    exact iff_of_false (not_lt.mpr last.time_nonneg) fun both => other both.1

theorem timesIncrease_cons {sent : List SentFrame} {frame : SentFrame}
    (increase : sent.Pairwise fun later earlier => earlier.time < later.time) :
    ((frame :: sent).Pairwise fun later earlier => earlier.time < later.time) ↔
      ∀ last, sent.head? = some last → last.time < frame.time := by
  rw [List.pairwise_cons, and_iff_left increase]
  cases sent with
  | nil => simp
  | cons first rest =>
      constructor
      case mp =>
        intro all last head
        cases head
        exact all first List.mem_cons_self
      case mpr =>
        intro all
        have later := all first rfl
        rw [List.forall_mem_cons]
        exact ⟨later, fun frame member => (List.rel_of_pairwise_cons increase member).trans later⟩

/-- A step keeps the times in order exactly if it keeps pace. -/
theorem Feed.timesIncrease_handle (continues : feed.Continues) (increase : feed.TimesIncrease)
    (event : FeedEvent) : (feed.handle env event).TimesIncrease ↔ feed.KeepsPace event := by
  cases event with
  | recv =>
      rw [Feed.handle]
      split <;> exact iff_of_true increase trivial
  | failed | setOutputFramerate | replaced => exact iff_of_true increase trivial
  | source now =>
      have kept (track : VideoTrack) : (feed.withSupplier track).sent = feed.sent := by
        unfold Feed.withSupplier
        split <;> rfl
      rw [Feed.handle, Feed.KeepsPace]
      cases supplied : feed.supplier with
      | none => exact iff_of_true increase fun _ _ some => nomatch some
      | some pair =>
          obtain ⟨track, number⟩ := pair
          have own := continues.supplier supplied
          dsimp only
          split
          case isFalse dropped =>
            rw [Feed.TimesIncrease, kept]
            refine iff_of_true increase fun other _ same delivered => ?_
            cases same
            exact absurd delivered dropped
          case isTrue delivered =>
            rw [Feed.TimesIncrease, kept, timesIncrease_cons increase]
            constructor
            case mp =>
              intro later other _ same _ last head
              cases same
              rw [head] at own
              exact (time_lt_iff own).mp (later last head)
            case mpr =>
              intro paced last head
              rw [head] at own
              exact (time_lt_iff own).mpr (paced track number rfl delivered last head)

end Times

/-- Presentation times increase throughout a session exactly if every frame keeps pace. -/
theorem presentation_times_increase_iff (env : Environment) (events : List FeedEvent) :
    (∀ before, before <+: events →
      (Runs.run (Feed.handle env) (Feed.initial env) before).TimesIncrease) ↔
        Runs.Throughout (Feed.handle env) (Feed.initial env) Feed.KeepsPace events := by
  have kept (feed : Feed) (event : FeedEvent) (continues : feed.Continues) :
      (feed.handle env event).Continues := continues.handle event
  have exact' (feed : Feed) (event : FeedEvent) (continues : feed.Continues)
      (increase : feed.TimesIncrease) :
      (feed.handle env event).TimesIncrease ↔ feed.KeepsPace event :=
    Feed.timesIncrease_handle continues increase event
  exact Runs.always_iff_throughout continues_initial kept List.Pairwise.nil exact' events

def defaultEnvironment : Environment := ⟨none, none, none⟩

/-- A new track starts at zero again; a frame after the rate was raised from 5 to 20 is earlier. -/
theorem presentation_times_go_back :
    ¬(Runs.run (Feed.handle defaultEnvironment) (Feed.initial defaultEnvironment)
      [.recv, .source 1, .replaced, .recv, .source 2]).TimesIncrease ∧
    ¬(Runs.run (Feed.handle defaultEnvironment) (Feed.initial defaultEnvironment)
      [.recv, .source 1, .setOutputFramerate 5, .recv, .source 2, .setOutputFramerate 20,
        .recv, .source 3]).TimesIncrease := by
  unfold Feed.TimesIncrease
  decide +kernel

end RemoteBrowser.Capture
