import RemoteBrowser.Capture.Track

/-!
# The interaction mode

While the viewer is active the worker captures at a lower rate, and a restore task goes back to the
usual rate when the viewer has been idle for a while.
-/

namespace RemoteBrowser.Capture

/-- A message with the texts of its fields; a field that is missing or falsy is empty. -/
structure ModeMessage where
  type : String
  mode : String
  interactionMode : String
  value : String

/-- The part of a `SessionRuntime` that the interaction mode is about. -/
structure SessionRuntime where
  videoTrack : Option VideoTrack
  currentVideoTargetFramerate : ℤ
  interactionMode : String
  interactionActiveUntil : ℚ
  interactionRestoreTask : Option ℕ
  /-- The restore tasks that have not finished. -/
  unfinished : List ℕ
  /-- The number of restore tasks so far. -/
  created : ℕ

/-- What runs from one await point to the next. -/
inductive RuntimeEvent where
  /-- A message for which `note_interaction_activity` is called. -/
  | input (now : ℚ)
  | modeMessage (message : ModeMessage) (now : ℚ)
  /-- A restore task goes on. -/
  | restoreTurn (task : ℕ) (now : ℚ) (shutdown : Bool)
  /-- A new pipeline is installed. -/
  | installed

namespace SessionRuntime

variable (env : Environment) (strip : String → String)

def initial : SessionRuntime where
  videoTrack := none
  currentVideoTargetFramerate := env.captureFramerate
  interactionMode := "idle"
  interactionActiveUntil := 0
  interactionRestoreTask := none
  unfinished := []
  created := 0

def setVideoTrackFramerate (runtime : SessionRuntime) (framerate : ℤ) : SessionRuntime :=
  { runtime with
    currentVideoTargetFramerate := env.clampFramerate framerate
    videoTrack := runtime.videoTrack.map
      (·.setOutputFramerate env (env.clampFramerate framerate)) }

def ensureInteractionRestoreTask (runtime : SessionRuntime) : SessionRuntime :=
  if env.interactionModeHoldSec ≤ 0 then runtime
  else if runtime.interactionRestoreTask.any (· ∈ runtime.unfinished) then runtime
  else
    { runtime with
      interactionRestoreTask := some runtime.created
      unfinished := runtime.created :: runtime.unfinished
      created := runtime.created + 1 }

def noteInteractionActivity (runtime : SessionRuntime) (now : ℚ) : SessionRuntime :=
  if env.interactionModeHoldSec ≤ 0 then runtime
  else
    let runtime := { runtime with interactionActiveUntil := now + env.interactionModeHoldSec }
    let runtime :=
      if runtime.interactionMode = "interaction" then runtime
      else
        { runtime with interactionMode := "interaction" }.setVideoTrackFramerate env
          env.interactionCaptureFramerate
    runtime.ensureInteractionRestoreTask env

/-- The mode that a message asks for. -/
def requestedMode (message : ModeMessage) : String :=
  let chosen :=
    if message.mode ≠ "" then message.mode
    else if message.interactionMode ≠ "" then message.interactionMode
    else if message.value ≠ "" then message.value
    else "default"
  if strip chosen = "" then "default" else strip chosen

def handleInteractionModeMessage (runtime : SessionRuntime) (message : ModeMessage) (now : ℚ) :
    SessionRuntime :=
  if message.type ∉ ["interaction-mode", "interaction.mode", "interaction.mode.set"] then runtime
  else if requestedMode strip message ∈ ["interaction", "active"] then
    ({ runtime with
        interactionMode := "interaction"
        interactionActiveUntil := now + env.interactionModeHoldSec }.setVideoTrackFramerate env
      env.interactionCaptureFramerate).ensureInteractionRestoreTask env
  else
    { runtime with
      interactionMode := requestedMode strip message
      interactionActiveUntil := 0 }.setVideoTrackFramerate env env.captureFramerate

/-- A turn of `restore_interaction_mode_after_idle`: it sleeps again or ends. -/
def restoreTurn (runtime : SessionRuntime) (task : ℕ) (now : ℚ) (shutdown : Bool) :
    SessionRuntime :=
  if shutdown = false ∧ 0 < runtime.interactionActiveUntil - now then runtime
  else
    let runtime :=
      if runtime.interactionMode ∈ ["interaction", "active"] then
        { runtime with interactionMode := "idle" }.setVideoTrackFramerate env env.captureFramerate
      else runtime
    { runtime with
      interactionRestoreTask := none
      unfinished := runtime.unfinished.erase task }

def handle (runtime : SessionRuntime) : RuntimeEvent → SessionRuntime
  | .input now => runtime.noteInteractionActivity env now
  | .modeMessage message now => runtime.handleInteractionModeMessage env strip message now
  | .restoreTurn task now shutdown =>
      if task ∈ runtime.unfinished then runtime.restoreTurn env task now shutdown else runtime
  | .installed => { runtime with videoTrack := some (.new env) }

/-- The rate that belongs to a mode. -/
def modeFramerate (mode : String) : ℤ :=
  env.clampFramerate
    (if mode = "interaction" then env.interactionCaptureFramerate else env.captureFramerate)

/-- Mode, target and track go together, and somebody will end the interaction. -/
structure InStep (runtime : SessionRuntime) : Prop where
  target : runtime.currentVideoTargetFramerate = modeFramerate env runtime.interactionMode
  restore : 0 < env.interactionModeHoldSec → runtime.interactionMode = "interaction" →
    ∃ task ∈ runtime.unfinished, runtime.interactionRestoreTask = some task
  track : ∀ track, runtime.videoTrack = some track →
    track.outputFramerate = runtime.currentVideoTargetFramerate

/-- A pipeline is installed outside of an interaction, or the two rates are the same. -/
def KeepsRate (runtime : SessionRuntime) : RuntimeEvent → Prop
  | .installed => runtime.interactionMode = "interaction" →
      env.interactionCaptureFramerate = env.captureFramerate
  | _ => True

/-- There is at most one restore task, the one that the session knows. -/
structure Sound (runtime : SessionRuntime) : Prop where
  target : runtime.currentVideoTargetFramerate = modeFramerate env runtime.interactionMode
  tasks : runtime.unfinished = runtime.interactionRestoreTask.toList
  restore : 0 < env.interactionModeHoldSec → runtime.interactionMode = "interaction" →
    runtime.interactionRestoreTask.isSome

/-- The track has the rate that is the target. -/
def Matched (runtime : SessionRuntime) : Prop :=
  ∀ track, runtime.videoTrack = some track →
    track.outputFramerate = runtime.currentVideoTargetFramerate

end SessionRuntime

section Steps

variable {env : Environment} {strip : String → String} {runtime : SessionRuntime}

open SessionRuntime

theorem clampFramerate_idem (framerate : ℤ) :
    env.clampFramerate (env.clampFramerate framerate) = env.clampFramerate framerate := by
  have positive := env.captureFramerate_pos
  unfold Environment.clampFramerate
  omega

theorem outputFramerate_setOutputFramerate (track : VideoTrack) (framerate : ℤ) :
    (track.setOutputFramerate env framerate).outputFramerate = env.clampFramerate framerate := by
  unfold VideoTrack.setOutputFramerate
  split
  case isTrue same => exact same.symm
  case isFalse => rfl

/-- Setting the target sets the track along. -/
theorem matched_setVideoTrackFramerate (framerate : ℤ) :
    (runtime.setVideoTrackFramerate env framerate).Matched := by
  intro track same
  obtain ⟨before, -, rfl⟩ := Option.map_eq_some_iff.mp same
  rw [outputFramerate_setOutputFramerate, clampFramerate_idem]
  rfl

theorem matched_ensure (matched : runtime.Matched) :
    (runtime.ensureInteractionRestoreTask env).Matched := by
  unfold ensureInteractionRestoreTask
  split
  · exact matched
  · split <;> exact matched

/-- The task that is wanted is there afterwards. -/
theorem sound_ensure
    (target : runtime.currentVideoTargetFramerate = modeFramerate env runtime.interactionMode)
    (tasks : runtime.unfinished = runtime.interactionRestoreTask.toList) :
    (runtime.ensureInteractionRestoreTask env).Sound env := by
  unfold ensureInteractionRestoreTask
  split
  case isTrue never => exact ⟨target, tasks, fun holds => absurd never (not_le.mpr holds)⟩
  case isFalse =>
    split
    case isTrue known =>
      obtain ⟨task, same, -⟩ := (Option.any_eq_true ..).mp known
      exact ⟨target, tasks, fun _ _ => Option.isSome_of_mem same⟩
    case isFalse unknown =>
      have none : runtime.interactionRestoreTask = none := by
        cases known : runtime.interactionRestoreTask with
        | none => rfl
        | some task =>
            rw [known] at tasks unknown
            exact absurd (by simp [tasks]) unknown
      constructor
      case target => exact target
      case tasks =>
        rw [none] at tasks
        dsimp only
        rw [tasks]
        rfl
      case restore => exact fun _ _ => rfl

theorem SessionRuntime.Sound.noteInteractionActivity (sound : runtime.Sound env) (now : ℚ) :
    (runtime.noteInteractionActivity env now).Sound env := by
  unfold SessionRuntime.noteInteractionActivity
  split
  case isTrue => exact sound
  case isFalse =>
    apply sound_ensure
    case target =>
      dsimp only
      split
      case isTrue => exact sound.target
      case isFalse => rfl
    case tasks =>
      dsimp only
      split <;> exact sound.tasks

theorem SessionRuntime.Matched.noteInteractionActivity (matched : runtime.Matched) (now : ℚ) :
    (runtime.noteInteractionActivity env now).Matched := by
  unfold SessionRuntime.noteInteractionActivity
  split
  case isTrue => exact matched
  case isFalse =>
    apply matched_ensure
    dsimp only
    split
    case isTrue => exact matched
    case isFalse => exact matched_setVideoTrackFramerate _

theorem SessionRuntime.Sound.handleInteractionModeMessage (sound : runtime.Sound env)
    (message : ModeMessage)
    (now : ℚ) : (runtime.handleInteractionModeMessage env strip message now).Sound env := by
  unfold SessionRuntime.handleInteractionModeMessage
  split
  case isTrue => exact sound
  case isFalse =>
    split
    case isTrue => exact sound_ensure rfl sound.tasks
    case isFalse other =>
      have idle : requestedMode strip message ≠ "interaction" := by
        intro same
        exact other (by simp [same])
      constructor
      case target =>
        have rate : modeFramerate env (requestedMode strip message) =
            env.clampFramerate env.captureFramerate := by rw [modeFramerate, if_neg idle]
        exact rate.symm
      case tasks => exact sound.tasks
      case restore => exact fun _ same => absurd same idle

theorem SessionRuntime.Matched.handleInteractionModeMessage (matched : runtime.Matched)
    (message : ModeMessage)
    (now : ℚ) : (runtime.handleInteractionModeMessage env strip message now).Matched := by
  unfold SessionRuntime.handleInteractionModeMessage
  split
  case isTrue => exact matched
  case isFalse =>
    split
    case isTrue => exact matched_ensure (matched_setVideoTrackFramerate _)
    case isFalse => exact matched_setVideoTrackFramerate _

/-- A restore task that ends has left the interaction. -/
theorem SessionRuntime.Sound.restoreTurn (sound : runtime.Sound env) {task : ℕ}
    (alive : task ∈ runtime.unfinished)
    (now : ℚ) (shutdown : Bool) : (runtime.restoreTurn env task now shutdown).Sound env := by
  have only : runtime.unfinished.erase task = [] := by
    rw [sound.tasks] at alive ⊢
    rw [Option.mem_toList] at alive
    rw [alive]
    exact List.erase_cons_head task []
  unfold SessionRuntime.restoreTurn
  split
  case isTrue => exact sound
  case isFalse =>
    dsimp only
    split
    case isTrue =>
      constructor
      case target => rfl
      case tasks => exact only
      case restore =>
        exact fun _ same => absurd same (show "idle" ≠ "interaction" by decide)
    case isFalse idle =>
      constructor
      case target => exact sound.target
      case tasks => exact only
      case restore => exact fun _ same => absurd (show _ ∈ _ by rw [same]; decide) idle

theorem SessionRuntime.Matched.restoreTurn (matched : runtime.Matched) (task : ℕ) (now : ℚ)
    (shutdown : Bool) :
    (runtime.restoreTurn env task now shutdown).Matched := by
  unfold SessionRuntime.restoreTurn
  split
  case isTrue => exact matched
  case isFalse =>
    dsimp only
    split
    case isTrue => exact matched_setVideoTrackFramerate _
    case isFalse => exact matched

theorem SessionRuntime.Sound.handle (sound : runtime.Sound env) (event : RuntimeEvent) :
    (runtime.handle env strip event).Sound env := by
  cases event with
  | input now => exact sound.noteInteractionActivity now
  | modeMessage message now => exact sound.handleInteractionModeMessage message now
  | installed => exact ⟨sound.target, sound.tasks, sound.restore⟩
  | restoreTurn task now shutdown =>
      rw [SessionRuntime.handle]
      split
      case isTrue alive => exact sound.restoreTurn alive now shutdown
      case isFalse => exact sound

/-- Only a new track can have another rate than the target. -/
theorem matched_handle_iff (sound : runtime.Sound env) (matched : runtime.Matched)
    (event : RuntimeEvent) :
    (runtime.handle env strip event).Matched ↔ runtime.KeepsRate env event := by
  cases event with
  | input now => exact iff_of_true (matched.noteInteractionActivity now) trivial
  | modeMessage message now =>
      exact iff_of_true (matched.handleInteractionModeMessage message now) trivial
  | restoreTurn task now shutdown =>
      rw [SessionRuntime.handle]
      split
      case isTrue => exact iff_of_true (matched.restoreTurn task now shutdown) trivial
      case isFalse => exact iff_of_true matched trivial
  | installed =>
      have rate : (VideoTrack.new env).outputFramerate = env.captureFramerate :=
        max_eq_right (by have := env.captureFramerate_pos; omega)
      have installed : (runtime.handle env strip .installed).Matched ↔
          env.captureFramerate = runtime.currentVideoTargetFramerate := by
        rw [← rate]
        constructor
        case mp => exact fun all => all _ rfl
        case mpr =>
          intro same track new
          cases new
          exact same
      rw [installed, sound.target, modeFramerate, SessionRuntime.KeepsRate]
      split
      case isTrue active =>
        rw [env.clampFramerate_interaction, eq_comm]
        exact ⟨fun same _ => same, fun all => all active⟩
      case isFalse idle =>
        rw [env.clampFramerate_capture]
        exact iff_of_true rfl fun active => absurd active idle

theorem inStep_iff (sound : runtime.Sound env) : runtime.InStep env ↔ runtime.Matched := by
  constructor
  case mp => exact fun inStep => inStep.track
  case mpr =>
    intro matched
    refine ⟨sound.target, fun holds active => ?_, matched⟩
    obtain ⟨task, same⟩ := Option.isSome_iff_exists.mp (sound.restore holds active)
    refine ⟨task, ?_, same⟩
    rw [sound.tasks, same]
    exact List.mem_cons_self

theorem sound_initial : (SessionRuntime.initial env).Sound env := by
  constructor
  case target => exact env.clampFramerate_capture.symm
  case tasks => rfl
  case restore => exact fun _ active => absurd active (show "idle" ≠ "interaction" by decide)

end Steps

open SessionRuntime in
/-- Mode, target and track go together throughout a session exactly if no pipeline is installed at
the usual rate during an interaction. -/
theorem rate_stays_in_step_iff (env : Environment) (strip : String → String)
    (events : List RuntimeEvent) :
    (∀ before, before <+: events →
      InStep env (Runs.run (SessionRuntime.handle env strip) (SessionRuntime.initial env) before)) ↔
        Runs.Throughout (SessionRuntime.handle env strip) (SessionRuntime.initial env)
          (KeepsRate env) events := by
  have kept (runtime : SessionRuntime) (event : RuntimeEvent) (sound : runtime.Sound env) :
      (runtime.handle env strip event).Sound env := sound.handle event
  have exact' (runtime : SessionRuntime) (event : RuntimeEvent) (sound : runtime.Sound env)
      (matched : runtime.Matched) :
      (runtime.handle env strip event).Matched ↔ runtime.KeepsRate env event :=
    matched_handle_iff sound matched event
  have untracked : (SessionRuntime.initial env).Matched := fun _ same => nomatch same
  rw [← Runs.always_iff_throughout sound_initial kept untracked exact']
  apply forall_congr'
  intro before
  apply imp_congr_right
  intro _
  exact inStep_iff (Runs.run_invariant sound_initial kept before)

/-- A recovery during an interaction brings the usual rate back while the target stays low. -/
theorem recovery_during_interaction_is_out_of_step :
    ¬SessionRuntime.InStep defaultEnvironment
      (Runs.run (SessionRuntime.handle defaultEnvironment id)
        (SessionRuntime.initial defaultEnvironment) [.installed, .input 1, .installed]) := by
  intro inStep
  exact absurd (inStep.track (.new defaultEnvironment) rfl) (by decide +kernel)

end RemoteBrowser.Capture
