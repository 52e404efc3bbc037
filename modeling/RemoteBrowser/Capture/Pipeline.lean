import RemoteBrowser.Events.Runs

/-!
# Capture pipelines

A recovery builds a new capture pipeline, installs it and stops the one before; closing a session
stops the pipeline that is installed.  Both use helpers that take the current pipeline's part
where none is given.
-/

namespace RemoteBrowser.Capture

/-- What has to be stopped, with the number of its build. -/
inductive Component where
  | capture (number : ℕ)
  /-- The video of a `MediaPlayer` of the screen, which has no audio. -/
  | screen (number : ℕ)
  | screenshots (number : ℕ)
  | videoTrack (number : ℕ)
  | audioTrack (number : ℕ)
  deriving DecidableEq

def Component.number : Component → ℕ
  | capture number | screen number | screenshots number | videoTrack number | audioTrack number =>
      number

/-- A video track with the source track that it stops along with itself. -/
structure PipelineTrack where
  number : ℕ
  source : Option Component
  deriving DecidableEq

def PipelineTrack.components (track : PipelineTrack) : List Component :=
  track.source.toList ++ [.videoTrack track.number]

structure Pipeline where
  videoPlayer : Option ℕ
  sourceCoupledCapture : Option ℕ
  videoTrack : Option PipelineTrack
  audioTrack : Option ℕ
  deriving DecidableEq

namespace Pipeline

def nothing : Pipeline := ⟨none, none, none, none⟩

def components (pipeline : Pipeline) : List Component :=
  pipeline.videoPlayer.toList.map .screen ++ pipeline.sourceCoupledCapture.toList.map .capture ++
    pipeline.videoTrack.toList.flatMap (·.components) ++
    pipeline.audioTrack.toList.map .audioTrack

/-! The three kinds of pipelines. -/

def sourceCoupled (number : ℕ) : Pipeline :=
  ⟨none, some number, some ⟨number, none⟩, some number⟩

def x11grab (number : ℕ) (audio : Bool) : Pipeline :=
  ⟨some number, none, some ⟨number, some (.screen number)⟩, if audio then some number else none⟩

def cdpScreenshots (number : ℕ) (audio : Bool) : Pipeline :=
  ⟨none, none, some ⟨number, some (.screenshots number)⟩, if audio then some number else none⟩

/-! What the helpers stop, from the pipeline that is installed and the one that they are given. -/

def stopVideoCapturePipeline (own given : Pipeline) : List Component :=
  let activePlayer := given.videoPlayer.or own.videoPlayer
  let activeTrack := given.videoTrack.or own.videoTrack
  activeTrack.toList.flatMap (·.components) ++ activePlayer.toList.map .screen

def stopMediaCapturePipeline (own given : Pipeline) : List Component :=
  let activeCapture := given.sourceCoupledCapture.or own.sourceCoupledCapture
  activeCapture.toList.map .capture ++
    (if given.audioTrack ≠ own.audioTrack then given.audioTrack.toList.map .audioTrack else []) ++
    stopVideoCapturePipeline own given

end Pipeline

/-- Where the recovery in progress waits. -/
inductive Recovery where
  | idle
  | healing
  /-- `SourceCoupledAVCapture.start`. -/
  | starting (number : ℕ)
  /-- `CDPScreenshotTrack.prime`. -/
  | priming (number : ℕ)
  deriving DecidableEq

/-- The component that a recovery has made and not yet installed. -/
def Recovery.component : Recovery → Option Component
  | idle | healing => none
  | starting number => some (.capture number)
  | priming number => some (.screenshots number)

/-- The part of a `SessionRuntime` that capture is about. -/
structure CaptureSession where
  pipeline : Pipeline
  /-- Whether `pc` is there; `close()` ends with it gone. -/
  pc : Bool
  videoTransceiver : Bool
  audioSender : Bool
  sourceCoupledAvExperiment : Bool
  recovery : Recovery
  /-- The number of builds so far. -/
  builds : ℕ
  built : List Component
  stopped : List Component
  deriving DecidableEq

/-- What happens until the next await point: whether the screen can be opened, whether the
audio can be captured and whether the peer connection takes a new track. -/
structure Outcome where
  screen : Bool
  audio : Bool
  accepted : Bool
  deriving DecidableEq

/-- How far a build gets without waiting. -/
inductive BuildStep where
  | waits (recovery : Recovery)
  | returns (pipeline : Pipeline)
  | raises

/-- What runs from one await point to the next. -/
inductive CaptureEvent where
  /-- `attempt_local_media_recovery`, outside of its cooldown. -/
  | recover
  /-- What the recovery waits for returns, or raises. -/
  | resumed (returns : Bool) (outcome : Outcome)
  /-- The task that the recovery runs in is cancelled. -/
  | cancelled
  /-- The end of `close()`, from the last await point on. -/
  | closed

namespace CaptureSession

/-- Give the new pipeline's tracks to the peer connection; the second part tells whether nothing
was raised. -/
def attachVideo (session : CaptureSession) (accepted : Bool) : CaptureSession × Bool :=
  if session.videoTransceiver then (session, true)
  else if session.pc && accepted then ({ session with videoTransceiver := true }, true)
  else (session, false)

def attachAudio (session : CaptureSession) (accepted : Bool) : CaptureSession × Bool :=
  if session.pipeline.audioTrack.isNone || session.audioSender then (session, true)
  else if session.pc && accepted then ({ session with audioSender := true }, true)
  else (session, false)

/-- The second part tells whether it returns normally. -/
def replaceMediaCapturePipeline (session : CaptureSession) (next : Pipeline) (accepted : Bool) :
    CaptureSession × Bool :=
  let previous := session.pipeline
  let installed :=
    { session with
      pipeline := next
      recovery := .idle
      built := session.built ++ next.components }
  let video := installed.attachVideo accepted
  let audio := video.1.attachAudio accepted
  -- what is raised is caught by the recovery
  if video.2 = false then (video.1, false)
  else if audio.2 = false then (audio.1, false)
  else
    ({ audio.1 with stopped := session.stopped ++ next.stopMediaCapturePipeline previous }, true)

def buildVideoCapturePipeline (backend : String) (number : ℕ) (outcome : Outcome) : BuildStep :=
  if backend ∈ ["browser-native", "cdp-screenshot"] then .waits (.priming number)
  else if outcome.screen then .returns (.x11grab number outcome.audio)
  else .raises

def buildMediaCapturePipeline (backend : String) (session : CaptureSession) (outcome : Outcome) :
    CaptureSession × BuildStep :=
  let number := session.builds
  let session := { session with builds := number + 1 }
  if session.sourceCoupledAvExperiment then
    if backend ≠ "x11grab" then
      ({ session with sourceCoupledAvExperiment := false },
        buildVideoCapturePipeline backend number outcome)
    else (session, .waits (.starting number))
  else (session, buildVideoCapturePipeline backend number outcome)

/-- A recovery goes on where it waits.  A capture that fails to start stops itself. -/
def resume (backend : String) (session : CaptureSession) (returns : Bool) (outcome : Outcome) :
    CaptureSession × BuildStep :=
  match session.recovery with
  | .idle => (session, .raises)
  | .healing => session.buildMediaCapturePipeline backend outcome
  | .starting number =>
      if returns then (session, .returns (.sourceCoupled number))
      else
        ({ session with
            sourceCoupledAvExperiment := false
            stopped := session.stopped ++ [.capture number] },
          buildVideoCapturePipeline backend number outcome)
  | .priming number =>
      if returns then (session, .returns (.cdpScreenshots number outcome.audio))
      else ({ session with stopped := session.stopped ++ [.screenshots number] }, .raises)

def take (session : CaptureSession) (accepted : Bool) : BuildStep → CaptureSession × Bool
  | .waits recovery =>
      ({ session with
          recovery := recovery
          built := session.built ++ recovery.component.toList }, false)
  | .returns next => session.replaceMediaCapturePipeline next accepted
  | .raises => ({ session with recovery := .idle }, false)

/-- The audio track is stopped first, then the rest with `stop_media_capture_pipeline`. -/
def close (session : CaptureSession) : CaptureSession :=
  { session with
    pipeline := .nothing
    pc := false
    videoTransceiver := false
    audioSender := false
    stopped := session.stopped ++ session.pipeline.audioTrack.toList.map .audioTrack ++
      { session.pipeline with audioTrack := none }.stopMediaCapturePipeline .nothing }

/-- The second part tells whether a replacement has returned normally. -/
def turn (backend : String) (session : CaptureSession) : CaptureEvent → CaptureSession × Bool
  | .recover =>
      if session.pipeline.videoTrack.isSome ∧ session.recovery = .idle then
        ({ session with recovery := .healing }, false)
      else (session, false)
  | .resumed returns outcome =>
      let resumed := session.resume backend returns outcome
      resumed.1.take outcome.accepted resumed.2
  | .cancelled => ({ session with recovery := .idle }, false)
  | .closed => (session.close, false)

def handle (backend : String) (session : CaptureSession) (event : CaptureEvent) : CaptureSession :=
  (session.turn backend event).1

/-- The session with its first pipeline. -/
def started (pipeline : Pipeline) (sourceCoupledAvExperiment : Bool) : CaptureSession where
  pipeline := pipeline
  pc := true
  videoTransceiver := true
  audioSender := pipeline.audioTrack.isSome
  sourceCoupledAvExperiment := sourceCoupledAvExperiment
  recovery := .idle
  builds := 1
  built := pipeline.components
  stopped := []

/-- After `setup_peer_connection`: a source-coupled capture, or what takes its place. -/
def initial (backend : String) (sourceCoupledAvExperiment : Bool) (outcome : Outcome)
    (starts : Bool) : CaptureSession :=
  if sourceCoupledAvExperiment ∧ backend = "x11grab" ∧ starts then started (.sourceCoupled 0) true
  else if backend ∈ ["browser-native", "cdp-screenshot"] then
    started (.cdpScreenshots 0 outcome.audio) false
  else started (.x11grab 0 outcome.audio) false

/-- Whether the peer connection takes the tracks of a pipeline. -/
def attaches (session : CaptureSession) (next : Pipeline) (accepted : Bool) : Bool :=
  (session.videoTransceiver || session.pc && accepted) &&
    (next.audioTrack.isNone || session.audioSender || session.pc && accepted)

end CaptureSession

/-! ## The helpers -/

section Helpers

variable {own previous : Pipeline}

theorem mem_components {pipeline : Pipeline} {component : Component} :
    component ∈ pipeline.components ↔
      (∃ number, pipeline.videoPlayer = some number ∧ component = .screen number) ∨
      (∃ number, pipeline.sourceCoupledCapture = some number ∧ component = .capture number) ∨
      (∃ track, pipeline.videoTrack = some track ∧ component ∈ track.components) ∨
      ∃ number, pipeline.audioTrack = some number ∧ component = .audioTrack number := by
  simp [Pipeline.components, eq_comm]

/-- What is stopped is the part that is given, or the current one. -/
theorem mem_stopMediaCapturePipeline {component : Component} :
    component ∈ own.stopMediaCapturePipeline previous ↔
      (∃ number, previous.sourceCoupledCapture.or own.sourceCoupledCapture = some number ∧
        component = .capture number) ∨
      (previous.audioTrack ≠ own.audioTrack ∧
        ∃ number, previous.audioTrack = some number ∧ component = .audioTrack number) ∨
      (∃ track, previous.videoTrack.or own.videoTrack = some track ∧
        component ∈ track.components) ∨
      ∃ number, previous.videoPlayer.or own.videoPlayer = some number ∧
        component = .screen number := by
  simp only [Pipeline.stopMediaCapturePipeline, Pipeline.stopVideoCapturePipeline,
    List.mem_append, List.mem_map, List.mem_flatMap, Option.mem_toList, or_assoc]
  split
  case isTrue differ => simp [differ, eq_comm]
  case isFalse same => simp [not_not.mp same, eq_comm]

/-- All components of the pipeline that is given are stopped. -/
theorem stops_given (apart : previous.audioTrack.isSome → previous.audioTrack ≠ own.audioTrack)
    {component : Component} (member : component ∈ previous.components) :
    component ∈ own.stopMediaCapturePipeline previous := by
  rw [mem_stopMediaCapturePipeline]
  rcases mem_components.mp member with
    ⟨number, same, kind⟩ | ⟨number, same, kind⟩ | ⟨track, same, part⟩ | ⟨number, same, kind⟩
  · exact .inr (.inr (.inr ⟨number, by rw [same]; rfl, kind⟩))
  · exact .inl ⟨number, by rw [same]; rfl, kind⟩
  · exact .inr (.inr (.inl ⟨track, by rw [same]; rfl, part⟩))
  · exact .inr (.inl ⟨apart (Option.isSome_of_mem same), number, same, kind⟩)

/-- The current pipeline is spared unless it has a player or a capture and the one that is given
has none. -/
theorem spares_own_iff (apart : ∀ component ∈ own.components, component ∉ previous.components)
    (tracked : previous.videoTrack.isSome) :
    (∀ component ∈ own.components, component ∉ own.stopMediaCapturePipeline previous) ↔
      (previous.videoPlayer = none → own.videoPlayer = none) ∧
        (previous.sourceCoupledCapture = none → own.sourceCoupledCapture = none) := by
  obtain ⟨track, hasTrack⟩ := Option.isSome_iff_exists.mp tracked
  constructor
  case mp =>
    intro spared
    constructor
    case left =>
      intro none
      by_contra some
      obtain ⟨number, same⟩ := Option.ne_none_iff_exists'.mp some
      apply spared (.screen number) (mem_components.mpr (.inl ⟨number, same, rfl⟩))
      rw [mem_stopMediaCapturePipeline]
      exact .inr (.inr (.inr ⟨number, by rw [none, same]; rfl, rfl⟩))
    case right =>
      intro none
      by_contra some
      obtain ⟨number, same⟩ := Option.ne_none_iff_exists'.mp some
      apply spared (.capture number) (mem_components.mpr (.inr (.inl ⟨number, same, rfl⟩)))
      rw [mem_stopMediaCapturePipeline]
      exact .inl ⟨number, by rw [none, same]; rfl, rfl⟩
  case mpr =>
    rintro ⟨player, capture⟩ component member stopped
    apply apart component member
    rw [mem_components]
    rcases mem_stopMediaCapturePipeline.mp stopped with
      ⟨number, same, kind⟩ | ⟨-, number, same, kind⟩ | ⟨other, same, part⟩ | ⟨number, same, kind⟩
    · cases given : previous.sourceCoupledCapture with
      | none =>
          rw [given, capture given] at same
          cases same
      | some value =>
          rw [given] at same
          exact .inr (.inl ⟨value, rfl, by rw [kind, Option.some.inj same]⟩)
    · exact .inr (.inr (.inr ⟨number, same, kind⟩))
    · rw [hasTrack] at same
      exact .inr (.inr (.inl ⟨track, hasTrack, by rwa [Option.some.inj same]⟩))
    · cases given : previous.videoPlayer with
      | none =>
          rw [given, player given] at same
          cases same
      | some value =>
          rw [given] at same
          exact .inl ⟨value, rfl, by rw [kind, Option.some.inj same]⟩

/-- The components of a build have its number. -/
def IsNumbered (pipeline : Pipeline) (number : ℕ) : Prop :=
  ∀ component ∈ pipeline.components, component.number = number

theorem isNumbered_sourceCoupled (number : ℕ) : IsNumbered (.sourceCoupled number) number := by
  simp [IsNumbered, Pipeline.components, Pipeline.sourceCoupled, PipelineTrack.components,
    Component.number]

theorem isNumbered_x11grab (number : ℕ) (audio : Bool) :
    IsNumbered (.x11grab number audio) number := by
  cases audio <;>
    simp [IsNumbered, Pipeline.components, Pipeline.x11grab, PipelineTrack.components,
      Component.number]

theorem isNumbered_cdpScreenshots (number : ℕ) (audio : Bool) :
    IsNumbered (.cdpScreenshots number audio) number := by
  cases audio <;>
    simp [IsNumbered, Pipeline.components, Pipeline.cdpScreenshots, PipelineTrack.components,
      Component.number]

theorem videoTrack_mem {pipeline : Pipeline} {track : PipelineTrack}
    (same : pipeline.videoTrack = some track) :
    .videoTrack track.number ∈ pipeline.components :=
  mem_components.mpr (.inr (.inr (.inl ⟨track, same, by simp [PipelineTrack.components]⟩)))

end Helpers

/-! ## A replacement -/

section Replacing

variable {session : CaptureSession} {next : Pipeline} {accepted : Bool}

open CaptureSession

/-- What a replacement does to the session, whether or not it returns normally. -/
structure Replacement (session : CaptureSession) (next : Pipeline) (accepted : Bool)
    (result : CaptureSession × Bool) : Prop where
  normal : result.2 = session.attaches next accepted
  pipeline : result.1.pipeline = next
  recovery : result.1.recovery = .idle
  built : result.1.built = session.built ++ next.components
  builds : result.1.builds = session.builds
  pc : result.1.pc = session.pc
  transceiver : result.1.videoTransceiver =
    (session.videoTransceiver || session.pc && accepted)
  stopped : result.1.stopped =
    if result.2 then session.stopped ++ next.stopMediaCapturePipeline session.pipeline
    else session.stopped

theorem replacement : Replacement session next accepted
    (session.replaceMediaCapturePipeline next accepted) := by
  unfold replaceMediaCapturePipeline attachVideo attachAudio
  cases transceiver : session.videoTransceiver <;> cases accepts : session.pc && accepted <;>
    cases audio : next.audioTrack.isNone || session.audioSender <;>
      constructor <;> simp [transceiver, accepts, audio, attaches]

end Replacing

/-! ## A session and its builds -/

open CaptureSession in
/-- Numbers grow, what a build has made is not stopped, and the current track is alive. -/
structure Sound (backend : String) (session : CaptureSession) : Prop where
  numbers : ∀ component ∈ session.built ++ session.stopped, component.number < session.builds
  current : ∀ component ∈ session.pipeline.components, component ∈ session.built
  tracked : session.pc → session.pipeline.videoTrack.isSome
  detached : session.pc = false → session.videoTransceiver = false
  live : ∀ track, session.pipeline.videoTrack = some track →
    .videoTrack track.number ∉ session.stopped
  made : ∀ component, session.recovery.component = some component →
    component ∈ session.built ∧
      (∀ other ∈ session.built, other.number = component.number → other = component) ∧
      ∀ other ∈ session.stopped ++ session.pipeline.components, other.number ≠ component.number
  starting : ∀ number, session.recovery = .starting number → backend = "x11grab"

/-- What a build leaves as it is. -/
structure Kept (session resumed : CaptureSession) : Prop where
  pipeline : resumed.pipeline = session.pipeline
  pc : resumed.pc = session.pc
  transceiver : resumed.videoTransceiver = session.videoTransceiver
  sender : resumed.audioSender = session.audioSender
  built : resumed.built = session.built
  builds : session.builds ≤ resumed.builds
  stopped : ∃ failed : List Component, resumed.stopped = session.stopped ++ failed ∧
    ∀ component ∈ failed, session.recovery.component = some component

/-- A pipeline that a build returns is new. -/
structure Ready (session resumed : CaptureSession) (next : Pipeline) : Prop where
  fresh : ∀ component ∈ next.components,
    component ∉ resumed.stopped ∧ component ∉ session.pipeline.components ∧
      (component ∈ session.built → session.recovery.component = some component)
  numbers : ∀ component ∈ next.components, component.number < resumed.builds
  tracked : next.videoTrack.isSome
  covers : ∀ component, session.recovery.component = some component →
    component ∈ next.components ∨ component ∈ resumed.stopped

section Builds

variable {backend : String} {session : CaptureSession} {returns : Bool} {outcome : Outcome}
  {next : Pipeline} {recovery : Recovery}

open CaptureSession

theorem kept_resume : Kept session (session.resume backend returns outcome).1 := by
  have same : Kept session session := ⟨rfl, rfl, rfl, rfl, rfl, le_rfl, [], by simp, by simp⟩
  unfold resume buildMediaCapturePipeline
  cases recovers : session.recovery with
  | idle => exact same
  | healing =>
      have none : ∀ component ∈ ([] : List Component),
          session.recovery.component = some component := fun _ member => nomatch member
      dsimp only
      split
      · split <;>
          exact ⟨rfl, rfl, rfl, rfl, rfl, Nat.le_succ _, [], (List.append_nil _).symm, none⟩
      · exact ⟨rfl, rfl, rfl, rfl, rfl, Nat.le_succ _, [], (List.append_nil _).symm, none⟩
  | starting number =>
      cases returns with
      | true => exact same
      | false =>
          refine ⟨rfl, rfl, rfl, rfl, rfl, le_rfl, [.capture number], rfl, ?_⟩
          intro component member
          rw [List.mem_singleton.mp member, recovers]
          rfl
  | priming number =>
      cases returns with
      | true => exact same
      | false =>
          refine ⟨rfl, rfl, rfl, rfl, rfl, le_rfl, [.screenshots number], rfl, ?_⟩
          intro component member
          rw [List.mem_singleton.mp member, recovers]
          rfl

/-- `build_video_capture_pipeline` returns a pipeline of the screen only. -/
theorem returns_video {number : ℕ}
    (built : buildVideoCapturePipeline backend number outcome = .returns next) :
    next = .x11grab number outcome.audio := by
  unfold buildVideoCapturePipeline at built
  split at built
  case isTrue => cases built
  case isFalse =>
    split at built
    case isTrue =>
      cases built
      rfl
    case isFalse => cases built

theorem waits_video {number : ℕ}
    (built : buildVideoCapturePipeline backend number outcome = .waits recovery) :
    recovery = .priming number ∧ backend ∈ ["browser-native", "cdp-screenshot"] := by
  unfold buildVideoCapturePipeline at built
  split at built
  case isTrue browser =>
    cases built
    exact ⟨rfl, browser⟩
  case isFalse => split at built <;> cases built

/-- A pipeline around the component that was made is new. -/
theorem ready_of_made (sound : Sound backend session) {component : Component}
    (made : session.recovery.component = some component)
    (numbered : IsNumbered next component.number) (tracked : next.videoTrack.isSome)
    (covers : component ∈ next.components) : Ready session session next := by
  obtain ⟨built, only, apart⟩ := sound.made component made
  constructor
  case fresh =>
    intro other member
    have own := numbered other member
    refine ⟨fun stopped => ?_, fun current => ?_, fun before => ?_⟩
    · exact apart other (List.mem_append_left _ stopped) own
    · exact apart other (List.mem_append_right _ current) own
    · rw [only other before own, made]
  case numbers =>
    intro other member
    rw [numbered other member]
    exact sound.numbers component (List.mem_append_left _ built)
  case tracked => exact tracked
  case covers =>
    intro other same
    rw [made] at same
    rw [← Option.some.inj same]
    exact .inl covers

/-- The numbers of what is there are below that of the next build. -/
theorem Sound.below (sound : Sound backend session) :
    ∀ other ∈ session.stopped ++ session.pipeline.components, other.number < session.builds := by
  intro other member
  apply sound.numbers
  rw [List.mem_append] at member ⊢
  rcases member with stopped | current
  · exact .inr stopped
  · exact .inl (sound.current other current)

theorem ready_resume (sound : Sound backend session)
    (built : (session.resume backend returns outcome).2 = .returns next) :
    Ready session (session.resume backend returns outcome).1 next := by
  cases recovers : session.recovery with
  | idle =>
      simp only [resume, recovers] at built
      cases built
  | healing =>
      -- the builds without waiting are those of the screen
      have screen : next = .x11grab session.builds outcome.audio := by
        simp only [resume, recovers, buildMediaCapturePipeline] at built
        split at built
        · split at built
          · exact returns_video built
          · cases built
        · exact returns_video built
      have stopped : (session.resume backend returns outcome).1.stopped = session.stopped := by
        simp only [resume, recovers, buildMediaCapturePipeline]
        split
        · split <;> rfl
        · rfl
      have builds : (session.resume backend returns outcome).1.builds = session.builds + 1 := by
        simp only [resume, recovers, buildMediaCapturePipeline]
        split
        · split <;> rfl
        · rfl
      have numbered := isNumbered_x11grab session.builds outcome.audio
      rw [← screen] at numbered
      constructor
      case fresh =>
        intro component member
        have own := numbered component member
        rw [stopped]
        refine ⟨fun old => ?_, fun old => ?_, fun old => ?_⟩
        · exact absurd own (sound.below component (List.mem_append_left _ old)).ne
        · exact absurd own (sound.below component (List.mem_append_right _ old)).ne
        · exact absurd own (sound.numbers component (List.mem_append_left _ old)).ne
      case numbers =>
        intro component member
        rw [numbered component member, builds]
        exact Nat.lt_succ_self _
      case tracked =>
        rw [screen]
        rfl
      case covers =>
        intro component made
        rw [recovers] at made
        cases made
  | starting number =>
      have made : session.recovery.component = some (.capture number) := by rw [recovers]; rfl
      obtain ⟨before, only, apart⟩ := sound.made (.capture number) made
      cases returns with
      | true =>
          simp only [resume, recovers] at built ⊢
          cases built
          exact ready_of_made sound made (isNumbered_sourceCoupled number) rfl
            (mem_components.mpr (.inr (.inl ⟨number, rfl, rfl⟩)))
      | false =>
          have screen : next = .x11grab number outcome.audio := by
            simp only [resume, recovers, Bool.false_eq_true, if_false] at built
            exact returns_video built
          have numbered := isNumbered_x11grab number outcome.audio
          rw [← screen] at numbered
          have other : .capture number ∉ next.components := by
            rw [screen, mem_components]
            cases outcome.audio <;> simp [Pipeline.x11grab, PipelineTrack.components]
          simp only [resume, recovers, Bool.false_eq_true, if_false]
          constructor
          case fresh =>
            intro component member
            have own := numbered component member
            refine ⟨?_, fun old => ?_, fun old => ?_⟩
            · rw [List.mem_append, List.mem_singleton]
              rintro (old | rfl)
              · exact apart component (List.mem_append_left _ old) own
              · exact other member
            · exact apart component (List.mem_append_right _ old) own
            · rw [only component old own, made]
          case numbers =>
            intro component member
            rw [numbered component member]
            exact sound.numbers _ (List.mem_append_left _ before)
          case tracked =>
            rw [screen]
            rfl
          case covers =>
            intro component same
            rw [recovers] at same
            cases same
            exact .inr (List.mem_append_right _ List.mem_cons_self)
  | priming number =>
      have made : session.recovery.component = some (.screenshots number) := by rw [recovers]; rfl
      cases returns with
      | true =>
          simp only [resume, recovers] at built ⊢
          cases built
          exact ready_of_made sound made (isNumbered_cdpScreenshots number outcome.audio) rfl
            (mem_components.mpr (.inr (.inr (.inl ⟨_, rfl, by simp [PipelineTrack.components]⟩))))
      | false =>
          simp only [resume, recovers] at built
          cases built

/-- A build that waits has made a component with a number of its own. -/
theorem waits_resume (sound : Sound backend session)
    (built : (session.resume backend returns outcome).2 = .waits recovery) :
    session.recovery.component = none ∧
      (session.resume backend returns outcome).1.stopped = session.stopped ∧
      (session.resume backend returns outcome).1.builds = session.builds + 1 ∧
      (∃ component, recovery.component = some component ∧ component.number = session.builds) ∧
      ∀ number, recovery = .starting number → backend = "x11grab" := by
  cases recovers : session.recovery with
  | idle =>
      simp only [resume, recovers] at built
      cases built
  | healing =>
      simp only [resume, recovers, buildMediaCapturePipeline] at built ⊢
      split at built
      case isTrue flagged =>
        rw [if_pos flagged]
        split at built
        case isTrue other =>
          obtain ⟨rfl, -⟩ := waits_video built
          rw [if_pos other]
          exact ⟨rfl, rfl, rfl, ⟨_, rfl, rfl⟩, fun _ same => nomatch same⟩
        case isFalse x11 =>
          cases built
          rw [if_neg x11]
          exact ⟨rfl, rfl, rfl, ⟨_, rfl, rfl⟩, fun _ _ => not_not.mp x11⟩
      case isFalse plain =>
        obtain ⟨rfl, -⟩ := waits_video built
        rw [if_neg plain]
        exact ⟨rfl, rfl, rfl, ⟨_, rfl, rfl⟩, fun _ same => nomatch same⟩
  | starting number =>
      have x11 := sound.starting number recovers
      cases returns with
      | true =>
          simp only [resume, recovers] at built
          cases built
      | false =>
          simp only [resume, recovers] at built
          have browser := (waits_video built).2
          rw [x11] at browser
          exact absurd browser (by decide)
  | priming number =>
      simp only [resume, recovers] at built
      cases returns <;> cases built

/-- A build that raises has stopped what it had made. -/
theorem raises_resume (built : (session.resume backend returns outcome).2 = .raises) :
    ∀ component, session.recovery.component = some component →
      component ∈ (session.resume backend returns outcome).1.stopped := by
  intro component made
  cases recovers : session.recovery with
  | idle | healing =>
      rw [recovers] at made
      cases made
  | starting number =>
      rw [recovers] at made
      cases made
      cases returns with
      | true =>
          simp only [resume, recovers] at built
          cases built
      | false =>
          simp only [resume, recovers]
          exact List.mem_append_right _ List.mem_cons_self
  | priming number =>
      rw [recovers] at made
      cases made
      cases returns with
      | true =>
          simp only [resume, recovers] at built
          cases built
      | false =>
          simp only [resume, recovers]
          exact List.mem_append_right _ List.mem_cons_self

end Builds

/-! ## One turn -/

section Turns

variable {backend : String} {session : CaptureSession} {returns : Bool} {outcome : Outcome}
  {next : Pipeline} {recovery : Recovery} {accepted : Bool}

open CaptureSession

theorem mem_stopped_close {component : Component} :
    component ∈ session.close.stopped ↔
      component ∈ session.stopped ∨ component ∈ session.pipeline.components := by
  rw [CaptureSession.close, List.mem_append, List.mem_append, mem_stopMediaCapturePipeline,
    mem_components]
  simp only [Pipeline.nothing, Option.none_or, ne_eq, not_true_eq_false, false_and, false_or,
    List.mem_map, Option.mem_toList]
  constructor
  case mp =>
    rintro ((old | ⟨number, same, rfl⟩) | capture | track | player)
    · exact .inl old
    · exact .inr (.inr (.inr (.inr ⟨number, same, rfl⟩)))
    · exact .inr (.inr (.inl capture))
    · exact .inr (.inr (.inr (.inl track)))
    · exact .inr (.inl player)
  case mpr =>
    rintro (old | player | capture | track | ⟨number, same, rfl⟩)
    · exact .inl (.inl old)
    · exact .inr (.inr (.inr player))
    · exact .inr (.inl capture)
    · exact .inr (.inr (.inl track))
    · exact .inl (.inr ⟨number, same, rfl⟩)

/-- What a build stops is what it had made. -/
theorem Kept.mem_stopped {resumed : CaptureSession} (kept : Kept session resumed)
    {component : Component} (member : component ∈ resumed.stopped) :
    component ∈ session.stopped ∨ session.recovery.component = some component := by
  obtain ⟨failed, stopped, made⟩ := kept.stopped
  rw [stopped, List.mem_append] at member
  exact member.imp_right (made component)

theorem Kept.stopped_mem {resumed : CaptureSession} (kept : Kept session resumed)
    {component : Component} (member : component ∈ session.stopped) :
    component ∈ resumed.stopped := by
  obtain ⟨failed, stopped, -⟩ := kept.stopped
  rw [stopped]
  exact List.mem_append_left _ member

theorem Kept.attaches {resumed : CaptureSession} (kept : Kept session resumed) :
    resumed.attaches next accepted = session.attaches next accepted := by
  rw [CaptureSession.attaches, CaptureSession.attaches, kept.transceiver, kept.sender, kept.pc]

/-- Tracks are attached only before the session is closed. -/
theorem Sound.pc_of_attaches (sound : Sound backend session)
    (attached : session.attaches next accepted = true) : session.pc = true := by
  by_contra closed
  rw [Bool.not_eq_true] at closed
  rw [attaches, sound.detached closed, closed] at attached
  cases attached

theorem Sound.stopped_lt {resumed : CaptureSession} (sound : Sound backend session)
    (kept : Kept session resumed) {component : Component} (member : component ∈ resumed.stopped) :
    component.number < resumed.builds := by
  apply lt_of_lt_of_le _ kept.builds
  rcases kept.mem_stopped member with old | made
  · exact sound.numbers component (List.mem_append_right _ old)
  · exact sound.numbers component (List.mem_append_left _ (sound.made component made).1)

/-- What a build stops is not of the current pipeline. -/
theorem Sound.live_resumed {resumed : CaptureSession} (sound : Sound backend session)
    (kept : Kept session resumed) {track : PipelineTrack}
    (current : session.pipeline.videoTrack = some track) :
    .videoTrack track.number ∉ resumed.stopped := by
  intro stopped
  rcases kept.mem_stopped stopped with old | made
  · exact sound.live track current old
  · exact (sound.made _ made).2.2 _ (List.mem_append_right _ (videoTrack_mem current)) rfl

/-- What a replacement stops belongs to the old or to the new pipeline. -/
theorem mem_either {own previous : Pipeline} {component : Component}
    (stopped : component ∈ own.stopMediaCapturePipeline previous) :
    component ∈ previous.components ∨ component ∈ own.components := by
  rw [mem_components, mem_components]
  rcases mem_stopMediaCapturePipeline.mp stopped with
    ⟨number, same, kind⟩ | ⟨-, audio⟩ | ⟨track, same, part⟩ | ⟨number, same, kind⟩
  · rcases Option.or_eq_some_iff.mp same with given | ⟨-, current⟩
    · exact .inl (.inr (.inl ⟨number, given, kind⟩))
    · exact .inr (.inr (.inl ⟨number, current, kind⟩))
  · exact .inl (.inr (.inr (.inr audio)))
  · rcases Option.or_eq_some_iff.mp same with given | ⟨-, current⟩
    · exact .inl (.inr (.inr (.inl ⟨track, given, part⟩)))
    · exact .inr (.inr (.inr (.inl ⟨track, current, part⟩)))
  · rcases Option.or_eq_some_iff.mp same with given | ⟨-, current⟩
    · exact .inl (.inl ⟨number, given, kind⟩)
    · exact .inr (.inl ⟨number, current, kind⟩)

/-- The track of the old pipeline is there, so that the new one's is spared. -/
theorem Ready.track_spared {resumed : CaptureSession} (ready : Ready session resumed next)
    (tracked : session.pipeline.videoTrack.isSome) {track : PipelineTrack}
    (own : next.videoTrack = some track) :
    .videoTrack track.number ∉ next.stopMediaCapturePipeline session.pipeline := by
  intro stopped
  obtain ⟨old, oldTrack⟩ := Option.isSome_iff_exists.mp tracked
  apply (ready.fresh _ (videoTrack_mem own)).2.1
  rw [mem_components]
  rcases mem_stopMediaCapturePipeline.mp stopped with
    ⟨_, -, kind⟩ | ⟨-, _, -, kind⟩ | ⟨other, same, part⟩ | ⟨_, -, kind⟩
  · cases kind
  · cases kind
  · rw [oldTrack] at same
    rw [← Option.some.inj same] at part
    exact .inr (.inr (.inl ⟨old, oldTrack, part⟩))
  · cases kind

theorem Sound.take_waits (sound : Sound backend session)
    (built : (session.resume backend returns outcome).2 = .waits recovery) :
    Sound backend ((session.resume backend returns outcome).1.take accepted (.waits recovery)).1 := by
  obtain ⟨-, stopped, builds, ⟨component, own, number⟩, starting⟩ := waits_resume sound built
  have kept := @kept_resume backend session returns outcome
  generalize (session.resume backend returns outcome).1 = resumed at *
  have below : ∀ other ∈ session.stopped ++ session.pipeline.components,
      other.number ≠ component.number := by
    intro other member
    rw [number]
    exact (sound.below other member).ne
  constructor
  case numbers =>
    intro other member
    rw [take, stopped, kept.built, own, builds] at *
    rw [List.mem_append, List.mem_append] at member
    rcases member with (old | new) | old
    · exact Nat.lt_succ_of_lt (sound.numbers other (List.mem_append_left _ old))
    · rw [Option.toList_some, List.mem_singleton] at new
      rw [new, number]
      exact Nat.lt_succ_self _
    · exact Nat.lt_succ_of_lt (sound.numbers other (List.mem_append_right _ old))
  case current =>
    intro other member
    rw [take, kept.built]
    rw [take, kept.pipeline] at member
    exact List.mem_append_left _ (sound.current other member)
  case tracked =>
    rw [take, kept.pc, kept.pipeline]
    exact sound.tracked
  case detached =>
    rw [take, kept.pc, kept.transceiver]
    exact sound.detached
  case live =>
    rw [take, kept.pipeline, stopped]
    exact sound.live
  case made =>
    intro other same
    rw [take, own] at same
    rw [← Option.some.inj same, take, kept.built, own, stopped, kept.pipeline]
    refine ⟨List.mem_append_right _ List.mem_cons_self, fun old member equal => ?_, below⟩
    rw [List.mem_append, Option.toList_some, List.mem_singleton] at member
    rcases member with before | last
    · exact absurd (equal.trans number)
        (sound.numbers old (List.mem_append_left _ before)).ne
    · exact last
  case starting => exact starting

theorem Sound.take_returns (sound : Sound backend session)
    (built : (session.resume backend returns outcome).2 = .returns next) :
    Sound backend ((session.resume backend returns outcome).1.take accepted (.returns next)).1 := by
  have ready := ready_resume sound built
  have kept := @kept_resume backend session returns outcome
  generalize (session.resume backend returns outcome).1 = resumed at *
  have result := @replacement resumed next accepted
  rw [take]
  generalize resumed.replaceMediaCapturePipeline next accepted = replaced at *
  have stopped {component : Component} (member : component ∈ replaced.1.stopped) :
      component ∈ resumed.stopped ∨
        (replaced.2 ∧ component ∈ next.stopMediaCapturePipeline session.pipeline) := by
    rw [result.stopped] at member
    split at member
    case isTrue normal =>
      rw [List.mem_append, kept.pipeline] at member
      exact member.imp_right fun stopped => ⟨normal, stopped⟩
    case isFalse => exact .inl member
  constructor
  case numbers =>
    intro component member
    rw [result.builds]
    rw [result.built, kept.built, List.mem_append, List.mem_append] at member
    have old {component : Component} (member : component ∈ session.built) :
        component.number < resumed.builds :=
      lt_of_lt_of_le (sound.numbers component (List.mem_append_left _ member)) kept.builds
    rcases member with (before | new) | gone
    · exact old before
    · exact ready.numbers component new
    · rcases stopped gone with before | ⟨-, now⟩
      · exact sound.stopped_lt kept before
      · rcases mem_either now with previous | own
        · exact old (sound.current component previous)
        · exact ready.numbers component own
  case current =>
    intro component member
    rw [result.pipeline] at member
    rw [result.built]
    exact List.mem_append_right _ member
  case tracked =>
    rw [result.pipeline]
    exact fun _ => ready.tracked
  case detached =>
    intro closed
    rw [result.pc, kept.pc] at closed
    rw [result.transceiver, kept.transceiver, kept.pc, closed, sound.detached closed]
    rfl
  case live =>
    intro track own
    rw [result.pipeline] at own
    intro gone
    rcases stopped gone with before | ⟨normal, now⟩
    · exact (ready.fresh _ (videoTrack_mem own)).1 before
    · rw [result.normal, kept.attaches] at normal
      exact ready.track_spared (sound.tracked (sound.pc_of_attaches normal)) own now
  case made =>
    intro component same
    rw [result.recovery] at same
    cases same
  case starting =>
    intro number same
    rw [result.recovery] at same
    cases same

theorem Sound.take_raises (sound : Sound backend session) :
    Sound backend ((session.resume backend returns outcome).1.take accepted .raises).1 := by
  have kept := @kept_resume backend session returns outcome
  generalize (session.resume backend returns outcome).1 = resumed at *
  constructor
  case numbers =>
    intro component member
    rw [take, List.mem_append] at member
    rcases member with before | gone
    · rw [kept.built] at before
      exact lt_of_lt_of_le (sound.numbers component (List.mem_append_left _ before)) kept.builds
    · exact sound.stopped_lt kept gone
  case current =>
    rw [take, kept.pipeline, kept.built]
    exact sound.current
  case tracked =>
    rw [take, kept.pc, kept.pipeline]
    exact sound.tracked
  case detached =>
    rw [take, kept.pc, kept.transceiver]
    exact sound.detached
  case live =>
    intro track own
    rw [take, kept.pipeline] at own
    exact sound.live_resumed kept own
  case made => exact fun _ same => nomatch same
  case starting => exact fun _ same => nomatch same

theorem Sound.handle (sound : Sound backend session) (event : CaptureEvent) :
    Sound backend (session.handle backend event) := by
  cases event with
  | recover =>
      rw [CaptureSession.handle, turn]
      split
      case isTrue =>
        exact ⟨sound.numbers, sound.current, sound.tracked, sound.detached, sound.live,
          (fun _ same => nomatch same), fun _ same => nomatch same⟩
      case isFalse => exact sound
  | cancelled =>
      exact ⟨sound.numbers, sound.current, sound.tracked, sound.detached, sound.live,
        (fun _ same => nomatch same), fun _ same => nomatch same⟩
  | resumed returns outcome =>
      rw [CaptureSession.handle, turn]
      cases built : (session.resume backend returns outcome).2 with
      | waits recovery => exact sound.take_waits built
      | returns next => exact sound.take_returns built
      | raises => exact sound.take_raises
  | closed =>
      rw [CaptureSession.handle, turn]
      have none : session.close.pipeline.components = [] := rfl
      constructor
      case numbers =>
        intro component member
        rw [List.mem_append, mem_stopped_close] at member
        apply sound.numbers
        rw [List.mem_append]
        rcases member with built | stopped | current
        · exact .inl built
        · exact .inr stopped
        · exact .inl (sound.current component current)
      case current => exact fun _ member => absurd member (none ▸ List.not_mem_nil)
      case tracked => exact fun open' => nomatch open'
      case detached => exact fun _ => rfl
      case live => exact fun _ same => nomatch same
      case starting => exact sound.starting
      case made =>
        intro component same
        obtain ⟨built, only, apart⟩ := sound.made component same
        refine ⟨built, only, fun other member => apart other ?_⟩
        rw [none, List.append_nil, mem_stopped_close] at member
        exact List.mem_append.mpr member

theorem sound_started {pipeline : Pipeline} (numbered : IsNumbered pipeline 0)
    (tracked : pipeline.videoTrack.isSome) (flag : Bool) :
    Sound backend (started pipeline flag) := by
  constructor
  case numbers =>
    intro component member
    rw [started, List.append_nil] at member
    rw [numbered component member]
    exact Nat.one_pos
  case current => exact fun _ member => member
  case tracked => exact fun _ => tracked
  case detached => exact fun closed => nomatch closed
  case live => exact fun _ _ => List.not_mem_nil
  case made => exact fun _ same => nomatch same
  case starting => exact fun _ same => nomatch same

theorem sound_initial_session (flag : Bool) (outcome : Outcome) (starts : Bool) :
    Sound backend (CaptureSession.initial backend flag outcome starts) := by
  unfold CaptureSession.initial
  split
  · exact sound_started (isNumbered_sourceCoupled 0) rfl _
  · split
    · exact sound_started (isNumbered_cdpScreenshots 0 _) rfl _
    · exact sound_started (isNumbered_x11grab 0 _) rfl _

end Turns

/-! ## What is stopped -/

namespace CaptureSession

variable (backend : String)

/-- If a replacement returns normally in this turn, the old pipeline is stopped and nothing of the
new one. -/
def ReplacesExactly (session : CaptureSession) (event : CaptureEvent) : Prop :=
  (session.turn backend event).2 = true →
    (∀ component ∈ (session.handle backend event).pipeline.components,
      component ∉ (session.handle backend event).stopped) ∧
    ∀ component ∈ session.pipeline.components, component ∈ (session.handle backend event).stopped

/-- No pipeline with a player, or with a capture, takes the place of one without. -/
def KeepsKind (session : CaptureSession) : CaptureEvent → Prop
  | .resumed returns outcome =>
      ∀ next, (session.resume backend returns outcome).2 = .returns next →
        session.attaches next outcome.accepted = true →
          (session.pipeline.videoPlayer = none → next.videoPlayer = none) ∧
            (session.pipeline.sourceCoupledCapture = none → next.sourceCoupledCapture = none)
  | _ => True

/-- Everything that was built was stopped. -/
def AllStopped (session : CaptureSession) : Prop :=
  ∀ component ∈ session.built, component ∈ session.stopped

/-- No build is given up half-way, none goes on after the session is closed, and the peer
connection takes the tracks of every pipeline. -/
def Tidy (session : CaptureSession) : CaptureEvent → Prop
  | .recover => True
  | .resumed returns outcome =>
      match (session.resume backend returns outcome).2 with
      | .waits _ => session.pc = true
      | .returns next => session.attaches next outcome.accepted = true
      | .raises => True
  | .cancelled | .closed => session.recovery.component = none

/-- What is not stopped is of the current pipeline or of the build in progress, and after the end
there is no such thing. -/
def Clean (session : CaptureSession) : Prop :=
  ∀ component ∈ session.built, component ∈ session.stopped ∨
    (session.pc = true ∧ (component ∈ session.pipeline.components ∨
      session.recovery.component = some component))

/-- A component that nobody will stop any more. -/
structure Leaked (session : CaptureSession) (component : Component) : Prop where
  built : component ∈ session.built
  running : component ∉ session.stopped
  forgotten : component ∉ session.pipeline.components
  unmade : session.recovery.component ≠ some component

end CaptureSession

section Stopping

variable {backend : String} {session : CaptureSession} {returns : Bool} {outcome : Outcome}
  {next : Pipeline} {recovery : Recovery}

open CaptureSession

theorem Ready.apart {resumed : CaptureSession} (ready : Ready session resumed next) :
    session.pipeline.audioTrack.isSome → session.pipeline.audioTrack ≠ next.audioTrack := by
  intro some same
  obtain ⟨number, audio⟩ := Option.isSome_iff_exists.mp some
  have old : .audioTrack number ∈ session.pipeline.components :=
    mem_components.mpr (.inr (.inr (.inr ⟨number, audio, rfl⟩)))
  have new : .audioTrack number ∈ next.components :=
    mem_components.mpr (.inr (.inr (.inr ⟨number, same ▸ audio, rfl⟩)))
  exact (ready.fresh _ new).2.1 old

/-- A replacement stops exactly the old pipeline unless it changes the kind. -/
theorem replacesExactly_iff (sound : Sound backend session) (event : CaptureEvent) :
    session.ReplacesExactly backend event ↔ session.KeepsKind backend event := by
  cases event with
  | recover =>
      refine iff_of_true (fun normal => ?_) trivial
      rw [turn] at normal
      split at normal <;> cases normal
  | cancelled | closed => exact iff_of_true (fun normal => nomatch normal) trivial
  | resumed returns outcome =>
      rw [ReplacesExactly, KeepsKind, CaptureSession.handle, turn]
      cases built : (session.resume backend returns outcome).2 with
      | waits recovery =>
          exact iff_of_true (fun normal => nomatch normal)
            fun _ same => nomatch same
      | raises =>
          exact iff_of_true (fun normal => nomatch normal)
            fun _ same => nomatch same
      | returns next =>
          have ready := ready_resume sound built
          have kept := @kept_resume backend session returns outcome
          generalize (session.resume backend returns outcome).1 = resumed at *
          have result := @replacement resumed next outcome.accepted
          rw [take]
          generalize resumed.replaceMediaCapturePipeline next outcome.accepted = replaced at *
          have normal : replaced.2 = session.attaches next outcome.accepted := by
            rw [result.normal, kept.attaches]
          constructor
          case mp =>
            intro exact' other same attached
            cases same
            have both := exact' (normal.trans attached)
            rw [result.stopped, if_pos (normal.trans attached), result.pipeline,
              kept.pipeline] at both
            apply (spares_own_iff (fun component new => (ready.fresh component new).2.1)
              (sound.tracked (sound.pc_of_attaches attached))).mp
            exact fun component new stopped =>
              both.1 component new (List.mem_append_right _ stopped)
          case mpr =>
            intro keeps attached
            have kind := keeps next rfl (normal.symm.trans attached)
            rw [result.stopped, if_pos attached, result.pipeline, kept.pipeline]
            constructor
            case left =>
              intro component new stopped
              rcases List.mem_append.mp stopped with before | now
              · exact (ready.fresh component new).1 before
              · exact (spares_own_iff (fun component new => (ready.fresh component new).2.1)
                  (sound.tracked (sound.pc_of_attaches (normal.symm.trans attached)))).mpr kind
                    component new now
            case right =>
              intro component old
              exact List.mem_append_right _ (stops_given ready.apart old)

/-- What is made and not yet installed is not stopped. -/
theorem Sound.made_running (sound : Sound backend session) {component : Component}
    (made : session.recovery.component = some component) :
    component ∈ session.built ∧ component ∉ session.stopped ∧
      component ∉ session.pipeline.components := by
  obtain ⟨built, -, apart⟩ := sound.made component made
  exact ⟨built, fun stopped => apart component (List.mem_append_left _ stopped) rfl,
    fun current => apart component (List.mem_append_right _ current) rfl⟩

theorem clean_take_waits (sound : Sound backend session) (clean : session.Clean)
    (built : (session.resume backend returns outcome).2 = .waits recovery) :
    ((session.resume backend returns outcome).1.take outcome.accepted (.waits recovery)).1.Clean ↔
      session.pc = true := by
  obtain ⟨idle, stopped, -, ⟨component, own, number⟩, -⟩ := waits_resume sound built
  have kept := @kept_resume backend session returns outcome
  generalize (session.resume backend returns outcome).1 = resumed at *
  rw [Clean, take]
  dsimp only
  rw [kept.built, own, stopped, kept.pc, kept.pipeline]
  constructor
  case mp =>
    intro all
    rcases all component (List.mem_append_right _ List.mem_cons_self) with old | ⟨running, -⟩
    · exact absurd number (sound.numbers component (List.mem_append_right _ old)).ne
    · exact running
  case mpr =>
    intro running other member
    rw [List.mem_append, Option.toList_some, List.mem_singleton] at member
    rcases member with before | rfl
    · rcases clean other before with gone | ⟨-, current | made⟩
      · exact .inl gone
      · exact .inr ⟨running, .inl current⟩
      · rw [idle] at made
        cases made
    · exact .inr ⟨running, .inr rfl⟩

theorem clean_take_returns (sound : Sound backend session) (clean : session.Clean)
    (built : (session.resume backend returns outcome).2 = .returns next) :
    ((session.resume backend returns outcome).1.take outcome.accepted (.returns next)).1.Clean ↔
      session.attaches next outcome.accepted = true := by
  have ready := ready_resume sound built
  have kept := @kept_resume backend session returns outcome
  generalize (session.resume backend returns outcome).1 = resumed at *
  have result := @replacement resumed next outcome.accepted
  rw [take]
  generalize resumed.replaceMediaCapturePipeline next outcome.accepted = replaced at *
  have normal : replaced.2 = session.attaches next outcome.accepted := by
    rw [result.normal, kept.attaches]
  rw [Clean, result.built, result.pc, result.pipeline, result.recovery, result.stopped, normal,
    kept.built, kept.pc, kept.pipeline]
  constructor
  case mp =>
    intro all
    by_contra refused
    rw [if_neg refused] at all
    cases running : session.pc with
    | true =>
        -- the old pipeline is forgotten and runs on
        obtain ⟨track, same⟩ := Option.isSome_iff_exists.mp (sound.tracked running)
        have old := videoTrack_mem same
        rcases all _ (List.mem_append_left _ (sound.current _ old)) with gone | ⟨-, new | made⟩
        · exact sound.live_resumed kept same gone
        · exact (ready.fresh _ new).2.1 old
        · cases made
    | false =>
        -- the new pipeline is installed after the end
        obtain ⟨track, same⟩ := Option.isSome_iff_exists.mp ready.tracked
        have new := videoTrack_mem same
        rcases all _ (List.mem_append_right _ new) with gone | ⟨open', -⟩
        · exact (ready.fresh _ new).1 gone
        · rw [running] at open'
          cases open'
  case mpr =>
    intro attached component member
    rw [if_pos attached]
    rcases List.mem_append.mp member with before | new
    · rcases clean component before with gone | ⟨-, current | made⟩
      · exact .inl (List.mem_append_left _ (kept.stopped_mem gone))
      · exact .inl (List.mem_append_right _ (stops_given ready.apart current))
      · rcases ready.covers component made with new | gone
        · exact .inr ⟨sound.pc_of_attaches attached, .inl new⟩
        · exact .inl (List.mem_append_left _ gone)
    · exact .inr ⟨sound.pc_of_attaches attached, .inl new⟩

theorem clean_take_raises (clean : session.Clean)
    (built : (session.resume backend returns outcome).2 = .raises) :
    ((session.resume backend returns outcome).1.take outcome.accepted .raises).1.Clean := by
  have kept := @kept_resume backend session returns outcome
  have gone := raises_resume built
  generalize (session.resume backend returns outcome).1 = resumed at *
  intro component member
  rw [take] at member ⊢
  dsimp only at member ⊢
  rw [kept.built] at member
  rw [kept.pc, kept.pipeline]
  rcases clean component member with before | ⟨running, current | made⟩
  · exact .inl (kept.stopped_mem before)
  · exact .inr ⟨running, .inl current⟩
  · exact .inl (gone component made)

/-- A turn leaves nothing behind exactly if it is tidy. -/
theorem clean_handle_iff (sound : Sound backend session) (clean : session.Clean)
    (event : CaptureEvent) :
    (session.handle backend event).Clean ↔ session.Tidy backend event := by
  cases event with
  | recover =>
      rw [CaptureSession.handle, turn]
      split
      case isFalse => exact iff_of_true clean trivial
      case isTrue idle =>
        refine iff_of_true (fun component member => ?_) trivial
        rcases clean component member with gone | ⟨running, current | made⟩
        · exact .inl gone
        · exact .inr ⟨running, .inl current⟩
        · rw [idle.2] at made
          cases made
  | cancelled =>
      rw [CaptureSession.handle, turn, Tidy]
      constructor
      case mp =>
        intro all
        by_contra some
        obtain ⟨component, made⟩ := Option.ne_none_iff_exists'.mp some
        obtain ⟨built, running, apart⟩ := sound.made_running made
        rcases all component built with gone | ⟨-, current | other⟩
        · exact running gone
        · exact apart current
        · cases other
      case mpr =>
        intro none component member
        rcases clean component member with gone | ⟨running, current | made⟩
        · exact .inl gone
        · exact .inr ⟨running, .inl current⟩
        · rw [none] at made
          cases made
  | closed =>
      rw [CaptureSession.handle, turn, Tidy]
      constructor
      case mp =>
        intro all
        by_contra some
        obtain ⟨component, made⟩ := Option.ne_none_iff_exists'.mp some
        obtain ⟨built, running, apart⟩ := sound.made_running made
        rcases all component built with gone | ⟨running', -⟩
        · exact (mem_stopped_close.mp gone).elim running apart
        · cases running'
      case mpr =>
        intro none component member
        left
        rw [mem_stopped_close]
        rcases clean component member with gone | ⟨-, current | made⟩
        · exact .inl gone
        · exact .inr current
        · rw [none] at made
          cases made
  | resumed returns outcome =>
      rw [CaptureSession.handle, turn, Tidy]
      cases built : (session.resume backend returns outcome).2 with
      | waits recovery => exact clean_take_waits sound clean built
      | returns next => exact clean_take_returns sound clean built
      | raises => exact iff_of_true (clean_take_raises clean built) trivial

/-- What is forgotten stays so. -/
theorem CaptureSession.Leaked.handle {component : Component} (leaked : session.Leaked component)
    (sound : Sound backend session) (event : CaptureEvent) :
    (session.handle backend event).Leaked component := by
  cases event with
  | recover =>
      rw [CaptureSession.handle, turn]
      split
      case isTrue =>
        exact ⟨leaked.built, leaked.running, leaked.forgotten, fun same => nomatch same⟩
      case isFalse => exact leaked
  | cancelled =>
      exact ⟨leaked.built, leaked.running, leaked.forgotten, fun same => nomatch same⟩
  | closed =>
      refine ⟨leaked.built, fun gone => ?_, List.not_mem_nil, leaked.unmade⟩
      exact (mem_stopped_close.mp gone).elim leaked.running leaked.forgotten
  | resumed returns outcome =>
      rw [CaptureSession.handle, turn]
      have kept := @kept_resume backend session returns outcome
      have running : component ∉ (session.resume backend returns outcome).1.stopped :=
        fun gone => (kept.mem_stopped gone).elim leaked.running leaked.unmade
      cases built : (session.resume backend returns outcome).2 with
      | raises =>
          generalize (session.resume backend returns outcome).1 = resumed at *
          exact ⟨kept.built ▸ leaked.built, running, kept.pipeline ▸ leaked.forgotten,
            fun same => nomatch same⟩
      | waits recovery =>
          obtain ⟨-, -, -, ⟨other, own, number⟩, -⟩ := waits_resume sound built
          generalize (session.resume backend returns outcome).1 = resumed at *
          refine ⟨List.mem_append_left _ (kept.built ▸ leaked.built), running,
            kept.pipeline ▸ leaked.forgotten, fun same => ?_⟩
          rw [take, own] at same
          rw [Option.some.inj same] at number
          exact (sound.numbers component (List.mem_append_left _ leaked.built)).ne number
      | returns next =>
          have ready := ready_resume sound built
          generalize (session.resume backend returns outcome).1 = resumed at *
          have result := @replacement resumed next outcome.accepted
          rw [take]
          generalize resumed.replaceMediaCapturePipeline next outcome.accepted = replaced at *
          have other : component ∉ next.components := fun new =>
            leaked.unmade ((ready.fresh component new).2.2 leaked.built)
          constructor
          case built =>
            rw [result.built]
            exact List.mem_append_left _ (kept.built ▸ leaked.built)
          case running =>
            rw [result.stopped, kept.pipeline]
            split
            case isFalse => exact running
            case isTrue =>
              intro gone
              rcases List.mem_append.mp gone with before | now
              · exact running before
              · exact (mem_either now).elim leaked.forgotten other
          case forgotten =>
            rw [result.pipeline]
            exact other
          case unmade =>
            rw [result.recovery]
            exact fun same => nomatch same

theorem pc_handle (closed : session.pc = false) (event : CaptureEvent) :
    (session.handle backend event).pc = false := by
  cases event with
  | recover =>
      rw [CaptureSession.handle, turn]
      split <;> exact closed
  | cancelled => exact closed
  | closed => rfl
  | resumed returns outcome =>
      rw [CaptureSession.handle, turn]
      have kept := @kept_resume backend session returns outcome
      generalize (session.resume backend returns outcome).1 = resumed at *
      cases (session.resume backend returns outcome).2 with
      | waits recovery => exact kept.pc.trans closed
      | raises => exact kept.pc.trans closed
      | returns next =>
          rw [take, (@replacement resumed next outcome.accepted).pc]
          exact kept.pc.trans closed

end Stopping

section Sessions

variable {backend : String} {initial : CaptureSession}

open CaptureSession

/-- Everything is stopped after the end exactly if the run was tidy. -/
theorem all_stopped_iff (start : Sound backend initial) (clean : initial.Clean)
    (events : List CaptureEvent) :
    (∀ before, before <+: events →
      (Runs.run (CaptureSession.handle backend) initial before).pc = false →
        (Runs.run (CaptureSession.handle backend) initial before).AllStopped) ↔
      ((Runs.run (CaptureSession.handle backend) initial events).pc = false →
        Runs.Throughout (CaptureSession.handle backend) initial (Tidy backend) events) := by
  have sound (before : List CaptureEvent) :=
    Runs.run_invariant start (fun _ event sound => Sound.handle sound event) before
  rw [← Runs.always_iff_throughout start (fun _ event sound => Sound.handle sound event) clean
    fun _ event sound clean => clean_handle_iff sound clean event]
  constructor
  case mp =>
    intro all ended before first
    by_contra unclean
    rw [Clean] at unclean
    push Not at unclean
    obtain ⟨component, built, running, forgotten⟩ := unclean
    cases running' : (Runs.run (CaptureSession.handle backend) initial before).pc with
    | false => exact running (all before first running' component built)
    | true =>
        have leaked : (Runs.run (CaptureSession.handle backend) initial before).Leaked component :=
          ⟨built, running, (forgotten running').1, (forgotten running').2⟩
        obtain ⟨after, rfl⟩ := first
        have kept := @Runs.run_invariant _ _ (CaptureSession.handle backend)
          (Runs.run (CaptureSession.handle backend) initial before)
          (fun session => Sound backend session ∧ session.Leaked component)
          ⟨sound before, leaked⟩
          (fun _ event both => ⟨both.1.handle event, both.2.handle both.1 event⟩) after
        rw [← Runs.run_append] at kept
        exact kept.2.running (all _ List.prefix_rfl ended component kept.2.built)
  case mpr =>
    intro tidy before first ended component built
    have closed : (Runs.run (CaptureSession.handle backend) initial events).pc = false := by
      obtain ⟨after, rfl⟩ := first
      rw [Runs.run_append]
      exact @Runs.run_invariant _ _ (CaptureSession.handle backend)
        (Runs.run (CaptureSession.handle backend) initial before)
        (fun session => session.pc = false) ended
        (fun _ event closed => pc_handle closed event) after
    rcases tidy closed before first component built with gone | ⟨running, -⟩
    · exact gone
    · rw [ended] at running
      cases running

theorem clean_started (pipeline : Pipeline) (flag : Bool) : (started pipeline flag).Clean :=
  fun _ member => .inr ⟨rfl, .inl member⟩

theorem clean_initial (flag : Bool) (outcome : Outcome) (starts : Bool) :
    (CaptureSession.initial backend flag outcome starts).Clean := by
  unfold CaptureSession.initial
  split
  · exact clean_started _ _
  · split <;> exact clean_started _ _

end Sessions

open CaptureSession in
/-- Replacements stop exactly the old pipeline, and after the end everything is stopped, exactly if
no replacement falls back to another kind and, where the session is closed, every turn was tidy. -/
theorem pipelines_are_stopped_exactly_iff (backend : String) (sourceCoupledAvExperiment : Bool)
    (outcome : Outcome) (starts : Bool) (events : List CaptureEvent) :
    let initial := CaptureSession.initial backend sourceCoupledAvExperiment outcome starts
    (Runs.Throughout (CaptureSession.handle backend) initial (ReplacesExactly backend) events ∧
      ∀ before, before <+: events →
        (Runs.run (CaptureSession.handle backend) initial before).pc = false →
          (Runs.run (CaptureSession.handle backend) initial before).AllStopped) ↔
    Runs.Throughout (CaptureSession.handle backend) initial (KeepsKind backend) events ∧
      ((Runs.run (CaptureSession.handle backend) initial events).pc = false →
        Runs.Throughout (CaptureSession.handle backend) initial (Tidy backend) events) := by
  have start := @sound_initial_session backend sourceCoupledAvExperiment outcome starts
  dsimp only
  rw [all_stopped_iff start (clean_initial sourceCoupledAvExperiment outcome starts) events,
    Runs.throughout_congr start (fun _ event sound => Sound.handle sound event)
      (fun _ event sound => replacesExactly_iff sound event) events]

/-- The player that takes the place of a source-coupled capture is stopped at once; a capture that
starts while the session is closed runs on. -/
theorem fallback_is_stopped_and_late_capture_is_not :
    ¬CaptureSession.ReplacesExactly "x11grab"
      (Runs.run (CaptureSession.handle "x11grab")
        (CaptureSession.initial "x11grab" true ⟨true, true, true⟩ true)
        [.recover, .resumed true ⟨true, true, true⟩])
      (.resumed false ⟨true, true, true⟩) ∧
    ¬(Runs.run (CaptureSession.handle "x11grab")
        (CaptureSession.initial "x11grab" true ⟨true, true, true⟩ true)
        [.recover, .resumed true ⟨true, true, true⟩, .closed]).AllStopped := by
  constructor
  case left =>
    intro exact'
    exact (exact' (by decide)).1 (.screen 1) (by decide) (by decide)
  case right =>
    intro stopped
    exact absurd (stopped (.capture 1) (by decide)) (by decide)

end RemoteBrowser.Capture
