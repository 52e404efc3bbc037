import Mathlib.Data.Rat.Lemmas
import Mathlib.Tactic.Linarith
import Mathlib.Tactic.NormNum
import RemoteBrowser.Events.Runs

/-!
# Frames of an audio track

`PulseAudioTrack` reads chunks of equal size from `parec`, throws some away when it is behind, and
hands the others on as frames, with time stamps that count samples and not before their time.  It
reports once that there is sound.  Times are exact.
-/

namespace RemoteBrowser.Capture.PulseAudio

/-! ## The track -/

def audioMaxBacklogSec : ℚ := 12 / 100

def audioResyncMaxBacklogSec : ℚ := 6 / 100

def audioResyncWindowSec : ℚ := 3 / 2

def audioMaxDropFramesPerRecv : ℕ := 250

def audioReadyMinRms : ℕ := 120

def audioReadyConsecutiveFrames : ℕ := 5

/-- What the constructor is given; `rms` is `audioop.rms` of a payload. -/
structure Settings (Payload : Type) where
  sampleRate : ℕ
  samplesPerFrame : ℕ
  freshnessGuardEnabled : Bool
  hasActivityCallback : Bool
  rms : Payload → ℕ

variable {Payload : Type} (settings : Settings Payload)

def Settings.frameDurationSec : ℚ := settings.samplesPerFrame / settings.sampleRate

/-- A read that gave a whole chunk, the times of resync requests meanwhile, and the clock after
it. -/
structure Chunk (Payload : Type) where
  payload : Payload
  resyncs : List ℚ := []
  now : ℚ

structure Track (Payload : Type) where
  timestamp : ℕ := 0
  /-- Zero until the first frame. -/
  startedAt : ℚ := 0
  framesRead : ℕ := 0
  framesEmitted : ℕ := 0
  droppedFrames : ℕ := 0
  resyncUntil : ℚ := 0
  audioReady : Bool := false
  audioReadyNotified : Bool := false
  audioActiveFrames : ℕ := 0
  /-- What was emitted since the last resync, latest first; not in the source. -/
  heard : List Payload := []

structure Frame (Payload : Type) where
  payload : Payload
  pts : ℕ
  emittedAt : ℚ

def requestResync (now : ℚ) (track : Track Payload) : Track Payload :=
  if settings.freshnessGuardEnabled then
    { track with
      resyncUntil := max track.resyncUntil (now + audioResyncWindowSec)
      audioReady := false
      audioReadyNotified := false
      audioActiveFrames := 0
      heard := [] }
  else track

def requestResyncs (times : List ℚ) (track : Track Payload) : Track Payload :=
  times.foldl (fun track now => requestResync settings now track) track

def observeAudioActivity (payload : Payload) (track : Track Payload) : Track Payload :=
  let loud := audioReadyMinRms ≤ settings.rms payload
  let active := if loud then track.audioActiveFrames + 1 else 0
  { track with
    audioActiveFrames := active
    heard := payload :: track.heard
    audioReady :=
      audioReadyConsecutiveFrames ≤ active ||
        (track.audioReady && (loud || settings.freshnessGuardEnabled)) }

def estimateBacklogSec (now : ℚ) (track : Track Payload) : ℚ :=
  if track.startedAt = 0 then 0
  else max 0 (max 0 (now - track.startedAt) - track.framesRead * settings.frameDurationSec)

def backlogLimitSec (now : ℚ) (track : Track Payload) : ℚ :=
  if now < track.resyncUntil then audioResyncMaxBacklogSec else audioMaxBacklogSec

/-- The loop of `_consume_freshest_payload`, which drops at most so many chunks.  Without a chunk
the stream has ended. -/
def dropStale : ℕ → Chunk Payload → List (Chunk Payload) → Track Payload →
    Option (Chunk Payload) × List (Chunk Payload) × Track Payload
  | 0, chunk, chunks, track => (some chunk, chunks, track)
  | drops + 1, chunk, chunks, track =>
      if estimateBacklogSec settings chunk.now track ≤ backlogLimitSec chunk.now track then
        (some chunk, chunks, track)
      else
        match chunks with
        | [] => (none, [], track)
        | next :: chunks =>
            let track := requestResyncs settings next.resyncs track
            dropStale drops next chunks
              { track with
                framesRead := track.framesRead + 1
                droppedFrames := track.droppedFrames + 1 }

/-- The window of a resync that is over at the given time is closed. -/
def closeResync (now : ℚ) (track : Track Payload) : Track Payload :=
  if track.resyncUntil ≤ now then { track with resyncUntil := 0 } else track

def consumeFreshestPayload (chunk : Chunk Payload) (chunks : List (Chunk Payload))
    (track : Track Payload) : Option (Chunk Payload) × List (Chunk Payload) × Track Payload :=
  if settings.freshnessGuardEnabled then
    match dropStale settings audioMaxDropFramesPerRecv chunk chunks track with
    | (some last, rest, track) => (some last, rest, closeResync last.now track)
    | (none, rest, track) => (none, rest, track)
  else (some chunk, chunks, track)

/-- What a call finds besides the chunks: the delay of the audio, the times of resync requests
while it waits, and how late the clock is when the frame is due. -/
structure Call where
  audioDelaySec : ℚ
  resyncs : List ℚ := []
  lateness : ℚ

/-- The first part of `recv`. -/
def receive (chunk : Chunk Payload) (track : Track Payload) : Track Payload :=
  let track := requestResyncs settings chunk.resyncs track
  { track with
    startedAt := if track.startedAt = 0 then chunk.now else track.startedAt
    framesRead := track.framesRead + 1 }

/-- The time that `recv` waits for. -/
def targetEmitAt (call : Call) (track : Track Payload) : ℚ :=
  track.startedAt + max 0 call.audioDelaySec + track.framesEmitted * settings.frameDurationSec

def frameOf (call : Call) (chunk : Chunk Payload) (track : Track Payload) : Frame Payload where
  payload := chunk.payload
  pts := track.timestamp
  emittedAt := max chunk.now (targetEmitAt settings call track) + max 0 call.lateness

/-- Whether `recv` calls back that there is sound. -/
def notifies (track : Track Payload) : Bool :=
  track.audioReady && !track.audioReadyNotified && settings.hasActivityCallback

/-- The last part of `recv`, with whether it has called back. -/
def emit (chunk : Chunk Payload) (track : Track Payload) : Track Payload × Bool :=
  let observed := observeAudioActivity settings chunk.payload
    { track with timestamp := track.timestamp + settings.samplesPerFrame }
  let notified := notifies settings observed
  ({ observed with
      audioReadyNotified := observed.audioReadyNotified || notified
      framesEmitted := observed.framesEmitted + 1 }, notified)

/-- What one `recv` did: its frame, the chunks it has read and whether it has called back. -/
structure Emission (Payload : Type) where
  frame : Frame Payload
  group : List (Chunk Payload)
  notified : Bool

/-- The track with the chunks to come and what it has emitted, latest last. -/
structure Session (Payload : Type) where
  track : Track Payload
  left : List (Chunk Payload)
  emitted : List (Emission Payload)
  /-- What the call that has found the end of the stream had read before. -/
  lost : List (Chunk Payload)
  /-- `recv` has raised `MediaStreamError`. -/
  ended : Bool

def Session.start (stream : List (Chunk Payload)) : Session Payload := ⟨{}, stream, [], [], false⟩

def recv (call : Call) (session : Session Payload) : Session Payload :=
  match session.left with
  | [] => { session with ended := true }
  | chunk :: chunks =>
      match consumeFreshestPayload settings chunk chunks (receive settings chunk session.track) with
      | (none, chunks, track) =>
          { session with
            track := track
            left := chunks
            lost := session.left.take (session.left.length - chunks.length)
            ended := true }
      | (some chunk, chunks, track) =>
          let emission : Emission Payload :=
            { frame := frameOf settings call chunk track
              group := session.left.take (session.left.length - chunks.length)
              notified := (emit settings chunk (requestResyncs settings call.resyncs track)).2 }
          { session with
            track := (emit settings chunk (requestResyncs settings call.resyncs track)).1
            left := chunks
            emitted := session.emitted ++ [emission] }

inductive Event where
  | requestsResync (now : ℚ)
  | recv (call : Call)

def step (session : Session Payload) (event : Event) : Session Payload :=
  if session.ended then session
  else
    match event with
    | .requestsResync now => { session with track := requestResync settings now session.track }
    | .recv call => PulseAudio.recv settings call session

/-! ## Chunks -/

section Chunks

variable {settings : Settings Payload} {track after : Track Payload}
  {chunk last : Chunk Payload} {chunks rest : List (Chunk Payload)}

/-- What a resync leaves alone. -/
structure SameCounts (before after : Track Payload) : Prop where
  timestamp : after.timestamp = before.timestamp
  startedAt : after.startedAt = before.startedAt
  framesRead : after.framesRead = before.framesRead
  framesEmitted : after.framesEmitted = before.framesEmitted
  droppedFrames : after.droppedFrames = before.droppedFrames

theorem SameCounts.trans {middle : Track Payload} (first : SameCounts track middle)
    (second : SameCounts middle after) : SameCounts track after where
  timestamp := second.timestamp.trans first.timestamp
  startedAt := second.startedAt.trans first.startedAt
  framesRead := second.framesRead.trans first.framesRead
  framesEmitted := second.framesEmitted.trans first.framesEmitted
  droppedFrames := second.droppedFrames.trans first.droppedFrames

theorem sameCounts_requestResync (now : ℚ) (track : Track Payload) :
    SameCounts track (requestResync settings now track) := by
  unfold requestResync
  split
  · exact ⟨rfl, rfl, rfl, rfl, rfl⟩
  · exact ⟨rfl, rfl, rfl, rfl, rfl⟩

theorem sameCounts_requestResyncs (times : List ℚ) (track : Track Payload) :
    SameCounts track (requestResyncs settings times track) := by
  induction times generalizing track with
  | nil => exact ⟨rfl, rfl, rfl, rfl, rfl⟩
  | cons now times ih => exact (sameCounts_requestResync now track).trans (ih _)

theorem sameCounts_closeResync (now : ℚ) (track : Track Payload) :
    SameCounts track (closeResync now track) := by
  unfold closeResync
  split
  · exact ⟨rfl, rfl, rfl, rfl, rfl⟩
  · exact ⟨rfl, rfl, rfl, rfl, rfl⟩

theorem backlogLimitSec_le (now : ℚ) (track : Track Payload) :
    backlogLimitSec now track ≤ audioMaxBacklogSec := by
  unfold backlogLimitSec
  split
  · norm_num [audioResyncMaxBacklogSec, audioMaxBacklogSec]
  · exact le_rfl

theorem estimateBacklogSec_congr (same : SameCounts track after) (now : ℚ) :
    estimateBacklogSec settings now after = estimateBacklogSec settings now track := by
  unfold estimateBacklogSec
  rw [same.startedAt, same.framesRead]

/-- The track when it has dropped a group after the first chunk. -/
structure Dropped (settings : Settings Payload) (drops : ℕ) (track : Track Payload)
    (chunk : Chunk Payload) (group : List (Chunk Payload)) (last : Option (Chunk Payload))
    (after : Track Payload) : Prop where
  timestamp : after.timestamp = track.timestamp
  startedAt : after.startedAt = track.startedAt
  framesEmitted : after.framesEmitted = track.framesEmitted
  framesRead : after.framesRead = track.framesRead + group.length
  droppedFrames : after.droppedFrames = track.droppedFrames + group.length
  few : group.length ≤ drops
  final : ∀ chosen, last = some chosen → (chunk :: group).getLast? = some chosen ∧
    (group.length = drops ∨ estimateBacklogSec settings chosen.now after ≤ audioMaxBacklogSec)

theorem dropStale_spec {drops : ℕ} {last : Option (Chunk Payload)}
    (dropped : dropStale settings drops chunk chunks track = (last, rest, after)) :
    ∃ group, chunks = group ++ rest ∧ Dropped settings drops track chunk group last after := by
  induction drops generalizing chunk chunks track with
  | zero =>
      cases dropped
      refine ⟨[], rfl, ⟨rfl, rfl, rfl, rfl, rfl, le_rfl, ?_⟩⟩
      rintro chosen ⟨⟩
      exact ⟨rfl, .inl rfl⟩
  | succ drops ih =>
      unfold dropStale at dropped
      split at dropped
      case isTrue fresh =>
        cases dropped
        refine ⟨[], rfl, ⟨rfl, rfl, rfl, rfl, rfl, Nat.zero_le _, ?_⟩⟩
        rintro chosen ⟨⟩
        exact ⟨rfl, .inr (fresh.trans (backlogLimitSec_le ..))⟩
      case isFalse =>
        cases chunks with
        | nil =>
            cases dropped
            exact ⟨[], rfl, ⟨rfl, rfl, rfl, rfl, rfl, Nat.zero_le _, by simp⟩⟩
        | cons next chunks =>
            obtain ⟨group, rfl, counts⟩ := ih dropped
            have same := @sameCounts_requestResyncs _ settings next.resyncs track
            refine ⟨next :: group, rfl, ?_⟩
            constructor
            case timestamp => exact counts.timestamp.trans same.timestamp
            case startedAt => exact counts.startedAt.trans same.startedAt
            case framesEmitted => exact counts.framesEmitted.trans same.framesEmitted
            case framesRead =>
              rw [counts.framesRead, List.length_cons]
              dsimp only
              rw [same.framesRead]
              omega
            case droppedFrames =>
              rw [counts.droppedFrames, List.length_cons]
              dsimp only
              rw [same.droppedFrames]
              omega
            case few =>
              rw [List.length_cons]
              exact Nat.succ_le_succ counts.few
            case final =>
              intro chosen found
              obtain ⟨final, fresh⟩ := counts.final chosen found
              rw [List.getLast?_cons_cons, List.length_cons]
              exact ⟨final, fresh.imp (congrArg (· + 1)) id⟩

/-- How many chunks a frame may stand for. -/
def Settings.maxGroup : ℕ :=
  if settings.freshnessGuardEnabled then audioMaxDropFramesPerRecv + 1 else 1

/-- The track when it has read a group of chunks. -/
structure Consumed (settings : Settings Payload) (track : Track Payload) (chunk : Chunk Payload)
    (group : List (Chunk Payload)) (last : Option (Chunk Payload)) (after : Track Payload) :
    Prop where
  timestamp : after.timestamp = track.timestamp
  startedAt : after.startedAt = if track.startedAt = 0 then chunk.now else track.startedAt
  framesEmitted : after.framesEmitted = track.framesEmitted
  framesRead : after.framesRead = track.framesRead + group.length
  droppedFrames : after.droppedFrames + 1 = track.droppedFrames + group.length
  few : group.length ≤ settings.maxGroup
  final : ∀ chosen, last = some chosen → group.getLast? = some chosen ∧
    (settings.freshnessGuardEnabled = true → group.length = settings.maxGroup ∨
      estimateBacklogSec settings chosen.now after ≤ audioMaxBacklogSec)

theorem Dropped.consumed {group : List (Chunk Payload)} {dropped : Track Payload}
    {last : Option (Chunk Payload)} (guarded : settings.freshnessGuardEnabled = true)
    (counts : Dropped settings audioMaxDropFramesPerRecv (receive settings chunk track) chunk group
      last dropped)
    (same : SameCounts dropped after) :
    Consumed settings track chunk (chunk :: group) last after := by
  have received := @sameCounts_requestResyncs _ settings chunk.resyncs track
  constructor
  case timestamp => exact (same.timestamp.trans counts.timestamp).trans received.timestamp
  case startedAt =>
    rw [same.startedAt, counts.startedAt, receive]
    dsimp only
    rw [received.startedAt]
  case framesEmitted =>
    exact (same.framesEmitted.trans counts.framesEmitted).trans received.framesEmitted
  case framesRead =>
    rw [same.framesRead, counts.framesRead, receive]
    dsimp only
    rw [received.framesRead, List.length_cons]
    omega
  case droppedFrames =>
    rw [same.droppedFrames, counts.droppedFrames, receive]
    dsimp only
    rw [received.droppedFrames, List.length_cons]
    omega
  case few =>
    rw [Settings.maxGroup, if_pos guarded, List.length_cons]
    exact Nat.succ_le_succ counts.few
  case final =>
    intro chosen found
    obtain ⟨final, fresh⟩ := counts.final chosen found
    refine ⟨final, fun _ => ?_⟩
    rw [Settings.maxGroup, if_pos guarded, List.length_cons, estimateBacklogSec_congr same]
    exact fresh.imp (congrArg (· + 1)) id

theorem consumeFreshestPayload_spec {last : Option (Chunk Payload)}
    (consumed : consumeFreshestPayload settings chunk chunks (receive settings chunk track) =
      (last, rest, after)) :
    ∃ group, chunk :: chunks = group ++ rest ∧ group ≠ [] ∧
      Consumed settings track chunk group last after := by
  unfold consumeFreshestPayload at consumed
  split at consumed
  case isTrue guarded =>
    split at consumed
    case h_1 chosen left dropped found =>
      cases consumed
      obtain ⟨group, rfl, counts⟩ := dropStale_spec found
      exact ⟨chunk :: group, rfl, List.cons_ne_nil _ _,
        counts.consumed guarded (sameCounts_closeResync ..)⟩
    case h_2 left dropped found =>
      cases consumed
      obtain ⟨group, rfl, counts⟩ := dropStale_spec found
      exact ⟨chunk :: group, rfl, List.cons_ne_nil _ _,
        counts.consumed guarded ⟨rfl, rfl, rfl, rfl, rfl⟩⟩
  case isFalse unguarded =>
    cases consumed
    have received := @sameCounts_requestResyncs _ settings chunk.resyncs track
    refine ⟨[chunk], rfl, List.cons_ne_nil _ _, ?_⟩
    constructor
    case timestamp => exact received.timestamp
    case startedAt =>
      rw [receive]
      dsimp only
      rw [received.startedAt]
    case framesEmitted => exact received.framesEmitted
    case framesRead => exact congrArg (· + 1) received.framesRead
    case droppedFrames => exact congrArg (· + 1) received.droppedFrames
    case few => rw [Settings.maxGroup, if_neg unguarded, List.length_singleton]
    case final =>
      rintro chosen ⟨⟩
      exact ⟨rfl, fun guarded => absurd guarded unguarded⟩

end Chunks

/-! ## Frames -/

section Frames

variable {settings : Settings Payload} {stream : List (Chunk Payload)}
  {session : Session Payload}

/-- The chunks read for the first frames. -/
def chunksOf (emitted : List (Emission Payload)) : List (Chunk Payload) :=
  (emitted.map (·.group)).flatten

@[simp]
theorem chunksOf_concat (emitted : List (Emission Payload)) (emission : Emission Payload) :
    chunksOf (emitted ++ [emission]) = chunksOf emitted ++ emission.group := by
  simp [chunksOf]

/-- One frame among those before it. -/
structure Emission.Faithful (settings : Settings Payload) (startedAt : ℚ)
    (before : List (Emission Payload)) (emission : Emission Payload) : Prop where
  /-- The frame has the last chunk that was read for it. -/
  payload : emission.group.getLast?.map (·.payload) = some emission.frame.payload
  few : emission.group.length ≤ settings.maxGroup
  pts : emission.frame.pts = before.length * settings.samplesPerFrame
  onTime : startedAt + before.length * settings.frameDurationSec ≤ emission.frame.emittedAt
  /-- Unless as many chunks were dropped as may be, the last one is at most 120 ms behind. -/
  fresh : settings.freshnessGuardEnabled = true →
    emission.group.length = settings.maxGroup ∨
      ∀ last, emission.group.getLast? = some last →
        last.now - startedAt ≤
          (chunksOf before ++ emission.group).length * settings.frameDurationSec +
            audioMaxBacklogSec

/-- The frames are those of a stream of chunks.  Of the chunks that are lost at its end all but one
are counted as dropped. -/
structure Session.Faithful (settings : Settings Payload) (stream : List (Chunk Payload))
    (session : Session Payload) : Prop where
  whole : chunksOf session.emitted ++ (session.lost ++ session.left) = stream
  lost : session.lost ≠ [] → session.ended = true
  framesRead : session.track.framesRead = (chunksOf session.emitted ++ session.lost).length
  framesEmitted : session.track.framesEmitted = session.emitted.length
  droppedFrames : session.track.framesEmitted + session.track.droppedFrames +
    (if session.lost = [] then 0 else 1) = session.track.framesRead
  timestamp : session.track.timestamp = session.emitted.length * settings.samplesPerFrame
  startedAt : if session.emitted = [] ∧ session.lost = [] then session.track.startedAt = 0
    else stream.head?.map (·.now) = some session.track.startedAt
  frames : ∀ before emission after, session.emitted = before ++ emission :: after →
    emission.Faithful settings session.track.startedAt before

theorem faithful_start : (Session.start stream).Faithful settings stream := by
  constructor
  case whole => rfl
  case lost => exact fun lost => absurd rfl lost
  case framesRead => rfl
  case framesEmitted => rfl
  case droppedFrames => rfl
  case timestamp => simp [Session.start]
  case startedAt => rfl
  case frames =>
    intro before emission after same
    simp [Session.start] at same

/-- A resync changes nothing about the frames. -/
theorem Session.Faithful.of_sameCounts (faithful : session.Faithful settings stream)
    {track : Track Payload} (same : SameCounts session.track track) :
    ({ session with track := track } : Session Payload).Faithful settings stream := by
  constructor
  case whole => exact faithful.whole
  case lost => exact faithful.lost
  case framesRead => exact same.framesRead.trans faithful.framesRead
  case framesEmitted => exact same.framesEmitted.trans faithful.framesEmitted
  case droppedFrames =>
    dsimp only
    rw [same.framesEmitted, same.droppedFrames, same.framesRead]
    exact faithful.droppedFrames
  case timestamp => exact same.timestamp.trans faithful.timestamp
  case startedAt =>
    dsimp only
    rw [same.startedAt]
    exact faithful.startedAt
  case frames =>
    dsimp only
    rw [same.startedAt]
    exact faithful.frames

/-- What a track counts when it emits a frame. -/
theorem emit_counts (chunk : Chunk Payload) (track : Track Payload) :
    (emit settings chunk track).1.timestamp = track.timestamp + settings.samplesPerFrame ∧
      (emit settings chunk track).1.startedAt = track.startedAt ∧
      (emit settings chunk track).1.framesRead = track.framesRead ∧
      (emit settings chunk track).1.framesEmitted = track.framesEmitted + 1 ∧
      (emit settings chunk track).1.droppedFrames = track.droppedFrames :=
  ⟨rfl, rfl, rfl, rfl, rfl⟩

theorem sub_le_of_estimateBacklogSec_le {now limit : ℚ} {track : Track Payload}
    (started : track.startedAt ≠ 0) (fresh : estimateBacklogSec settings now track ≤ limit) :
    now - track.startedAt ≤ track.framesRead * settings.frameDurationSec + limit := by
  rw [estimateBacklogSec, if_neg started] at fresh
  have elapsed : now - track.startedAt ≤ max 0 (now - track.startedAt) := le_max_right ..
  have behind : max 0 (now - track.startedAt) - track.framesRead * settings.frameDurationSec ≤
      max 0 (max 0 (now - track.startedAt) - track.framesRead * settings.frameDurationSec) :=
    le_max_right ..
  linarith

variable {chunk last : Chunk Payload} {chunks rest group : List (Chunk Payload)}
  {after : Track Payload}

/-- A track starts with the first chunk of the stream. -/
theorem Session.Faithful.started (faithful : session.Faithful settings stream)
    (ticking : ∀ chunk ∈ stream, chunk.now ≠ 0) (left : session.left = chunk :: chunks)
    (running : session.lost = []) {result : Option (Chunk Payload)}
    (consumed : Consumed settings session.track chunk group result after) :
    stream.head?.map (·.now) = some after.startedAt ∧ after.startedAt ≠ 0 ∧
      (session.emitted ≠ [] → after.startedAt = session.track.startedAt) := by
  have started := faithful.startedAt
  simp only [running, and_true] at started
  split at started
  case isTrue none =>
    have whole := faithful.whole
    rw [none, running, left] at whole
    have first : after.startedAt = chunk.now := by rw [consumed.startedAt, if_pos started]
    subst whole
    refine ⟨congrArg some first.symm, ?_, fun some => absurd none some⟩
    rw [first]
    exact ticking chunk (by simp [chunksOf])
  case isFalse =>
    obtain ⟨first, head, same⟩ := Option.map_eq_some_iff.mp started
    have positive : session.track.startedAt ≠ 0 := same ▸ ticking first (List.mem_of_head? head)
    have unchanged : after.startedAt = session.track.startedAt := by
      rw [consumed.startedAt, if_neg positive]
    exact ⟨unchanged ▸ started, unchanged ▸ positive, fun _ => unchanged⟩

/-- The frame that is emitted for a group is faithful. -/
theorem Session.Faithful.frame (faithful : session.Faithful settings stream)
    (running : session.lost = [])
    (consumed : Consumed settings session.track chunk group (some last) after)
    (started : after.startedAt ≠ 0) (call : Call) (notified : Bool) :
    Emission.Faithful settings after.startedAt session.emitted
      ⟨frameOf settings call last after, group, notified⟩ := by
  obtain ⟨final, latest⟩ := consumed.final last rfl
  constructor
  case payload => rw [final, Option.map_some, frameOf]
  case few => exact consumed.few
  case pts => exact consumed.timestamp.trans faithful.timestamp
  case onTime =>
    have delay : 0 ≤ max 0 call.audioDelaySec := le_max_left ..
    have late : 0 ≤ max 0 call.lateness := le_max_left ..
    have due : targetEmitAt settings call after ≤ max last.now (targetEmitAt settings call after) :=
      le_max_right ..
    have emitted : (after.framesEmitted : ℚ) = session.emitted.length :=
      congrArg Nat.cast (consumed.framesEmitted.trans faithful.framesEmitted)
    rw [targetEmitAt, emitted] at due
    dsimp only [frameOf, targetEmitAt]
    rw [emitted]
    linarith
  case fresh =>
    intro guarded
    refine (latest guarded).imp id fun fresh => ?_
    intro other same
    cases final.symm.trans same
    have read : (after.framesRead : ℚ) = (chunksOf session.emitted ++ group).length := by
      rw [consumed.framesRead, faithful.framesRead, running, List.append_nil, List.length_append]
    rw [← read]
    exact sub_le_of_estimateBacklogSec_le started fresh

/-- What `recv` emits for a group of chunks. -/
theorem Session.Faithful.emit (faithful : session.Faithful settings stream)
    (ticking : ∀ chunk ∈ stream, chunk.now ≠ 0) (left : session.left = chunk :: chunks)
    (running : session.lost = []) (split : chunk :: chunks = group ++ rest)
    (consumed : Consumed settings session.track chunk group (some last) after) (call : Call) :
    Session.Faithful settings stream
      { session with
        track := (PulseAudio.emit settings last (requestResyncs settings call.resyncs after)).1
        left := rest
        emitted := session.emitted ++ [⟨frameOf settings call last after, group,
          (PulseAudio.emit settings last (requestResyncs settings call.resyncs after)).2⟩] } := by
  have same := @sameCounts_requestResyncs _ settings call.resyncs after
  obtain ⟨timestamp, startedAt, framesRead, framesEmitted, droppedFrames⟩ :=
    @emit_counts _ settings last (requestResyncs settings call.resyncs after)
  obtain ⟨head, positive, unchanged⟩ := faithful.started ticking left running consumed
  constructor
  case whole =>
    have whole := faithful.whole
    dsimp only
    rw [running, List.nil_append] at whole ⊢
    rw [chunksOf_concat, List.append_assoc, ← split, ← left]
    exact whole
  case lost => exact fun lost => absurd running lost
  case framesRead =>
    dsimp only
    rw [framesRead, same.framesRead, consumed.framesRead, faithful.framesRead, running,
      List.append_nil, List.append_nil, chunksOf_concat, List.length_append]
  case framesEmitted =>
    rw [framesEmitted, same.framesEmitted, consumed.framesEmitted, faithful.framesEmitted,
      List.length_append, List.length_singleton]
  case droppedFrames =>
    have earlier := faithful.droppedFrames
    have dropped := consumed.droppedFrames
    dsimp only
    rw [if_pos running] at earlier ⊢
    rw [framesEmitted, droppedFrames, framesRead, same.framesEmitted, same.droppedFrames,
      same.framesRead, consumed.framesEmitted, consumed.framesRead]
    omega
  case timestamp =>
    rw [timestamp, same.timestamp, consumed.timestamp, faithful.timestamp, List.length_append,
      List.length_singleton, Nat.add_one_mul]
  case startedAt =>
    rw [if_neg (by simp), startedAt, same.startedAt]
    exact head
  case frames =>
    intro before emission following listed
    dsimp only
    rw [startedAt, same.startedAt]
    rcases List.eq_nil_or_concat following with rfl | ⟨earlier, other, rfl⟩
    · obtain ⟨rfl, new⟩ := List.append_inj' listed rfl
      cases new
      exact faithful.frame running consumed positive call _
    · rw [List.concat_eq_append, ← List.cons_append, ← List.append_assoc] at listed
      obtain ⟨old, -⟩ := List.append_inj' listed rfl
      rw [unchanged (by rw [old]; simp)]
      exact faithful.frames before emission earlier old

/-- What a call loses that finds the end of the stream. -/
theorem Session.Faithful.lose (faithful : session.Faithful settings stream)
    (ticking : ∀ chunk ∈ stream, chunk.now ≠ 0) (left : session.left = chunk :: chunks)
    (running : session.lost = []) (split : chunk :: chunks = group ++ rest) (some : group ≠ [])
    (consumed : Consumed settings session.track chunk group none after) :
    Session.Faithful settings stream
      { session with track := after, left := rest, lost := group, ended := true } := by
  obtain ⟨head, positive, unchanged⟩ := faithful.started ticking left running consumed
  constructor
  case whole =>
    have whole := faithful.whole
    rw [running, List.nil_append, left, split] at whole
    exact whole
  case lost => exact fun _ => rfl
  case framesRead =>
    dsimp only
    rw [consumed.framesRead, faithful.framesRead, running, List.append_nil, List.length_append]
  case framesEmitted => exact consumed.framesEmitted.trans faithful.framesEmitted
  case droppedFrames =>
    have earlier := faithful.droppedFrames
    have dropped := consumed.droppedFrames
    dsimp only
    rw [if_pos running] at earlier
    rw [if_neg some, consumed.framesEmitted, consumed.framesRead]
    omega
  case timestamp => exact consumed.timestamp.trans faithful.timestamp
  case startedAt =>
    rw [if_neg fun none => some none.2]
    exact head
  case frames =>
    intro before emission following listed
    dsimp only at listed ⊢
    rw [unchanged (by rw [listed]; simp)]
    exact faithful.frames before emission following listed

theorem Session.Faithful.step (faithful : session.Faithful settings stream)
    (ticking : ∀ chunk ∈ stream, chunk.now ≠ 0) (event : Event) :
    (step settings session event).Faithful settings stream := by
  unfold PulseAudio.step
  split
  case isTrue => exact faithful
  case isFalse going =>
    have running : session.lost = [] := not_not.mp (mt faithful.lost going)
    cases event with
    | requestsResync now => exact faithful.of_sameCounts (sameCounts_requestResync now _)
    | recv call =>
        dsimp only
        unfold PulseAudio.recv
        split
        case h_1 =>
          exact ⟨faithful.whole, fun _ => rfl, faithful.framesRead, faithful.framesEmitted,
            faithful.droppedFrames, faithful.timestamp, faithful.startedAt, faithful.frames⟩
        case h_2 chunk chunks left =>
          have taken {group rest : List (Chunk Payload)} (split : chunk :: chunks = group ++ rest) :
              session.left.take (session.left.length - rest.length) = group := by
            rw [left, split]
            simp
          split
          case h_1 rest after consumed =>
            obtain ⟨group, split, some, counts⟩ := consumeFreshestPayload_spec consumed
            rw [taken split]
            exact faithful.lose ticking left running split some counts
          case h_2 last rest after consumed =>
            obtain ⟨group, split, -, counts⟩ := consumeFreshestPayload_spec consumed
            rw [taken split]
            exact faithful.emit ticking left running split counts call

/-- In every run the frames are those of the stream: each one has the last of the chunks that were
read for it, which follow each other without a gap; its time stamp counts the samples before it,
it is not emitted before its time, and its chunk is not late.  What is lost at the end of the
stream is what the call had read that has found it. -/
theorem frames_are_faithful (settings : Settings Payload) {stream : List (Chunk Payload)}
    (ticking : ∀ chunk ∈ stream, chunk.now ≠ 0) (events : List Event) :
    (Runs.run (PulseAudio.step settings) (Session.start stream) events).Faithful settings stream :=
  Runs.run_invariant faithful_start (fun _ event faithful => faithful.step ticking event) events

def sampleSettings : Settings ℕ := ⟨50, 1, true, true, id⟩

/-- The second chunk arrives 180 ms after the first one, and the next one at once; the last one is
late, and the stream ends behind it. -/
def lateStream : List (Chunk ℕ) :=
  [⟨10, [], 5⟩, ⟨11, [], 259 / 50⟩, ⟨12, [], 259 / 50⟩, ⟨13, [], 11 / 2⟩]

theorem late_chunk_is_dropped :
    let final := Runs.run (PulseAudio.step sampleSettings) (Session.start lateStream)
      [.recv ⟨0, [], 0⟩, .recv ⟨0, [], 0⟩, .recv ⟨0, [], 0⟩]
    final.emitted.map (fun emission => (emission.frame.payload, emission.group.length)) =
        [(10, 1), (12, 2)] ∧
      final.track.droppedFrames = 1 ∧ final.lost.map (·.payload) = [13] ∧
      final.Faithful sampleSettings lateStream := by
  refine ⟨by decide +kernel, by decide +kernel, by decide +kernel, ?_⟩
  exact @frames_are_faithful _ sampleSettings lateStream (by decide +kernel) _

end Frames

/-! ## Sound -/

section Sound

variable {settings : Settings Payload} {track after : Track Payload} {session : Session Payload}

def Settings.loud (settings : Settings Payload) (payload : Payload) : Bool :=
  audioReadyMinRms ≤ settings.rms payload

/-- Five loud frames in a row are among the frames, of which the latest comes first. -/
def heardSound (settings : Settings Payload) : List Payload → Bool
  | [] => false
  | payload :: earlier =>
      audioReadyConsecutiveFrames ≤ ((payload :: earlier).takeWhile settings.loud).length ||
        heardSound settings earlier

/-- What the track knows of the frames since the last resync, and how often it has called back
since then: once if there was sound. -/
structure Reported (settings : Settings Payload) (emitted : List (Emission Payload))
    (track : Track Payload) : Prop where
  active : track.audioActiveFrames = (track.heard.takeWhile settings.loud).length
  ready : track.audioReady = true → heardSound settings track.heard = true
  notified : track.audioReadyNotified =
    (settings.hasActivityCallback && heardSound settings track.heard)
  recent : ∃ earlier recent, emitted = earlier ++ recent ∧
    recent.map (·.frame.payload) = track.heard.reverse ∧
    recent.countP (·.notified) =
      (settings.hasActivityCallback && heardSound settings track.heard).toNat

variable {emitted : List (Emission Payload)}

theorem reported_new : Reported settings [] {} :=
  ⟨rfl, fun ready => absurd ready (by simp), by simp [heardSound], [], [], rfl, rfl,
    by simp [heardSound]⟩

theorem Reported.requestResync (reported : Reported settings emitted track) (now : ℚ) :
    Reported settings emitted (requestResync settings now track) := by
  unfold PulseAudio.requestResync
  split
  case isTrue =>
    refine ⟨rfl, fun ready => absurd ready (by simp), by simp [heardSound], ?_⟩
    exact ⟨emitted, [], (List.append_nil _).symm, rfl, by simp [heardSound]⟩
  case isFalse => exact reported

theorem Reported.requestResyncs (reported : Reported settings emitted track) (times : List ℚ) :
    Reported settings emitted (requestResyncs settings times track) := by
  induction times generalizing track with
  | nil => exact reported
  | cons now times ih => exact ih (reported.requestResync now)

/-- Nothing is known of sound from counting chunks. -/
theorem Reported.dropStale (reported : Reported settings emitted track) {drops : ℕ}
    {chunk : Chunk Payload} {last : Option (Chunk Payload)} {chunks rest : List (Chunk Payload)}
    (dropped : dropStale settings drops chunk chunks track = (last, rest, after)) :
    Reported settings emitted after := by
  induction drops generalizing chunk chunks track with
  | zero =>
      cases dropped
      exact reported
  | succ drops ih =>
      unfold PulseAudio.dropStale at dropped
      split at dropped
      case isTrue =>
        cases dropped
        exact reported
      case isFalse =>
        cases chunks with
        | nil =>
            cases dropped
            exact reported
        | cons next chunks =>
            have resynced := reported.requestResyncs next.resyncs
            have counted : Reported settings emitted
                { PulseAudio.requestResyncs settings next.resyncs track with
                  framesRead :=
                    (PulseAudio.requestResyncs settings next.resyncs track).framesRead + 1
                  droppedFrames :=
                    (PulseAudio.requestResyncs settings next.resyncs track).droppedFrames + 1 } :=
              ⟨resynced.active, resynced.ready, resynced.notified, resynced.recent⟩
            exact ih counted dropped

theorem Reported.consume (reported : Reported settings emitted track)
    {chunk : Chunk Payload} {last : Option (Chunk Payload)} {chunks rest : List (Chunk Payload)}
    (consumed : consumeFreshestPayload settings chunk chunks (receive settings chunk track) =
      (last, rest, after)) :
    Reported settings emitted after := by
  have resynced := reported.requestResyncs chunk.resyncs
  have received : Reported settings emitted (receive settings chunk track) :=
    ⟨resynced.active, resynced.ready, resynced.notified, resynced.recent⟩
  unfold consumeFreshestPayload at consumed
  split at consumed
  case isFalse =>
    cases consumed
    exact received
  case isTrue =>
    split at consumed
    case h_1 chosen left dropped found =>
      cases consumed
      have consumed := received.dropStale found
      unfold closeResync
      split
      · exact ⟨consumed.active, consumed.ready, consumed.notified, consumed.recent⟩
      · exact consumed
    case h_2 left dropped found =>
      cases consumed
      exact received.dropStale found

/-- The number of loud frames in a row is kept. -/
theorem Reported.activeFrames (reported : Reported settings emitted track) (payload : Payload) :
    (observeAudioActivity settings payload track).audioActiveFrames =
      ((payload :: track.heard).takeWhile settings.loud).length := by
  rw [List.takeWhile_cons]
  cases loud : settings.loud payload with
  | true =>
      have enough : audioReadyMinRms ≤ settings.rms payload := of_decide_eq_true loud
      simp [observeAudioActivity, enough, reported.active]
  | false =>
      have few : ¬audioReadyMinRms ≤ settings.rms payload := of_decide_eq_false loud
      simp [observeAudioActivity, few]

/-- Sound that is there for the first time is reported, and no other. -/
theorem report_once (callback complete sound ready kept : Bool)
    (known : ready = true → sound = true) :
    (callback && sound || ((complete || ready && kept) && !(callback && sound) && callback)) =
        (callback && (complete || sound)) ∧
      (callback && sound).toNat +
          ((complete || ready && kept) && !(callback && sound) && callback).toNat =
        (callback && (complete || sound)).toNat := by
  cases callback <;> cases complete <;> cases sound <;> cases ready <;> simp_all

theorem Reported.emit (reported : Reported settings emitted track) (chunk : Chunk Payload)
    (call : Call) (group : List (Chunk Payload)) (time : Track Payload) :
    Reported settings
      (emitted ++ [⟨frameOf settings call chunk time, group, (emit settings chunk track).2⟩])
      (emit settings chunk track).1 := by
  obtain ⟨earlier, recent, rfl, payloads, count⟩ := reported.recent
  have moved : Reported settings (earlier ++ recent)
      { track with timestamp := track.timestamp + settings.samplesPerFrame } :=
    ⟨reported.active, reported.ready, reported.notified, reported.recent⟩
  have active := moved.activeFrames chunk.payload
  have sound : heardSound settings (chunk.payload :: track.heard) =
      (decide (audioReadyConsecutiveFrames ≤ (observeAudioActivity settings chunk.payload
        { track with
          timestamp := track.timestamp + settings.samplesPerFrame }).audioActiveFrames) ||
        heardSound settings track.heard) := by
    rw [active, heardSound]
  obtain ⟨state, total⟩ := report_once settings.hasActivityCallback
    (audioReadyConsecutiveFrames ≤ (observeAudioActivity settings chunk.payload
      { track with
        timestamp := track.timestamp + settings.samplesPerFrame }).audioActiveFrames)
    (heardSound settings track.heard) track.audioReady
    (audioReadyMinRms ≤ settings.rms chunk.payload || settings.freshnessGuardEnabled)
    reported.ready
  rw [← reported.notified, ← sound] at state
  rw [← reported.notified, ← sound] at total
  constructor
  case active => exact active
  case ready =>
    intro ready
    refine sound.trans (Bool.or_eq_true_iff.mpr ((Bool.or_eq_true_iff.mp ready).imp id ?_))
    exact fun kept => reported.ready (Bool.and_eq_true_iff.mp kept).1
  case notified => exact state
  case recent =>
    refine ⟨earlier, recent ++ [_], List.append_assoc .., ?_, ?_⟩
    · rw [List.map_append, payloads]
      exact List.reverse_cons.symm
    · rw [List.countP_append, count, ← reported.notified, List.countP_singleton,
        ← Bool.cond_eq_ite]
      exact total

/-- What is kept of the sound. -/
def Session.Reported (settings : Settings Payload) (session : Session Payload) : Prop :=
  PulseAudio.Reported settings session.emitted session.track

theorem reported_start (stream : List (Chunk Payload)) :
    (Session.start stream).Reported settings := reported_new

theorem Session.Reported.step (reported : session.Reported settings) (event : Event) :
    (step settings session event).Reported settings := by
  unfold PulseAudio.step
  split
  case isTrue => exact reported
  case isFalse =>
    cases event with
    | requestsResync now => exact PulseAudio.Reported.requestResync reported now
    | recv call =>
        dsimp only
        unfold PulseAudio.recv
        split
        case h_1 => exact reported
        case h_2 chunk chunks left =>
          split
          case h_1 rest after consumed => exact PulseAudio.Reported.consume reported consumed
          case h_2 last rest after consumed =>
            have consumed := PulseAudio.Reported.consume reported consumed
            exact (consumed.requestResyncs call.resyncs).emit last call _ after

/-- In every run the track calls back for sound exactly once after each resync: with the frame
that completes five loud ones in a row since then. -/
theorem sound_is_reported_once (settings : Settings Payload) (stream : List (Chunk Payload))
    (events : List Event) :
    let final := Runs.run (PulseAudio.step settings) (Session.start stream) events
    ∃ earlier recent, final.emitted = earlier ++ recent ∧
      recent.map (·.frame.payload) = final.track.heard.reverse ∧
      recent.countP (·.notified) =
        (settings.hasActivityCallback && heardSound settings final.track.heard).toNat := by
  intro final
  have reported : final.Reported settings :=
    Runs.run_invariant (reported_start stream) (fun _ event reported => reported.step event) events
  exact reported.recent

end Sound

end RemoteBrowser.Capture.PulseAudio
