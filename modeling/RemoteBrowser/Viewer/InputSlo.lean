import RemoteBrowser.Events.Runs
import RemoteBrowser.Sorting.NearestRank
import RemoteBrowser.Viewer.Input
import Mathlib.Tactic.Linarith

/-!
# The service level of inputs

The viewer counts the inputs that it sends and the acknowledgements that arrive, keeps the latest
latencies of each class of inputs, and reports when too many of them are long.  What it reports is
exact: it agrees with a ledger that forgets nothing between two reports.
-/

namespace RemoteBrowser.InputSlo

open Sorting
open Viewer (mathRound)

/-! ## The window -/

inductive InputClass where
  | pointerMove
  | pointerButton
  | wheel
  | key
  | textInsert
  | streamConfigure
  | viewportResize
  | browserHistory
  | browserReload
  | other
  | unknown
  deriving DecidableEq

/-- `classifyViewerInputSloClass`, of a type that is normalised. -/
def classifyViewerInputSloClass (type : String) : InputClass :=
  if type = "pointer.move" then .pointerMove
  else if type = "pointer.button" then .pointerButton
  else if type = "wheel" then .wheel
  else if type = "key" then .key
  else if type = "text.insert" then .textInsert
  else if type = "stream.configure" then .streamConfigure
  else if type = "viewport.resize" then .viewportResize
  else if type = "browser.history" then .browserHistory
  else if type = "browser.reload" then .browserReload
  else if type = "" then .unknown
  else .other

/-- A member of an acknowledgement: missing or falsy, or else what `Number` makes of it, which is
`none` unless it is finite. -/
abbrev Field := Option (Option ℚ)

/-- `Number(value || 0)` -/
def Field.number (field : Field) : Option ℚ := field.getD (some 0)

structure AckItem where
  seq : Field
  /-- the type, normalised, if it is not falsy -/
  type : Option String
  viewerTs : Field
  workerApplyTs : Field
  workerApplyDelayMs : Field

/-- What `extractViewerInputAck` finds in a message. -/
structure Ack where
  seq : ℚ
  acks : List AckItem

/-- A batch without items stands for itself. -/
def Ack.items (ack : Ack) : List AckItem :=
  if ack.acks = [] then
    [⟨if ack.seq = 0 then none else some (some ack.seq), none, none, none, none⟩]
  else ack.acks

structure Pending where
  inputClass : InputClass
  channel : String
  sentAt : ℚ

structure Bucket where
  sent : ℕ
  acked : ℕ
  dropped : ℕ
  channels : String → ℕ
  ackMs : List ℚ
  workerApplyMs : List ℚ
  workerApplyDelayMs : List ℚ

def Bucket.new : Bucket := ⟨0, 0, 0, fun _ => 0, [], [], []⟩

/-- One more message on a channel. -/
def Bucket.countChannel (bucket : Bucket) (channel : String) : Bucket :=
  { bucket with channels := Function.update bucket.channels channel (bucket.channels channel + 1) }

/-- What `recordSent` changes in a bucket. -/
def Bucket.countSent (channel : String) (bucket : Bucket) : Bucket :=
  { bucket with sent := bucket.sent + 1 }.countChannel (if channel = "" then "unknown" else channel)

/-- What `recordDrop` changes in a bucket. -/
def Bucket.countDrop (channel : String) (bucket : Bucket) : Bucket :=
  let bucket := { bucket with dropped := bucket.dropped + 1 }
  if channel = "" then bucket else bucket.countChannel channel

def pushSample (maxSamples : ℕ) (values : List ℚ) (value : Option ℚ) : List ℚ :=
  match value with
  | none => values
  | some sample =>
      if sample < 0 then values
      else (values ++ [sample]).drop (values.length + 1 - maxSamples)

/-- What `createViewerInputSloWindow` closes over. -/
structure Window where
  pendingBySeq : List (ℚ × Pending)
  classes : List (InputClass × Bucket)

def Window.new : Window := ⟨[], []⟩

/-- `Map.set`: an old key stays in its place, a new one comes last. -/
def setEntry {Key Value : Type} [DecidableEq Key] (key : Key) (value : Value) :
    List (Key × Value) → List (Key × Value)
  | [] => [(key, value)]
  | (other, old) :: rest =>
      if other = key then (key, value) :: rest else (other, old) :: setEntry key value rest

namespace Window

/-- `getBucket` -/
def bucket (window : Window) (inputClass : InputClass) : Bucket :=
  (window.classes.lookup inputClass).getD .new

/-- A change of the bucket that `getBucket` returns. -/
def updateBucket (window : Window) (inputClass : InputClass) (change : Bucket → Bucket) : Window :=
  { window with classes := setEntry inputClass (change (window.bucket inputClass)) window.classes }

def recordSent (window : Window) (seq : ℚ) (inputClass : InputClass) (channel : String)
    (sentAt : ℚ) : Window :=
  let window := window.updateBucket inputClass (Bucket.countSent channel)
  if seq = 0 then window
  else { window with
    pendingBySeq := setEntry seq ⟨inputClass, channel, sentAt⟩ window.pendingBySeq }

def recordDrop (window : Window) (inputClass : InputClass) (channel : String) : Window :=
  window.updateBucket inputClass (Bucket.countDrop channel)

end Window

/-- `Number(item.seq || ack.seq || 0)`, unless it is falsy. -/
def AckItem.key (item : AckItem) (ackSeq : ℚ) : Option ℚ :=
  (item.seq.getD (some ackSeq)).filter (· ≠ 0)

/-- The class that an item counts for. -/
def AckItem.inputClass (item : AckItem) (pending : Option Pending) : InputClass :=
  (item.type.map classifyViewerInputSloClass).getD ((pending.map Pending.inputClass).getD .unknown)

/-- `pending?.sentAt || Number(item.viewerTs || 0)` -/
def AckItem.sentAt (item : AckItem) (pending : Option Pending) : Option ℚ :=
  ((pending.map Pending.sentAt).filter (· ≠ 0)).elim item.viewerTs.number some

/-- The time from the sending to `now`, if that is known and finite. -/
def AckItem.ackMs (item : AckItem) (pending : Option Pending) (now : ℚ) : Option ℚ :=
  ((item.sentAt pending).filter (· ≠ 0)).map (now - ·)

def AckItem.workerApplyMs (item : AckItem) (pending : Option Pending) : Option ℚ :=
  let viewerTs := item.viewerTs.getD (item.sentAt pending)
  (item.workerApplyTs.number.filter (· ≠ 0)).bind fun applied =>
    (viewerTs.filter (· ≠ 0)).map (applied - ·)

/-- What an item of `recordAckBatch` changes in a bucket. -/
def Bucket.countAck (maxSamples : ℕ) (now : ℚ) (item : AckItem) (pending : Option Pending)
    (bucket : Bucket) : Bucket :=
  { bucket with
    acked := bucket.acked + 1
    ackMs := pushSample maxSamples bucket.ackMs (item.ackMs pending now)
    workerApplyMs := pushSample maxSamples bucket.workerApplyMs (item.workerApplyMs pending)
    workerApplyDelayMs :=
      pushSample maxSamples bucket.workerApplyDelayMs item.workerApplyDelayMs.number }

namespace Window

/-- One item of `recordAckBatch`. -/
def recordAck (maxSamples : ℕ) (ackSeq now : ℚ) (window : Window) (item : AckItem) : Window :=
  let seq := item.key ackSeq
  let pending := seq.bind (window.pendingBySeq.lookup ·)
  let window :=
    window.updateBucket (item.inputClass pending) (Bucket.countAck maxSamples now item pending)
  { window with pendingBySeq := window.pendingBySeq.filter fun entry => some entry.1 ≠ seq }

def recordAckBatch (maxSamples : ℕ) (window : Window) (ack : Ack) (now : ℚ) : Window :=
  ack.items.foldl (recordAck maxSamples ack.seq now) window

end Window

/-! ## Reports -/

def percentile (values : List ℚ) (p : ℚ) : ℚ :=
  if values = [] then 0
  else
    let index := min (values.length - 1 : ℤ) (max 0 (⌈values.length * p⌉ - 1))
    (atRank values index.toNat).getD 0

structure Latency where
  count : ℕ
  p50 : ℤ
  p95 : ℤ
  max : ℤ
  deriving DecidableEq

def summarizeLatencyValues (values : List ℚ) : Latency :=
  if values = [] then ⟨0, 0, 0, 0⟩
  else ⟨values.length, mathRound (percentile values (1 / 2)),
    mathRound (percentile values (19 / 20)), mathRound (values.foldl Max.max (values.headD 0))⟩

structure Summary where
  sent : ℕ
  acked : ℕ
  dropped : ℕ
  channels : String → ℕ
  ackMs : Latency
  workerApplyMs : Latency
  workerApplyDelayMs : Latency

def Bucket.summary (bucket : Bucket) : Summary :=
  ⟨bucket.sent, bucket.acked, bucket.dropped, bucket.channels, summarizeLatencyValues bucket.ackMs,
    summarizeLatencyValues bucket.workerApplyMs, summarizeLatencyValues bucket.workerApplyDelayMs⟩

/-- What `buildViewerInputSloReport` makes of a snapshot and of the backlog of the control
channel. -/
structure Report where
  pending : ℕ
  pendingByChannel : String → ℕ
  byClass : List (InputClass × Summary)
  controlBufferedAmount : ℤ

def Window.report (window : Window) (controlBufferedAmount : ℤ) : Report where
  pending := window.pendingBySeq.length
  pendingByChannel channel := window.pendingBySeq.countP fun entry =>
    (if entry.2.channel = "" then "unknown" else entry.2.channel) = channel
  byClass := window.classes.map fun entry => (entry.1, entry.2.summary)
  controlBufferedAmount := controlBufferedAmount

def Report.pointerDropCount (report : Report) : ℕ :=
  ((report.byClass.lookup .pointerMove).map Summary.dropped).getD 0

def Report.clickToApplyMs (report : Report) : Latency :=
  ((report.byClass.lookup .pointerButton).map Summary.workerApplyMs).getD
    (summarizeLatencyValues [])

structure Thresholds where
  ackP95Ms : ℚ
  clickApplyP95Ms : ℚ
  controlBacklogBytes : ℚ

inductive Violation where
  | ackP95 (inputClass : InputClass) (value : ℤ)
  | clickToApply (value : ℤ)
  | controlBacklog (value : ℤ)
  deriving DecidableEq

def slowAcks (report : Report) (limit : ℚ) : List Violation :=
  if 0 < limit then
    report.byClass.filterMap fun entry =>
      if limit < entry.2.ackMs.p95 then some (.ackP95 entry.1 entry.2.ackMs.p95) else none
  else []

def slowClicks (report : Report) (limit : ℚ) : List Violation :=
  if 0 < limit ∧ limit < report.clickToApplyMs.p95 then [.clickToApply report.clickToApplyMs.p95]
  else []

def longBacklog (report : Report) (limit : ℚ) : List Violation :=
  if 0 < limit ∧ limit < report.controlBufferedAmount then
    [.controlBacklog report.controlBufferedAmount]
  else []

def evaluateViewerInputSloViolations (report : Report) (thresholds : Thresholds) :
    List Violation :=
  slowAcks report thresholds.ackP95Ms ++ slowClicks report thresholds.clickApplyP95Ms ++
    longBacklog report thresholds.controlBacklogBytes

/-! ## Runs -/

inductive Event where
  /-- `sendInput` sends a message. -/
  | sent (inputClass : InputClass) (channel : String) (now : ℚ)
  /-- `sendInput` drops a pointer move. -/
  | dropped (inputClass : InputClass) (channel : String)
  | acked (ack : Ack) (now : ℚ)
  /-- `emitInputSloTelemetry`, which starts afresh. -/
  | emitted

structure Viewer where
  inputSeq : ℕ
  inputSloWindow : Window

namespace Viewer

def new : Viewer := ⟨0, .new⟩

def step (maxSamples : ℕ) (viewer : Viewer) : Event → Viewer
  | .sent inputClass channel now =>
      let inputSeq := viewer.inputSeq + 1
      ⟨inputSeq, viewer.inputSloWindow.recordSent inputSeq inputClass channel now⟩
  | .dropped inputClass channel =>
      { viewer with inputSloWindow := viewer.inputSloWindow.recordDrop inputClass channel }
  | .acked ack now =>
      { viewer with inputSloWindow := viewer.inputSloWindow.recordAckBatch maxSamples ack now }
  | .emitted => { viewer with inputSloWindow := .new }

end Viewer

/-! ## The ledger -/

/-- What has happened since the last report, with nothing forgotten. -/
structure Ledger where
  inputSeq : ℕ
  /-- The inputs sent since the last report. -/
  total : ℕ
  awaited : ℚ → Option Pending
  /-- The acknowledgements of inputs that were awaited. -/
  matched : ℕ
  sent : InputClass → ℕ
  acked : InputClass → ℕ
  dropped : InputClass → ℕ
  channels : InputClass → String → ℕ
  ackMs : InputClass → List ℚ
  workerApplyMs : InputClass → List ℚ
  workerApplyDelayMs : InputClass → List ℚ

namespace Ledger

/-- Nothing has happened since the last report. -/
def fresh (inputSeq : ℕ) : Ledger :=
  ⟨inputSeq, 0, fun _ => none, 0, fun _ => 0, fun _ => 0, fun _ => 0, fun _ _ => 0, fun _ => [],
    fun _ => [], fun _ => []⟩

/-- One more at a key. -/
def bump {Key : Type} [DecidableEq Key] (counts : Key → ℕ) (key : Key) : Key → ℕ :=
  Function.update counts key (counts key + 1)

/-- A sample counts if it is known and not negative. -/
def note (samples : InputClass → List ℚ) (inputClass : InputClass) (sample : Option ℚ) :
    InputClass → List ℚ :=
  Function.update samples inputClass
    (samples inputClass ++ (sample.filter (0 ≤ ·)).toList)

def countChannel (ledger : Ledger) (inputClass : InputClass) (channel : String) : Ledger :=
  { ledger with channels :=
      Function.update ledger.channels inputClass (bump (ledger.channels inputClass) channel) }

def recordAck (ackSeq now : ℚ) (ledger : Ledger) (item : AckItem) : Ledger :=
  let seq := item.key ackSeq
  let pending := seq.bind ledger.awaited
  let inputClass := item.inputClass pending
  { ledger with
    awaited := fun other => if some other = seq then none else ledger.awaited other
    matched := ledger.matched + pending.isSome.toNat
    acked := bump ledger.acked inputClass
    ackMs := note ledger.ackMs inputClass (item.ackMs pending now)
    workerApplyMs := note ledger.workerApplyMs inputClass (item.workerApplyMs pending)
    workerApplyDelayMs :=
      note ledger.workerApplyDelayMs inputClass item.workerApplyDelayMs.number }

def step (ledger : Ledger) : Event → Ledger
  | .sent inputClass channel now =>
      let inputSeq := ledger.inputSeq + 1
      { ledger.countChannel inputClass (if channel = "" then "unknown" else channel) with
        inputSeq
        total := ledger.total + 1
        awaited := Function.update ledger.awaited inputSeq (some ⟨inputClass, channel, now⟩)
        sent := bump ledger.sent inputClass }
  | .dropped inputClass channel =>
      let ledger := { ledger with dropped := bump ledger.dropped inputClass }
      if channel = "" then ledger else ledger.countChannel inputClass channel
  | .acked ack now => ack.items.foldl (recordAck ack.seq now) ledger
  | .emitted => fresh ledger.inputSeq

end Ledger

/-- The bucket of a class that a window has: its samples are the latest ones. -/
def Ledger.bucket (maxSamples : ℕ) (ledger : Ledger) (inputClass : InputClass) : Bucket where
  sent := ledger.sent inputClass
  acked := ledger.acked inputClass
  dropped := ledger.dropped inputClass
  channels := ledger.channels inputClass
  ackMs := (ledger.ackMs inputClass).rtake maxSamples
  workerApplyMs := (ledger.workerApplyMs inputClass).rtake maxSamples
  workerApplyDelayMs := (ledger.workerApplyDelayMs inputClass).rtake maxSamples

section Entries

variable {Key Value : Type} [DecidableEq Key] {key other first : Key} {value old : Value}
  {entries : List (Key × Value)}

theorem lookup_cons_if :
    ((first, old) :: entries).lookup key =
      if key = first then some old else entries.lookup key := by
  rw [List.lookup_cons]
  by_cases here : key = first
  case pos => rw [if_pos here, beq_iff_eq.mpr here]
  case neg => rw [if_neg here, beq_eq_false_iff_ne.mpr here]

theorem lookup_setEntry :
    (setEntry key value entries).lookup other =
      if other = key then some value else entries.lookup other := by
  induction entries with
  | nil => rw [setEntry, lookup_cons_if]
  | cons entry entries ih =>
      rcases entry with ⟨first, old⟩
      rw [setEntry]
      split
      case isTrue found =>
        rw [lookup_cons_if, lookup_cons_if, found]
        split
        case isTrue => rfl
        case isFalse => rfl
      case isFalse elsewhere =>
        rw [lookup_cons_if, lookup_cons_if, ih]
        by_cases here : other = first
        case pos => rw [if_pos here, if_pos here, if_neg (here ▸ elsewhere)]
        case neg => rw [if_neg here, if_neg here]

theorem mem_keys_of_setEntry (member : other ∈ (setEntry key value entries).map Prod.fst) :
    other = key ∨ other ∈ entries.map Prod.fst := by
  induction entries with
  | nil => exact .inl (List.mem_singleton.mp member)
  | cons entry entries ih =>
      rw [setEntry] at member
      split at member
      case isTrue found =>
        rcases List.mem_cons.mp member with same | later
        · exact .inl same
        · exact .inr (.tail _ later)
      case isFalse elsewhere =>
        rcases List.mem_cons.mp member with same | later
        · exact .inr (same ▸ .head _)
        · exact (ih later).imp_right (.tail _)

theorem nodup_setEntry (distinct : (entries.map Prod.fst).Nodup) :
    ((setEntry key value entries).map Prod.fst).Nodup := by
  induction entries with
  | nil => exact List.nodup_singleton _
  | cons entry entries ih =>
      obtain ⟨absent, others⟩ := List.nodup_cons.mp distinct
      rw [setEntry]
      split
      case isTrue found => exact List.nodup_cons.mpr ⟨found ▸ absent, others⟩
      case isFalse elsewhere =>
        apply List.nodup_cons.mpr
        constructor
        case left =>
          intro member
          exact (mem_keys_of_setEntry member).elim elsewhere absent
        case right => exact ih others

theorem setEntry_of_absent (absent : key ∉ entries.map Prod.fst) :
    setEntry key value entries = entries ++ [(key, value)] := by
  induction entries with
  | nil => rfl
  | cons entry entries ih =>
      have different : entry.1 ≠ key := (List.ne_of_not_mem_cons absent).symm
      rw [setEntry, if_neg different, ih (List.not_mem_of_not_mem_cons absent), List.cons_append]

theorem lookup_eq_none_of_absent (absent : key ∉ entries.map Prod.fst) :
    entries.lookup key = none := by
  induction entries with
  | nil => rfl
  | cons entry entries ih =>
      rcases entry with ⟨first, old⟩
      rw [lookup_cons_if, if_neg (List.ne_of_not_mem_cons absent),
        ih (List.not_mem_of_not_mem_cons absent)]

theorem lookup_eq_some_iff_mem (distinct : (entries.map Prod.fst).Nodup) :
    entries.lookup key = some value ↔ (key, value) ∈ entries := by
  induction entries with
  | nil => simp
  | cons entry entries ih =>
      rcases entry with ⟨first, old⟩
      obtain ⟨absent, others⟩ := List.nodup_cons.mp distinct
      rw [lookup_cons_if, List.mem_cons, Prod.mk.injEq]
      split
      case isTrue here =>
        subst here
        have elsewhere : (key, value) ∉ entries := fun member =>
          absent (List.mem_map.mpr ⟨_, member, rfl⟩)
        simp [elsewhere, eq_comm]
      case isFalse elsewhere => simp [elsewhere, ih others]

/-- What `Map.delete` leaves. -/
theorem lookup_delete {seq : Option Key} :
    (entries.filter fun entry => some entry.1 ≠ seq).lookup key =
      if some key = seq then none else entries.lookup key := by
  induction entries with
  | nil => simp
  | cons entry entries ih =>
      rcases entry with ⟨first, old⟩
      by_cases deleted : some first = seq
      case pos =>
        rw [List.filter_cons_of_neg (by simpa using deleted), ih, lookup_cons_if]
        split
        case isTrue => rfl
        case isFalse kept =>
          have elsewhere : key ≠ first := fun same => kept (same ▸ deleted)
          rw [if_neg elsewhere]
      case neg =>
        rw [List.filter_cons_of_pos (by simpa using deleted), lookup_cons_if, lookup_cons_if, ih]
        by_cases here : key = first
        case pos => rw [if_pos here, if_pos here, if_neg (here ▸ deleted)]
        case neg => rw [if_neg here, if_neg here]

/-- One entry is deleted exactly if the key is found. -/
theorem length_delete (distinct : (entries.map Prod.fst).Nodup) (seq : Option Key) :
    (entries.filter fun entry => some entry.1 ≠ seq).length +
      (seq.bind (entries.lookup ·)).isSome.toNat = entries.length := by
  induction entries with
  | nil => cases seq <;> rfl
  | cons entry entries ih =>
      rcases entry with ⟨first, old⟩
      obtain ⟨absent, others⟩ := List.nodup_cons.mp distinct
      have rest := ih others
      by_cases deleted : some first = seq
      case pos =>
        subst deleted
        have missing : entries.lookup first = none := lookup_eq_none_of_absent absent
        simp only [Option.bind_some, missing] at rest
        rw [List.filter_cons_of_neg (by simp), Option.bind_some, lookup_cons_if, if_pos rfl,
          List.length_cons, ← rest]
        rfl
      case neg =>
        have same : seq.bind (List.lookup · ((first, old) :: entries)) =
            seq.bind (entries.lookup ·) := by
          cases seq with
          | none => rfl
          | some key =>
              have elsewhere : key ≠ first := fun same => deleted (same ▸ rfl)
              rw [Option.bind_some, Option.bind_some, lookup_cons_if, if_neg elsewhere]
        rw [List.filter_cons_of_pos (by simpa using deleted), same, List.length_cons,
          List.length_cons, ← rest]
        omega

end Entries

section Windows

variable {window : Window} {maxSamples : ℕ} {inputClass asked : InputClass}
  {change : Bucket → Bucket}

theorem bucket_updateBucket :
    (window.updateBucket inputClass change).bucket asked =
      if asked = inputClass then change (window.bucket inputClass) else window.bucket asked := by
  rw [Window.bucket, Window.updateBucket, lookup_setEntry]
  split
  case isTrue => rfl
  case isFalse => rfl

theorem bucket_of_classes {changed : Window}
    (same : changed.classes = (window.updateBucket inputClass change).classes) :
    changed.bucket asked =
      if asked = inputClass then change (window.bucket inputClass) else window.bucket asked := by
  rw [← bucket_updateBucket, Window.bucket, same, Window.bucket]

theorem pushSample_rtake (samples : List ℚ) (sample : Option ℚ) :
    pushSample maxSamples (samples.rtake maxSamples) sample =
      (samples ++ (sample.filter (0 ≤ ·)).toList).rtake maxSamples := by
  cases sample with
  | none => rw [pushSample, Option.filter_none, Option.toList_none, List.append_nil]
  | some value =>
      by_cases negative : value < 0
      case pos =>
        rw [pushSample, if_pos negative, Option.filter_some_neg (by simpa using negative),
          Option.toList_none, List.append_nil]
      case neg =>
        rw [pushSample, if_neg negative,
          Option.filter_some_pos (by simpa using not_lt.mp negative), Option.toList_some,
          List.rtake, List.rtake, List.length_drop, List.length_append, List.length_singleton,
          ← List.drop_append_of_le_length (Nat.sub_le ..), List.drop_drop]
        congr 1
        omega

end Windows

/-! ## The window shows the ledger -/

section Buckets

variable {maxSamples : ℕ} {window : Window} {asked : InputClass}

theorem bucket_recordSent (seq : ℚ) (inputClass : InputClass) (channel : String) (sentAt : ℚ) :
    (window.recordSent seq inputClass channel sentAt).bucket asked =
      if asked = inputClass then (window.bucket inputClass).countSent channel
      else window.bucket asked := by
  rw [Window.recordSent]
  split
  case isTrue => exact bucket_updateBucket
  case isFalse => exact @bucket_of_classes window _ asked (Bucket.countSent channel) _ rfl

theorem bucket_recordAck (ackSeq now : ℚ) (item : AckItem) :
    let pending := (item.key ackSeq).bind (window.pendingBySeq.lookup ·)
    (window.recordAck maxSamples ackSeq now item).bucket asked =
      if asked = item.inputClass pending then
        (window.bucket (item.inputClass pending)).countAck maxSamples now item pending
      else window.bucket asked := by
  intro pending
  exact @bucket_of_classes window _ asked (Bucket.countAck maxSamples now item pending) _ rfl

end Buckets

structure Shows (maxSamples : ℕ) (viewer : Viewer) (ledger : Ledger) : Prop where
  inputSeq : viewer.inputSeq = ledger.inputSeq
  distinct : (viewer.inputSloWindow.pendingBySeq.map Prod.fst).Nodup
  earlier : ∀ seq ∈ viewer.inputSloWindow.pendingBySeq.map Prod.fst, seq ≤ viewer.inputSeq
  awaited : ∀ seq, viewer.inputSloWindow.pendingBySeq.lookup seq = ledger.awaited seq
  counted : viewer.inputSloWindow.pendingBySeq.length + ledger.matched = ledger.total
  keys : (viewer.inputSloWindow.classes.map Prod.fst).Nodup
  buckets : ∀ inputClass,
    viewer.inputSloWindow.bucket inputClass = ledger.bucket maxSamples inputClass

section Steps

variable {maxSamples : ℕ} {viewer : Viewer} {ledger : Ledger}

theorem Shows.fresh (inputSeq : ℕ) : Shows maxSamples ⟨inputSeq, .new⟩ (.fresh inputSeq) where
  inputSeq := rfl
  distinct := List.nodup_nil
  earlier _ listed := (List.not_mem_nil listed).elim
  awaited _ := rfl
  counted := rfl
  keys := List.nodup_nil
  buckets inputClass := by simp [Window.bucket, Window.new, Bucket.new, Ledger.bucket, Ledger.fresh]

theorem Shows.sent (shows : Shows maxSamples viewer ledger) (inputClass : InputClass)
    (channel : String) (now : ℚ) :
    Shows maxSamples (viewer.step maxSamples (.sent inputClass channel now))
      (ledger.step (.sent inputClass channel now)) := by
  have positive : ((viewer.inputSeq + 1 : ℕ) : ℚ) ≠ 0 := Nat.cast_ne_zero.mpr (Nat.succ_ne_zero _)
  have absent : ((viewer.inputSeq + 1 : ℕ) : ℚ) ∉
      viewer.inputSloWindow.pendingBySeq.map Prod.fst := by
    intro listed
    have early := Nat.cast_le.mp (shows.earlier _ listed)
    exact Nat.not_succ_le_self _ early
  have pendings :
      (viewer.step maxSamples (.sent inputClass channel now)).inputSloWindow.pendingBySeq =
        setEntry ((viewer.inputSeq + 1 : ℕ) : ℚ) ⟨inputClass, channel, now⟩
        viewer.inputSloWindow.pendingBySeq := by
    rw [Viewer.step, Window.recordSent, if_neg positive]
    rfl
  have classes : ((viewer.step maxSamples (.sent inputClass channel now)).inputSloWindow.classes.map
      Prod.fst).Nodup := by
    rw [Viewer.step, Window.recordSent, if_neg positive]
    exact nodup_setEntry shows.keys
  constructor
  case inputSeq => exact congrArg (· + 1) shows.inputSeq
  case distinct =>
    rw [pendings]
    exact nodup_setEntry shows.distinct
  case earlier =>
    intro seq listed
    rw [pendings] at listed
    rcases mem_keys_of_setEntry listed with rfl | earlier
    · exact le_rfl
    · exact (shows.earlier seq earlier).trans (Nat.cast_le.mpr (Nat.le_succ _))
  case awaited =>
    intro seq
    rw [pendings, lookup_setEntry, Ledger.step, ← shows.inputSeq]
    refine Eq.trans ?_ (Function.update_apply ..).symm
    split
    case isTrue => rfl
    case isFalse => exact shows.awaited seq
  case counted =>
    have length := congrArg List.length
      (@setEntry_of_absent _ _ _ _ (⟨inputClass, channel, now⟩ : Pending) _ absent)
    rw [List.length_append] at length
    have counted := shows.counted
    rw [pendings, length, List.length_singleton]
    change _ + ledger.matched = ledger.total + 1
    omega
  case keys => exact classes
  case buckets =>
    intro asked
    refine (bucket_recordSent ..).trans ?_
    split
    case isTrue same =>
      subst same
      rw [shows.buckets asked]
      simp [Ledger.step, Ledger.bucket, Ledger.countChannel, Ledger.bump, Bucket.countSent,
        Bucket.countChannel]
    case isFalse different =>
      rw [shows.buckets asked]
      simp [Ledger.step, Ledger.bucket, Ledger.countChannel, Ledger.bump, different]

theorem Shows.dropped (shows : Shows maxSamples viewer ledger) (inputClass : InputClass)
    (channel : String) :
    Shows maxSamples (viewer.step maxSamples (.dropped inputClass channel))
      (ledger.step (.dropped inputClass channel)) := by
  have kept : (ledger.step (.dropped inputClass channel)).inputSeq = ledger.inputSeq ∧
      (ledger.step (.dropped inputClass channel)).awaited = ledger.awaited ∧
      (ledger.step (.dropped inputClass channel)).matched = ledger.matched ∧
      (ledger.step (.dropped inputClass channel)).total = ledger.total := by
    rw [Ledger.step]
    split
    case isTrue => exact ⟨rfl, rfl, rfl, rfl⟩
    case isFalse => exact ⟨rfl, rfl, rfl, rfl⟩
  constructor
  case inputSeq => exact shows.inputSeq.trans kept.1.symm
  case distinct => exact shows.distinct
  case earlier => exact shows.earlier
  case awaited =>
    rw [kept.2.1]
    exact shows.awaited
  case counted =>
    rw [kept.2.2.1, kept.2.2.2]
    exact shows.counted
  case keys => exact nodup_setEntry shows.keys
  case buckets =>
    intro asked
    refine bucket_updateBucket.trans ?_
    by_cases unnamed : channel = ""
    case pos =>
      split
      case isTrue same =>
        subst same
        rw [shows.buckets asked]
        simp [Ledger.step, Ledger.bucket, Ledger.bump, Bucket.countDrop, unnamed]
      case isFalse different =>
        rw [shows.buckets asked]
        simp [Ledger.step, Ledger.bucket, Ledger.bump, unnamed, different]
    case neg =>
      split
      case isTrue same =>
        subst same
        rw [shows.buckets asked]
        simp [Ledger.step, Ledger.bucket, Ledger.bump, Ledger.countChannel, Bucket.countDrop,
          Bucket.countChannel, unnamed]
      case isFalse different =>
        rw [shows.buckets asked]
        simp [Ledger.step, Ledger.bucket, Ledger.bump, Ledger.countChannel, unnamed, different]

theorem Shows.recordAck (shows : Shows maxSamples viewer ledger) (ackSeq now : ℚ)
    (item : AckItem) :
    Shows maxSamples
      { viewer with
        inputSloWindow := viewer.inputSloWindow.recordAck maxSamples ackSeq now item }
      (ledger.recordAck ackSeq now item) := by
  have same : (item.key ackSeq).bind (viewer.inputSloWindow.pendingBySeq.lookup ·) =
      (item.key ackSeq).bind ledger.awaited := by
    rw [show ledger.awaited = fun seq => viewer.inputSloWindow.pendingBySeq.lookup seq from
      funext fun seq => (shows.awaited seq).symm]
  have remaining : ((viewer.inputSloWindow.recordAck maxSamples ackSeq now item).pendingBySeq.map
      Prod.fst).Sublist (viewer.inputSloWindow.pendingBySeq.map Prod.fst) :=
    List.filter_sublist.map Prod.fst
  constructor
  case inputSeq => exact shows.inputSeq
  case distinct => exact shows.distinct.sublist remaining
  case earlier => exact fun seq listed => shows.earlier seq (remaining.subset listed)
  case awaited =>
    intro seq
    refine lookup_delete.trans ?_
    exact congrArg (fun found => if some seq = item.key ackSeq then none else found)
      (shows.awaited seq)
  case counted =>
    have deleted := length_delete shows.distinct (item.key ackSeq)
    have counted := shows.counted
    rw [same] at deleted
    change (viewer.inputSloWindow.pendingBySeq.filter _).length + (ledger.matched + _) =
      ledger.total
    omega
  case keys => exact nodup_setEntry shows.keys
  case buckets =>
    intro asked
    refine (bucket_recordAck ..).trans ?_
    rw [same]
    split
    case isTrue found =>
      subst found
      rw [shows.buckets]
      simp [Ledger.recordAck, Ledger.bucket, Ledger.bump, Ledger.note, Bucket.countAck,
        pushSample_rtake]
    case isFalse different =>
      rw [shows.buckets]
      simp [Ledger.recordAck, Ledger.bucket, Ledger.bump, Ledger.note, different]

theorem Shows.acked (shows : Shows maxSamples viewer ledger) (ack : Ack) (now : ℚ) :
    Shows maxSamples (viewer.step maxSamples (.acked ack now)) (ledger.step (.acked ack now)) := by
  rw [Viewer.step, Ledger.step, Window.recordAckBatch]
  generalize ack.items = items
  induction items generalizing viewer ledger with
  | nil => exact shows
  | cons item items ih => exact ih (shows.recordAck ack.seq now item)

theorem Shows.step (shows : Shows maxSamples viewer ledger) (event : Event) :
    Shows maxSamples (viewer.step maxSamples event) (ledger.step event) := by
  cases event with
  | sent inputClass channel now => exact shows.sent inputClass channel now
  | dropped inputClass channel => exact shows.dropped inputClass channel
  | acked ack now => exact shows.acked ack now
  | emitted =>
      rw [Ledger.step, ← shows.inputSeq]
      exact .fresh viewer.inputSeq

theorem shows_run (events : List Event) :
    Shows maxSamples (Runs.run (Viewer.step maxSamples) .new events)
      (Runs.run Ledger.step (.fresh 0) events) := by
  induction events using List.reverseRecOn with
  | nil => exact .fresh 0
  | append_singleton events event ih =>
      rw [Runs.run_concat, Runs.run_concat]
      exact ih.step event

end Steps

/-! ## What a report says -/

section Reports

variable {maxSamples : ℕ} {window : Window} {thresholds : Thresholds} {limit : ℚ}
  {values : List ℚ} {controlBufferedAmount : ℤ} {inputClass : InputClass}

/-- A value is rounded above the limit exactly if it is half a unit above it. -/
theorem lt_mathRound_iff (value : ℚ) : limit < mathRound value ↔ (⌊limit⌋ : ℚ) + 1 / 2 ≤ value := by
  rw [mathRound, ← Int.floor_lt, ← Int.add_one_le_iff, Int.le_floor]
  push_cast
  constructor
  case mp =>
    intro reaches
    linarith
  case mpr =>
    intro reaches
    linarith

theorem ceil_mul_p95 (count : ℕ) : ⌈(count : ℚ) * (19 / 20)⌉ = count - (count / 20 : ℕ) := by
  generalize part : count / 20 = twentieth
  have lower : (20 : ℚ) * twentieth ≤ count := by exact_mod_cast (by omega : 20 * twentieth ≤ count)
  have upper : (count : ℚ) < 20 * twentieth + 20 := by
    exact_mod_cast (by omega : count < 20 * twentieth + 20)
  rw [Int.ceil_eq_iff]
  push_cast
  constructor
  case left => linarith
  case right => linarith

/-- The 95th percentile is over the limit exactly if more than a twentieth of the values are. -/
theorem lt_p95_iff (positive : 0 < limit) :
    limit < (summarizeLatencyValues values).p95 ↔
      values.length / 20 < values.countP ((⌊limit⌋ : ℚ) + 1 / 2 ≤ ·) := by
  rw [summarizeLatencyValues]
  split
  case isTrue empty => simp [empty, positive.le]
  case isFalse some =>
    have count : 0 < values.length := List.length_pos_iff.mpr some
    obtain ⟨place, place_eq, inside, split⟩ : ∃ place : ℕ,
        (min (values.length - 1 : ℤ) (max 0 (⌈values.length * (19 / 20 : ℚ)⌉ - 1))).toNat = place ∧
          place < values.length ∧ place + values.length / 20 + 1 = values.length := by
      refine ⟨_, rfl, ?_⟩
      rw [ceil_mul_p95]
      omega
    obtain ⟨value, found⟩ : ∃ value, atRank values place = .some value := by
      apply Option.ne_none_iff_exists'.mp
      rw [ne_eq, atRank_eq_none, not_le]
      exact inside
    rw [lt_mathRound_iff, percentile, if_neg some]
    dsimp only
    rw [place_eq, found, Option.getD_some, le_atRank_iff_countP found]
    omega

theorem lookup_byClass :
    (window.report controlBufferedAmount).byClass.lookup inputClass =
      (window.classes.lookup inputClass).map Bucket.summary := by
  rw [Window.report]
  induction window.classes with
  | nil => rfl
  | cons entry entries ih =>
      rcases entry with ⟨first, bucket⟩
      rw [List.map_cons, lookup_cons_if, lookup_cons_if, ih]
      split
      case isTrue => rfl
      case isFalse => rfl

theorem getD_byClass :
    ((window.report controlBufferedAmount).byClass.lookup inputClass).getD Bucket.new.summary =
      (window.bucket inputClass).summary := by
  rw [lookup_byClass, Window.bucket]
  cases window.classes.lookup inputClass with
  | none => rfl
  | some bucket => rfl

theorem clickToApplyMs_eq :
    (window.report controlBufferedAmount).clickToApplyMs =
      summarizeLatencyValues (window.bucket .pointerButton).workerApplyMs := by
  rw [Report.clickToApplyMs, lookup_byClass, Window.bucket]
  cases window.classes.lookup .pointerButton with
  | none => rfl
  | some bucket => rfl

theorem exists_ackP95_iff (keys : (window.classes.map Prod.fst).Nodup) :
    (∃ value, .ackP95 inputClass value ∈
        evaluateViewerInputSloViolations (window.report controlBufferedAmount) thresholds) ↔
      0 < thresholds.ackP95Ms ∧ thresholds.ackP95Ms <
        (summarizeLatencyValues (window.bucket inputClass).ackMs).p95 := by
  have others : ∀ value, Violation.ackP95 inputClass value ∈
      evaluateViewerInputSloViolations (window.report controlBufferedAmount) thresholds ↔
        Violation.ackP95 inputClass value ∈
          slowAcks (window.report controlBufferedAmount) thresholds.ackP95Ms := by
    intro value
    simp [evaluateViewerInputSloViolations, slowClicks, longBacklog]
  simp only [others]
  rw [slowAcks]
  split
  case isFalse nonpositive => simp [nonpositive]
  case isTrue positive =>
    constructor
    case mp =>
      intro reported
      obtain ⟨value, member⟩ := reported
      obtain ⟨entry, listed, given⟩ := List.mem_filterMap.mp member
      obtain ⟨⟨first, bucket⟩, present, rfl⟩ := List.mem_map.mp listed
      split at given
      case isFalse => cases given
      case isTrue exceeds =>
        cases given
        have found : window.bucket first = bucket := by
          rw [Window.bucket, (lookup_eq_some_iff_mem keys).mpr present, Option.getD_some]
        rw [found]
        exact ⟨positive, exceeds⟩
    case mpr =>
      intro slow
      have exceeds := slow.2
      cases found : window.classes.lookup inputClass with
      | none =>
          rw [Window.bucket, found] at exceeds
          exact absurd exceeds (by simp [Bucket.new, summarizeLatencyValues, positive.le])
      | some bucket =>
          rw [Window.bucket, found, Option.getD_some] at exceeds
          refine ⟨_, List.mem_filterMap.mpr ⟨(inputClass, bucket.summary), ?_, if_pos exceeds⟩⟩
          exact List.mem_map.mpr ⟨_, (lookup_eq_some_iff_mem keys).mp found, rfl⟩

theorem exists_clickToApply_iff :
    (∃ value, .clickToApply value ∈
        evaluateViewerInputSloViolations (window.report controlBufferedAmount) thresholds) ↔
      0 < thresholds.clickApplyP95Ms ∧ thresholds.clickApplyP95Ms <
        (summarizeLatencyValues (window.bucket .pointerButton).workerApplyMs).p95 := by
  rw [← @clickToApplyMs_eq window controlBufferedAmount]
  have others : ∀ value, Violation.clickToApply value ∈
      evaluateViewerInputSloViolations (window.report controlBufferedAmount) thresholds ↔
        Violation.clickToApply value ∈
          slowClicks (window.report controlBufferedAmount) thresholds.clickApplyP95Ms := by
    intro value
    rw [evaluateViewerInputSloViolations, slowAcks, longBacklog]
    split
    case isTrue => split <;> simp
    case isFalse => split <;> simp
  simp only [others]
  rw [slowClicks]
  split
  case isTrue slow => simp [slow]
  case isFalse fast => simp [fast]

/-- More than a twentieth of the values are above the limit, rounded as they are reported. -/
def ExceedsTwentieth (limit : ℚ) (values : List ℚ) : Prop :=
  0 < limit ∧ values.length / 20 < values.countP ((⌊limit⌋ : ℚ) + 1 / 2 ≤ ·)

/-- In every run a report is exact: each input that was sent since the last report is pending or
has been acknowledged; of every class it has the counts since then, and the latencies of the latest
samples; and it has a violation exactly if more than a twentieth of these are above the limit. -/
theorem reports_are_exact (maxSamples : ℕ) (thresholds : Thresholds)
    (controlBufferedAmount : ℤ) (events : List Event) :
    let viewer := Runs.run (Viewer.step maxSamples) .new events
    let ledger := Runs.run Ledger.step (.fresh 0) events
    let report := viewer.inputSloWindow.report controlBufferedAmount
    let violations := evaluateViewerInputSloViolations report thresholds
    report.pending + ledger.matched = ledger.total ∧
      (∀ inputClass, (report.byClass.lookup inputClass).getD Bucket.new.summary =
        (ledger.bucket maxSamples inputClass).summary) ∧
      (∀ inputClass, (∃ value, .ackP95 inputClass value ∈ violations) ↔
        ExceedsTwentieth thresholds.ackP95Ms ((ledger.ackMs inputClass).rtake maxSamples)) ∧
      ((∃ value, .clickToApply value ∈ violations) ↔
        ExceedsTwentieth thresholds.clickApplyP95Ms
          ((ledger.workerApplyMs .pointerButton).rtake maxSamples)) := by
  intro viewer ledger report violations
  have shows : Shows maxSamples viewer ledger := shows_run events
  refine ⟨shows.counted, fun inputClass => ?_, fun inputClass => ?_, ?_⟩
  · rw [getD_byClass, shows.buckets]
  · rw [exists_ackP95_iff shows.keys, shows.buckets]
    exact and_congr_right fun positive => lt_p95_iff positive
  · rw [exists_clickToApply_iff, shows.buckets]
    exact and_congr_right fun positive => lt_p95_iff positive

end Reports

end RemoteBrowser.InputSlo
