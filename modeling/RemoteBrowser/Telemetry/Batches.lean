import RemoteBrowser.Telemetry.Redaction
import Mathlib.Algebra.Order.Group.Multiset
import Mathlib.Tactic.Abel

/-!
# Telemetry that a viewer sends

The queue of telemetry of `viewer.js`, with `flushViewerTelemetry`.  A flush takes up to twenty
events and leaves out the oldest ones while the text of the rest is too long; the server measures
the bytes of what it redacts.  No event is lost otherwise.
-/

namespace RemoteBrowser.Telemetry

open Utf16 (ascii)

variable {Number : Type}

/-! ## Events -/

def truncateTelemetryValue (text : List UInt16) : List UInt16 :=
  if text.length ≤ 180 then text else text.take 177 ++ ascii "..."

/-- A value that is reported with an event. -/
inductive FieldValue (Number : Type) where
  /-- `undefined` or a function. -/
  | unset
  | string (text : List UInt16)
  /-- A number, a truth value or `null`, or what `JSON.stringify` writes of an object. -/
  | json (value : JsonData Number)
  /-- `String(value)`, where `JSON.stringify` gives no text. -/
  | unprintable (text : List UInt16)

def FieldValue.sanitized : FieldValue Number → Option (JsonData Number)
  | .unset => none
  | .string text => some (.str (truncateTelemetryValue text))
  | .json value => some value
  | .unprintable text => some (.str (truncateTelemetryValue text))

def sanitizeTelemetryFields (fields : List (List UInt16 × FieldValue Number)) :
    List (List UInt16 × JsonData Number) :=
  fields.filterMap fun field => field.2.sanitized.map fun value => (field.1, value)

/-- What is reported. -/
structure Report (Number : Type) where
  name : List UInt16
  ts : Number
  viewerElapsedMs : Number
  stage : List UInt16
  stageDetail : List UInt16
  fields : List (List UInt16 × FieldValue Number)

/-- The event in the queue. -/
def Report.event (report : Report Number) : JsonData Number :=
  .obj [(ascii "name", .str report.name), (ascii "ts", .num report.ts),
    (ascii "viewerElapsedMs", .num report.viewerElapsedMs), (ascii "stage", .str report.stage),
    (ascii "stageDetail", .str report.stageDetail),
    (ascii "fields", .obj (sanitizeTelemetryFields report.fields))]

/-! ## Batches -/

/-- A body that is sent. -/
structure Post (Number : Type) where
  reason : List UInt16
  session : JsonData Number
  events : List (JsonData Number)

def Post.payload (post : Post Number) : JsonData Number :=
  .obj [(ascii "reason", .str post.reason), (ascii "session", post.session),
    (ascii "events", .arr post.events)]

/-- The oldest events are left out while the text is too long and there are others. -/
def trimEvents (numbers : NumberPrinter Number) (reason : List UInt16) (session : JsonData Number) :
    List (JsonData Number) → List (JsonData Number)
  | [] => []
  | [event] => [event]
  | event :: next :: rest =>
      if 3600 < (Post.payload ⟨reason, session, event :: next :: rest⟩).units numbers then
        trimEvents numbers reason session (next :: rest)
      else event :: next :: rest

/-- The viewer's queue and the bodies whose answer is awaited.  The other fields record what became
of events and bodies. -/
structure Client (Number : Type) where
  queue : List (JsonData Number)
  flights : List (Post Number)
  queued : List (JsonData Number)
  capped : List (JsonData Number)
  trimmed : List (JsonData Number)
  posted : List (Post Number)
  sent : List (Post Number)
  refused : List (Post Number)

def Client.start : Client Number := ⟨[], [], [], [], [], [], [], []⟩

/-- At most twenty events stay in the queue, the newest ones. -/
def Client.capQueue (client : Client Number) : Client Number :=
  { client with
    queue := client.queue.drop (client.queue.length - 20)
    capped := client.capped ++ client.queue.take (client.queue.length - 20) }

def Client.queueViewerTelemetry (client : Client Number) (report : Report Number) :
    Client Number :=
  { client with
    queue := client.queue ++ [report.event]
    queued := client.queued ++ [report.event] }.capQueue

/-- The body of the next twenty events. -/
def Client.nextPost (numbers : NumberPrinter Number) (reason : List UInt16)
    (session : JsonData Number) (client : Client Number) : Post Number :=
  ⟨reason, session, trimEvents numbers reason session (client.queue.take 20)⟩

/-- `beacon` says that the browser has taken the body by `sendBeacon`; otherwise it is fetched. -/
def Client.flushViewerTelemetry (numbers : NumberPrinter Number) (reason : List UInt16)
    (session : JsonData Number) (beacon : Bool) (client : Client Number) : Client Number :=
  if client.queue = [] then client
  else
    let post := client.nextPost numbers reason session
    let events := client.queue.take 20
    let client := { client with
      queue := client.queue.drop 20
      trimmed := client.trimmed ++ events.take (events.length - post.events.length)
      posted := client.posted ++ [post] }
    if beacon then { client with sent := client.sent ++ [post] }
    else { client with flights := client.flights ++ [post] }

/-- The answer to a fetch; the events of a body that is refused are put back. -/
def Client.answered (client : Client Number) (index : ℕ) (accepted : Bool) : Client Number :=
  match client.flights[index]? with
  | none => client
  | some post =>
      let client := { client with flights := client.flights.eraseIdx index }
      if accepted then { client with sent := client.sent ++ [post] }
      else
        { client with
          queue := post.events ++ client.queue
          refused := client.refused ++ [post] }.capQueue

inductive Step (Number : Type) where
  | queue (report : Report Number)
  | flush (reason : List UInt16) (session : JsonData Number) (beacon : Bool)
  | answer (index : ℕ) (accepted : Bool)

def Client.step (numbers : NumberPrinter Number) (client : Client Number) :
    Step Number → Client Number
  | .queue report => client.queueViewerTelemetry report
  | .flush reason session beacon => client.flushViewerTelemetry numbers reason session beacon
  | .answer index accepted => client.answered index accepted

def Client.run (numbers : NumberPrinter Number) (client : Client Number)
    (steps : List (Step Number)) : Client Number :=
  steps.foldl (Client.step numbers) client

/-! ## The claims on a run -/

/-- The server takes the body. -/
def Accepted (urls : UrlCleaner) (numbers : NumberPrinter Number) (post : Post Number) : Prop :=
  ∃ payload, sanitizeViewerEventPayload urls numbers 4096 post.payload = .ok payload

/-- Every body is taken, and every event is in the queue, in a body that was sent or is awaited, or
left out by one of the two limits. -/
structure Sound (urls : UrlCleaner) (numbers : NumberPrinter Number) (client : Client Number) :
    Prop where
  accepted : ∀ post ∈ client.posted, Accepted urls numbers post
  accounted : client.queued.Perm (client.queue ++ client.flights.flatMap Post.events ++
    client.sent.flatMap Post.events ++ client.trimmed ++ client.capped)
  posted : client.posted.Perm (client.flights ++ client.sent ++ client.refused)

/-- The size of a body, from those of its parts. -/
def postSize (size : JsonData Number → ℕ) (reason : List UInt16) (session : JsonData Number)
    (events : List (JsonData Number)) : ℕ :=
  33 + size (.str reason) + size session + (events.map fun event => size event + 1).sum

/-- The most of the last events that have at most 3600 units together with the rest of the body, or
the last event alone. -/
structure Remaining (numbers : NumberPrinter Number) (reason : List UInt16)
    (session : JsonData Number) (events kept : List (JsonData Number)) : Prop where
  last : kept <:+ events
  some : kept ≠ []
  fits : kept.length = 1 ∨ postSize (JsonData.units numbers) reason session kept ≤ 3600
  longest : ∀ longer, longer <:+ events → kept.length < longer.length →
    3600 < postSize (JsonData.units numbers) reason session longer

/-- The redacted parts of the remaining events have at most 4096 bytes. -/
def FitsServer (urls : UrlCleaner) (numbers : NumberPrinter Number) (reason : List UInt16)
    (session : JsonData Number) (events : List (JsonData Number)) : Prop :=
  ∀ kept, Remaining numbers reason session events kept →
    postSize (JsonData.bytes numbers) (limitText reason) (redactViewerEventValue urls 0 session)
      (kept.map (redactViewerEventValue urls 1)) ≤ 4096

/-- Every flush of the run meets such events. -/
def FlushesFit (urls : UrlCleaner) (numbers : NumberPrinter Number) :
    Client Number → List (Step Number) → Prop
  | _, [] => True
  | client, step :: rest =>
      (∀ reason session beacon, step = .flush reason session beacon → client.queue ≠ [] →
        FitsServer urls numbers reason session (client.queue.take 20)) ∧
      FlushesFit urls numbers (client.step numbers step) rest

/-! ## Sizes of bodies -/

section Sizes

variable {urls : UrlCleaner} {numbers : NumberPrinter Number} {reason : List UInt16}
  {session : JsonData Number} {events : List (JsonData Number)}

theorem size_payload (measure : JsonData.TextSize) (post : Post Number) (some : post.events ≠ []) :
    measure.size (post.payload.stringify numbers) =
      postSize (fun value => measure.size (value.stringify numbers)) post.reason post.session
        post.events := by
  obtain ⟨reason, session, events⟩ := post
  obtain ⟨event, rest, rfl⟩ := List.exists_cons_of_ne_nil some
  have key {text : String} (small : (Quote.quote (ascii text)).all fun unit => unit.toNat < 0x80) :
      measure.size (Quote.quote (ascii text)) = (Quote.quote (ascii text)).length :=
    measure.size_ascii _ fun unit member =>
      of_decide_eq_true (List.all_eq_true.mp small unit member)
  have first := @key "reason" rfl
  have second := @key "session" rfl
  have third := @key "events" rfl
  have lengths : (Quote.quote (ascii "reason")).length = 8 ∧
      (Quote.quote (ascii "session")).length = 9 ∧ (Quote.quote (ascii "events")).length = 8 :=
    ⟨rfl, rfl, rfl⟩
  rw [Post.payload, measure.size_obj, postSize]
  simp only [List.map_cons, List.map_nil, List.sum_cons, List.sum_nil, measure.size_arr, first,
    second, third, lengths]
  omega

theorem units_payload (post : Post Number) (some : post.events ≠ []) :
    post.payload.units numbers =
      postSize (JsonData.units numbers) post.reason post.session post.events :=
  size_payload JsonData.unitSize post some

theorem bytes_payload (post : Post Number) (some : post.events ≠ []) :
    post.payload.bytes numbers =
      postSize (JsonData.bytes numbers) post.reason post.session post.events :=
  size_payload JsonData.byteSize post some

theorem redactItems_eq {depth count : ℕ} (few : events.length ≤ count) :
    redactItems urls depth count events = events.map (redactViewerEventValue urls depth) := by
  induction events generalizing count with
  | nil => rw [redactItems, List.map_nil]
  | cons event rest ih =>
      cases count with
      | zero => cases few
      | succ count => rw [redactItems, ih (Nat.le_of_succ_le_succ few), List.map_cons]

/-- What the server makes of a body. -/
theorem allowedFields_payload (post : Post Number) (few : post.events.length ≤ 20) :
    .obj (allowedFields urls post.payload) =
      (Post.mk (limitText post.reason) (redactViewerEventValue urls 0 post.session)
        (post.events.map (redactViewerEventValue urls 1))).payload := by
  rw [← redactItems_eq few]
  rfl

/-- The server takes a body of at most 4096 bytes after the redaction. -/
theorem accepted_iff (post : Post Number) (some : post.events ≠ [])
    (few : post.events.length ≤ 20) :
    Accepted urls numbers post ↔
      postSize (JsonData.bytes numbers) (limitText post.reason)
        (redactViewerEventValue urls 0 post.session)
        (post.events.map (redactViewerEventValue urls 1)) ≤ 4096 := by
  have bytes := @bytes_payload _ numbers (Post.mk (limitText post.reason)
    (redactViewerEventValue urls 0 post.session)
    (post.events.map (redactViewerEventValue urls 1))) (by simpa using some)
  rw [← bytes, ← allowedFields_payload post few, Accepted, Post.payload]
  simp only [sanitizeViewerEventPayload]
  split
  case isTrue large =>
    constructor
    · rintro ⟨payload, wrong⟩
      cases wrong
    · exact fun small => absurd large (Nat.not_lt.mpr small)
  case isFalse small =>
    exact ⟨fun _ => Nat.le_of_not_lt small, fun _ => ⟨_, rfl⟩⟩

end Sizes

/-! ## What remains of a batch -/

section Trimming

variable {numbers : NumberPrinter Number} {reason : List UInt16} {session : JsonData Number}
  {events kept other : List (JsonData Number)}

theorem remaining_trimEvents (some : events ≠ []) :
    Remaining numbers reason session events (trimEvents numbers reason session events) := by
  induction events using trimEvents.induct numbers reason session with
  | case1 => exact absurd rfl some
  | case2 event =>
      rw [trimEvents]
      constructor
      case last => exact List.suffix_refl _
      case some => exact some
      case fits => exact .inl rfl
      case longest =>
        intro longer inside more
        exact absurd more (Nat.not_lt.mpr inside.length_le)
  | case3 event next rest long ih =>
      have inner := ih (List.cons_ne_nil _ _)
      rw [units_payload _ (List.cons_ne_nil _ _)] at long
      rw [trimEvents, units_payload _ (List.cons_ne_nil _ _), if_pos long]
      constructor
      case last => exact inner.last.trans (List.suffix_cons _ _)
      case some => exact inner.some
      case fits => exact inner.fits
      case longest =>
        intro longer inside more
        rcases List.suffix_cons_iff.mp inside with rfl | within
        · exact long
        · exact inner.longest longer within more
  | case4 event next rest short =>
      rw [units_payload _ (List.cons_ne_nil _ _)] at short
      rw [trimEvents, units_payload _ (List.cons_ne_nil _ _), if_neg short]
      constructor
      case last => exact List.suffix_refl _
      case some => exact some
      case fits => exact .inr (Nat.le_of_not_lt short)
      case longest =>
        intro longer inside more
        exact absurd more (Nat.not_lt.mpr inside.length_le)

theorem Remaining.not_longer (first : Remaining numbers reason session events kept)
    (second : Remaining numbers reason session events other) : other.length ≤ kept.length := by
  by_contra longer
  have long := first.longest other second.last (Nat.lt_of_not_le longer)
  have some : 0 < kept.length := List.length_pos_iff.mpr first.some
  rcases second.fits with single | short
  · omega
  · omega

/-- The code's loop leaves exactly the remaining events. -/
theorem remaining_iff (some : events ≠ []) :
    Remaining numbers reason session events kept ↔
      kept = trimEvents numbers reason session events := by
  have trimmed := @remaining_trimEvents _ numbers reason session events some
  constructor
  · intro remaining
    have lengths := Nat.le_antisymm (trimmed.not_longer remaining) (remaining.not_longer trimmed)
    exact (List.suffix_of_suffix_length_le remaining.last trimmed.last lengths.le).eq_of_length
      lengths
  · rintro rfl
    exact trimmed

end Trimming

/-! ## Runs -/

section Runs

variable {urls : UrlCleaner} {numbers : NumberPrinter Number} {client : Client Number}

/-- A body is taken if and only if its events fit. -/
theorem accepted_nextPost (some : client.queue ≠ []) (reason : List UInt16)
    (session : JsonData Number) :
    Accepted urls numbers (client.nextPost numbers reason session) ↔
      FitsServer urls numbers reason session (client.queue.take 20) := by
  have taken : client.queue.take 20 ≠ [] := by simpa using some
  have trimmed := @remaining_trimEvents _ numbers reason session _ taken
  have few : (trimEvents numbers reason session (client.queue.take 20)).length ≤ 20 :=
    trimmed.last.length_le.trans (List.length_take_le _ _)
  rw [Client.nextPost, accepted_iff ⟨_, _, _⟩ trimmed.some few]
  constructor
  · intro small kept remaining
    rw [(remaining_iff taken).mp remaining]
    exact small
  · exact fun fits => fits _ trimmed

theorem posted_step (step : Step Number) :
    (∀ post ∈ (client.step numbers step).posted, Accepted urls numbers post) ↔
      (∀ post ∈ client.posted, Accepted urls numbers post) ∧
        ∀ reason session beacon, step = .flush reason session beacon → client.queue ≠ [] →
          FitsServer urls numbers reason session (client.queue.take 20) := by
  cases step with
  | queue report => exact (and_iff_left nofun).symm
  | answer index accepted =>
      have same : (client.answered index accepted).posted = client.posted := by
        rw [Client.answered]
        split
        case h_1 => rfl
        case h_2 => cases accepted <;> rfl
      rw [Client.step, same]
      exact (and_iff_left nofun).symm
  | flush reason session beacon =>
      rw [Client.step, Client.flushViewerTelemetry]
      split
      case isTrue none =>
        apply (and_iff_left _).symm
        rintro reason session beacon - some
        exact absurd none some
      case isFalse some =>
        have posted : (∀ post ∈ client.posted ++ [client.nextPost numbers reason session],
            Accepted urls numbers post) ↔ (∀ post ∈ client.posted, Accepted urls numbers post) ∧
              FitsServer urls numbers reason session (client.queue.take 20) := by
          rw [List.forall_mem_append, List.forall_mem_singleton, accepted_nextPost some]
        have fits : (∀ reason' session' beacon', Step.flush reason session beacon =
            .flush reason' session' beacon' → client.queue ≠ [] →
              FitsServer urls numbers reason' session' (client.queue.take 20)) ↔
            FitsServer urls numbers reason session (client.queue.take 20) := by
          constructor
          · exact fun all => all reason session beacon rfl some
          · rintro one _ _ _ same -
            cases same
            exact one
        rw [fits, ← posted]
        cases beacon <;> rfl

theorem posted_run (steps : List (Step Number)) (client : Client Number) :
    (∀ post ∈ (client.run numbers steps).posted, Accepted urls numbers post) ↔
      (∀ post ∈ client.posted, Accepted urls numbers post) ∧
        FlushesFit urls numbers client steps := by
  induction steps generalizing client with
  | nil => exact (and_iff_left trivial).symm
  | cons step rest ih =>
      have unfolded : client.run numbers (step :: rest) =
          (client.step numbers step).run numbers rest := rfl
      rw [unfolded, ih, posted_step, FlushesFit, and_assoc]

/-- Every event and every body is somewhere. -/
structure Accounted (client : Client Number) : Prop where
  events : (client.queued : Multiset (JsonData Number)) =
    client.queue + client.flights.flatMap Post.events + client.sent.flatMap Post.events +
      client.trimmed + client.capped
  bodies : (client.posted : Multiset (Post Number)) =
    client.flights + client.sent + client.refused

theorem capQueue_events (client : Client Number) :
    (client.capQueue.queue : Multiset (JsonData Number)) + client.capQueue.capped =
      client.queue + client.capped := by
  have whole := congrArg (fun list : List _ => (list : Multiset (JsonData Number)))
    (List.take_append_drop (client.queue.length - 20) client.queue)
  simp only [← Multiset.coe_add] at whole
  rw [Client.capQueue]
  simp only [← Multiset.coe_add]
  rw [← whole]
  abel

theorem Accounted.capQueue (accounted : Accounted client) : Accounted client.capQueue := by
  constructor
  case events =>
    have same := capQueue_events client
    have before := accounted.events
    calc (client.queued : Multiset (JsonData Number))
        = client.queue + client.capped + client.flights.flatMap Post.events +
            client.sent.flatMap Post.events + client.trimmed := by rw [before]; abel
      _ = client.capQueue.queue + client.capQueue.capped + client.flights.flatMap Post.events +
            client.sent.flatMap Post.events + client.trimmed := by rw [same]
      _ = client.capQueue.queue + client.flights.flatMap Post.events +
            client.sent.flatMap Post.events + client.trimmed + client.capQueue.capped := by abel
  case bodies => exact accounted.bodies

/-- The events of a batch and those that were left out of it. -/
theorem nextPost_events (some : client.queue ≠ []) (reason : List UInt16)
    (session : JsonData Number) :
    (client.queue.take 20).take ((client.queue.take 20).length -
        (client.nextPost numbers reason session).events.length) ++
      (client.nextPost numbers reason session).events ++ client.queue.drop 20 = client.queue := by
  have taken : client.queue.take 20 ≠ [] := by simpa using some
  have last := (@remaining_trimEvents _ numbers reason session _ taken).last
  have split := List.take_append_drop ((client.queue.take 20).length -
    (client.nextPost numbers reason session).events.length) (client.queue.take 20)
  have rest : (client.queue.take 20).drop ((client.queue.take 20).length -
      (client.nextPost numbers reason session).events.length) =
        (client.nextPost numbers reason session).events :=
    (List.suffix_iff_eq_drop.mp last).symm
  rw [rest] at split
  rw [split, List.take_append_drop]

theorem Accounted.flush (accounted : Accounted client) (reason : List UInt16)
    (session : JsonData Number) (beacon : Bool) :
    Accounted (client.flushViewerTelemetry numbers reason session beacon) := by
  rw [Client.flushViewerTelemetry]
  split
  case isTrue => exact accounted
  case isFalse some =>
    have whole := congrArg (fun list : List _ => (list : Multiset (JsonData Number)))
      (@nextPost_events _ numbers client some reason session)
    simp only [← Multiset.coe_add] at whole
    have events := accounted.events
    have bodies := accounted.bodies
    rw [← whole] at events
    cases beacon with
    | true =>
        constructor
        case events =>
          simp only [if_true, List.flatMap_append, List.flatMap_singleton, ← Multiset.coe_add]
          rw [events]
          abel
        case bodies =>
          simp only [if_true, ← Multiset.coe_add]
          rw [bodies]
          abel
    | false =>
        constructor
        case events =>
          simp only [Bool.false_eq_true, if_false, List.flatMap_append, List.flatMap_singleton,
            ← Multiset.coe_add]
          rw [events]
          abel
        case bodies =>
          simp only [Bool.false_eq_true, if_false, ← Multiset.coe_add]
          rw [bodies]
          abel

/-- A list without one of its elements. -/
theorem coe_eraseIdx {α : Type} {list : List α} {index : ℕ} {value : α}
    (found : list[index]? = some value) :
    (list : Multiset α) = (list.eraseIdx index : Multiset α) + ([value] : List α) := by
  obtain ⟨inside, rfl⟩ := List.getElem?_eq_some_iff.mp found
  have perm := (List.getElem_cons_eraseIdx_perm inside).symm
  rw [Multiset.coe_add, Multiset.coe_eq_coe]
  exact perm.trans (List.perm_append_singleton _ _).symm

theorem Accounted.answered (accounted : Accounted client) (index : ℕ) (accepted : Bool) :
    Accounted (client.answered index accepted) := by
  rw [Client.answered]
  split
  case h_1 => exact accounted
  case h_2 post found =>
    have flights := coe_eraseIdx found
    have flying : (client.flights.flatMap Post.events : Multiset (JsonData Number)) =
        (client.flights.eraseIdx index).flatMap Post.events + post.events := by
      have perm : client.flights.Perm (client.flights.eraseIdx index ++ [post]) := by
        rw [Multiset.coe_add, Multiset.coe_eq_coe] at flights
        exact flights
      rw [Multiset.coe_add, Multiset.coe_eq_coe]
      simpa using perm.flatMap_right Post.events
    have events := accounted.events
    have bodies := accounted.bodies
    rw [flying] at events
    rw [flights] at bodies
    cases accepted with
    | true =>
        constructor
        case events =>
          simp only [if_true, List.flatMap_append, List.flatMap_singleton, ← Multiset.coe_add]
          rw [events]
          abel
        case bodies =>
          simp only [if_true, ← Multiset.coe_add]
          rw [bodies]
          abel
    | false =>
        apply Accounted.capQueue
        constructor
        case events =>
          simp only [← Multiset.coe_add]
          rw [events]
          abel
        case bodies =>
          simp only [← Multiset.coe_add]
          rw [bodies]
          abel

theorem Accounted.queue (accounted : Accounted client) (report : Report Number) :
    Accounted (client.queueViewerTelemetry report) := by
  apply Accounted.capQueue
  constructor
  case events =>
    simp only [← Multiset.coe_add]
    rw [accounted.events]
    abel
  case bodies => exact accounted.bodies

theorem Accounted.run (accounted : Accounted client) (steps : List (Step Number)) :
    Accounted (client.run numbers steps) := by
  induction steps generalizing client with
  | nil => exact accounted
  | cons step rest ih =>
      apply ih
      cases step with
      | queue report => exact accounted.queue report
      | flush reason session beacon => exact accounted.flush reason session beacon
      | answer index accepted => exact accounted.answered index accepted

/-- The bodies of a run are taken, with every event accounted for, if and only if the events of
every flush fit. -/
theorem sound_run_iff (urls : UrlCleaner) (numbers : NumberPrinter Number)
    (steps : List (Step Number)) :
    Sound urls numbers (Client.start.run numbers steps) ↔
      FlushesFit urls numbers .start steps := by
  have posted := @posted_run _ urls numbers steps .start
  rw [and_iff_right nofun] at posted
  have accounted : Accounted (Client.start.run numbers steps) := by
    apply Accounted.run
    constructor
    case events => rfl
    case bodies => rfl
  constructor
  · intro sound
    exact posted.mp sound.accepted
  · intro fits
    constructor
    case accepted => exact posted.mpr fits
    case accounted =>
      rw [← Multiset.coe_eq_coe]
      simpa only [Multiset.coe_add] using accounted.events
    case posted =>
      rw [← Multiset.coe_eq_coe]
      simpa only [Multiset.coe_add] using accounted.bodies

/-- A report that lists a text nine times. -/
def reportOf (text : List UInt16) : Report (Fin 10) :=
  ⟨ascii "viewer.report_problem", 0, 0, [], [],
    [(ascii "details", .json (.arr (List.replicate 9 (.str text))))]⟩

theorem redact_reportOf (text : List UInt16) :
    redactViewerEventValue noAddress 1 (reportOf text).event =
      (reportOf (limitText text)).event :=
  rfl

theorem bytes_reportOf (text : List UInt16) :
    9 * (JsonData.str text : JsonData (Fin 10)).bytes digits ≤
      (reportOf text).event.bytes digits := by
  have list := @JsonData.TextSize.sum_le_arr _ digits JsonData.byteSize
    (List.replicate 9 (.str text))
  have fields := @JsonData.TextSize.size_le_obj _ digits JsonData.byteSize
    (ascii "details", .arr (List.replicate 9 (.str text)))
    (sanitizeTelemetryFields (reportOf text).fields) List.mem_cons_self
  have event : JsonData.byteSize.size ((JsonData.obj (sanitizeTelemetryFields
      (reportOf text).fields)).stringify digits) ≤
        JsonData.byteSize.size ((reportOf text).event.stringify digits) := by
    rw [Report.event]
    exact @JsonData.TextSize.size_le_obj _ digits JsonData.byteSize
      (ascii "fields", .obj (sanitizeTelemetryFields (reportOf text).fields)) _ (by simp)
  rw [List.map_replicate, List.sum_replicate_nat] at list
  exact list.trans (fields.trans event)

/-- The only body of a run that sends one report. -/
theorem posted_single (numbers : NumberPrinter Number) (report : Report Number)
    (reason : List UInt16) (session : JsonData Number) :
    (Client.start.run numbers [.queue report, .flush reason session false]).posted =
      [⟨reason, session, [report.event]⟩] :=
  rfl

theorem quoteBody_replicate (count : ℕ) :
    Quote.quoteBody (List.replicate count 0x61) = List.replicate count 0x61 := by
  induction count using Nat.strongRecOn with
  | ind count ih =>
      match count with
      | 0 => rfl
      | 1 => rfl
      | count + 2 =>
          have inner := ih (count + 1) (Nat.lt_succ_self _)
          rw [List.replicate_succ] at inner
          rw [List.replicate_succ, List.replicate_succ, Quote.quoteBody, inner]
          rfl

theorem bytes_replicate (count : ℕ) :
    (JsonData.str (List.replicate count 0x61)).bytes digits = count + 2 := by
  rw [JsonData.bytes, JsonData.stringify, Quote.quote, quoteBody_replicate,
    Utf8.length_encode_ascii]
  · simp
  · intro unit member
    simp only [List.mem_append, List.mem_cons, List.mem_replicate, List.not_mem_nil, or_false]
      at member
    rcases member with (rfl | ⟨-, rfl⟩) | rfl <;> decide

/-- A report that is too large alone is sent all the same. -/
theorem not_sound_of_large {report : Report Number} (reason : List UInt16)
    (session : JsonData Number)
    (large : 4096 < (redactViewerEventValue urls 1 report.event).bytes numbers) :
    ¬Sound urls numbers
      (Client.start.run numbers [.queue report, .flush reason session false]) := by
  intro sound
  have accepted := sound.accepted
  rw [posted_single, List.forall_mem_singleton] at accepted
  have small := (accepted_iff ⟨reason, session, [report.event]⟩ (List.cons_ne_nil _ _)
    (Nat.le_add_left 1 19)).mp accepted
  rw [postSize, List.map_singleton, List.map_singleton, List.sum_singleton] at small
  omega

/-- Nine texts of 512 units in a list of details. -/
theorem long_event_refused :
    ¬Sound noAddress digits (Client.start.run digits
      [.queue (reportOf (List.replicate 512 0x61)), .flush (ascii "interval") .null false]) := by
  apply not_sound_of_large
  have text : limitText (List.replicate 512 0x61) = List.replicate 512 0x61 := by
    rw [limitText, if_neg (by rw [List.length_replicate]; omega)]
  have large := bytes_reportOf (List.replicate 512 0x61)
  rw [bytes_replicate] at large
  rw [redact_reportOf, text]
  omega

end Runs

end RemoteBrowser.Telemetry
