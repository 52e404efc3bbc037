import RemoteBrowser.Swg.Handoff
import Mathlib.Tactic.Linarith

/-!
# A handoff is used once

A handoff is accepted without the viewer cookie only by the request whose replay key was
new.  The key is remembered from some time at or after the freshness check of that request,
for `swgReplayTtlMs`; a second request is fresh until the tolerance after the timestamp.
What is left open is how long the second request takes from its freshness check to its
replay check, for which time passes in both backends.
-/

namespace RemoteBrowser.Swg

open Async Program

/-! ## The course of one request -/

/-- How far a request to `/swg/handoff` has come. -/
structure HandoffCourse where
  query : SwgFields
  cookies : Cookies
  /-- the reply to the lookup of the session -/
  session : Option (Option SwgSession) := none
  /-- the time of the freshness check -/
  checkedAt : Option Nat := none
  /-- the result of `rememberReplay` -/
  remembered : Option Bool := none
  /-- `rememberReplay` threw -/
  failed : Bool := false
  /-- the time at which the viewer cookie was checked -/
  cookieCheckedAt : Option Nat := none
  response : Option HandoffResponse := none

namespace HandoffCourse

variable (platform : Platform) (settings : HandoffSettings)

/-- The handoff that the request carries. -/
def carried (course : HandoffCourse) : CarriedHandoff := .ofQuery platform course.query

/-- The request passed every check before the replay check. -/
structure Admissible (course : HandoffCourse) (handoff : SwgFields) (session : SwgSession)
    (timestamp : ℚ) (time : Nat) : Prop where
  enabled : settings.enableSwgBootstrap = true
  read : readHandoff platform (course.carried platform) = .ok handoff
  found : course.session = some (some session)
  matching : checkSession platform handoff session = .ok timestamp
  checkedAt : course.checkedAt = some time
  fresh : ¬Stale settings time timestamp
  context : checkContext platform settings (course.carried platform) handoff session = .ok ()

/-- The request presented a valid viewer cookie of its session when this was checked. -/
def PresentedCookie (course : HandoffCourse) : Prop :=
  ∃ session time, course.session = some (some session) ∧
    course.cookieCheckedAt = some time ∧
    platform.hasValidViewerCookieForSession time course.cookies session = true

/-- The request was accepted. -/
def Accepted (course : HandoffCourse) : Prop :=
  ∃ location setCookie, course.response = some (.redirect location setCookie)

/-- A check that depends on the handoff, the session and the configuration only failed. -/
def Unfit (course : HandoffCourse) : Prop :=
  settings.enableSwgBootstrap = false ∨ course.failed = true ∨
    (∃ failure, readHandoff platform (course.carried platform) = .error failure) ∨
    course.session = some none ∨
    ∃ handoff session failure, readHandoff platform (course.carried platform) = .ok handoff ∧
      course.session = some (some session) ∧
      (checkSession platform handoff session = .error failure ∨
        checkContext platform settings (course.carried platform) handoff session =
          .error failure)

/-- The request may be sent to the viewer of the session. -/
def Admitted (course : HandoffCourse) (session : SwgSession) : Prop :=
  ∃ handoff timestamp time,
    course.Admissible platform settings handoff session timestamp time ∧
    (course.remembered = some true ∨ course.PresentedCookie platform)

/-- What justifies a response. -/
def Justifies (course : HandoffCourse) : HandoffResponse → Prop
  | .redirect _ setCookie => ∃ session, course.Admitted platform settings session ∧
      setCookie = buildViewerCookieHeaders session
  | .error failure => failure.status = 401 ∨ failure.status = 409 ∨
      course.Unfit platform settings
  | .viewerPage => False

variable {platform settings}

/-- The response does not change what was checked. -/
theorem Admissible.respond {course : HandoffCourse} {handoff : SwgFields} {session : SwgSession}
    {timestamp : ℚ} {time : Nat}
    (admissible : course.Admissible platform settings handoff session timestamp time)
    (response : Option HandoffResponse) :
    Admissible platform settings { course with response := response } handoff session timestamp
      time :=
  ⟨admissible.enabled, admissible.read, admissible.found, admissible.matching,
    admissible.checkedAt, admissible.fresh, admissible.context⟩

theorem Justifies.respond {course : HandoffCourse} {given : HandoffResponse}
    (justified : course.Justifies platform settings given) (response : Option HandoffResponse) :
    Justifies platform settings { course with response := response } given := by
  cases given with
  | error failure => exact justified
  | redirect location setCookie =>
      obtain ⟨session, ⟨handoff, timestamp, time, admissible, because⟩, cookies⟩ := justified
      exact ⟨session, ⟨handoff, timestamp, time, admissible.respond response, because⟩, cookies⟩
  | viewerPage => exact justified

variable (platform settings)

/-- The course after an answered operation. -/
def after (course : HandoffCourse) : (op : HandoffOp) → op.Reply → HandoffCourse
  | .getSession _, found => { course with session := some found }
  | .now, time =>
      if course.checkedAt = none then { course with checkedAt := some time }
      else { course with cookieCheckedAt := some time }
  | .rememberReplay _, .ok isNew => { course with remembered := some isNew }
  | .rememberReplay _, .error _ => { course with failed := true }
  | .respond response, _ => { course with response := some response }
  | _, _ => course

/-- What a request may issue, apart from its being unanswered. -/
def Permits (course : HandoffCourse) : HandoffOp → Prop
  | .getSession _ => course.session = none ∧ course.remembered = none
  | .now => course.checkedAt = none ∧ course.remembered = none ∨
      course.remembered = some false ∧ course.cookieCheckedAt = none
  | .rememberReplay key => course.remembered = none ∧ ∃ handoff session timestamp time,
      course.Admissible platform settings handoff session timestamp time ∧
      key = replayKey handoff
  | .respond response => course.Justifies platform settings response
  | _ => False

end HandoffCourse

/-- The course of a request as a monitor. -/
def handoffCourse (platform : Platform) (settings : HandoffSettings) :
    Monitor handoff.face HandoffCourse where
  allows course op := course.response = none ∧ course.Permits platform settings op
  next course op reply := some (course.after op reply)

/-- Only requests to `/swg/handoff` have a course. -/
def HandoffJob.opening : HandoffJob → Option HandoffCourse
  | .swgHandoff query cookies => some { query, cookies }
  | _ => none

section Route

variable {platform : Platform} {settings : HandoffSettings} {α : Type}

theorem follows_awaitSwg {course : HandoffCourse} {op : HandoffOp}
    {post : op.Reply → HandoffCourse → Prop} (unanswered : course.response = none)
    (permitted : course.Permits platform settings op)
    (next : ∀ reply, post reply (course.after op reply)) :
    (awaitSwg op).Follows (handoffCourse platform settings) post course := by
  refine ⟨⟨unanswered, permitted⟩, ?_⟩
  intro reply after moved
  cases moved
  exact next reply

theorem follows_awaitSwg_bind {course : HandoffCourse} {op : HandoffOp}
    {post : α → HandoffCourse → Prop} {rest : op.Reply → SwgHandler α}
    (unanswered : course.response = none) (permitted : course.Permits platform settings op)
    (next : ∀ reply,
      (rest reply).Follows (handoffCourse platform settings) post (course.after op reply)) :
    (awaitSwg op >>= rest).Follows (handoffCourse platform settings) post course :=
  follows_bind.mpr (follows_awaitSwg unanswered permitted next)

/-- The result of the validation justifies the response that is made of it. -/
def HandoffCourse.Validated (platform : Platform) (settings : HandoffSettings)
    (result : Except HttpError SwgSession) (course : HandoffCourse) : Prop :=
  course.response = none ∧
    match result with
    | .error failure => course.Justifies platform settings (.error failure)
    | .ok session => course.Admitted platform settings session

theorem admitOnce_course {course : HandoffCourse} {handoff : SwgFields} {session : SwgSession}
    {timestamp : ℚ} {time : Nat} (unanswered : course.response = none)
    (new : course.remembered = none) (unchecked : course.cookieCheckedAt = none)
    (admissible : course.Admissible platform settings handoff session timestamp time) :
    (admitOnce platform handoff session course.cookies).Follows
      (handoffCourse platform settings)
      (HandoffCourse.Validated platform settings) course := by
  obtain ⟨enabled, read, found, matching, checkedAt, fresh, context⟩ := admissible
  refine follows_awaitSwg_bind unanswered ⟨new, handoff, session, timestamp, time,
    ⟨enabled, read, found, matching, checkedAt, fresh, context⟩, rfl⟩ ?_
  intro result
  match result with
  | .error failure => exact ⟨unanswered, .inr (.inr (.inr (.inl rfl)))⟩
  | .ok true =>
      exact ⟨unanswered, handoff, timestamp, time,
        ⟨enabled, read, found, matching, checkedAt, fresh, context⟩, .inl rfl⟩
  | .ok false =>
      refine follows_awaitSwg_bind unanswered (.inr ⟨rfl, unchecked⟩) ?_
      intro now
      have later : ({ course with remembered := some false } : HandoffCourse).after .now now =
          { course with remembered := some false, cookieCheckedAt := some now } := by
        simp [HandoffCourse.after, checkedAt]
      rw [show course.after (.rememberReplay (replayKey handoff)) (.ok false) =
        { course with remembered := some false } from rfl, later]
      split
      · next valid =>
          exact ⟨unanswered, handoff, timestamp, time,
            ⟨enabled, read, found, matching, checkedAt, fresh, context⟩,
            .inr ⟨session, now, found, rfl, valid⟩⟩
      · exact ⟨unanswered, .inr (.inl rfl)⟩

theorem validateSwgHandoffRequest_course (query : SwgFields) (cookies : Cookies) :
    (validateSwgHandoffRequest platform settings query cookies).Follows
      (handoffCourse platform settings) (HandoffCourse.Validated platform settings)
      { query, cookies } := by
  unfold validateSwgHandoffRequest
  split
  · next disabled => exact ⟨rfl, .inr (.inr (.inl disabled))⟩
  · next enabled =>
      have isEnabled : settings.enableSwgBootstrap = true := by
        simpa using enabled
      dsimp only
      cases read : readHandoff platform (CarriedHandoff.ofQuery platform query) with
      | error failure => exact ⟨rfl, .inr (.inr (.inr (.inr (.inl ⟨failure, read⟩))))⟩
      | ok handoff =>
          refine follows_awaitSwg_bind rfl ⟨rfl, rfl⟩ ?_
          intro found
          cases found with
          | none => exact ⟨rfl, .inr (.inr (.inr (.inr (.inr (.inl rfl)))))⟩
          | some session =>
              dsimp only
              cases matching : checkSession platform handoff session with
              | error failure =>
                  exact ⟨rfl, .inr (.inr (.inr (.inr (.inr (.inr
                    ⟨handoff, session, failure, read, rfl, .inl matching⟩)))))⟩
              | ok timestamp =>
                  refine follows_awaitSwg_bind rfl (.inl ⟨rfl, rfl⟩) ?_
                  intro now
                  split
                  · exact ⟨rfl, .inl rfl⟩
                  · next fresh =>
                      cases context : checkContext platform settings
                          (CarriedHandoff.ofQuery platform query) handoff session with
                      | error failure =>
                          exact ⟨rfl, .inr (.inr (.inr (.inr (.inr (.inr
                            ⟨handoff, session, failure, read, rfl, .inr context⟩)))))⟩
                      | ok passed =>
                          exact admitOnce_course rfl rfl rfl
                            ⟨isEnabled, read, rfl, matching, rfl, fresh, context⟩

theorem getSwgHandoff_course (query : SwgFields) (cookies : Cookies) :
    (getSwgHandoff platform settings query cookies).Follows (handoffCourse platform settings)
      (fun _ after => after.response.isSome = true) { query, cookies } := by
  apply (validateSwgHandoffRequest_course query cookies).bind
  intro result course validated
  cases result with
  | error failure =>
      refine follows_awaitSwg validated.1 validated.2 ?_
      intro _
      rfl
  | ok session =>
      refine follows_awaitSwg validated.1 ⟨session, validated.2, rfl⟩ ?_
      intro _
      rfl

theorem HandoffJob.body_course (job : HandoffJob) (course : HandoffCourse)
    (known : job.opening = some course) :
    (job.body platform settings).Follows (handoffCourse platform settings)
      (fun _ after => after.response.isSome = true) course := by
  cases job with
  | swgHandoff query cookies =>
      cases known
      exact getSwgHandoff_course query cookies
  | _ => cases known

/-- The operation remembers nothing. -/
def HandoffOp.RemembersNothing : HandoffOp → Prop
  | .rememberReplay _ => False
  | _ => True

theorem issues_awaitSwg {op : HandoffOp} {kind : HandoffOp → Prop}
    {rest : op.Reply → SwgHandler α} (isKind : kind op)
    (next : ∀ reply, (rest reply).Issues kind) : (awaitSwg op >>= rest).Issues kind :=
  ⟨isKind, next⟩

theorem showViewer_issues (sessionId : String) (session : SwgSession) (cookies : Cookies) :
    (showViewer platform sessionId session cookies).Issues HandoffOp.RemembersNothing := by
  unfold showViewer
  split
  · exact ⟨trivial, fun _ => trivial⟩
  · apply issues_awaitSwg trivial
    intro now
    split
    · exact ⟨trivial, fun _ => trivial⟩
    · split
      · exact ⟨trivial, fun _ => trivial⟩
      · exact issues_awaitSwg trivial fun _ => ⟨trivial, fun _ => trivial⟩

theorem getViewer_issues (sessionId : String) (cookies : Cookies) :
    (getViewer platform settings sessionId cookies).Issues HandoffOp.RemembersNothing := by
  unfold getViewer
  split
  · exact ⟨trivial, fun _ => trivial⟩
  · apply issues_awaitSwg trivial
    intro found
    cases found with
    | none => exact ⟨trivial, fun _ => trivial⟩
    | some session =>
        dsimp only
        split
        · split
          · exact ⟨trivial, fun _ => trivial⟩
          · exact ⟨trivial, fun _ => ⟨trivial, fun _ => ⟨trivial, fun _ => trivial⟩⟩⟩
          · exact showViewer_issues sessionId session cookies
        · exact showViewer_issues sessionId session cookies

theorem HandoffJob.body_issues (job : HandoffJob) :
    (job.body platform settings).Issues fun op : HandoffOp =>
      job.opening = none → op.RemembersNothing := by
  cases job with
  | swgHandoff query cookies =>
      apply issues_of_all
      intro op without
      cases without
  | viewer sessionId cookies =>
      exact (getViewer_issues sessionId cookies).mono fun op silent _ => silent
  | putSession id session => exact ⟨fun _ => trivial, fun _ => trivial⟩
  | elapse ms => exact ⟨fun _ => trivial, fun _ => trivial⟩

end Route

/-! ## The replay memory -/

section Memory

variable (settings : HandoffSettings)

/-- The last time at which a key is remembered. -/
def HandoffState.rememberedUntil (state : HandoffState) (key : String) : Option Nat :=
  if settings.redis then
    (state.redis (settings.swgReplayKeyPrefix ++ ":" ++ key)).bind Redis.Entry.expireAt
  else (state.swgReplayMemory key).map (· + settings.swgReplayTtlMs)

variable {settings}

/-- A key that is remembered in Redis is not new. -/
theorem HandoffState.rememberInRedis_of_live {state : HandoffState} {key : String}
    (backend : settings.redis = true) {last : Nat}
    (remembered : state.rememberedUntil settings key = some last) (live : state.clock ≤ last) :
    (state.rememberInRedis settings key).1 = state ∧
      (state.rememberInRedis settings key).2 ≠ .ok true := by
  simp only [rememberedUntil, backend, if_true] at remembered
  obtain ⟨entry, stored, expires⟩ := Option.bind_eq_some_iff.mp remembered
  have isLive : entry.Live state.clock := by
    intro time isTime
    rw [expires] at isTime
    cases isTime
    exact live
  have present : Redis.Entry.read state.clock
      (state.redis (settings.swgReplayKeyPrefix ++ ":" ++ key)) = some () := by
    simp [stored, Redis.Entry.read, isLive]
  simp only [rememberInRedis, present]
  split <;> simp

/-- What the loop over the map keeps. -/
theorem HandoffState.unforgotten_of_live {state : HandoffState} {key : String}
    (backend : settings.redis = false) {last : Nat}
    (remembered : state.rememberedUntil settings key = some last) (live : state.clock ≤ last) :
    (state.unforgotten settings key).map (· + settings.swgReplayTtlMs) = some last := by
  simp only [rememberedUntil, backend, Bool.false_eq_true, if_false] at remembered
  obtain ⟨seenAt, stored, rfl⟩ := Option.map_eq_some_iff.mp remembered
  simp [unforgotten, stored, Option.filter_some, live]

/-- Keys whose time has not passed stay remembered. -/
theorem HandoffState.rememberedUntil_exec {random : String × String} (op : HandoffOp)
    {state : HandoffState} {key : String} {last : Nat}
    (remembered : state.rememberedUntil settings key = some last) (live : state.clock ≤ last) :
    (state.exec settings random op).1.rememberedUntil settings key = some last := by
  cases op with
  | rememberReplay other =>
      simp only [exec]
      cases backend : settings.redis with
      | true =>
          rw [if_pos rfl]
          by_cases same : key = other
          · subst same
            rw [(rememberInRedis_of_live backend remembered live).1]
            exact remembered
          · have different : settings.swgReplayKeyPrefix ++ ":" ++ key ≠
                settings.swgReplayKeyPrefix ++ ":" ++ other := by
              simpa using same
            simp only [rememberInRedis]
            split
            · exact remembered
            · split
              · exact remembered
              · simpa [rememberedUntil, backend, Function.update_of_ne different] using remembered
      | false =>
          rw [if_neg (by simp)]
          have kept := unforgotten_of_live backend remembered live
          simp only [rememberInMemory]
          split
          · simpa [rememberedUntil, backend] using kept
          · next absent =>
              have different : key ≠ other := by
                rintro rfl
                rw [Option.not_isSome_iff_eq_none.mp absent] at kept
                cases kept
              simpa [rememberedUntil, backend, Function.update_of_ne different] using kept
  | _ => exact remembered

/-- A remembered key is not new. -/
theorem HandoffState.not_new_of_remembered {random : String × String} {state : HandoffState}
    {key : String} {last : Nat} (remembered : state.rememberedUntil settings key = some last)
    (live : state.clock ≤ last) :
    (state.exec settings random (.rememberReplay key)).2 ≠ .ok true := by
  simp only [exec]
  cases backend : settings.redis with
  | true =>
      rw [if_pos rfl]
      exact (rememberInRedis_of_live backend remembered live).2
  | false =>
      rw [if_neg (by simp)]
      obtain ⟨seenAt, kept, -⟩ :=
        Option.map_eq_some_iff.mp (unforgotten_of_live backend remembered live)
      simp [rememberInMemory, kept]

/-- A new key is remembered for `swgReplayTtlMs`. -/
theorem HandoffState.rememberedUntil_of_new {random : String × String} {key : String}
    {state : HandoffState}
    (new : (state.exec settings random (.rememberReplay key)).2 = .ok true) :
    (state.exec settings random (.rememberReplay key)).1.rememberedUntil settings key =
      some (state.clock + settings.swgReplayTtlMs) := by
  cases backend : settings.redis with
  | true =>
      simp only [exec, backend, if_true, rememberInRedis] at new ⊢
      split at new
      · cases new
      · next positive =>
          rw [if_neg positive]
          split at new
          · cases new
          · simp [rememberedUntil, backend]
  | false =>
      simp only [exec, backend, Bool.false_eq_true, if_false, rememberInMemory] at new ⊢
      split at new
      · cases new
      · next absent =>
          rw [if_neg absent]
          simp [rememberedUntil, backend]

/-- Only Redis refuses to remember, and then it always does. -/
theorem HandoffState.ttl_of_error {random : String × String} {key : String}
    {state : HandoffState} {failure : HttpError}
    (failed : (state.exec settings random (.rememberReplay key)).2 = .error failure) :
    settings.redis = true ∧ settings.swgReplayTtlMs = 0 := by
  cases backend : settings.redis with
  | true =>
      simp only [exec, backend, if_true, rememberInRedis] at failed
      split at failed
      · next zero => exact ⟨rfl, zero⟩
      · split at failed <;> cases failed
  | false =>
      simp only [exec, backend, Bool.false_eq_true, if_false, rememberInMemory] at failed
      split at failed <;> cases failed

theorem HandoffState.ttl_of_new {random : String × String} {key : String}
    {state : HandoffState}
    (new : (state.exec settings random (.rememberReplay key)).2 = .ok true) :
    ¬(settings.redis = true ∧ settings.swgReplayTtlMs = 0) := by
  rintro ⟨backend, zero⟩
  simp [exec, backend, rememberInRedis, zero] at new

theorem HandoffState.clock_exec (random : String × String) (op : HandoffOp)
    (state : HandoffState) : state.clock ≤ (state.exec settings random op).1.clock := by
  cases op with
  | rememberReplay key =>
      simp only [exec, rememberInRedis, rememberInMemory]
      split
      · split
        · exact Nat.le_refl _
        · split <;> exact Nat.le_refl _
      · split <;> exact Nat.le_refl _
  | elapse ms => exact Nat.le_add_right _ _
  | _ => exact Nat.le_refl _

end Memory

/-! ## All requests -/

section Requests

variable {platform : Platform} {settings : HandoffSettings}

/-- A key that was new to a request checked at `time` is remembered until its time is up. -/
def Kept (settings : HandoffSettings) (state : HandoffState) (key : String) (time : Nat) :
    Prop :=
  time + settings.swgReplayTtlMs < state.clock ∨
    ∃ last, state.rememberedUntil settings key = some last ∧
      time + settings.swgReplayTtlMs ≤ last

theorem Kept.exec {state : HandoffState} {key : String} {time : Nat}
    (kept : Kept settings state key time) (random : String × String) (op : HandoffOp) :
    Kept settings (state.exec settings random op).1 key time := by
  have later : state.clock ≤ (state.exec settings random op).1.clock :=
    state.clock_exec random op
  rcases kept with past | ⟨last, remembered, enough⟩
  · exact .inl (Nat.lt_of_lt_of_le past later)
  · rcases Nat.lt_or_ge last state.clock with gone | live
    · exact .inl (Nat.lt_of_le_of_lt enough (Nat.lt_of_lt_of_le gone later))
    · exact .inr ⟨last, state.rememberedUntil_exec op remembered live, enough⟩

/-- A request whose key was new passed all checks, and its key is kept. -/
def Used (platform : Platform) (settings : HandoffSettings) (state : HandoffState)
    (course : HandoffCourse) : Prop :=
  ∃ handoff session timestamp time,
    course.Admissible platform settings handoff session timestamp time ∧
    Kept settings state (replayKey handoff) time

/-- What holds of a single request. -/
structure Sound (platform : Platform) (settings : HandoffSettings) (state : HandoffState)
    (course : HandoffCourse) : Prop where
  used : course.remembered = some true → Used platform settings state course ∧
    ¬(settings.redis = true ∧ settings.swgReplayTtlMs = 0)
  failing : course.failed = true → settings.redis = true ∧ settings.swgReplayTtlMs = 0
  past : ∀ time, course.checkedAt = some time → time ≤ state.clock
  justified : ∀ response, course.response = some response →
    course.Justifies platform settings response

/-- Every request is sound, and no handoff was new to two of them. -/
structure UsedOnce (platform : Platform) (settings : HandoffSettings) (state : HandoffState)
    (courses : Nat → Option HandoffCourse) : Prop where
  sound : ∀ index course, courses index = some course → Sound platform settings state course
  once : ∀ first second one other, courses first = some one → courses second = some other →
    one.carried platform = other.carried platform → one.remembered = some true →
    other.remembered = some true → first = second

theorem Sound.exec {state : HandoffState} {course : HandoffCourse}
    (sound : Sound platform settings state course) (random : String × String) (op : HandoffOp) :
    Sound platform settings (state.exec settings random op).1 course := by
  constructor
  · intro remembered
    obtain ⟨⟨handoff, session, timestamp, time, admissible, kept⟩, works⟩ :=
      sound.used remembered
    exact ⟨⟨handoff, session, timestamp, time, admissible, kept.exec random op⟩, works⟩
  · exact sound.failing
  · intro time checked
    exact Nat.le_trans (sound.past time checked) (state.clock_exec random op)
  · exact sound.justified

/-- A request that awaits its replay check does so in time for its handoff. -/
def InTime (platform : Platform) (settings : HandoffSettings) (state : HandoffState)
    (course : HandoffCourse) : Prop :=
  ∀ handoff timestamp, readHandoff platform (course.carried platform) = .ok handoff →
    platform.number (handoff .timestamp) = some timestamp →
    (state.clock : ℚ) ≤
      timestamp + (settings.swgReplayTtlMs - settings.swgTimestampToleranceMs : ℚ)

/-- The timestamp of a handoff that matches its session. -/
theorem number_of_checkSession {handoff : SwgFields} {session : SwgSession} {timestamp : ℚ}
    (matching : checkSession platform handoff session = .ok timestamp) :
    platform.number (handoff .timestamp) = some timestamp := by
  unfold checkSession at matching
  split at matching
  · cases matching
  · split at matching
    · cases matching
    · split at matching
      · cases matching
      · split at matching
        · cases matching
        · split at matching
          · cases matching
          · next value isValue =>
              cases matching
              exact isValue

/-- A handoff that was new to one request is not new to another that checks in time. -/
theorem not_new_of_used {state : HandoffState} {one course : HandoffCourse}
    {handoff : SwgFields} {random : String × String}
    (used : Used platform settings state one)
    (same : one.carried platform = course.carried platform)
    (read : readHandoff platform (course.carried platform) = .ok handoff)
    (inTime : InTime platform settings state course) :
    (state.exec settings random (.rememberReplay (replayKey handoff))).2 ≠ .ok true := by
  obtain ⟨other, session, timestamp, time, admissible, kept⟩ := used
  have sameHandoff : other = handoff := by
    have reads := admissible.read
    rw [same, read] at reads
    exact (Except.ok.inj reads).symm
  subst sameHandoff
  have bound := inTime other timestamp read (number_of_checkSession admissible.matching)
  have fresh : (timestamp : ℚ) - settings.swgTimestampToleranceMs ≤ time := by
    by_contra early
    apply admissible.fresh
    right
    linarith
  have live : state.clock ≤ time + settings.swgReplayTtlMs := by
    have inRationals : (state.clock : ℚ) ≤ (time + settings.swgReplayTtlMs : Nat) := by
      push_cast
      linarith
    exact_mod_cast inRationals
  rcases kept with past | ⟨last, remembered, enough⟩
  · omega
  · exact state.not_new_of_remembered remembered (by omega)

/-- The request stays sound while it advances. -/
theorem Sound.advance {state : HandoffState} {course : HandoffCourse}
    (sound : Sound platform settings state course) (unanswered : course.response = none)
    {op : HandoffOp} (permitted : course.Permits platform settings op)
    (random : String × String) :
    Sound platform settings (state.exec settings random op).1
      (course.after op (state.exec settings random op).2) := by
  have noResponse : ∀ {after : HandoffCourse}, after.response = course.response →
      ∀ response, after.response = some response →
        after.Justifies platform settings response := by
    intro after same response answered
    rw [same, unanswered] at answered
    cases answered
  have kept := sound.exec random op
  cases op with
  | getSession id =>
      refine ⟨?_, kept.failing, kept.past, noResponse rfl⟩
      intro remembered
      have new : course.remembered = none := permitted.2
      rw [show course.remembered = some true from remembered] at new
      cases new
  | now =>
      simp only [HandoffCourse.after]
      split
      · next unchecked =>
          refine ⟨?_, kept.failing, ?_, noResponse rfl⟩
          · intro remembered
            rcases permitted with ⟨-, new⟩ | ⟨old, -⟩
            · rw [show course.remembered = some true from remembered] at new
              cases new
            · rw [show course.remembered = some true from remembered] at old
              cases old
          · intro time checked
            cases checked
            exact Nat.le_refl _
      · next checked =>
          refine ⟨?_, kept.failing, kept.past, noResponse rfl⟩
          intro remembered
          rcases permitted with ⟨unchecked, -⟩ | ⟨old, -⟩
          · exact absurd unchecked checked
          · rw [show course.remembered = some true from remembered] at old
            cases old
  | rememberReplay key =>
      obtain ⟨new, handoff, session, timestamp, time, admissible, rfl⟩ := permitted
      obtain ⟨enabled, read, found, matching, checkedAt, fresh, context⟩ := admissible
      cases result : (state.exec settings random (.rememberReplay (replayKey handoff))).2 with
      | error failure =>
          refine ⟨?_, ?_, kept.past, noResponse rfl⟩
          · intro remembered
            rw [show course.remembered = some true from remembered] at new
            cases new
          · intro _
            exact HandoffState.ttl_of_error result
      | ok isNew =>
          refine ⟨?_, kept.failing, kept.past, noResponse rfl⟩
          intro remembered
          cases remembered
          refine ⟨⟨handoff, session, timestamp, time,
            ⟨enabled, read, found, matching, checkedAt, fresh, context⟩, .inr ?_⟩,
            HandoffState.ttl_of_new result⟩
          exact ⟨_, HandoffState.rememberedUntil_of_new result,
            Nat.add_le_add_right (sound.past time checkedAt) _⟩
  | respond response =>
      refine ⟨?_, kept.failing, kept.past, ?_⟩
      · intro remembered
        obtain ⟨⟨handoff, session, timestamp, time, admissible, stays⟩, works⟩ :=
          kept.used remembered
        exact ⟨⟨handoff, session, timestamp, time, admissible.respond _, stays⟩, works⟩
      · intro given isGiven
        cases isGiven
        exact HandoffCourse.Justifies.respond permitted _
  | _ => exact permitted.elim

/-- A request remembers its handoff only at its replay check. -/
theorem remembered_after {course : HandoffCourse} {op : HandoffOp} {reply : op.Reply}
    (remembered : (course.after op reply).remembered = some true) :
    course.remembered = some true ∨
      ∃ key, ∃ same : op = .rememberReplay key, same ▸ reply = .ok true := by
  cases op with
  | rememberReplay key =>
      cases reply with
      | error failure => exact .inl remembered
      | ok isNew =>
          cases remembered
          exact .inr ⟨key, rfl, rfl⟩
  | now =>
      simp only [HandoffCourse.after] at remembered
      split at remembered <;> exact .inl remembered
  | _ => exact .inl remembered

theorem carried_after (course : HandoffCourse) (op : HandoffOp) (reply : op.Reply) :
    (course.after op reply).carried platform = course.carried platform := by
  cases op with
  | rememberReplay key => cases reply <;> rfl
  | now =>
      simp only [HandoffCourse.after]
      split <;> rfl
  | _ => rfl

/-- The request at a position advances, in time if it checks for a replay. -/
theorem UsedOnce.advance {state : HandoffState} {courses : Nat → Option HandoffCourse}
    (holds : UsedOnce platform settings state courses) {index : Nat} {course : HandoffCourse}
    (located : courses index = some course) (unanswered : course.response = none)
    {op : HandoffOp} (permitted : course.Permits platform settings op)
    (inTime : ∀ key, op = .rememberReplay key → InTime platform settings state course)
    (random : String × String) :
    UsedOnce platform settings (state.exec settings random op).1
      (Function.update courses index
        (some (course.after op (state.exec settings random op).2))) := by
  have advanced := (holds.sound index course located).advance unanswered permitted random
  -- the advancing request does not use a handoff that another has used
  have alone : ∀ position one, position ≠ index → courses position = some one →
      one.carried platform = course.carried platform → one.remembered = some true →
      (course.after op (state.exec settings random op).2).remembered ≠ some true := by
    intro position one different found same used remembered
    rcases remembered_after remembered with old | ⟨key, rfl, new⟩
    · exact different (holds.once position index one course found located same used old)
    · obtain ⟨-, handoff, session, timestamp, time, admissible, rfl⟩ := permitted
      exact not_new_of_used ((holds.sound position one found).used used).1 same admissible.read
        (inTime _ rfl) new
  constructor
  · intro position one found
    by_cases same : position = index
    · subst same
      rw [Function.update_self] at found
      cases found
      exact advanced
    · rw [Function.update_of_ne same] at found
      exact (holds.sound position one found).exec random op
  · intro first second one other foundOne foundOther same usedOne usedOther
    by_cases firstIs : first = index <;> by_cases secondIs : second = index
    · rw [firstIs, secondIs]
    · subst firstIs
      rw [Function.update_self] at foundOne
      rw [Function.update_of_ne secondIs] at foundOther
      cases foundOne
      rw [carried_after] at same
      exact absurd usedOne (alone second other secondIs foundOther same.symm usedOther)
    · subst secondIs
      rw [Function.update_of_ne firstIs] at foundOne
      rw [Function.update_self] at foundOther
      cases foundOther
      rw [carried_after] at same
      exact absurd usedOther (alone first one firstIs foundOne same usedOne)
    · rw [Function.update_of_ne firstIs] at foundOne
      rw [Function.update_of_ne secondIs] at foundOther
      exact holds.once first second one other foundOne foundOther same usedOne usedOther

theorem sound_opening {state : HandoffState} {job : HandoffJob} {course : HandoffCourse}
    (opens : job.opening = some course) : Sound platform settings state course := by
  cases job with
  | swgHandoff query cookies =>
      cases opens
      constructor <;> simp
  | _ => cases opens

theorem UsedOnce.start {state : HandoffState} {courses : Nat → Option HandoffCourse}
    (holds : UsedOnce platform settings state courses) {index : Nat}
    (free : courses index = none) (job : HandoffJob) :
    UsedOnce platform settings state (Function.update courses index job.opening) := by
  have opened : ∀ position course,
      Function.update courses index job.opening position = some course →
      courses position = some course ∨ job.opening = some course := by
    intro position course found
    by_cases same : position = index
    · subst same
      rw [Function.update_self] at found
      exact .inr found
    · rw [Function.update_of_ne same] at found
      exact .inl found
  have unused : ∀ course, job.opening = some course → course.remembered ≠ some true := by
    intro course opens
    cases job with
    | swgHandoff query cookies =>
        cases opens
        simp
    | _ => cases opens
  constructor
  · intro position course found
    rcases opened position course found with old | opens
    · exact holds.sound position course old
    · exact sound_opening opens
  · intro first second one other foundOne foundOther same usedOne usedOther
    rcases opened first one foundOne with oldOne | opens
    · rcases opened second other foundOther with oldOther | opens
      · exact holds.once first second one other oldOne oldOther same usedOne usedOther
      · exact absurd usedOther (unused other opens)
    · exact absurd usedOne (unused one opens)

end Requests

/-! ## Runs -/

section Runs

variable {platform : Platform} {settings : HandoffSettings}

/-- How far the request at a position has come. -/
def handoffAt (config : Config (handoff platform settings)) (index : Nat) :
    Option HandoffCourse :=
  config.watched (handoffCourse platform settings) HandoffJob.opening index

/-- The replay check of a request is made at most `swgReplayTtlMs` less the tolerance after
the timestamp of its handoff. -/
def ChecksInTime (config : Config (handoff platform settings)) :
    Action (handoff platform settings) → Prop
  | .start _ => True
  | .resume index _ => ∀ key course, config.awaits index = some (.rememberReplay key) →
      handoffAt config index = some course → InTime platform settings config.state course

/-- Every request of every run is sound. -/
theorem sound_watch {allowed : Config (handoff platform settings) → Action _ → Prop} :
    Watch (handoffCourse platform settings) HandoffJob.opening allowed
      HandoffOp.RemembersNothing fun state courses =>
        ∀ index course, courses index = some course → Sound platform settings state course := by
  constructor
  · intro config index job holds free _ _ position course found
    by_cases same : position = index
    · subst same
      rw [Function.update_self] at found
      exact sound_opening found
    · rw [Function.update_of_ne same] at found
      exact holds position course found
  · intro config index random op course holds located allowed awaited permitted position one found
    by_cases same : position = index
    · subst same
      rw [Function.update_self] at found
      cases found
      exact (holds position course located).advance allowed.1 allowed.2 random
    · rw [Function.update_of_ne same] at found
      exact (holds position one found).exec random op
  · intro state courses random op holds _ index course found
    exact (holds index course found).exec random op

theorem usedOnce_watch : Watch (handoffCourse platform settings) HandoffJob.opening
    (@ChecksInTime platform settings) HandoffOp.RemembersNothing
    (UsedOnce platform settings) := by
  constructor
  · intro config index job holds free _ _
    exact holds.start free job
  · intro config index random op course holds located allowed awaited permitted
    apply holds.advance located allowed.1 allowed.2
    intro key isCheck
    exact permitted key course (isCheck ▸ awaited) located
  · intro state courses random op holds _
    exact ⟨fun index course found => (holds.sound index course found).exec random op,
      holds.once⟩

theorem usedOnce_initial : UsedOnce platform settings .initial fun _ => none := by
  constructor
  · intro index course found
    cases found
  · intro first second one other found
    cases found

theorem usedOnce_of_run {final : Config (handoff platform settings)}
    (run : Run ChecksInTime ⟨.initial, []⟩ final) :
    UsedOnce platform settings final.state (handoffAt final) :=
  usedOnce_watch.run HandoffJob.body_course HandoffJob.body_issues (fun _ _ _ => rfl) run
    usedOnce_initial

/-- A handoff is used once: of two accepted requests that carry it, one presented a valid
viewer cookie of its session; and a request that finds the session as the accepted one did,
and presents no such cookie, is answered 401 or 409. -/
structure SingleUse (config : Config (handoff platform settings)) : Prop where
  accepted : ∀ first second one other, handoffAt config first = some one →
    handoffAt config second = some other →
    one.carried platform = other.carried platform → one.Accepted → other.Accepted →
    first ≠ second → one.PresentedCookie platform ∨ other.PresentedCookie platform
  refused : ∀ first second one other response, handoffAt config first = some one →
    handoffAt config second = some other →
    one.carried platform = other.carried platform → one.session = other.session →
    one.Accepted → ¬one.PresentedCookie platform → ¬other.PresentedCookie platform →
    first ≠ second → other.response = some response →
    ∃ failure, response = .error failure ∧ (failure.status = 401 ∨ failure.status = 409)

/-- An accepted request that presented no cookie used the handoff. -/
theorem Sound.remembered_of_accepted {state : HandoffState} {course : HandoffCourse}
    (sound : Sound platform settings state course) (accepted : course.Accepted)
    (without : ¬course.PresentedCookie platform) : course.remembered = some true := by
  obtain ⟨location, setCookie, answered⟩ := accepted
  obtain ⟨session, ⟨-, -, -, -, because⟩, -⟩ := sound.justified _ answered
  rcases because with used | presented
  · exact used
  · exact absurd presented without

/-- A check that the accepted request passed does not fail for another one of the same
handoff and session. -/
theorem not_unfit_of_used {state : HandoffState} {one other : HandoffCourse}
    (soundOne : Sound platform settings state one)
    (soundOther : Sound platform settings state other)
    (same : one.carried platform = other.carried platform)
    (sameSession : one.session = other.session) (used : one.remembered = some true) :
    ¬other.Unfit platform settings := by
  obtain ⟨⟨handoff, session, timestamp, time, admissible, -⟩, works⟩ := soundOne.used used
  have read := admissible.read
  have found := admissible.found
  have context := admissible.context
  rw [same] at read context
  rw [sameSession] at found
  rintro (disabled | failed | ⟨failure, rejected⟩ | absent |
    ⟨other', session', failure, read', found', mismatch⟩)
  · rw [admissible.enabled] at disabled
    cases disabled
  · exact works (soundOther.failing failed)
  · rw [read] at rejected
    cases rejected
  · rw [found] at absent
    cases absent
  · rw [read] at read'
    rw [found] at found'
    cases read'
    cases found'
    rcases mismatch with noMatch | noContext
    · rw [admissible.matching] at noMatch
      cases noMatch
    · rw [context] at noContext
      cases noContext

/-- In every run whose replay checks are made in time, every handoff is used once. -/
theorem handoff_is_single_use {final : Config (handoff platform settings)}
    (run : Run ChecksInTime ⟨.initial, []⟩ final) : SingleUse final := by
  have holds := usedOnce_of_run run
  constructor
  · intro first second one other foundOne foundOther same acceptedOne acceptedOther different
    by_contra neither
    rw [not_or] at neither
    have usedOne := (holds.sound first one foundOne).remembered_of_accepted acceptedOne neither.1
    have usedOther :=
      (holds.sound second other foundOther).remembered_of_accepted acceptedOther neither.2
    exact different
      (holds.once first second one other foundOne foundOther same usedOne usedOther)
  · intro first second one other response foundOne foundOther same sameSession acceptedOne
      withoutOne withoutOther different answered
    have soundOne := holds.sound first one foundOne
    have soundOther := holds.sound second other foundOther
    have usedOne := soundOne.remembered_of_accepted acceptedOne withoutOne
    cases response with
    | redirect location setCookie =>
        have usedOther :=
          soundOther.remembered_of_accepted ⟨location, setCookie, answered⟩ withoutOther
        exact absurd
          (holds.once first second one other foundOne foundOther same usedOne usedOther) different
    | error failure =>
        refine ⟨failure, rfl, ?_⟩
        rcases soundOther.justified _ answered with unauthorized | conflict | unfit
        · exact .inl unauthorized
        · exact .inr conflict
        · exact absurd unfit (not_unfit_of_used soundOne soundOther same sameSession usedOne)
    | viewerPage => exact (soundOther.justified _ answered).elim

end Runs

/-! ## Two requests with one token -/

/-- The fields of a handoff with timestamp 10. -/
def sampleFields : SwgFields
  | .sessionId => "s"
  | .targetUrl => "https://example.com/"
  | .timestamp => "10"
  | .originalMethod => "GET"
  | .boundaryType => "org"
  | .fallbackReason => ""
  | .method => "GET"
  | .token => ""
  | .signature => ""
  | .upstreamHost => "example.com"
  | .upstreamScheme => "https"
  | .upstreamPort => "443"
  | _ => "x"

/-- The built-in functions on the texts of the sample, which are trimmed and in the case
that the checks ask for. -/
def samplePlatform : Platform where
  trim := id
  toUpperCase := id
  toLowerCase := id
  number text := if text = "10" then some 10 else none
  url _ := some ⟨"https", "example.com", ""⟩
  encipher _ _ := ("iv", "text", "tag")
  decipher iv ciphertext tag :=
    if iv = "iv" ∧ ciphertext = "text" ∧ tag = "tag" then some sampleFields else none
  hmac _ := ""
  tokenPayload _ := .error "Malformed token"

/-- A session that the sample hands off. -/
def sampleSession : SwgSession where
  id := "s"
  state := "ready"
  expiresAt := 1000
  targetUrl := "https://example.com/"
  authMode := "swg"
  swg := sampleFields
  viewerUrl := ""
  viewerToken := "viewer token"

/-- The tolerance is 10, and keys are remembered for 20. -/
def sampleSettings (redis : Bool) : HandoffSettings where
  swgTimestampToleranceMs := 10
  swgReplayTtlMs := 20
  redis := redis

section Sample

variable {redis : Bool}

/-- A handler starts and takes some steps. -/
def starts (index : Nat) (job : HandoffJob) (steps : Nat) :
    List (Action (handoff samplePlatform (sampleSettings redis))) :=
  .start job :: Action.resumes index steps ("iv", "uuid")

/-- A request with the token of the sample and without cookies. -/
def sampleRequest : HandoffJob :=
  .swgHandoff (fun field => if field = .token then "v1.iv.text.tag" else "") fun _ => ""

/-- What the request at a position was answered. -/
def responseAt (config : Config (handoff samplePlatform (sampleSettings redis)))
    (index : Nat) : Option HandoffResponse :=
  (handoffAt config index).bind HandoffCourse.response

/-- No replay check of the sample is made after time 20. -/
def checksBy20 (config : Config (handoff samplePlatform (sampleSettings redis)))
    (_ : Action (handoff samplePlatform (sampleSettings redis))) : Bool :=
  config.state.clock ≤ 20

theorem checksInTime_of_checksBy20
    (config : Config (handoff samplePlatform (sampleSettings redis)))
    (action : Action (handoff samplePlatform (sampleSettings redis)))
    (passes : checksBy20 config action = true) : ChecksInTime config action := by
  cases action with
  | start job => trivial
  | resume index random =>
      intro key course _ _ given timestamp _ isTimestamp
      have ten : timestamp = 10 := by
        simp only [samplePlatform, Option.ite_none_right_eq_some, Option.some.injEq]
          at isTimestamp
        exact isTimestamp.2.symm
      have bound : (config.state.clock : ℚ) ≤ 20 := by
        exact_mod_cast of_decide_eq_true passes
      have window : ((sampleSettings redis).swgReplayTtlMs : ℚ) -
          (sampleSettings redis).swgTimestampToleranceMs = 10 := by
        simp only [sampleSettings]
        norm_num
      rw [ten, window]
      linarith

end Sample

/-- The second request with the token, made while the first is remembered, is refused. -/
theorem second_handoff_is_refused :
    ∃ final : Config (handoff samplePlatform (sampleSettings true)),
      Run ChecksInTime ⟨.initial, []⟩ final ∧
      responseAt final 3 = some (.error ⟨409, "Replayed SWG handoff"⟩) ∧ SingleUse final := by
  obtain ⟨final, run, refused⟩ := Run.exists_of_schedule checksInTime_of_checksBy20
    (⟨.initial, []⟩ : Config (handoff samplePlatform (sampleSettings true)))
    (starts 0 (.putSession "s" (some sampleSession)) 1 ++ starts 1 sampleRequest 4 ++
      starts 2 (.elapse 20) 1 ++ starts 3 sampleRequest 5)
    (fun final => decide (responseAt final 3 = some (.error ⟨409, "Replayed SWG handoff"⟩)))
    (by decide +kernel)
  exact ⟨final, run, of_decide_eq_true refused, handoff_is_single_use run⟩

section Sample

variable {redis : Bool}

/-- The second request is fresh when it checks, but its replay check comes a moment after
the key of the first one was forgotten. -/
def lateReplayCheck : List (Action (handoff samplePlatform (sampleSettings redis))) :=
  starts 0 (.putSession "s" (some sampleSession)) 1 ++ starts 1 sampleRequest 4 ++
    starts 2 (.elapse 20) 1 ++ starts 3 sampleRequest 2 ++ starts 4 (.elapse 1) 1 ++
    Action.resumes 3 2 ("iv", "uuid")

/-- The request at a position carried the token and was accepted, and its cookie was not
even looked at. -/
def acceptedAt (config : Config (handoff samplePlatform (sampleSettings redis)))
    (index : Nat) : Bool :=
  (handoffAt config index).any fun course =>
    match course.response, course.cookieCheckedAt, course.carried samplePlatform with
    | some (.redirect _ _), none, .opaqueToken token => decide (token = "v1.iv.text.tag")
    | _, _, _ => false

theorem accepted_of_acceptedAt {config : Config (handoff samplePlatform (sampleSettings redis))}
    {index : Nat} (accepted : acceptedAt config index = true) :
    ∃ course, handoffAt config index = some course ∧ course.Accepted ∧
      ¬course.PresentedCookie samplePlatform ∧
      course.carried samplePlatform = .opaqueToken "v1.iv.text.tag" := by
  obtain ⟨course, found, holds⟩ := (Option.any_eq_true ..).mp accepted
  split at holds
  · next location setCookie token response unchecked carried =>
      refine ⟨course, found, ⟨location, setCookie, response⟩, ?_, ?_⟩
      · rintro ⟨session, time, -, checked, -⟩
        rw [unchecked] at checked
        cases checked
      · rw [carried, of_decide_eq_true holds]
  · cases holds

/-- Two accepted requests of the sample break the single use. -/
theorem not_singleUse_of_acceptedAt
    {config : Config (handoff samplePlatform (sampleSettings redis))}
    (both : (acceptedAt config 1 && acceptedAt config 3) = true) : ¬SingleUse config := by
  intro singleUse
  obtain ⟨first, second⟩ := Bool.and_eq_true_iff.mp both
  obtain ⟨one, foundOne, acceptedOne, withoutOne, carriedOne⟩ := accepted_of_acceptedAt first
  obtain ⟨other, foundOther, acceptedOther, withoutOther, carriedOther⟩ :=
    accepted_of_acceptedAt second
  rcases singleUse.accepted 1 3 one other foundOne foundOther
    (carriedOne.trans carriedOther.symm) acceptedOne acceptedOther (by decide) with first | second
  · exact withoutOne first
  · exact withoutOther second

end Sample

/-- With either backend, a handoff is accepted twice although keys are remembered for
twice the tolerance. -/
theorem late_replay_check_accepts_twice :
    (¬∀ (platform : Platform) (settings : HandoffSettings)
      (final : Config (handoff platform settings)), settings.redis = true →
      2 * settings.swgTimestampToleranceMs ≤ settings.swgReplayTtlMs →
      Run anyAction ⟨HandoffState.initial, []⟩ final → SingleUse final) ∧
    ¬∀ (platform : Platform) (settings : HandoffSettings)
      (final : Config (handoff platform settings)), settings.redis = false →
      2 * settings.swgTimestampToleranceMs ≤ settings.swgReplayTtlMs →
      Run anyAction ⟨HandoffState.initial, []⟩ final → SingleUse final := by
  constructor
  · intro always
    obtain ⟨final, run, both⟩ := Run.exists_of_actions
      (⟨.initial, []⟩ : Config (handoff samplePlatform (sampleSettings true)))
      lateReplayCheck (fun final => acceptedAt final 1 && acceptedAt final 3)
      (by decide +kernel)
    exact not_singleUse_of_acceptedAt both (always _ _ final rfl (by decide) run)
  · intro always
    obtain ⟨final, run, both⟩ := Run.exists_of_actions
      (⟨.initial, []⟩ : Config (handoff samplePlatform (sampleSettings false)))
      lateReplayCheck (fun final => acceptedAt final 1 && acceptedAt final 3)
      (by decide +kernel)
    exact not_singleUse_of_acceptedAt both (always _ _ final rfl (by decide) run)

end RemoteBrowser.Swg
