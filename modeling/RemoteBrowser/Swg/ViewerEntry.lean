import RemoteBrowser.Swg.Replay

/-!
# Where a client gets the viewer cookie

Only `/swg/handoff` sets the viewer cookie of a session, and only for a handoff of that
session.  `/viewer` hands one out: a request without the viewer cookie is redirected to a
fresh handoff.  So a client that starts without a handoff of the session, but knows its
identifier, is given the cookie after exactly such a redirect.
-/

namespace RemoteBrowser.Swg

open Async Program

/-! ## The course of a request to `/viewer` -/

/-- How far a request to `/viewer` has come. -/
structure ViewerCourse where
  sessionId : String
  cookies : Cookies
  /-- the session that it read -/
  session : Option SwgSession := none
  response : Option HandoffResponse := none

namespace ViewerCourse

variable (platform : Platform)

/-- What justifies a response: no cookie is set, and a redirect leads to a handoff of a
request without the viewer cookie of the session it read. -/
def Justifies (course : ViewerCourse) : HandoffResponse → Prop
  | .redirect (.handoff _) setCookie => setCookie = [] ∧ ∃ session,
      course.session = some session ∧
      shouldRedirectSwgViewerEntry platform course.cookies session = true
  | .redirect _ _ => False
  | _ => True

def after (course : ViewerCourse) : (op : HandoffOp) → op.Reply → ViewerCourse
  | .getSession _, found => { course with session := found }
  | .respond response, _ => { course with response := some response }
  | _, _ => course

def Permits (course : ViewerCourse) : HandoffOp → Prop
  | .respond response => course.Justifies platform response
  | .rememberReplay _ => False
  | _ => True

end ViewerCourse

/-- The course of a request to `/viewer` as a monitor. -/
def viewerCourse (platform : Platform) : Monitor handoff.face ViewerCourse where
  allows course op := course.response = none ∧ course.Permits platform op
  next course op reply := some (course.after op reply)

/-- Only requests to `/viewer` have such a course. -/
def HandoffJob.viewerOpening : HandoffJob → Option ViewerCourse
  | .viewer sessionId cookies => some { sessionId, cookies }
  | _ => none

section Route

variable {platform : Platform} {settings : HandoffSettings} {α : Type}

theorem follows_viewer_bind {course : ViewerCourse} {op : HandoffOp}
    {post : α → ViewerCourse → Prop} {rest : op.Reply → SwgHandler α}
    (unanswered : course.response = none) (permitted : course.Permits platform op)
    (next : ∀ reply, (rest reply).Follows (viewerCourse platform) post (course.after op reply)) :
    (awaitSwg op >>= rest).Follows (viewerCourse platform) post course := by
  refine ⟨⟨unanswered, permitted⟩, ?_⟩
  intro reply after moved
  cases moved
  exact next reply

/-- The last step of the route. -/
theorem follows_viewer_respond {course : ViewerCourse} {response : HandoffResponse}
    (unanswered : course.response = none) (justified : course.Justifies platform response) :
    (awaitSwg (.respond response)).Follows (viewerCourse platform)
      (fun _ after => after.response.isSome = true) course := by
  refine ⟨⟨unanswered, justified⟩, ?_⟩
  intro reply after moved
  cases moved
  rfl

theorem showViewer_course (course : ViewerCourse) (sessionId : String) (session : SwgSession)
    (unanswered : course.response = none) :
    (showViewer platform sessionId session course.cookies).Follows (viewerCourse platform)
      (fun _ after => after.response.isSome = true) course := by
  unfold showViewer
  split
  · exact follows_viewer_respond unanswered trivial
  · refine follows_viewer_bind unanswered trivial ?_
    intro now
    split
    · exact follows_viewer_respond unanswered trivial
    · split
      · exact follows_viewer_respond unanswered trivial
      · refine follows_viewer_bind unanswered trivial ?_
        intro _
        exact follows_viewer_respond unanswered trivial

theorem getViewer_course (sessionId : String) (cookies : Cookies) :
    (getViewer platform settings sessionId cookies).Follows (viewerCourse platform)
      (fun _ after => after.response.isSome = true) { sessionId, cookies } := by
  unfold getViewer
  split
  · exact follows_viewer_respond rfl trivial
  · refine follows_viewer_bind rfl trivial ?_
    intro found
    cases found with
    | none => exact follows_viewer_respond rfl trivial
    | some session =>
        dsimp only
        split
        · next redirects =>
            split
            · exact follows_viewer_respond rfl trivial
            · apply follows_bind.mpr
              refine follows_viewer_bind rfl trivial ?_
              intro now
              refine follows_viewer_bind rfl trivial ?_
              intro random
              exact follows_viewer_respond rfl ⟨rfl, session, rfl, redirects⟩
            · exact showViewer_course { sessionId, cookies, session := some session } _ _ rfl
        · exact showViewer_course { sessionId, cookies, session := some session } _ _ rfl

theorem HandoffJob.body_viewerCourse (job : HandoffJob) (course : ViewerCourse)
    (known : job.viewerOpening = some course) :
    (job.body platform settings).Follows (viewerCourse platform)
      (fun _ after => after.response.isSome = true) course := by
  cases job with
  | viewer sessionId cookies =>
      cases known
      exact getViewer_course sessionId cookies
  | _ => cases known

end Route

section Runs

variable {platform : Platform} {settings : HandoffSettings}

/-- How far the request to `/viewer` at a position has come. -/
def viewerAt (config : Config (handoff platform settings)) (index : Nat) :
    Option ViewerCourse :=
  config.watched (viewerCourse platform) HandoffJob.viewerOpening index

/-- Every response of `/viewer` is justified. -/
theorem viewer_watch {allowed : Config (handoff platform settings) → Action _ → Prop} :
    Watch (viewerCourse platform) HandoffJob.viewerOpening allowed (fun _ => True)
      fun _ courses => ∀ index course response, courses index = some course →
        course.response = some response → course.Justifies platform response := by
  constructor
  · intro config index job holds free _ _ position course response found answered
    by_cases same : position = index
    · subst same
      rw [Function.update_self] at found
      cases job with
      | viewer sessionId cookies =>
          cases found
          cases answered
      | _ => cases found
    · rw [Function.update_of_ne same] at found
      exact holds position course response found answered
  · intro config index random op course holds located allowed awaited permitted position one
      response found answered
    by_cases same : position = index
    · subst same
      rw [Function.update_self] at found
      cases found
      cases op with
      | respond given =>
          cases answered
          exact allowed.2
      | _ =>
          have unanswered : course.response = none := allowed.1
          have again : course.response = some response := answered
          rw [unanswered] at again
          cases again
    · rw [Function.update_of_ne same] at found
      exact holds position one response found answered
  · intro state courses random op holds _
    exact holds

/-- In every run, responses of `/viewer` are justified. -/
theorem viewer_justified {allowed : Config (handoff platform settings) → Action _ → Prop}
    {final : Config (handoff platform settings)} (run : Run allowed ⟨.initial, []⟩ final)
    {index : Nat} {course : ViewerCourse} {response : HandoffResponse}
    (found : viewerAt final index = some course) (answered : course.response = some response) :
    course.Justifies platform response := by
  have holds := viewer_watch.run HandoffJob.body_viewerCourse
    (fun job => issues_of_all (fun _ _ => trivial) _) (fun _ _ _ => rfl) run
    (fun _ _ _ isNone => by cases isNone)
  exact holds index course response found answered

/-! ## A client without a handoff -/

variable (mine : Nat → Prop) (sessionId : String)

/-- A response to the client led to a handoff with this token. -/
def Given (config : Config (handoff platform settings)) (token : String) : Prop :=
  ∃ index course setCookie, mine index ∧ viewerAt config index = some course ∧
    course.response = some (.redirect (.handoff token) setCookie)

/-- A response to the client set this viewer cookie. -/
def GivenCookie (config : Config (handoff platform settings)) (value : String) : Prop :=
  ∃ index course location setCookie, mine index ∧ handoffAt config index = some course ∧
    course.response = some (.redirect location setCookie) ∧
    (viewerCookieName sessionId, value) ∈ setCookie

/-- What the client can carry: of the handoffs of the session, those it was given.  It has
no signature for the session. -/
def CanCarry (platform : Platform) (given : String → Prop) : CarriedHandoff → Prop
  | .opaqueToken token => ∀ handoff, readHandoff platform (.opaqueToken token) = .ok handoff →
      handoff .sessionId = sessionId → given token
  | .legacy fields => ∀ upstream session, session.id = sessionId →
      platform.verifySwgHandoffRequest (canonicalInput fields upstream session)
        (fields .signature) = false

/-- A valid viewer cookie that the client presents was given to it. -/
def CanPresent (platform : Platform) (given : String → Prop) (cookies : Cookies) : Prop :=
  ∀ session now, session.id = sessionId →
    platform.hasValidViewerCookieForSession now cookies session = true →
    given (getViewerCookieToken cookies sessionId)

/-- The client starts without the viewer token, a handoff token or a signature of the
session; it uses what the responses to it contain.  Requests at other positions are those of
others. -/
def ClientOnly (config : Config (handoff platform settings)) :
    Action (handoff platform settings) → Prop
  | .start (.swgHandoff query cookies) => mine config.threads.length →
      CanCarry sessionId platform (Given mine config) (.ofQuery platform query) ∧
      CanPresent sessionId platform (GivenCookie mine sessionId config) cookies
  | .start (.viewer _ cookies) => mine config.threads.length →
      CanPresent sessionId platform (GivenCookie mine sessionId config) cookies
  | _ => True

variable {mine sessionId}

/-- What was given to the client stays given. -/
theorem Given.step {before after : Config (handoff platform settings)}
    {action : Action (handoff platform settings)} {token : String}
    (given : Given mine before token)
    (obeys : ∀ thread ∈ before.threads, thread.Obeys (viewerCourse platform)
      HandoffJob.viewerOpening fun course => course.response.isSome = true)
    (stepped : before.step action = some after) : Given mine after token := by
  obtain ⟨index, course, setCookie, isMine, located, answered⟩ := given
  refine ⟨index, course, setCookie, isMine, ?_, answered⟩
  apply Config.watched_step_of_done obeys stepped located
  intro op allowed
  rw [allowed.1] at answered
  cases answered

theorem CanCarry.mono {given given' : String → Prop} {carried : CarriedHandoff}
    (can : CanCarry sessionId platform given carried)
    (implies : ∀ token, given token → given' token) :
    CanCarry sessionId platform given' carried := by
  cases carried with
  | opaqueToken token =>
      intro handoff read same
      exact implies token (can handoff read same)
  | legacy fields => exact can

/-- Every request of the client to `/swg/handoff` carries what it can carry. -/
def CarriesGiven (mine : Nat → Prop) (sessionId : String)
    (config : Config (handoff platform settings)) : Prop :=
  ∀ index course, mine index → handoffAt config index = some course →
    CanCarry sessionId platform (Given mine config) (course.carried platform)

theorem CarriesGiven.step {before after : Config (handoff platform settings)}
    {action : Action (handoff platform settings)}
    (holds : CarriesGiven mine sessionId before)
    (obeys : ∀ thread ∈ before.threads, thread.Obeys (viewerCourse platform)
      HandoffJob.viewerOpening fun course => course.response.isSome = true)
    (permitted : ClientOnly mine sessionId before action)
    (stepped : before.step action = some after) : CarriesGiven mine sessionId after := by
  have stays : ∀ token, Given mine before token → Given mine after token :=
    fun token given => given.step obeys stepped
  intro index course isMine located
  obtain ⟨job, rfl, -, rfl⟩ | ⟨position, random, thread, op, next, rfl, found, suspended, rfl⟩ :=
    Config.step_cases stepped
  · by_cases last : index = before.threads.length
    · subst last
      rw [handoffAt, Config.watched_append before.state, Function.update_self] at located
      cases job with
      | swgHandoff query cookies =>
          cases located
          exact (permitted isMine).1.mono stays
      | _ => cases located
    · rw [handoffAt, Config.watched_append before.state, Function.update_of_ne last] at located
      exact (holds index course isMine located).mono stays
  · rw [handoffAt, Config.watched_set before.state _ found] at located
    by_cases same : index = position
    · subst same
      rw [Function.update_self, Thread.watched_advance] at located
      obtain ⟨earlier, known, moved⟩ := Option.bind_eq_some_iff.mp located
      cases moved
      rw [carried_after]
      have was : handoffAt before index = some earlier :=
        (Config.watched_of_getElem? found).trans known
      exact (holds index earlier isMine was).mono stays
    · rw [Function.update_of_ne same] at located
      exact (holds index course isMine located).mono stays

theorem carriesGiven_of_run {final : Config (handoff platform settings)}
    (run : Run (ClientOnly mine sessionId) ⟨.initial, []⟩ final) :
    CarriesGiven mine sessionId final := by
  have initially : @CarriesGiven platform settings mine sessionId ⟨.initial, []⟩ := by
    intro index course _ located
    cases located
  have obeying : ∀ config : Config (handoff platform settings),
      Run (ClientOnly mine sessionId) ⟨.initial, []⟩ config →
      ∀ thread ∈ config.threads, thread.Obeys (viewerCourse platform)
        HandoffJob.viewerOpening fun course => course.response.isSome = true := by
    intro config reached
    exact reached.obeys HandoffJob.body_viewerCourse (by simp)
  apply (run.assuming obeying).invariant initially
  intro before after action holds permitted stepped
  exact holds.step permitted.2 permitted.1 stepped

theorem sessionId_of_checkSession {given : SwgFields} {session : SwgSession} {timestamp : ℚ}
    (matching : checkSession platform given session = .ok timestamp) :
    given .sessionId = session.id := by
  by_contra different
  unfold checkSession at matching
  rw [if_pos different] at matching
  split at matching
  · cases matching
  · split at matching <;> cases matching

/-- A legacy handoff is accepted only with its signature. -/
theorem verified_of_checkContext {fields given : SwgFields} {session : SwgSession}
    (context : checkContext platform settings (.legacy fields) given session = .ok ()) :
    ∃ upstream, platform.verifySwgHandoffRequest (canonicalInput given upstream session)
      (given .signature) = true := by
  unfold checkContext at context
  cases derived : deriveUpstreamContext platform given session.targetUrl with
  | error failure =>
      rw [derived] at context
      cases context
  | ok upstream =>
      refine ⟨upstream, ?_⟩
      rw [derived] at context
      cases stored : deriveSwgSessionContext platform settings session with
      | error failure =>
          rw [stored] at context
          cases context
      | ok storedSwg =>
          rw [stored] at context
          simp only [Bind.bind, Except.bind] at context
          split at context
          · cases context
          · split at context
            · next verified => exact verified
            · cases context

theorem read_legacy {fields given : SwgFields}
    (read : readHandoff platform (.legacy fields) = .ok given) : given = fields := by
  simp only [readHandoff] at read
  cases present : requireSwgFields platform fields (.signature :: handoffFields) with
  | error failure =>
      rw [present] at read
      cases read
  | ok passed =>
      cases bounded : requireOrgBoundaryContext platform fields with
      | error failure =>
          rw [present, bounded] at read
          cases read
      | ok passed =>
          rw [present, bounded] at read
          cases read
          rfl

/-- Only the headers of a session set its viewer cookie. -/
theorem id_of_mem_buildViewerCookieHeaders {session : SwgSession} {value : String}
    (sets : (viewerCookieName sessionId, value) ∈ buildViewerCookieHeaders session) :
    session.id = sessionId := by
  simp only [buildViewerCookieHeaders, List.mem_cons, Prod.mk.injEq, List.not_mem_nil,
    or_false] at sets
  rcases sets with ⟨name, -⟩ | ⟨name, -⟩
  · simpa [viewerCookieName, eq_comm] using name
  · have letters := congrArg String.toList name
    simp [viewerCookieName] at letters

/-- `/viewer` sets no cookie; and when a client that started without a handoff of the
session is given the viewer cookie of the session, it carried the token of a handoff to
which an earlier request of its own to `/viewer`, without that cookie, was redirected. -/
theorem viewer_cookie_needs_redirect {final : Config (handoff platform settings)}
    (run : Run (ClientOnly mine sessionId) ⟨.initial, []⟩ final) :
    (∀ index course location setCookie, viewerAt final index = some course →
      course.response = some (.redirect location setCookie) → setCookie = []) ∧
    ∀ index course location setCookie value, mine index →
      handoffAt final index = some course →
      course.response = some (.redirect location setCookie) →
      (viewerCookieName sessionId, value) ∈ setCookie →
      ∃ token entry earlier session, course.carried platform = .opaqueToken token ∧
        mine entry ∧ viewerAt final entry = some earlier ∧
        earlier.response = some (.redirect (.handoff token) []) ∧
        earlier.session = some session ∧
        shouldRedirectSwgViewerEntry platform earlier.cookies session = true := by
  constructor
  · intro index course location setCookie located answered
    have justified := viewer_justified run located answered
    cases location with
    | handoff token => exact justified.1
    | viewer id => exact justified.elim
    | transport url => exact justified.elim
  · intro index course location setCookie value isMine located answered sets
    have sound := sound_watch.run HandoffJob.body_course HandoffJob.body_issues
      (fun _ _ _ => rfl) run (fun _ _ isNone => by cases isNone) index course located
    obtain ⟨session, ⟨given, timestamp, time, admissible, -⟩, rfl⟩ := sound.justified _ answered
    have ofSession : given .sessionId = sessionId :=
      (sessionId_of_checkSession admissible.matching).trans
        (id_of_mem_buildViewerCookieHeaders sets)
    have canCarry := carriesGiven_of_run run index course isMine located
    have read := admissible.read
    have context := admissible.context
    cases carried : course.carried platform with
    | legacy fields =>
        rw [carried] at canCarry read context
        have same := read_legacy read
        subst same
        obtain ⟨upstream, verified⟩ := verified_of_checkContext context
        rw [canCarry upstream session (id_of_mem_buildViewerCookieHeaders sets)] at verified
        cases verified
    | opaqueToken token =>
        rw [carried] at canCarry read
        obtain ⟨entry, earlier, cookies, entryMine, entryLocated, entryAnswered⟩ :=
          canCarry given read ofSession
        obtain ⟨rfl, entered, readBy, redirects⟩ :=
          viewer_justified run entryLocated entryAnswered
        exact ⟨token, entry, earlier, entered, rfl, entryMine, entryLocated, entryAnswered,
          readBy, redirects⟩

end Runs

/-! ## A client that knows the session identifier -/

/-- The client makes its request to `/viewer` after the session was stored, and its request
to `/swg/handoff` after that. -/
def clientPositions (index : Nat) : Prop := index = 2 ∨ index = 3

/-- The client asks for the viewer of the session and follows the redirect. -/
def followsRedirect : List (Action (handoff samplePlatform (sampleSettings true))) :=
  starts 0 (.putSession "s" (some sampleSession)) 1 ++ starts 1 (.elapse 10) 1 ++
    starts 2 (.viewer "s" fun _ => "") 4 ++ starts 3 sampleRequest 4

/-- The redirect to a handoff with this token. -/
def redirectsTo (token : String) (config : Config (handoff samplePlatform (sampleSettings true))) :
    Bool :=
  (viewerAt config 2).any fun course =>
    decide (course.response = some (.redirect (.handoff token) []))

/-- Without the viewer cookie, requests carry the token of the sample once the response to
the client contained it. -/
def usesWhatItWasGiven (config : Config (handoff samplePlatform (sampleSettings true))) :
    Action (handoff samplePlatform (sampleSettings true)) → Bool
  | .start (.swgHandoff query cookies) => decide (query .token = "v1.iv.text.tag") &&
      redirectsTo "v1.iv.text.tag" config && decide (cookies (viewerCookieName "s") = "")
  | .start (.viewer _ cookies) => decide (cookies (viewerCookieName "s") = "")
  | _ => true

/-- A request without the cookie presents no valid one. -/
theorem canPresent_of_absent {platform : Platform} {given : String → Prop} {cookies : Cookies}
    {sessionId : String} (absent : cookies (viewerCookieName sessionId) = "") :
    CanPresent sessionId platform given cookies := by
  rintro session now rfl valid
  simp [Platform.hasValidViewerCookieForSession, Platform.validateSessionToken,
    getViewerCookieToken, absent] at valid

theorem clientOnly_of_usesWhatItWasGiven
    (config : Config (handoff samplePlatform (sampleSettings true)))
    (action : Action (handoff samplePlatform (sampleSettings true)))
    (passes : usesWhatItWasGiven config action = true) :
    ClientOnly clientPositions "s" config action := by
  match action, passes with
  | .resume index random, _ => trivial
  | .start (.putSession id session), _ => trivial
  | .start (.elapse ms), _ => trivial
  | .start (.viewer id cookies), passes =>
      intro _
      exact canPresent_of_absent (of_decide_eq_true passes)
  | .start (.swgHandoff query cookies), passes =>
      intro _
      simp only [usesWhatItWasGiven, Bool.and_eq_true] at passes
      obtain ⟨⟨isToken, redirected⟩, absent⟩ := passes
      refine ⟨?_, canPresent_of_absent (of_decide_eq_true absent)⟩
      have carries : CarriedHandoff.ofQuery samplePlatform query =
          .opaqueToken "v1.iv.text.tag" := by
        simp [CarriedHandoff.ofQuery, Platform.extractSwgHandoffQuery, samplePlatform,
          of_decide_eq_true isToken]
      rw [carries]
      intro given _ _
      obtain ⟨course, located, answered⟩ := (Option.any_eq_true ..).mp redirected
      exact ⟨2, course, [], .inl rfl, located, of_decide_eq_true answered⟩

/-- The cookies that the sample's handoff sets. -/
def sampleCookies : List (String × String) :=
  [("rbi_viewer_s", "viewer token"), ("rbi_active_viewer_session", "s")]

/-- The response to the client's request to `/swg/handoff` sets the viewer cookie. -/
def setsViewerCookie (config : Config (handoff samplePlatform (sampleSettings true))) : Bool :=
  (handoffAt config 3).any fun course =>
    decide (course.response = some (.redirect (.viewer "s") sampleCookies))

theorem exists_followsRedirect :
    ∃ (final : Config (handoff samplePlatform (sampleSettings true))) (course : HandoffCourse),
      Run (ClientOnly clientPositions "s") ⟨.initial, []⟩ final ∧
      handoffAt final 3 = some course ∧
      course.response = some (.redirect (.viewer "s") sampleCookies) := by
  obtain ⟨final, run, sets⟩ := Run.exists_of_schedule clientOnly_of_usesWhatItWasGiven
    (⟨.initial, []⟩ : Config (handoff samplePlatform (sampleSettings true)))
    followsRedirect setsViewerCookie (by decide +kernel)
  obtain ⟨course, located, answered⟩ := (Option.any_eq_true ..).mp sets
  exact ⟨final, course, run, located, of_decide_eq_true answered⟩

theorem mem_sampleCookies : (viewerCookieName "s", "viewer token") ∈ sampleCookies := by
  decide

/-- The client that follows the redirect was redirected by `/viewer`. -/
theorem followed_redirect_came_from_viewer :
    ∃ (final : Config (handoff samplePlatform (sampleSettings true))) (token : String)
      (entry : Nat) (earlier : ViewerCourse),
      Run (ClientOnly clientPositions "s") ⟨.initial, []⟩ final ∧ clientPositions entry ∧
      viewerAt final entry = some earlier ∧
      earlier.response = some (.redirect (.handoff token) []) := by
  obtain ⟨final, course, run, located, answered⟩ := exists_followsRedirect
  obtain ⟨token, entry, earlier, -, -, isMine, entered, redirected, -⟩ :=
    (viewer_cookie_needs_redirect run).2 3 course _ _ "viewer token" (.inr rfl) located answered
      mem_sampleCookies
  exact ⟨final, token, entry, earlier, run, isMine, entered, redirected⟩

/-- A client that knows the identifier of a session gets its viewer cookie: `/viewer` hands
it a handoff. -/
theorem viewer_redirect_leads_to_cookie :
    ¬∀ (platform : Platform) (settings : HandoffSettings) (mine : Nat → Prop)
      (sessionId : String) (final : Config (handoff platform settings)),
      Run (ClientOnly mine sessionId) ⟨.initial, []⟩ final →
      ∀ index course location setCookie value, mine index →
        handoffAt final index = some course →
        course.response = some (.redirect location setCookie) →
        (viewerCookieName sessionId, value) ∉ setCookie := by
  intro never
  obtain ⟨final, course, run, located, answered⟩ := exists_followsRedirect
  exact never _ _ _ "s" final run 3 course _ _ "viewer token" (.inr rfl) located answered
    mem_sampleCookies

end RemoteBrowser.Swg
