import RemoteBrowser.Swg.Bootstrap

/-!
# One session for each transaction

A request of a transaction holds the transaction from the `SET NX` that it wins to the
`SET` with which it completes or fails.  The record of a held or completed transaction
must stay in Redis, because its absence is what lets another request create a second
session.  A waiter that read a failed record deletes whatever is stored when its `DEL`
runs, so the property rests on that record being still the failed one.
-/

namespace RemoteBrowser.Swg

open Async Program

/-! ## The course of one request -/

/-- How far a request has come. -/
structure Progress where
  request : BootstrapRequest
  /-- it won a `SET NX`, that is, `{ acquired: true }` was returned to it -/
  acquired : Bool := false
  /-- it stored the result of the creation -/
  settled : Bool := false
  created : Option SessionPayload := none
  cookie : Option String := none
  /-- the record it read last -/
  seen : Option IdempotencyRecord := none
  answer : Option Answer := none

namespace Progress

/-- The transaction that the request belongs to. -/
def transactionId (current : Progress) : String := current.request.context.transactionId

/-- The fingerprint of the request. -/
def fingerprint (current : Progress) : String := current.request.context.requestFingerprint

/-- The key of the record of the transaction. -/
def key (current : Progress) : String := swgBootstrapIdempotencyKey current.transactionId

/-- The transaction was acquired, and neither completed nor failed. -/
def Holding (current : Progress) : Prop := current.acquired = true ∧ current.settled = false

/-- The record that was read last belongs to different input. -/
def Foreign (current : Progress) : Prop :=
  ∃ record, current.seen = some record ∧ record.fingerprint ≠ current.fingerprint

/-- The request created a session and stored this response. -/
def Completed (current : Progress) (response : BootstrapResponse) : Prop :=
  current.acquired = true ∧ current.settled = true ∧ ∃ payload, current.created = some payload ∧
    response = .build current.request.context payload current.cookie

/-- The answer follows from the record that was read. -/
def Justifies (current : Progress) (answer : Answer) : Prop :=
  (current.Foreign → answer = .failed reusedTransaction) ∧
    ∀ status response, answer = .replayed status response →
      ∃ record, current.seen = some record ∧ record.fingerprint = current.fingerprint ∧
        record.response = some response

/-- The course after an answered operation. -/
def after (current : Progress) : (op : BootstrapOp) → op.Reply → Progress
  | .setRecord _ _ true, granted => { current with acquired := granted }
  | .setRecord _ _ false, _ => { current with settled := true }
  | .getRecord _, found => { current with seen := found }
  | .createSession _, .ok payload => { current with created := some payload }
  | .viewerCookie _, cookie => { current with cookie := cookie }
  | .respond answer, _ => { current with answer := some answer }
  | _, _ => current

/-- What a request may issue, apart from its being unanswered. -/
def Permits (current : Progress) : BootstrapOp → Prop
  | .setRecord key record true => key = current.key ∧ current.acquired = false ∧
      current.created = none ∧ ¬current.Foreign ∧ record = creatingRecord current.request.context
  | .setRecord key record false => key = current.key ∧ current.Holding ∧ ¬current.Foreign ∧
      (current.created = none ∧ record = ⟨.failed, current.fingerprint, none, none⟩ ∨
        ∃ payload, current.created = some payload ∧
          record = ⟨.ready, current.fingerprint,
            some (.build current.request.context payload current.cookie), some 200⟩)
  | .getRecord key => key = current.key ∧ current.acquired = false ∧ ¬current.Foreign
  | .deleteRecord key => key = current.key ∧ current.acquired = false ∧ ¬current.Foreign
  | .createSession _ => current.Holding ∧ current.created = none ∧ ¬current.Foreign
  | .viewerCookie _ => current.Holding ∧ ¬current.Foreign
  | .respond answer => current.Justifies answer
  | .now => ¬current.Foreign
  | .sleep => ¬current.Foreign
  | .elapse _ => False

end Progress

/-- The course of a request as a monitor. -/
def course : Monitor bootstrap.face Progress where
  allows current op := current.answer = none ∧ current.Permits op
  next current op reply := some (current.after op reply)

/-- Only requests have a course. -/
def BootstrapJob.opening : BootstrapJob → Option Progress
  | .post posted => some { request := posted }
  | .elapse _ => none

section Rules

variable {α : Type} {post : α → Progress → Prop} {current : Progress}

/-- A request awaits what its course allows. -/
theorem follows_await {op : BootstrapOp} {post : op.Reply → Progress → Prop}
    (unanswered : current.answer = none) (permitted : current.Permits op)
    (next : ∀ reply, post reply (current.after op reply)) :
    (await op).Follows course post current := by
  refine ⟨⟨unanswered, permitted⟩, fun reply after moved => ?_⟩
  cases moved
  exact next reply

theorem follows_await_bind {op : BootstrapOp} {rest : op.Reply → BootstrapHandler α}
    (unanswered : current.answer = none) (permitted : current.Permits op)
    (next : ∀ reply, (rest reply).Follows course post (current.after op reply)) :
    (await op >>= rest).Follows course post current :=
  follows_bind.mpr (follows_await unanswered permitted next)

end Rules

/-! ## The route keeps to the course -/

/-- A request that has not acquired the transaction, with nothing created. -/
structure Progress.Waiting (request : BootstrapRequest) (current : Progress) : Prop where
  request : current.request = request
  acquired : current.acquired = false
  settled : current.settled = false
  created : current.created = none
  cookie : current.cookie = none
  answer : current.answer = none
  own : ¬current.Foreign

/-- A request that has acquired the transaction, with nothing created. -/
structure Progress.Creating (request : BootstrapRequest) (current : Progress) : Prop where
  request : current.request = request
  holding : current.Holding
  created : current.created = none
  cookie : current.cookie = none
  answer : current.answer = none
  own : ¬current.Foreign

/-- What the result of `beginSwgBootstrapIdempotency` says about the course. -/
def Progress.Begun (request : BootstrapRequest) :
    Except HttpError Idempotency → Progress → Prop
  | .ok .acquired, current => current.Creating request
  | .ok (.existing response _), current => current.answer = none ∧
      ∀ status, current.Justifies (.replayed status response)
  | .error failure, current => current.answer = none ∧ current.Justifies (.failed failure)

/-- An error answers any request that has read no foreign record. -/
theorem Progress.justifies_failed {current : Progress} (own : ¬current.Foreign)
    (failure : HttpError) : current.Justifies (.failed failure) := by
  constructor
  · intro foreign
    exact absurd foreign own
  · intro status response isReplay
    cases isReplay

/-- A request that waits tries to acquire the transaction, with two possible outcomes. -/
theorem acquire_course {request : BootstrapRequest} {current : Progress} {α : Type}
    {post : α → Progress → Prop} (waiting : current.Waiting request)
    {granted refused : BootstrapHandler α}
    (wins : ∀ after : Progress, after.Creating request → granted.Follows course post after)
    (loses : refused.Follows course post current) :
    (await (.setRecord (swgBootstrapIdempotencyKey request.context.transactionId)
      (creatingRecord request.context) true) >>= fun reply : Bool =>
        if reply then granted else refused).Follows course post current := by
  obtain ⟨rfl, acquired, settled, created, cookie, answer, own⟩ := waiting
  refine follows_await_bind answer ⟨rfl, acquired, created, own, rfl⟩ ?_
  intro reply
  cases reply with
  | true => exact wins _ ⟨rfl, ⟨rfl, settled⟩, created, cookie, answer, own⟩
  | false =>
      have unchanged : current.after (.setRecord (swgBootstrapIdempotencyKey
          current.request.context.transactionId) (creatingRecord current.request.context) true)
          false = current := by
        simp only [Progress.after, ← acquired]
      rw [unchanged]
      exact loses

/-- Reading the record of the transaction keeps a request waiting, unless the record
belongs to different input. -/
theorem Progress.Waiting.read {request : BootstrapRequest} {current : Progress}
    (waiting : current.Waiting request) (key : String) (found : Option IdempotencyRecord)
    (own : ∀ record, found = some record →
      record.fingerprint = request.context.requestFingerprint) :
    (current.after (.getRecord key) found).Waiting request := by
  obtain ⟨rfl, acquired, settled, created, cookie, answer, -⟩ := waiting
  refine ⟨rfl, acquired, settled, created, cookie, answer, ?_⟩
  rintro ⟨record, isFound, differs⟩
  exact differs (own record isFound)

theorem pollIdempotency_course (request : BootstrapRequest) (deadline rounds : Nat) :
    ∀ current : Progress, current.Waiting request →
      (pollIdempotency request.context
        (swgBootstrapIdempotencyKey request.context.transactionId) deadline rounds).Follows
        course (Progress.Begun request) current := by
  -- the loop's invariant is that the request is waiting
  induction rounds with
  | zero =>
      intro current waiting
      trivial
  | succ rounds ih =>
      intro current waiting
      have sameKey : swgBootstrapIdempotencyKey request.context.transactionId = current.key := by
        rw [← waiting.request]
        rfl
      refine follows_await_bind waiting.answer ⟨sameKey, waiting.acquired, waiting.own⟩ ?_
      intro found
      cases found with
      | none =>
          apply acquire_course (waiting.read _ none (by simp))
          · intro after creating
            exact creating
          · exact ih _ (waiting.read _ none (by simp))
      | some existing =>
          dsimp only
          split
          · next differs =>
              refine ⟨waiting.answer, fun _ => rfl, ?_⟩
              intro status response isReplay
              cases isReplay
          · next agrees =>
              have same : existing.fingerprint = request.context.requestFingerprint :=
                not_not.mp agrees
              have read := waiting.read (swgBootstrapIdempotencyKey
                request.context.transactionId) (some existing)
                (fun record isFound => Option.some.inj isFound ▸ same)
              split
              · next response isReady hasResponse =>
                  refine ⟨waiting.answer, ?_⟩
                  intro status
                  refine ⟨fun foreign => absurd foreign read.own, ?_⟩
                  intro status' response' isReplay
                  cases isReplay
                  refine ⟨existing, rfl, ?_, hasResponse⟩
                  rw [same, ← read.request]
                  rfl
              · refine follows_await_bind read.answer ⟨sameKey, read.acquired, read.own⟩ ?_
                intro _
                apply acquire_course read
                · intro after creating
                  exact creating
                · exact ih _ read
              · refine follows_await_bind read.answer read.own ?_
                intro now
                split
                · exact ⟨read.answer, Progress.justifies_failed read.own _⟩
                · refine follows_await_bind read.answer read.own ?_
                  intro _
                  exact ih _ read

theorem beginSwgBootstrapIdempotency_course (settings : BootstrapSettings)
    {request : BootstrapRequest} {current : Progress} (waiting : current.Waiting request) :
    (beginSwgBootstrapIdempotency settings request.context).Follows course
      (Progress.Begun request) current := by
  refine follows_await_bind waiting.answer waiting.own ?_
  intro now
  apply acquire_course waiting
  · intro after creating
    exact creating
  · exact pollIdempotency_course request _ _ current waiting

theorem createForTransaction_course {request : BootstrapRequest} {current : Progress}
    (creating : current.Creating request) :
    (createForTransaction request).Follows course
      (fun _ after => after.answer.isSome = true) current := by
  obtain ⟨rfl, holding, created, noCookie, answer, own⟩ := creating
  refine follows_await_bind answer ⟨holding, created, own⟩ ?_
  intro result
  cases result with
  | error failure =>
      apply follows_bind.mpr
      refine follows_await_bind answer ⟨rfl, holding, own, .inl ⟨created, rfl⟩⟩ ?_
      intro _
      refine follows_await answer (Progress.justifies_failed own failure) ?_
      intro _
      rfl
  | ok payload =>
      have finish : ∀ after : Progress, after.request = current.request → after.Holding →
          after.created = some payload → after.answer = none → ¬after.Foreign →
          ∀ cookie, cookie = after.cookie →
          (do
            completeSwgBootstrapIdempotency
              (swgBootstrapIdempotencyKey current.request.context.transactionId)
              current.request.context.requestFingerprint
              (.build current.request.context payload cookie) 200
            await (.respond (.created (if current.request.wantsRedirect then 303 else 201)
              (.build current.request.context payload cookie)))).Follows course
            (fun _ last => last.answer.isSome = true) after := by
        rintro after same held stored unanswered ownRecord _ rfl
        apply follows_bind.mpr
        apply follows_await_bind unanswered
        · refine ⟨?_, held, ownRecord, .inr ⟨payload, stored, ?_⟩⟩
          · rw [Progress.key, Progress.transactionId, same]
          · rw [Progress.fingerprint, same]
        · intro _
          apply follows_pure.mpr
          refine follows_await unanswered ⟨fun foreign => absurd foreign ownRecord, ?_⟩ ?_
          · intro status response isReplay
            cases isReplay
          · intro _
            rfl
      dsimp only
      split
      · apply follows_bind.mpr
        refine follows_await answer ⟨holding, own⟩ ?_
        intro cookie
        exact finish { current with created := some payload, cookie := cookie }
          rfl holding rfl answer own cookie rfl
      · exact finish { current with created := some payload }
          rfl holding rfl answer own none noCookie.symm

/-- Every request keeps to its course, and is answered when its handler returns. -/
theorem postSwgSessions_course (settings : BootstrapSettings) (posted : BootstrapRequest) :
    (postSwgSessions settings posted).Follows course
      (fun _ after => after.answer.isSome = true) { request := posted } := by
  have waiting : Progress.Waiting posted { request := posted } :=
    ⟨rfl, rfl, rfl, rfl, rfl, rfl, by rintro ⟨record, isNone, -⟩; cases isNone⟩
  apply (beginSwgBootstrapIdempotency_course settings waiting).bind
  intro result current begun
  match result, begun with
  | .error failure, begun =>
      refine follows_await begun.1 begun.2 ?_
      intro _
      rfl
  | .ok (.existing response statusCode), begun =>
      refine follows_await begun.1 (begun.2 _) ?_
      intro _
      rfl
  | .ok .acquired, begun => exact createForTransaction_course begun

theorem BootstrapJob.body_course (settings : BootstrapSettings) (job : BootstrapJob)
    (current : Progress) (known : job.opening = some current) :
    (job.body settings).Follows course (fun _ after => after.answer.isSome = true) current := by
  cases job with
  | post posted =>
      cases known
      exact postSwgSessions_course settings posted
  | elapse ms => cases known

/-! ## The records and the courses of all requests -/

/-- The request holds its transaction, or has completed it. -/
def Progress.Claims (current : Progress) : Prop :=
  current.acquired = true ∧ (current.settled = false ∨ current.created.isSome = true)

/-- A creation is under way or done. -/
def RecordState.Claimed : RecordState → Prop
  | .creating => True
  | .ready => True
  | .failed => False

/-- A record of a claimed transaction is stored. -/
def Claimed (records : String → Option IdempotencyRecord) (key : String) : Prop :=
  ∃ record, records key = some record ∧ record.state.Claimed

/-- Some request of the transaction completed it with this response. -/
def CompletedBy (courses : Nat → Option Progress) (key fingerprint : String)
    (response : BootstrapResponse) : Prop :=
  ∃ index one, courses index = some one ∧ one.key = key ∧ one.fingerprint = fingerprint ∧
    one.Completed response

/-- A claimed transaction has one claimant, whose record is stored; every response that is
stored or was read is that of a request which completed the transaction; nothing is created
outside of a claim, and answers follow from what was read. -/
structure Accounted (records : String → Option IdempotencyRecord)
    (courses : Nat → Option Progress) : Prop where
  unique : ∀ first second one other, courses first = some one → courses second = some other →
    one.key = other.key → one.Claims → other.Claims → first = second
  stored : ∀ index one, courses index = some one → one.Claims → Claimed records one.key
  origin : ∀ key record response, records key = some record →
    record.response = some response → CompletedBy courses key record.fingerprint response
  readOrigin : ∀ index one record response, courses index = some one →
    one.seen = some record → record.response = some response →
    CompletedBy courses one.key record.fingerprint response
  creation : ∀ index one, courses index = some one → one.created.isSome = true → one.Claims
  answers : ∀ index one answer, courses index = some one → one.answer = some answer →
    one.Justifies answer

/-- What one operation of a request may do to the records and to its own course. -/
structure Progress.Change (records records' : String → Option IdempotencyRecord)
    (before after : Progress) : Prop where
  request : after.request = before.request
  frame : ∀ key, key ≠ before.key → records' key = records key
  alone : after.Claims → before.Claims ∨ records before.key = none
  keeps : Claimed records before.key → before.Claims ∨ Claimed records' before.key
  stores : after.Claims → Claimed records' before.key
  completed : ∀ response, before.Completed response → after.Completed response
  origin : ∀ record response, records' before.key = some record →
    record.response = some response → records before.key = some record ∨
      record.fingerprint = before.fingerprint ∧ after.Completed response
  seen : ∀ record, after.seen = some record →
    before.seen = some record ∨ records before.key = some record
  creation : after.created.isSome = true → after.Claims
  answers : ∀ answer, after.answer = some answer → after.Justifies answer

section Change

variable {records records' : String → Option IdempotencyRecord}
  {courses : Nat → Option Progress} {index : Nat} {before after : Progress}

theorem Progress.Change.key (change : Progress.Change records records' before after) :
    after.key = before.key := by
  rw [Progress.key, Progress.transactionId, change.request]
  rfl

theorem Progress.Change.fingerprint (change : Progress.Change records records' before after) :
    after.fingerprint = before.fingerprint := by
  rw [Progress.fingerprint, change.request]
  rfl

/-- Completions stay on record. -/
theorem Progress.Change.completedBy (change : Progress.Change records records' before after)
    (found : courses index = some before) {key fingerprint : String}
    {response : BootstrapResponse} (completed : CompletedBy courses key fingerprint response) :
    CompletedBy (Function.update courses index (some after)) key fingerprint response := by
  obtain ⟨creator, one, located, sameKey, sameFingerprint, stored⟩ := completed
  by_cases same : creator = index
  · subst same
    cases found.symm.trans located
    exact ⟨creator, after, Function.update_self .., change.key.trans sameKey,
      change.fingerprint.trans sameFingerprint, change.completed response stored⟩
  · exact ⟨creator, one, (Function.update_of_ne same ..).trans located, sameKey,
      sameFingerprint, stored⟩

/-- Another claimant of the transaction excludes the claim of this request. -/
theorem Accounted.not_claims (holds : Accounted records courses)
    (change : Progress.Change records records' before after) (found : courses index = some before)
    {other : Nat} {one : Progress} (located : courses other = some one) (different : other ≠ index)
    (sameKey : one.key = before.key) (claims : one.Claims) : ¬before.Claims ∧ ¬after.Claims := by
  have notBefore : ¬before.Claims := by
    intro claimed
    exact different (holds.unique other index one before located found sameKey claims claimed)
  refine ⟨notBefore, ?_⟩
  intro claimed
  rcases change.alone claimed with old | absent
  · exact notBefore old
  · obtain ⟨record, isStored, -⟩ := holds.stored other one located claims
    rw [sameKey, absent] at isStored
    cases isStored

theorem Accounted.change (holds : Accounted records courses) (found : courses index = some before)
    (change : Progress.Change records records' before after) :
    Accounted records' (Function.update courses index (some after)) := by
  -- a course of the changed family is the changed one or one of another request
  have split : ∀ position one, Function.update courses index (some after) position = some one →
      position = index ∧ one = after ∨ position ≠ index ∧ courses position = some one := by
    intro position one located
    by_cases same : position = index
    · subst same
      rw [Function.update_self] at located
      exact .inl ⟨rfl, (Option.some.inj located).symm⟩
    · rw [Function.update_of_ne same] at located
      exact .inr ⟨same, located⟩
  have originOf : ∀ key record response, records key = some record →
      record.response = some response → CompletedBy (Function.update courses index (some after))
        key record.fingerprint response := by
    intro key record response isStored hasResponse
    exact change.completedBy found (holds.origin key record response isStored hasResponse)
  constructor
  · intro first second one other locatedOne locatedOther sameKey claimsOne claimsOther
    rcases split first one locatedOne with ⟨rfl, rfl⟩ | ⟨differsOne, oldOne⟩ <;>
      rcases split second other locatedOther with ⟨rfl, rfl⟩ | ⟨differsOther, oldOther⟩
    · rfl
    · exact absurd claimsOne (holds.not_claims change found oldOther differsOther
        (sameKey.symm.trans change.key) claimsOther).2
    · exact absurd claimsOther (holds.not_claims change found oldOne differsOne
        (sameKey.trans change.key) claimsOne).2
    · exact holds.unique first second one other oldOne oldOther sameKey claimsOne claimsOther
  · intro position one located claims
    rcases split position one located with ⟨rfl, rfl⟩ | ⟨differs, old⟩
    · rw [change.key]
      exact change.stores claims
    · have isStored := holds.stored position one old claims
      by_cases sameKey : one.key = before.key
      · rw [sameKey] at isStored ⊢
        rcases change.keeps isStored with claimed | kept
        · exact absurd claimed
            (holds.not_claims change found old differs sameKey claims).1
        · exact kept
      · obtain ⟨record, isRecord, claimed⟩ := isStored
        exact ⟨record, (change.frame _ sameKey).trans isRecord, claimed⟩
  · intro key record response isStored hasResponse
    by_cases sameKey : key = before.key
    · subst sameKey
      rcases change.origin record response isStored hasResponse with old | ⟨mine, completed⟩
      · exact originOf _ record response old hasResponse
      · exact ⟨index, after, Function.update_self .., change.key,
          change.fingerprint.trans mine.symm, completed⟩
    · rw [change.frame key sameKey] at isStored
      exact originOf key record response isStored hasResponse
  · intro position one record response located wasSeen hasResponse
    rcases split position one located with ⟨rfl, rfl⟩ | ⟨differs, old⟩
    · rw [change.key]
      rcases change.seen record wasSeen with earlier | isStored
      · exact change.completedBy found
          (holds.readOrigin position before record response found earlier hasResponse)
      · exact originOf _ record response isStored hasResponse
    · exact change.completedBy found
        (holds.readOrigin position one record response old wasSeen hasResponse)
  · intro position one located isCreated
    rcases split position one located with ⟨rfl, rfl⟩ | ⟨differs, old⟩
    · exact change.creation isCreated
    · exact holds.creation position one old isCreated
  · intro position one answer located answered
    rcases split position one located with ⟨rfl, rfl⟩ | ⟨differs, old⟩
    · exact change.answers answer answered
    · exact holds.answers position one answer old answered

/-- A new request claims nothing. -/
theorem Accounted.start (holds : Accounted records courses) (free : courses index = none)
    (posted : BootstrapRequest) :
    Accounted records (Function.update courses index (some { request := posted })) := by
  have unclaimed : ¬Progress.Claims { request := posted } := by
    rintro ⟨acquired, -⟩
    cases acquired
  have split : ∀ position one,
      Function.update courses index (some { request := posted }) position = some one →
      one = { request := posted } ∨ courses position = some one := by
    intro position one located
    by_cases same : position = index
    · subst same
      rw [Function.update_self] at located
      exact .inl (Option.some.inj located).symm
    · rw [Function.update_of_ne same] at located
      exact .inr located
  have completedBy : ∀ {key fingerprint response}, CompletedBy courses key fingerprint response →
      CompletedBy (Function.update courses index (some { request := posted })) key fingerprint
        response := by
    rintro key fingerprint response ⟨creator, one, located, facts⟩
    have different : creator ≠ index := by
      rintro rfl
      rw [free] at located
      cases located
    exact ⟨creator, one, (Function.update_of_ne different ..).trans located, facts⟩
  constructor
  · intro first second one other locatedOne locatedOther sameKey claimsOne claimsOther
    rcases split first one locatedOne with rfl | oldOne
    · exact absurd claimsOne unclaimed
    · rcases split second other locatedOther with rfl | oldOther
      · exact absurd claimsOther unclaimed
      · exact holds.unique first second one other oldOne oldOther sameKey claimsOne claimsOther
  · intro position one located claims
    rcases split position one located with rfl | old
    · exact absurd claims unclaimed
    · exact holds.stored position one old claims
  · intro key record response isStored hasResponse
    exact completedBy (holds.origin key record response isStored hasResponse)
  · intro position one record response located wasSeen hasResponse
    rcases split position one located with rfl | old
    · cases wasSeen
    · exact completedBy (holds.readOrigin position one record response old wasSeen hasResponse)
  · intro position one located isCreated
    rcases split position one located with rfl | old
    · cases isCreated
    · exact holds.creation position one old isCreated
  · intro position one answer located answered
    rcases split position one located with rfl | old
    · cases answered
    · exact holds.answers position one answer old answered

end Change

/-! ## One operation of a request -/

theorem Progress.Holding.claims {current : Progress} (holding : current.Holding) :
    current.Claims := ⟨holding.1, .inl holding.2⟩

theorem Progress.Holding.not_completed {current : Progress} (holding : current.Holding)
    (response : BootstrapResponse) : ¬current.Completed response := by
  rintro ⟨-, settled, -⟩
  rw [holding.2] at settled
  cases settled

/-- An operation that changes neither the records nor what the request claims. -/
theorem Progress.Change.silent {records : String → Option IdempotencyRecord}
    {before after : Progress} (request : after.request = before.request)
    (acquired : after.acquired = before.acquired) (settled : after.settled = before.settled)
    (result : after.created = before.created ∧ after.cookie = before.cookie ∨ before.Holding)
    (seen : after.seen = before.seen ∨ after.seen = records before.key)
    (creation : before.created.isSome = true → before.Claims)
    (answers : ∀ answer, after.answer = some answer → after.Justifies answer)
    (stored : before.Claims → Claimed records before.key) :
    Progress.Change records records before after := by
  have claims : after.Claims ↔ before.Claims := by
    rcases result with ⟨created, -⟩ | holding
    · simp only [Progress.Claims, acquired, settled, created]
    · have held : after.Holding := ⟨acquired.trans holding.1, settled.trans holding.2⟩
      exact ⟨fun _ => holding.claims, fun _ => held.claims⟩
  constructor
  · exact request
  · intro key _
    rfl
  · intro claimed
    exact .inl (claims.mp claimed)
  · intro claimed
    exact .inr claimed
  · intro claimed
    exact stored (claims.mp claimed)
  · intro response completed
    rcases result with ⟨created, cookie⟩ | holding
    · simpa only [Progress.Completed, acquired, settled, created, cookie, request] using completed
    · exact absurd completed (holding.not_completed response)
  · intro record response isStored _
    exact .inl isStored
  · intro record wasSeen
    rcases seen with same | isRead
    · exact .inl (same ▸ wasSeen)
    · exact .inr (isRead ▸ wasSeen)
  · intro isCreated
    rcases result with ⟨created, -⟩ | holding
    · exact claims.mpr (creation (created ▸ isCreated))
    · exact claims.mpr holding.claims
  · exact answers

/-- A `DEL` is safe when it removes no record of a claimed transaction. -/
def BootstrapOp.Safe (records : String → Option IdempotencyRecord) : BootstrapOp → Prop
  | .deleteRecord key => ∀ record, records key = some record → record.state = .failed
  | _ => True

section Exec

variable {records : String → Option IdempotencyRecord} {before after : Progress}

/-- Winning the `SET NX` claims a transaction of which no record is stored. -/
theorem Progress.change_acquire (absent : records before.key = none)
    (acquired : before.acquired = false) (created : before.created = none)
    (unanswered : before.answer = none) :
    Progress.Change records (Function.update records before.key
      (some (creatingRecord before.request.context))) before { before with acquired := true } := by
  have stored : Claimed (Function.update records before.key
      (some (creatingRecord before.request.context))) before.key :=
    ⟨_, Function.update_self .., trivial⟩
  constructor
  · rfl
  · intro key different
    exact Function.update_of_ne different ..
  · intro _
    exact .inr absent
  · intro _
    exact .inr stored
  · intro _
    exact stored
  · rintro response ⟨already, -⟩
    rw [acquired] at already
    cases already
  · intro record response isStored hasResponse
    rw [Function.update_self] at isStored
    cases isStored
    cases hasResponse
  · intro record wasSeen
    exact .inl wasSeen
  · intro isCreated
    simp [created] at isCreated
  · intro answer answered
    simp [unanswered] at answered

/-- Storing the result of the creation: a failure gives the claim up, a response keeps it. -/
theorem Progress.change_settle {record : IdempotencyRecord} (holding : before.Holding)
    (unanswered : before.answer = none)
    (result : before.created = none ∧ record = ⟨.failed, before.fingerprint, none, none⟩ ∨
      ∃ payload, before.created = some payload ∧ record = ⟨.ready, before.fingerprint,
        some (.build before.request.context payload before.cookie), some 200⟩) :
    Progress.Change records (Function.update records before.key (some record)) before
      { before with settled := true } := by
  constructor
  · rfl
  · intro key different
    exact Function.update_of_ne different ..
  · intro _
    exact .inl holding.claims
  · intro _
    exact .inl holding.claims
  · rintro ⟨-, unsettled | isCreated⟩
    · cases unsettled
    · rcases result with ⟨created, -⟩ | ⟨payload, created, rfl⟩
      · simp [created] at isCreated
      · exact ⟨_, Function.update_self .., trivial⟩
  · intro response completed
    exact absurd completed (holding.not_completed response)
  · intro stored response isStored hasResponse
    rw [Function.update_self] at isStored
    cases isStored
    rcases result with ⟨-, rfl⟩ | ⟨payload, created, rfl⟩
    · cases hasResponse
    · cases hasResponse
      exact .inr ⟨rfl, holding.1, rfl, payload, created, rfl⟩
  · intro stored wasSeen
    exact .inl wasSeen
  · intro isCreated
    exact ⟨holding.1, .inr isCreated⟩
  · intro answer answered
    simp [unanswered] at answered

/-- Deleting the record of a transaction that nobody claims. -/
theorem Progress.change_delete (free : ¬before.Claims)
    (failed : ∀ record, records before.key = some record → record.state = .failed)
    (creation : before.created.isSome = true → before.Claims)
    (unanswered : before.answer = none) :
    Progress.Change records (Function.update records before.key none) before before := by
  constructor
  · rfl
  · intro key different
    exact Function.update_of_ne different ..
  · intro claims
    exact .inl claims
  · rintro ⟨record, isStored, claimed⟩
    rw [failed record isStored] at claimed
    exact claimed.elim
  · intro claims
    exact absurd claims free
  · intro response completed
    exact completed
  · intro record response isStored _
    simp at isStored
  · intro record wasSeen
    exact .inl wasSeen
  · exact creation
  · intro answer answered
    rw [unanswered] at answered
    cases answered

end Exec

/-- What an operation that the course permits does, unless it deletes a claimed record. -/
theorem Progress.change_exec {outcome : BootstrapOutcome} {op : BootstrapOp}
    {state : BootstrapState} {before : Progress} (unanswered : before.answer = none)
    (permitted : before.Permits op) (safe : op.Safe state.records)
    (creation : before.created.isSome = true → before.Claims)
    (stored : before.Claims → Claimed state.records before.key) :
    Progress.Change state.records (state.exec outcome op).1.records before
      (before.after op (state.exec outcome op).2) := by
  have noAnswer : ∀ {after : Progress}, after.answer = before.answer →
      ∀ answer, after.answer = some answer → after.Justifies answer := by
    intro after same answer answered
    rw [same, unanswered] at answered
    cases answered
  have unchanged := @Progress.Change.silent state.records before before
    rfl rfl rfl (.inl ⟨rfl, rfl⟩) (.inl rfl) creation (noAnswer rfl) stored
  cases op with
  | setRecord key record nx =>
      cases nx with
      | true =>
          obtain ⟨rfl, acquired, created, -, rfl⟩ := permitted
          cases present : state.records before.key with
          | none =>
              simp only [BootstrapState.exec, present, Option.isSome_none, Bool.false_eq_true,
                and_false, if_false]
              exact change_acquire present acquired created unanswered
          | some record =>
              have refused : { before with acquired := false } = before := by
                rw [← acquired]
              simp only [BootstrapState.exec, present, Option.isSome_some, and_self, if_true]
              exact refused.symm ▸ unchanged
      | false =>
          obtain ⟨rfl, holding, -, result⟩ := permitted
          simp only [BootstrapState.exec, Bool.false_eq_true, false_and, if_false]
          exact change_settle holding unanswered result
  | getRecord key =>
      obtain ⟨rfl, -⟩ := permitted
      exact .silent rfl rfl rfl (.inl ⟨rfl, rfl⟩) (.inr rfl) creation (noAnswer rfl) stored
  | deleteRecord key =>
      obtain ⟨rfl, acquired, -⟩ := permitted
      refine change_delete ?_ safe creation unanswered
      intro claims
      rw [claims.1] at acquired
      cases acquired
  | now => exact unchanged
  | sleep => exact unchanged
  | createSession context =>
      obtain ⟨holding, -⟩ := permitted
      cases result : outcome.created with
      | error failure =>
          simp only [BootstrapState.exec, result]
          exact unchanged
      | ok payload =>
          simp only [BootstrapState.exec, result]
          exact .silent rfl rfl rfl (.inr holding) (.inl rfl) creation (noAnswer rfl) stored
  | viewerCookie sessionId =>
      exact .silent rfl rfl rfl (.inr permitted.1) (.inl rfl) creation (noAnswer rfl) stored
  | respond answer =>
      refine .silent rfl rfl rfl (.inl ⟨rfl, rfl⟩) (.inl rfl) creation ?_ stored
      intro given isGiven
      cases isGiven
      exact permitted
  | elapse ms => exact permitted.elim

/-! ## Runs -/

section Runs

variable {settings : BootstrapSettings}

/-- How far the request of a handler has come. -/
def progress (thread : Thread (bootstrap settings)) : Option Progress :=
  thread.watched course BootstrapJob.opening

/-- How far the request at a position has come. -/
def progressAt (config : Config (bootstrap settings)) (index : Nat) : Option Progress :=
  config.watched course BootstrapJob.opening index

/-- A `DEL` runs only while the stored record, if any, is a failed one. -/
def DeletesOnlyFailed (config : Config (bootstrap settings)) :
    Action (bootstrap settings) → Prop
  | .start _ => True
  | .resume index _ => ∀ op, config.awaits index = some op → op.Safe config.state.records

/-- What a handler without a course does. -/
def BootstrapOp.LetsTimePass : BootstrapOp → Prop
  | .elapse _ => True
  | _ => False

theorem BootstrapJob.body_issues (settings : BootstrapSettings) (job : BootstrapJob) :
    (job.body settings).Issues fun op : BootstrapOp => job.opening = none → op.LetsTimePass := by
  cases job with
  | post posted =>
      apply issues_of_all
      intro op without
      cases without
  | elapse ms => exact ⟨fun _ => trivial, fun _ => trivial⟩

theorem accounted_initial : Accounted BootstrapState.initial.records fun _ => none := by
  constructor <;> simp [BootstrapState.initial]

/-- Requests and the passing of time keep the account, unless a claimed record is deleted. -/
theorem accounted_watch : Watch course BootstrapJob.opening (@DeletesOnlyFailed settings)
    BootstrapOp.LetsTimePass fun state courses => Accounted state.records courses := by
  constructor
  · intro config index job holds free _ _
    cases job with
    | post posted => exact holds.start free posted
    | elapse ms =>
        rw [show BootstrapJob.opening (.elapse ms) = none from rfl, ← free,
          Function.update_eq_self]
        exact holds
  · intro config index choice op current holds located allowed awaited permitted
    apply holds.change located
    exact Progress.change_exec allowed.1 allowed.2 (permitted op awaited)
      (holds.creation index current located) (holds.stored index current located)
  · intro state courses choice op holds passes
    cases op with
    | elapse ms => exact holds
    | _ => exact passes.elim

theorem accounted_of_run {final : Config (bootstrap settings)}
    (run : Run DeletesOnlyFailed ⟨.initial, []⟩ final) :
    Accounted final.state.records (progressAt final) :=
  accounted_watch.run (BootstrapJob.body_course settings) (BootstrapJob.body_issues settings)
    (fun _ _ _ => rfl) run accounted_initial

theorem progress_advance_none {thread : Thread (bootstrap settings)}
    (without : progress thread = none) (op : BootstrapOp) (reply : op.Reply)
    (program : BootstrapHandler Unit) : progress (thread.advance op reply program) = none := by
  change (progress thread).bind _ = none
  rw [without]
  rfl

theorem progress_advance {thread : Thread (bootstrap settings)} {current : Progress}
    (known : progress thread = some current) (op : BootstrapOp) (reply : op.Reply)
    (program : BootstrapHandler Unit) :
    progress (thread.advance op reply program) = some (current.after op reply) := by
  change (progress thread).bind _ = _
  rw [known]
  rfl

theorem Progress.key_inj {one other : Progress} :
    one.key = other.key ↔ one.transactionId = other.transactionId := by
  simp [Progress.key, swgBootstrapIdempotencyKey]

/-- The record of different input was read. -/
def ReadsForeign (fingerprint : String) : Event bootstrap.face → Prop
  | ⟨.getRecord _, found⟩ => ∃ record, found = some record ∧ record.fingerprint ≠ fingerprint
  | _ => False

/-- All that is left is to refuse the request. -/
def Refusing (left : BootstrapHandler Unit) : Prop :=
  ∃ next, left = .request (.respond (.failed reusedTransaction)) next

theorem reacts_await {α : Type} {trigger : Event bootstrap.face → Prop}
    {form : BootstrapHandler α → Prop} {op : BootstrapOp} {rest : op.Reply → BootstrapHandler α}
    (silent : ∀ reply, ¬trigger ⟨op, reply⟩) (next : ∀ reply, (rest reply).Reacts trigger form) :
    (await op >>= rest).Reacts trigger form :=
  fun reply => ⟨fun fires => absurd fires (silent reply), next reply⟩

theorem acquire_reacts {α : Type} {fingerprint key : String} {record : IdempotencyRecord}
    {form : BootstrapHandler α → Prop} {granted refused : BootstrapHandler α}
    (wins : granted.Reacts (ReadsForeign fingerprint) form)
    (loses : refused.Reacts (ReadsForeign fingerprint) form) :
    (await (.setRecord key record true) >>= fun reply : Bool =>
      if reply then granted else refused).Reacts (ReadsForeign fingerprint) form := by
  apply reacts_await (fun _ => id)
  intro reply
  cases reply with
  | true => exact wins
  | false => exact loses

theorem pollIdempotency_reacts (context : SwgContext) (key : String) (deadline rounds : Nat) :
    (pollIdempotency context key deadline rounds).Reacts
      (ReadsForeign context.requestFingerprint) (· = .pure (.error reusedTransaction)) := by
  induction rounds with
  | zero => trivial
  | succ rounds ih =>
      intro found
      cases found with
      | none =>
          refine ⟨?_, ?_⟩
          · rintro ⟨record, isNone, -⟩
            cases isNone
          · exact acquire_reacts trivial ih
      | some existing =>
          refine ⟨?_, ?_⟩
          · rintro ⟨record, isFound, differs⟩
            cases isFound
            exact if_pos differs
          · dsimp only [Program.bind]
            split
            · trivial
            · split
              · trivial
              · exact reacts_await (fun _ => id) fun _ => acquire_reacts trivial ih
              · apply reacts_await (fun _ => id)
                intro now
                split
                · trivial
                · exact reacts_await (fun _ => id) fun _ => ih

theorem createForTransaction_reacts (posted : BootstrapRequest) (fingerprint : String) :
    (createForTransaction posted).Reacts (ReadsForeign fingerprint) Refusing := by
  apply reacts_await (fun _ => id)
  intro result
  cases result with
  | error failure =>
      exact reacts_await (fun _ => id) fun _ => fun _ => ⟨False.elim, trivial⟩
  | ok payload =>
      dsimp only
      split
      · apply reacts_await (fun _ => id)
        intro cookie
        exact reacts_await (fun _ => id) fun _ => fun _ => ⟨False.elim, trivial⟩
      · exact reacts_await (fun _ => id) fun _ => fun _ => ⟨False.elim, trivial⟩

theorem postSwgSessions_reacts (settings : BootstrapSettings) (posted : BootstrapRequest) :
    (postSwgSessions settings posted).Reacts
      (ReadsForeign posted.context.requestFingerprint) Refusing := by
  have begins : (beginSwgBootstrapIdempotency settings posted.context).Reacts
      (ReadsForeign posted.context.requestFingerprint) (· = .pure (.error reusedTransaction)) :=
    reacts_await (fun _ => id) fun _ => acquire_reacts trivial (pollIdempotency_reacts ..)
  apply begins.bind
  · intro result
    match result with
    | .error failure => exact fun _ => ⟨False.elim, trivial⟩
    | .ok (.existing response statusCode) => exact fun _ => ⟨False.elim, trivial⟩
    | .ok .acquired => exact createForTransaction_reacts posted _
  · rintro left rfl
    exact ⟨_, rfl⟩

/-- A request that read a foreign record and is not answered yet is about to be refused,
and any that will read one reacts so. -/
structure Refuses (thread : Thread (bootstrap settings)) : Prop where
  reacts : ∀ posted, thread.job = .post posted →
    thread.program.Reacts (ReadsForeign posted.context.requestFingerprint) Refusing
  refusing : ∀ current, progress thread = some current → current.Foreign →
    current.answer = none → Refusing thread.program

theorem progress_request {thread : Thread (bootstrap settings)} {current : Progress}
    (known : progress thread = some current) : thread.job = .post current.request := by
  obtain ⟨job, past, program⟩ := thread
  induction past generalizing current with
  | nil =>
      cases job with
      | post posted =>
          cases known
          rfl
      | elapse ms => cases known
  | cons event past ih =>
      obtain ⟨op, reply⟩ := event
      change Option.bind (course.after job.opening past) _ = some current at known
      obtain ⟨earlier, reached, moved⟩ := Option.bind_eq_some_iff.mp known
      cases moved
      have same : (earlier.after op reply).request = earlier.request := by
        unfold Progress.after
        split <;> rfl
      rw [same]
      exact ih reached

/-- A request that has read a foreign record and is unanswered has just read it, or was
so before and has not issued its answer. -/
theorem Progress.foreign_after {current : Progress} {op : BootstrapOp} {reply : op.Reply}
    (foreign : (current.after op reply).Foreign)
    (unanswered : (current.after op reply).answer = none) :
    ReadsForeign current.fingerprint ⟨op, reply⟩ ∨
      current.Foreign ∧ current.answer = none ∧ ∀ answer, op ≠ .respond answer := by
  cases op with
  | getRecord key => exact .inl foreign
  | respond answer => cases unanswered
  | setRecord key record nx =>
      cases nx with
      | true => exact .inr ⟨foreign, unanswered, by simp⟩
      | false => exact .inr ⟨foreign, unanswered, by simp⟩
  | createSession context =>
      cases reply with
      | ok payload => exact .inr ⟨foreign, unanswered, by simp⟩
      | error failure => exact .inr ⟨foreign, unanswered, by simp⟩
  | _ => exact .inr ⟨foreign, unanswered, by simp⟩

theorem refuses_of_run {allowed : Config (bootstrap settings) → Action _ → Prop}
    {final : Config (bootstrap settings)} (run : Run allowed ⟨.initial, []⟩ final) :
    ∀ thread ∈ final.threads, Refuses thread := by
  refine run.each ?starts ?resumes (by simp)
  case starts =>
    intro config job _
    constructor
    · rintro posted rfl
      exact postSwgSessions_reacts settings posted
    · intro current known foreign _
      cases job with
      | post posted =>
          cases known
          obtain ⟨record, isNone, -⟩ := foreign
          cases isNone
      | elapse ms => cases known
  case resumes =>
    intro config index choice thread op next _ found suspended before
    constructor
    · intro posted isPosted
      have reacts := before.reacts posted isPosted
      rw [suspended] at reacts
      exact (reacts _).2
    · intro current known foreign unanswered
      cases reached : progress thread with
      | none =>
          rw [progress_advance_none reached] at known
          cases known
      | some earlier =>
          rw [progress_advance reached] at known
          cases known
          rcases Progress.foreign_after foreign unanswered with reads | ⟨was, open', notAnswer⟩
          · have reacts := before.reacts _ (progress_request reached)
            rw [suspended] at reacts
            exact (reacts _).1 reads
          · obtain ⟨left, refusing⟩ := before.refusing earlier reached was open'
            rw [suspended] at refusing
            injection refusing with isAnswer
            exact absurd isAnswer (notAnswer _)

/-- A request that read a foreign record and is not answered yet awaits its refusal. -/
theorem awaits_refusal {config : Config (bootstrap settings)}
    (refuses : ∀ thread ∈ config.threads, Refuses thread)
    {index : Nat} {one : Progress} (located : progressAt config index = some one)
    (foreign : one.Foreign) (unanswered : one.answer = none) :
    config.awaits index = some (.respond (.failed reusedTransaction)) := by
  obtain ⟨thread, found, known⟩ := Option.bind_eq_some_iff.mp located
  obtain ⟨next, suspended⟩ :=
    (refuses thread (List.mem_of_getElem? found)).refusing one known foreign unanswered
  exact Config.awaits_eq_some found suspended

/-- What idempotency of the bootstrap means for all requests handled so far: of the
requests of a transaction at most one holds it and at most one created a session; a
request that read a record of different input is answered with that conflict; and a
replayed response is the one stored by the request that completed the transaction. -/
structure Idempotent (config : Config (bootstrap settings)) : Prop where
  holder : ∀ first second one other, progressAt config first = some one →
    progressAt config second = some other → one.transactionId = other.transactionId →
    one.Holding → other.Holding → first = second
  created : ∀ first second one other, progressAt config first = some one →
    progressAt config second = some other → one.transactionId = other.transactionId →
    one.created.isSome = true → other.created.isSome = true → first = second
  reused : ∀ index one, progressAt config index = some one → one.Foreign →
    one.answer = some (.failed reusedTransaction) ∨
      config.awaits index = some (.respond (.failed reusedTransaction))
  replayed : ∀ index one status response, progressAt config index = some one →
    one.answer = some (.replayed status response) →
    ∃ creator other, progressAt config creator = some other ∧
      other.transactionId = one.transactionId ∧ other.fingerprint = one.fingerprint ∧
      other.Completed response

/-- In every run in which a `DEL` removes at most a failed record, the bootstrap is
idempotent. -/
theorem bootstrap_is_idempotent {final : Config (bootstrap settings)}
    (run : Run DeletesOnlyFailed ⟨.initial, []⟩ final) : Idempotent final := by
  have account := accounted_of_run run
  constructor
  · intro first second one other locatedOne locatedOther same holdingOne holdingOther
    exact account.unique first second one other locatedOne locatedOther
      (Progress.key_inj.mpr same) holdingOne.claims holdingOther.claims
  · intro first second one other locatedOne locatedOther same createdOne createdOther
    exact account.unique first second one other locatedOne locatedOther
      (Progress.key_inj.mpr same) (account.creation first one locatedOne createdOne)
      (account.creation second other locatedOther createdOther)
  · intro index one located foreign
    cases answered : one.answer with
    | none => exact .inr (awaits_refusal (refuses_of_run run) located foreign answered)
    | some answer =>
        have justified := account.answers index one answer located answered
        exact .inl (congrArg some (justified.1 foreign))
  · intro index one status response located answered
    obtain ⟨record, wasSeen, sameFingerprint, hasResponse⟩ :=
      (account.answers index one _ located answered).2 status response rfl
    obtain ⟨creator, other, found, sameKey, fingerprint, completed⟩ :=
      account.readOrigin index one record response located wasSeen hasResponse
    exact ⟨creator, other, found, Progress.key_inj.mp sameKey,
      fingerprint.trans sameFingerprint, completed⟩

/-! ## Two requests of one transaction -/

/-- The check of a `DEL` that removes at most a failed record. -/
def deletesOnlyFailed (config : Config (bootstrap settings)) :
    Action (bootstrap settings) → Bool
  | .start _ => true
  | .resume index _ => match config.awaits index with
      | some (.deleteRecord key) =>
          (config.state.records key).all fun record => record.state = .failed
      | _ => true

theorem deletesOnlyFailed_of_check (config : Config (bootstrap settings))
    (action : Action (bootstrap settings)) (passes : deletesOnlyFailed config action = true) :
    DeletesOnlyFailed config action := by
  cases action with
  | start job => trivial
  | resume index choice =>
      intro op awaited
      cases op with
      | deleteRecord key =>
          intro record isStored
          simpa [deletesOnlyFailed, awaited, isStored] using passes
      | _ => trivial

end Runs

/-- The waiters poll a few times. -/
def patientSettings : BootstrapSettings := ⟨1000, 3⟩

/-- A request of transaction `tx`. -/
def requestOf (fingerprint : String) : BootstrapRequest where
  context := { transactionId := "tx", requestFingerprint := fingerprint }

/-- Such a request arrives. -/
def arrives (fingerprint : String) : Action (bootstrap patientSettings) :=
  .start (BootstrapJob.post (requestOf fingerprint))

/-- The creation succeeds with this session. -/
def creates (sessionId : String) : BootstrapOutcome := { created := .ok { sessionId } }

/-- The creation fails. -/
def createsNothing : BootstrapOutcome := { created := .error ⟨503, "no capacity"⟩ }

/-- The request at a position was answered so. -/
def answeredAt (config : Config (bootstrap patientSettings)) (index : Nat) : Option Answer :=
  (progressAt config index).bind Progress.answer

/-- The second request polls until the first one has stored its response. -/
def replaySchedule : List (Action (bootstrap patientSettings)) :=
  arrives "a" :: arrives "a" ::
    Action.resumes 0 2 (creates "s") ++ Action.resumes 1 2 (creates "t") ++
    Action.resumes 0 4 (creates "s") ++ Action.resumes 1 2 (creates "t")

/-- The second request of a transaction is answered with the response that the first one
stored. -/
theorem second_request_is_replayed :
    ∃ final : Config (bootstrap patientSettings), Run DeletesOnlyFailed ⟨.initial, []⟩ final ∧
      answeredAt final 1 = some (.replayed 200
        (.build (requestOf "a").context { sessionId := "s" } none)) ∧ Idempotent final := by
  obtain ⟨final, run, replayed⟩ := Run.exists_of_schedule deletesOnlyFailed_of_check
    (⟨.initial, []⟩ : Config (bootstrap patientSettings))
    replaySchedule (fun final => decide (answeredAt final 1 = some (.replayed 200
      (.build (requestOf "a").context { sessionId := "s" } none)))) (by decide)
  exact ⟨final, run, of_decide_eq_true replayed, bootstrap_is_idempotent run⟩

/-- Whether the request at a position created a session. -/
def createdAt (config : Config (bootstrap patientSettings)) (index : Nat) : Bool :=
  (progressAt config index).any fun one =>
    decide (one.transactionId = "tx") && one.created.isSome

/-- Both waiters read the failed record before either deletes it. -/
def lateDeleteSchedule : List (Action (bootstrap patientSettings)) :=
  arrives "a" :: arrives "a" ::
    arrives "a" :: Action.resumes 0 4 createsNothing ++
    Action.resumes 1 3 (creates "s") ++ Action.resumes 2 3 (creates "t") ++
    Action.resumes 1 3 (creates "s") ++ Action.resumes 2 3 (creates "t")

/-- Two waiters read the failed record.  The first deletes it, acquires the transaction and
creates a session; the second deletes the record of that creation and creates another. -/
theorem late_delete_creates_second_session :
    ¬∀ (settings : BootstrapSettings) (final : Config (bootstrap settings)),
      Run anyAction ⟨BootstrapState.initial, []⟩ final → Idempotent final := by
  intro idempotent
  obtain ⟨final, run, both⟩ := Run.exists_of_actions
    (⟨.initial, []⟩ : Config (bootstrap patientSettings))
    lateDeleteSchedule (fun final => createdAt final 1 && createdAt final 2) (by decide)
  obtain ⟨first, second⟩ := Bool.and_eq_true_iff.mp both
  obtain ⟨one, locatedOne, createdOne⟩ := (Option.any_eq_true ..).mp first
  obtain ⟨other, locatedOther, createdOther⟩ := (Option.any_eq_true ..).mp second
  obtain ⟨ofOne, hasOne⟩ := Bool.and_eq_true_iff.mp createdOne
  obtain ⟨ofOther, hasOther⟩ := Bool.and_eq_true_iff.mp createdOther
  have same := (of_decide_eq_true ofOne).trans (of_decide_eq_true ofOther).symm
  have equal := (idempotent patientSettings final run).created 1 2 one other locatedOne
    locatedOther same hasOne hasOther
  cases equal

end RemoteBrowser.Swg
