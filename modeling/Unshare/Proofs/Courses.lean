import Mathlib.Logic.ExistsUnique
import Unshare.Proofs.Pipeline

namespace Unshare

-- A call on one of the services, with what it was given and what it answered.
inductive Services.Event
  | fetch (id : GrantId) (answer : Except Failure Grant)
  | remove (id : GrantId) (answer : Except Failure Unit)
  | forget (id : GrantId) (answer : Except Failure Unit)
  | audit (event : AuditEvent) (answer : Except Failure Unit)
  | log (attempt : Attempt) (answer : Except Failure Unit)
  | list (query : Attempt.Query) (answer : Except Failure (List LoggedAttempt))

namespace Services

variable {σ : Type}

-- Makes a call and adds it to what was seen.
def watch {α : Type} (event : α → Event) (call : StateM σ α) : StateM (σ × List Event) α :=
  fun (x, seen) =>
    let (answer, y) := call.run x
    (answer, y, seen ++ [event answer])

-- The same services, with every call seen.
def watched (s : Services (StateM σ)) : Services (StateM (σ × List Event)) where
  fetchGrant id := watch (.fetch id) (s.fetchGrant id)
  removeGrant id := watch (.remove id) (s.removeGrant id)
  forgetGrant id := watch (.forget id) (s.forgetGrant id)
  appendAudit event := watch (.audit event) (s.appendAudit event)
  appendAttempt attempt := watch (.log attempt) (s.appendAttempt attempt)
  listAttempts query := watch (.list query) (s.listAttempts query)

theorem run_watch {α : Type} {call : StateM σ α} {x y : σ} {answer : α} (event : α → Event)
    (seen : List Event) (h : call.run x = (answer, y)) :
    (watch event call).run (x, seen) = (answer, y, seen ++ [event answer]) := by
  show (let (answer, y) := call.run x; (answer, y, seen ++ [event answer])) = _
  rw [h]

end Services

namespace Revocation

open Services (Event)

inductive Course
  | incomplete
  | fetchFailed (id : GrantId) (f : Failure)
  | refused (id : GrantId) (g : Grant) (reason : Policy.Refusal)
  | removeFailed (id : GrantId) (g : Grant) (f : Failure)
  | removed (id : GrantId) (g : Grant)

namespace Course

variable {σ : Type}

-- The services find the grant in the state `x`, the guard lets it pass, and the directory is then
-- asked to remove it, which it answers like this.
def Removes (s : Services (StateM σ)) (x : σ) (id : GrantId) (g : Grant)
    (answer : Except Failure Unit) : Prop :=
  ∃ y z, (s.fetchGrant id).run x = (.ok g, y) ∧ Policy.evaluate g = .allow ∧
    (s.removeGrant id).run y = (answer, z)

-- What decides on a course that starts in the state `x`.
def Taken (s : Services (StateM σ)) (r : RevokeRequest) (x : σ) : Course → Prop
  | incomplete => r.IsIncomplete
  | fetchFailed id f => r.Addresses id ∧ ∃ y, (s.fetchGrant id).run x = (.error f, y)
  | refused id g reason =>
    r.Addresses id ∧ ∃ y, (s.fetchGrant id).run x = (.ok g, y) ∧ Policy.evaluate g = .deny reason
  | removeFailed id g f => r.Addresses id ∧ Removes s x id g (.error f)
  | removed id g => r.Addresses id ∧ Removes s x id g (.ok ())

-- What is seen of a course. After a removal the local copy and the audit trail may answer anything.
def Seen (events : List Event) (result : Except Failure Revoked) : Course → Prop
  | incomplete =>
    events = [] ∧ result = .error (.validation "driveId_itemId_permissionId_required")
  | fetchFailed id f => events = [.fetch id (.error f)] ∧ result = .error (.dependency f.detail)
  | refused id g reason =>
    events = [.fetch id (.ok g)] ∧ result = .error (.forbidden reason.code)
  | removeFailed id g f =>
    events = [.fetch id (.ok g), .remove id (.error f)] ∧
      result = .error (.dependency f.detail)
  | removed id g =>
    ∃ cached told audited done,
      events = [.fetch id (.ok g), .remove id (.ok ()), .forget id cached, .audit told audited] ∧
        told.entityId = id.composite ∧ result = .ok done

-- The stage that the record of a course names.
def stage : Course → String
  | incomplete | refused .. => "validation"
  | fetchFailed .. => "graph_get_permission"
  | removeFailed .. => "graph_delete_permission"
  | removed .. => "completed"

end Course

-- The record that agrees with the request, the course and the result of an attempt.
structure Records (r : RevokeRequest) (course : Course) (result : Except Failure Revoked)
    (kept : Attempt) : Prop where
  drive : kept.drive = Text.present r.drive
  item : kept.item = Text.present r.item
  permission : kept.permission = Text.present r.permission
  outcome : kept.outcome = .success ↔ ∃ done, result = .ok done
  stage : ∃ fields, kept.details = .object fields ∧
    Json.Fields.get? "stage" fields = some (.string course.stage)
  reason_of_error : ∀ f, result = .error f →
    kept.reason = Report.nonEmpty (some (Attempt.sanitizeReason f.detail)) ∧ kept.warning = none
  reason_of_ok : ∀ done, result = .ok done → kept.reason = none ∧
    kept.warning = Report.nonEmpty (done.warning.map Attempt.boundWarning)

section

variable {r : RevokeRequest} {actor : Option Actor} {defaultSource correlation : String}

theorem records_failureReport {course : Course} (stage : Stage) (facts : Json.Fields) (f : Failure)
    (h : stage.code = course.stage) :
    Records r course (.error f) (Report.toAttempt defaultSource
      (Context.failureReport ⟨r.trimmed, actor, correlation⟩ stage f.detail facts)) where
  drive := rfl
  item := rfl
  permission := rfl
  outcome := by simp [Report.toAttempt, Context.failureReport]
  stage := by
    obtain ⟨fields, hf, hs⟩ := Report.stage_toAttempt defaultSource
      (Context.failureReport ⟨r.trimmed, actor, correlation⟩ stage f.detail facts)
    exact ⟨fields, hf, by rw [← h]; exact hs⟩
  reason_of_error := by
    rintro _ ⟨⟩
    simp [Report.toAttempt, Report.keptReason, Report.keptWarning, Context.failureReport]
  reason_of_ok := by
    rintro _ ⟨⟩

theorem records_successReport {course : Course} (warning : Option String) (facts : Json.Fields)
    (h : Stage.completed.code = course.stage) :
    Records r course (.ok ⟨warning⟩) (Report.toAttempt defaultSource
      (Context.successReport ⟨r.trimmed, actor, correlation⟩ warning facts)) where
  drive := rfl
  item := rfl
  permission := rfl
  outcome := by simp [Report.toAttempt, Context.successReport]
  stage := by
    obtain ⟨fields, hf, hs⟩ := Report.stage_toAttempt defaultSource
      (Context.successReport ⟨r.trimmed, actor, correlation⟩ warning facts)
    exact ⟨fields, hf, by rw [← h]; exact hs⟩
  reason_of_error := by
    rintro _ ⟨⟩
  reason_of_ok := by
    rintro _ ⟨⟩
    simp [Report.toAttempt, Report.keptReason, Report.keptWarning, Context.successReport]

end

section

variable {σ : Type} (s : Services (StateM σ)) (defaultSource correlation : String)
  (r : RevokeRequest) (actor : Option Actor) (x : σ)

-- An attempt that starts in the state `x` makes these calls, then hands this record to the log, and
-- comes to this result, which is the one it comes to when nobody looks on.
def Shows (events : List Event) (kept : Attempt) (result : Except Failure Revoked) : Prop :=
  ∃ answer y,
    (revoke s.watched defaultSource correlation r actor).run (x, []) =
      (result, y, events ++ [.log kept answer]) ∧
    (revoke s defaultSource correlation r actor).run x = (result, y)

-- What an attempt shows fits this course, and so does the record.
def Fits (course : Course) : Prop :=
  ∃ events kept result, Shows s defaultSource correlation r actor x events kept result ∧
    course.Seen events result ∧ Records r course result kept

variable {s defaultSource correlation r actor x}

-- The record of an attempt that ended before the removal.
def refusal (defaultSource correlation : String) (r : RevokeRequest) (actor : Option Actor)
    (stage : Stage) (reason : String) (facts : Json.Fields) : Attempt :=
  (Context.failureReport ⟨r.trimmed, actor, correlation⟩ stage reason facts).toAttempt defaultSource

-- An attempt that goes the way of `refuse` shows the calls made up to there.
theorem shows_of_refuse {events : List Event} {y : σ} (stage : Stage) (facts : Json.Fields)
    (f : Failure)
    (hw : (revoke s.watched defaultSource correlation r actor).run (x, []) =
      (refuse s.watched defaultSource ⟨r.trimmed, actor, correlation⟩ stage facts f).run
        (y, events))
    (hr : (revoke s defaultSource correlation r actor).run x =
      (refuse s defaultSource ⟨r.trimmed, actor, correlation⟩ stage facts f).run y) :
    Shows s defaultSource correlation r actor x events
      (refusal defaultSource correlation r actor stage f.detail facts) (.error f) :=
  ⟨_, _, hw, hr⟩

theorem shows_incomplete (h : r.IsIncomplete) :
    Shows s defaultSource correlation r actor x []
      (refusal defaultSource correlation r actor .validation missingPartsCode
        [("missing", .ofStrings r.trimmed.missing)])
      (.error (.validation missingPartsCode)) := by
  refine shows_of_refuse (y := x) .validation [("missing", .ofStrings r.trimmed.missing)]
    (.validation missingPartsCode) ?_ ?_
  · rw [revoke_of_isIncomplete s.watched defaultSource correlation actor h]
  · rw [revoke_of_isIncomplete s defaultSource correlation actor h]

theorem fits_incomplete (h : r.IsIncomplete) :
    Fits s defaultSource correlation r actor x .incomplete :=
  ⟨_, _, _, shows_incomplete h, ⟨rfl, rfl⟩, records_failureReport _ _ _ rfl⟩

theorem shows_fetchFailed {id : GrantId} {f : Failure}
    (h : (Course.fetchFailed id f).Taken s r x) :
    Shows s defaultSource correlation r actor x [.fetch id (.error f)]
      (refusal defaultSource correlation r actor .fetching f.detail [])
      (.error (.dependency f.detail)) := by
  obtain ⟨ha, y, hf⟩ := h
  have hwatched := Services.run_watch (.fetch id) [] hf
  refine shows_of_refuse (y := y) .fetching [] (.dependency f.detail) ?_ ?_
  · rw [revoke_of_addresses s.watched defaultSource correlation actor ha,
      run_revokeGrant_of_error s.watched defaultSource hwatched]
    rfl
  · rw [revoke_of_addresses s defaultSource correlation actor ha,
      run_revokeGrant_of_error s defaultSource hf]

theorem fits_fetchFailed {id : GrantId} {f : Failure} (h : (Course.fetchFailed id f).Taken s r x) :
    Fits s defaultSource correlation r actor x (.fetchFailed id f) :=
  ⟨_, _, _, shows_fetchFailed h, ⟨rfl, rfl⟩,
    records_failureReport .fetching [] (.dependency f.detail) rfl⟩

theorem shows_refused {id : GrantId} {g : Grant} {reason : Policy.Refusal}
    (h : (Course.refused id g reason).Taken s r x) :
    Shows s defaultSource correlation r actor x [.fetch id (.ok g)]
      (refusal defaultSource correlation r actor .validation reason.code (reason.evidence g))
      (.error (.forbidden reason.code)) := by
  obtain ⟨ha, y, hg, hp⟩ := h
  have hwatched := Services.run_watch (.fetch id) [] hg
  refine shows_of_refuse (y := y) .validation (reason.evidence g) (.forbidden reason.code) ?_ ?_
  · rw [revoke_of_addresses s.watched defaultSource correlation actor ha,
      run_revokeGrant_of_deny s.watched defaultSource hwatched hp]
    rfl
  · rw [revoke_of_addresses s defaultSource correlation actor ha,
      run_revokeGrant_of_deny s defaultSource hg hp]

theorem fits_refused {id : GrantId} {g : Grant} {reason : Policy.Refusal}
    (h : (Course.refused id g reason).Taken s r x) :
    Fits s defaultSource correlation r actor x (.refused id g reason) :=
  ⟨_, _, _, shows_refused h, ⟨rfl, rfl⟩,
    records_failureReport .validation (reason.evidence g) (.forbidden reason.code) rfl⟩

theorem shows_removeFailed {id : GrantId} {g : Grant} {f : Failure}
    (h : (Course.removeFailed id g f).Taken s r x) :
    Shows s defaultSource correlation r actor x [.fetch id (.ok g), .remove id (.error f)]
      (refusal defaultSource correlation r actor .removing f.detail g.details)
      (.error (.dependency f.detail)) := by
  obtain ⟨ha, y, z, hg, hp, hf⟩ := h
  have hfetched := Services.run_watch (.fetch id) [] hg
  have hremoved := Services.run_watch (.remove id) [.fetch id (.ok g)] hf
  refine shows_of_refuse (y := z) .removing g.details (.dependency f.detail) ?_ ?_
  · rw [revoke_of_addresses s.watched defaultSource correlation actor ha,
      run_revokeGrant_of_allow s.watched defaultSource hfetched hp, List.nil_append,
      run_remove_of_error s.watched defaultSource hremoved]
    rfl
  · rw [revoke_of_addresses s defaultSource correlation actor ha,
      run_revokeGrant_of_allow s defaultSource hg hp, run_remove_of_error s defaultSource hf]

theorem fits_removeFailed {id : GrantId} {g : Grant} {f : Failure}
    (h : (Course.removeFailed id g f).Taken s r x) :
    Fits s defaultSource correlation r actor x (.removeFailed id g f) :=
  ⟨_, _, _, shows_removeFailed h, ⟨rfl, rfl⟩,
    records_failureReport .removing g.details (.dependency f.detail) rfl⟩

-- An attempt that comes to the removal shows what followed it.
theorem shows_removed {id : GrantId} {g : Grant} {y z z' : σ} {cached audited : Except Failure Unit}
    (ha : r.Addresses id) (hfetch : (s.fetchGrant id).run x = (.ok g, y))
    (hp : Policy.evaluate g = .allow) (hremove : (s.removeGrant id).run y = (.ok (), z))
    (hforget : (s.forgetGrant id).run z = (cached, z'))
    (haudit : ((s.appendAudit (Context.auditEvent ⟨r.trimmed, actor, correlation⟩ g id)).run z').1 =
      audited) :
    Shows s defaultSource correlation r actor x
      [.fetch id (.ok g), .remove id (.ok ()), .forget id cached,
        .audit (Context.auditEvent ⟨r.trimmed, actor, correlation⟩ g id) audited]
      ((Context.successReport ⟨r.trimmed, actor, correlation⟩ (joinWarnings cached audited)
        g.details).toAttempt defaultSource)
      (.ok ⟨joinWarnings cached audited⟩) := by
  have hfetched := Services.run_watch (.fetch id) [] hfetch
  have hremoved := Services.run_watch (.remove id) [.fetch id (.ok g)] hremove
  let c : Context := ⟨r.trimmed, actor, correlation⟩
  have hw : (revoke s.watched defaultSource correlation r actor).run (x, []) =
      (conclude s.watched defaultSource c id g).run
        (z, [.fetch id (.ok g), .remove id (.ok ())]) := by
    rw [revoke_of_addresses s.watched defaultSource correlation actor ha,
      run_revokeGrant_of_allow s.watched defaultSource hfetched hp, List.nil_append,
      run_remove_of_ok s.watched defaultSource hremoved]
    rfl
  have hr : (revoke s defaultSource correlation r actor).run x =
      (conclude s defaultSource c id g).run z := by
    rw [revoke_of_addresses s defaultSource correlation actor ha,
      run_revokeGrant_of_allow s defaultSource hfetch hp, run_remove_of_ok s defaultSource hremove]
  have hcached : cached = ((s.forgetGrant id).run z).1 := by rw [hforget]
  have hz' : z' = ((s.forgetGrant id).run z).2 := by rw [hforget]
  subst hcached hz' haudit
  exact ⟨_, _, hw, hr⟩

theorem fits_removed {id : GrantId} {g : Grant} (h : (Course.removed id g).Taken s r x) :
    Fits s defaultSource correlation r actor x (.removed id g) := by
  obtain ⟨ha, y, z, hfetch, hp, hremove⟩ := h
  exact ⟨_, _, _, shows_removed ha hfetch hp hremove rfl rfl, ⟨_, _, _, _, rfl, rfl, rfl⟩,
    records_successReport _ _ rfl⟩

theorem fits_of_taken {course : Course} (h : course.Taken s r x) :
    Fits s defaultSource correlation r actor x course := by
  cases course with
  | incomplete => exact fits_incomplete h
  | fetchFailed id f => exact fits_fetchFailed h
  | refused id g reason => exact fits_refused h
  | removeFailed id g f => exact fits_removeFailed h
  | removed id g => exact fits_removed h

theorem Shows.unique {events events' : List Event} {kept kept' : Attempt}
    {result result' : Except Failure Revoked}
    (h : Shows s defaultSource correlation r actor x events kept result)
    (h' : Shows s defaultSource correlation r actor x events' kept' result') :
    events = events' ∧ kept = kept' ∧ result = result' := by
  obtain ⟨answer, y, hw, -⟩ := h
  obtain ⟨answer', y', hw', -⟩ := h'
  obtain ⟨hresult, hrest⟩ := Prod.mk.inj (hw.symm.trans hw')
  obtain ⟨hevents, hlast⟩ := List.append_inj' (Prod.mk.inj hrest).2 rfl
  obtain ⟨hkept, -⟩ := Event.log.inj (List.cons.inj hlast).1
  exact ⟨hevents, hkept, hresult⟩

theorem exists_taken (s : Services (StateM σ)) (r : RevokeRequest) (x : σ) :
    ∃ course : Course, course.Taken s r x := by
  cases r.isIncomplete_or_addresses with
  | inl h => exact ⟨.incomplete, h⟩
  | inr h =>
    obtain ⟨id, ha⟩ := h
    rcases hf : (s.fetchGrant id).run x with ⟨f | g, y⟩
    · exact ⟨.fetchFailed id f, ha, y, hf⟩
    · cases hp : Policy.evaluate g with
      | deny reason => exact ⟨.refused id g reason, ha, y, hf, hp⟩
      | allow =>
        rcases hr : (s.removeGrant id).run y with ⟨f | ⟨⟩, z⟩
        · exact ⟨.removeFailed id g f, ha, y, z, hf, hp, hr⟩
        · exact ⟨.removed id g, ha, y, z, hf, hp, hr⟩

-- Whatever an attempt shows fits the course that it took.
theorem Shows.exists_course {events : List Event} {kept : Attempt}
    {result : Except Failure Revoked}
    (h : Shows s defaultSource correlation r actor x events kept result) :
    ∃ course : Course, course.Taken s r x ∧ course.Seen events result ∧
      Records r course result kept := by
  obtain ⟨course, ht⟩ := exists_taken s r x
  obtain ⟨events', kept', result', hshows, hseen, hrecords⟩ :=
    (fits_of_taken ht : Fits s defaultSource correlation r actor x course)
  obtain ⟨rfl, rfl, rfl⟩ := hshows.unique h
  exact ⟨course, ht, hseen, hrecords⟩

theorem refusal_code_injective {a b : Policy.Refusal} (h : a.code = b.code) : a = b := by
  cases a <;> cases b <;> first | rfl | exact absurd h (by decide)

theorem Course.seen_unique {a b : Course} {events : List Event} {result : Except Failure Revoked}
    (ha : a.Seen events result) (hb : b.Seen events result) : a = b := by
  cases a with
  | incomplete => cases b <;> simp_all [Course.Seen]
  | fetchFailed => cases b <;> simp_all [Course.Seen]
  | refused =>
    cases b with
    | refused =>
      obtain ⟨he, hr⟩ := ha
      obtain ⟨he', hr'⟩ := hb
      have hfailure := Except.error.inj (hr.symm.trans hr')
      have hcode := refusal_code_injective (congrArg Failure.detail hfailure)
      simp_all
    | _ => simp_all [Course.Seen]
  | removeFailed => cases b <;> simp_all [Course.Seen]
  | removed =>
    obtain ⟨cached, told, audited, done, he, -, hr⟩ := ha
    cases b with
    | removed =>
      obtain ⟨cached', told', audited', done', he', -, -⟩ := hb
      simp_all
    | _ => simp_all [Course.Seen]

-- Every attempt takes one course. Its calls are those of the course, all of them about the grant
-- that the request addresses, its result is that of the course, and the record that it keeps at the
-- very end agrees with both.
theorem revoke_takes_one_course (s : Services (StateM σ)) (defaultSource correlation : String)
    (r : RevokeRequest) (actor : Option Actor) (x : σ) :
    ∃ events kept result, Shows s defaultSource correlation r actor x events kept result ∧
      (∃! course : Course, course.Taken s r x) ∧
      (∀ course : Course, course.Seen events result ↔ course.Taken s r x) ∧
      ∀ course : Course, course.Taken s r x → Records r course result kept := by
  obtain ⟨course, ht⟩ := exists_taken s r x
  obtain ⟨events, kept, result, hshows, hseen, hrecords⟩ :=
    (fits_of_taken ht : Fits s defaultSource correlation r actor x course)
  have hunique : ∀ other : Course, other.Taken s r x → other = course := by
    intro other ho
    obtain ⟨events', kept', result', hshows', hseen', -⟩ := fits_of_taken ho
    obtain ⟨rfl, rfl, rfl⟩ := hshows.unique hshows'
    exact Course.seen_unique hseen' hseen
  refine ⟨events, kept, result, hshows, ⟨course, ht, hunique⟩, ?_, ?_⟩
  · intro other
    constructor
    · intro ho
      rwa [Course.seen_unique ho hseen]
    · intro ho
      rwa [hunique other ho]
  · intro other ho
    rwa [hunique other ho]

end

end Revocation

end Unshare
