import Unshare.Proofs.BodyFirst
import Unshare.Proofs.Computations
import Unshare.Proofs.History

namespace Unshare

-- The same answer, up to the kind of a failure.
inductive SameDetail {α : Type} : Except Failure α → Except Failure α → Prop
  | ok (a : α) : SameDetail (.ok a) (.ok a)
  | error {f g : Failure} (h : f.detail = g.detail) : SameDetail (.error f) (.error g)

theorem SameDetail.refl {α : Type} (answer : Except Failure α) : SameDetail answer answer := by
  cases answer with
  | ok a => exact .ok a
  | error f => exact .error rfl

section

variable {σ τ : Type}

-- Services that answer alike up to the kinds of their failures, in states that go together. What
-- the log answers does not count.
structure Services.Alike (states : σ → τ → Prop) (s : Services (StateM σ))
    (s' : Services (StateM τ)) : Prop where
  fetchGrant : ∀ id, Unshare.Alike states SameDetail (s.fetchGrant id) (s'.fetchGrant id)
  removeGrant : ∀ id, Unshare.Alike states SameDetail (s.removeGrant id) (s'.removeGrant id)
  forgetGrant : ∀ id, Unshare.Alike states SameDetail (s.forgetGrant id) (s'.forgetGrant id)
  appendAudit : ∀ event, Unshare.Alike states SameDetail (s.appendAudit event) (s'.appendAudit event)
  appendAttempt : ∀ attempt,
    Unshare.Alike states (fun _ _ => True) (s.appendAttempt attempt) (s'.appendAttempt attempt)

namespace Revocation

theorem joinWarnings_congr {cached cached' audited audited' : Except Failure Unit}
    (hcached : SameDetail cached cached') (haudited : SameDetail audited audited') :
    joinWarnings cached audited = joinWarnings cached' audited' := by
  cases hcached with
  | ok => cases haudited with
    | ok => rfl
    | error h => simp only [joinWarnings, h]
  | error hc => cases haudited with
    | ok => simp only [joinWarnings, hc]
    | error h => simp only [joinWarnings, hc, h]

variable {states : σ → τ → Prop} {s : Services (StateM σ)} {s' : Services (StateM τ)}
  (h : s.Alike states s') (defaultSource : String) (c : Context)

include h

theorem alike_record (report : Report) :
    Alike states Eq (record s defaultSource report) (record s' defaultSource report) :=
  (h.appendAttempt _).bind fun _ _ _ => .pure rfl

theorem alike_refuse (stage : Stage) (facts : Json.Fields) (f : Failure) :
    Alike states Eq (refuse s defaultSource c stage facts f)
      (refuse s' defaultSource c stage facts f) :=
  (alike_record h defaultSource _).bind fun _ _ _ => .pure rfl

theorem alike_conclude (id : GrantId) (g : Grant) :
    Alike states Eq (conclude s defaultSource c id g) (conclude s' defaultSource c id g) := by
  refine (h.forgetGrant id).bind fun cached cached' hcached => ?_
  refine (h.appendAudit _).bind fun audited audited' haudited => ?_
  rw [joinWarnings_congr hcached haudited]
  exact (alike_record h defaultSource _).bind fun _ _ _ => .pure rfl

theorem alike_remove (id : GrantId) (g : Grant) :
    Alike states Eq (remove s defaultSource c id g) (remove s' defaultSource c id g) := by
  refine (h.removeGrant id).bind fun answer answer' hanswer => ?_
  cases hanswer with
  | ok => exact alike_conclude h defaultSource c id g
  | error hdetail =>
    simp only [hdetail]
    exact alike_refuse h defaultSource c .removing g.details _

theorem alike_revokeGrant (id : GrantId) :
    Alike states Eq (revokeGrant s defaultSource c id) (revokeGrant s' defaultSource c id) := by
  refine (h.fetchGrant id).bind fun answer answer' hanswer => ?_
  cases hanswer with
  | ok g =>
    cases hp : Policy.evaluate g with
    | deny reason =>
      simp only [hp]
      exact alike_refuse h defaultSource c .validation _ _
    | allow =>
      simp only [hp]
      exact alike_remove h defaultSource c id g
  | error hdetail =>
    simp only [hdetail]
    exact alike_refuse h defaultSource c .fetching [] _

-- An attempt sees no more of a failure than its detail.
theorem alike_revoke (correlation : String) (r : RevokeRequest) (actor : Option Actor) :
    Alike states Eq (revoke s defaultSource correlation r actor)
      (revoke s' defaultSource correlation r actor) := by
  cases r.isIncomplete_or_addresses with
  | inl hincomplete =>
    rw [revoke_of_isIncomplete s defaultSource correlation actor hincomplete,
      revoke_of_isIncomplete s' defaultSource correlation actor hincomplete]
    exact alike_refuse h defaultSource _ .validation _ _
  | inr haddresses =>
    obtain ⟨id, ha⟩ := haddresses
    rw [revoke_of_addresses s defaultSource correlation actor ha,
      revoke_of_addresses s' defaultSource correlation actor ha]
    exact alike_revokeGrant h defaultSource _ id

end Revocation

end

namespace Api

open Http Revocation

-- No route of a revocation is asked for its head alone.
theorem framed_of_asksToRevoke {m : Type → Type} (api : Api m) {token : String} {r : Request}
    (h : AsksToRevoke token r) (response : Response) :
    api.framed r response = response.addHeaders api.origin.headers := by
  have hhead : r.method ≠ "HEAD" := by
    intro hhead
    obtain ⟨⟨-, hmethod⟩ | ⟨-, hmethod⟩, -⟩ := h
    all_goals
      rw [hhead] at hmethod
      exact absurd hmethod (by decide)
  rw [framed, if_neg hhead]

theorem body_framed_of_asksToRevoke {m : Type → Type} (api : Api m) {token : String} {r : Request}
    (h : AsksToRevoke token r) (response : Response) :
    (api.framed r response).body = response.body := by
  rw [api.framed_of_asksToRevoke h]
  rfl

theorem run_answer_of_revoke {σ : Type} (api : Api (StateM σ)) (correlation : String) {r : Request}
    (h : AsksToRevoke api.adminToken r) (hsize : r.body.length ≤ RevokeInput.maxBodySize) {x y : σ}
    {result : Except Failure Revoked}
    (hrun : (revoke api.services api.defaultSource correlation (RevokeInput.read r)
      (some (actorOf r))).run x = (result, y)) :
    (api.answer correlation r).run x = (api.framed r (ofRevoked result), y) := by
  rw [run_answer, answerBare_of_short api correlation h hsize, StateT.run_bind, hrun]
  rfl

end Api

namespace Memory

open Revocation
open Services (Event)

-- Failures with the same details.
def SameDetails (faults faults' : Faults) : Prop :=
  ∀ service, (faults service).map Failure.detail = (faults' service).map Failure.detail

-- States that differ in the kinds of the failures set in them only.
structure SameButKinds (m m' : Memory) : Prop where
  grants : m.grants = m'.grants
  attempts : m.attempts = m'.attempts
  calls : m.calls = m'.calls
  faults : SameDetails m.faults m'.faults

-- A call is answered alike in states that go together if it is made to fail in both, with the same
-- detail, or acts alike in both.
theorem alike_call_of {α : Type} {states : Memory → Memory → Prop}
    {act act' : Memory → Except Failure α × Memory} {service : Service} {note note' : Call}
    (hfaults : ∀ m m', states m m' →
      (m.faults service).map Failure.detail = (m'.faults service).map Failure.detail)
    (hnoted : ∀ m m', states m m' → states (m.noted note) (m'.noted note'))
    (hact : ∀ m m', states m m' → SameDetail (act m).1 (act' m').1 ∧ states (act m).2 (act' m').2) :
    Alike states SameDetail (call service note act) (call service note' act') := by
  intro m m' hstates
  have hsame := hfaults m m' hstates
  show SameDetail (call service note act m).1 (call service note' act' m').1 ∧
    states (call service note act m).2 (call service note' act' m').2
  cases hf : m.faults service with
  | none =>
    rw [hf] at hsame
    rw [call_of_no_fault hf, call_of_no_fault (Option.map_eq_none_iff.mp hsame.symm)]
    exact hact _ _ (hnoted m m' hstates)
  | some f =>
    rw [hf] at hsame
    obtain ⟨f', hf', hdetail⟩ := Option.map_eq_some_iff.mp hsame.symm
    rw [call_of_fault hf, call_of_fault hf']
    exact ⟨.error hdetail.symm, hnoted m m' hstates⟩

theorem alike_fetchGrant_of_find? {states : Memory → Memory → Prop} {id : GrantId}
    (hfaults : ∀ m m', states m m' →
      (m.faults .fetch).map Failure.detail = (m'.faults .fetch).map Failure.detail)
    (hnoted : ∀ m m', states m m' → states (m.noted (.fetch id)) (m'.noted (.fetch id)))
    (hfind : ∀ m m', states m m' → m.find? id = m'.find? id) :
    Alike states SameDetail (services.fetchGrant id) (services.fetchGrant id) := by
  refine alike_call_of hfaults hnoted ?_
  intro m m' hstates
  rw [hfind m m' hstates]
  cases m'.find? id with
  | some g => exact ⟨.ok g, hstates⟩
  | none => exact ⟨.error rfl, hstates⟩

theorem alike_fetchGrant {states : Memory → Memory → Prop} {id : GrantId}
    (hfaults : ∀ m m', states m m' →
      (m.faults .fetch).map Failure.detail = (m'.faults .fetch).map Failure.detail)
    (hnoted : ∀ m m', states m m' → states (m.noted (.fetch id)) (m'.noted (.fetch id)))
    (hgrants : ∀ m m', states m m' → m.grants = m'.grants) :
    Alike states SameDetail (services.fetchGrant id) (services.fetchGrant id) := by
  refine alike_fetchGrant_of_find? hfaults hnoted ?_
  intro m m' hstates
  rw [find?, find?, hgrants m m' hstates]

theorem SameButKinds.noted {m m' : Memory} (h : SameButKinds m m') (note : Call) :
    SameButKinds (m.noted note) (m'.noted note) :=
  ⟨h.grants, h.attempts, congrArg (· ++ [note]) h.calls, h.faults⟩

theorem alike_call {α : Type} {act : Memory → Except Failure α × Memory} (service : Service)
    (note : Call) (h : ∀ m m', SameButKinds m m' →
      SameDetail (act m).1 (act m').1 ∧ SameButKinds (act m).2 (act m').2) :
    Alike SameButKinds SameDetail (call service note act) (call service note act) :=
  alike_call_of (fun _ _ hsame => hsame.faults service) (fun _ _ hsame => hsame.noted note) h

theorem alike_services : services.Alike SameButKinds services where
  fetchGrant id := alike_fetchGrant (fun _ _ hsame => hsame.faults .fetch)
    (fun _ _ hsame => hsame.noted _) (fun _ _ hsame => hsame.grants)
  removeGrant id := by
    apply alike_call
    intro m m' hsame
    have hgrants : (m.erase id).grants = (m'.erase id).grants := by
      simp only [erase, hsame.grants]
    exact ⟨.ok (), hgrants, hsame.attempts, hsame.calls, hsame.faults⟩
  forgetGrant id := alike_call _ _ fun m m' hsame => ⟨.ok (), hsame⟩
  appendAudit event := alike_call _ _ fun m m' hsame => ⟨.ok (), hsame⟩
  appendAttempt attempt := by
    apply Alike.ignore
    apply alike_call
    intro m m' hsame
    have hattempts : (m.keep attempt).attempts = (m'.keep attempt).attempts := by
      simp only [keep, hsame.attempts]
    exact ⟨.ok (), hsame.grants, hattempts, hsame.calls, hsame.faults⟩

-- The call that was seen, without its answer.
def callOf : Event → Call
  | .fetch id _ => .fetch id
  | .remove id _ => .remove id
  | .forget id _ => .forget id
  | .audit event _ => .audit event
  | .log attempt _ => .log attempt
  | .list query _ => .list query

def Call.isLog : Call → Bool
  | .log _ => true
  | _ => false

-- Everything that was seen is noted, and nothing else.
def NotesSeen (x : Memory × List Event) (m : Memory) : Prop :=
  x.1 = m ∧ m.calls = x.2.map callOf

theorem alike_watch {α : Type} {act : StateM Memory (Except Failure α)} {note : Call}
    (event : Except Failure α → Event) (hevent : ∀ answer, callOf (event answer) = note)
    (hact : ∀ m, (act.run m).2.calls = m.calls ++ [note]) :
    Alike NotesSeen SameDetail (Services.watch event act) act := by
  rintro ⟨m, seen⟩ _ ⟨rfl, hcalls⟩
  refine ⟨.refl _, rfl, ?_⟩
  show (act.run m).2.calls = (seen ++ [event (act.run m).1]).map callOf
  rw [hact, hcalls, List.map_append, List.map_singleton, hevent]

theorem alike_watched : services.watched.Alike NotesSeen services where
  fetchGrant id := by
    refine alike_watch (.fetch id) (fun _ => rfl) fun m => ?_
    rw [run_fetchGrant]
    cases m.faults .fetch with
    | some f => rfl
    | none => cases m.find? id <;> rfl
  removeGrant id := by
    refine alike_watch (.remove id) (fun _ => rfl) fun m => ?_
    rw [run_removeGrant]
    cases m.faults .remove <;> rfl
  forgetGrant id := by
    refine alike_watch (.forget id) (fun _ => rfl) fun m => ?_
    rw [run_forgetGrant]
    cases m.faults .forget <;> rfl
  appendAudit event := by
    refine alike_watch (.audit event) (fun _ => rfl) fun m => ?_
    rw [run_appendAudit]
    cases m.faults .audit <;> rfl
  appendAttempt attempt := by
    apply Alike.ignore
    refine alike_watch (.log attempt) (fun _ => rfl) fun m => ?_
    rw [run_appendAttempt]
    cases m.faults .log <;> rfl

-- Why nothing was removed: the status and the detail of the answer, told from the calls made before
-- the record.
inductive Denies : List Event → Nat → String → Prop
  | incomplete : Denies [] 400 "driveId_itemId_permissionId_required"
  | fetchFailed (id : GrantId) (f : Failure) : Denies [.fetch id (.error f)] 502 f.detail
  | refused {g : Grant} {reason : Policy.Refusal} (id : GrantId)
    (h : Policy.evaluate g = .deny reason) : Denies [.fetch id (.ok g)] 403 reason.code
  | removeFailed (id : GrantId) (g : Grant) (f : Failure) :
    Denies [.fetch id (.ok g), .remove id (.error f)] 502 f.detail

-- The answer says that a grant was removed exactly if one was, and why none was otherwise.
structure TellsRemoval (seen : List Event) (before after : List Grant)
    (response : Http.Response) : Prop where
  ok_iff : (response.status = 200 ∧
      ∃ rest, response.body = .json (.object (("ok", .bool true) :: rest))) ↔
    ∃ id, .remove id (.ok ()) ∈ seen
  removed : ∀ id, .remove id (.ok ()) ∈ seen → after = before.filter fun g => g.id ≠ id
  denied : (¬∃ id, .remove id (.ok ()) ∈ seen) → response.status ∈ [400, 403, 502] ∧
    (∃ events kept answer detail, seen = events ++ [.log kept answer] ∧
      Denies events response.status detail ∧
      response.body = .json (.object [("ok", .bool false), ("error", .string detail)])) ∧
    after = before

theorem not_removed_of_denies {events : List Event} {status : Nat} {detail : String}
    (h : Denies events status detail) (kept : Attempt) (answer : Except Failure Unit) :
    ¬∃ id, .remove id (.ok ()) ∈ events ++ [.log kept answer] := by
  rintro ⟨id, hmem⟩
  cases h <;> simp at hmem

theorem status_of_denies {events : List Event} {status : Nat} {detail : String}
    (h : Denies events status detail) : status ∈ [400, 403, 502] := by
  cases h <;> decide

variable {r : Http.Request} {events : List Event} {kept : Attempt} {answer : Except Failure Unit}
  {response : Http.Response} {before after : List Grant}

theorem tellsRemoval_of_denies (f : Failure) (h : Denies events f.kind.status f.detail)
    (hstatus : response.status = f.kind.status) (hbody : response.body = .json f.body) :
    TellsRemoval (events ++ [.log kept answer]) before before response where
  ok_iff := by
    constructor
    · rintro ⟨hok, -⟩
      have hcode := status_of_denies h
      rw [← hstatus, hok] at hcode
      exact absurd hcode (by decide)
    · exact fun hremoved => absurd hremoved (not_removed_of_denies h kept answer)
  removed := fun id hmem => absurd ⟨id, hmem⟩ (not_removed_of_denies h kept answer)
  denied := by
    intro _
    rw [hstatus]
    exact ⟨status_of_denies h, ⟨events, kept, answer, f.detail, rfl, h, hbody⟩, rfl⟩

theorem tellsRemoval_of_removed {id : GrantId} {done : Revoked}
    (hevents : ∀ other, .remove other (.ok ()) ∈ events ↔ other = id)
    (hstatus : response.status = 200) (hbody : response.body = .json (Api.revokedBody done))
    (hafter : after = before.filter fun g => g.id ≠ id) :
    TellsRemoval (events ++ [.log kept answer]) before after response := by
  have hseen : ∀ other, .remove other (.ok ()) ∈ events ++ [.log kept answer] ↔ other = id := by
    intro other
    simp [hevents]
  refine ⟨⟨fun _ => ⟨id, (hseen id).mpr rfl⟩, fun _ => ⟨hstatus, _, hbody⟩⟩, ?_, ?_⟩
  · intro other hmem
    rw [(hseen other).mp hmem]
    exact hafter
  · exact fun hnone => absurd ⟨id, (hseen id).mpr rfl⟩ hnone

-- The course that an attempt takes decides what its caller is told and what is left of the grants.
theorem tellsRemoval_of_taken {defaultSource correlation : String} {request : RevokeRequest}
    {actor : Option Actor} {m m' : Memory} {course : Course} {result : Except Failure Revoked}
    (htaken : course.Taken services request m) (hcourse : course.Seen events result)
    (hrun : (revoke services defaultSource correlation request actor).run m = (result, m'))
    (hstatus : response.status = (Api.ofRevoked result).status)
    (hbody : response.body = (Api.ofRevoked result).body) :
    TellsRemoval (events ++ [.log kept answer]) m.grants m'.grants response := by
  have heffect := effect_of_revoke hrun
  cases course with
  | incomplete =>
    obtain ⟨rfl, rfl⟩ := hcourse
    rw [heffect.same_of_error _ rfl]
    exact tellsRemoval_of_denies (.validation _) .incomplete hstatus hbody
  | fetchFailed id f =>
    obtain ⟨rfl, rfl⟩ := hcourse
    rw [heffect.same_of_error _ rfl]
    exact tellsRemoval_of_denies (.dependency _) (.fetchFailed id f) hstatus hbody
  | refused id g reason =>
    obtain ⟨rfl, rfl⟩ := hcourse
    obtain ⟨-, -, -, hdeny⟩ := htaken
    rw [heffect.same_of_error _ rfl]
    exact tellsRemoval_of_denies (.forbidden _) (.refused id hdeny) hstatus hbody
  | removeFailed id g f =>
    obtain ⟨rfl, rfl⟩ := hcourse
    rw [heffect.same_of_error _ rfl]
    exact tellsRemoval_of_denies (.dependency _) (.removeFailed id g f) hstatus hbody
  | removed id g =>
    obtain ⟨cached, told, audited, done, rfl, -, rfl⟩ := hcourse
    obtain ⟨target, -, haddresses, -, hgrants⟩ := heffect.removed_of_ok done rfl
    have hid : target.id = id := haddresses.unique htaken.1
    rw [hid] at hgrants
    refine tellsRemoval_of_removed ?_ hstatus hbody hgrants
    intro other
    simp

-- The record at the end is the only one.
theorem countP_of_seen {course : Course} {result : Except Failure Revoked}
    (h : course.Seen events result) : (events.map callOf).countP Call.isLog = 0 := by
  cases course with
  | removed id g =>
    obtain ⟨cached, told, audited, done, rfl, -, -⟩ := h
    rfl
  | _ =>
    rw [h.1]
    rfl

section

variable {defaultSource adminToken correlation : String} {origin : Api.Origin}

theorem calls_of_watched {request : RevokeRequest} {actor : Option Actor} {m after after' : Memory}
    {result result' : Except Failure Revoked} {seen : List Event} (hnew : m.calls = [])
    (hwatched : (revoke services.watched defaultSource correlation request actor).run (m, []) =
      (result', after', seen))
    (hrun : (revoke services defaultSource correlation request actor).run m = (result, after)) :
    after.calls = seen.map callOf := by
  have hnotes := (alike_revoke alike_watched defaultSource correlation request actor (m, []) m
    ⟨rfl, hnew⟩).2.2
  rwa [hwatched, hrun] at hnotes

theorem serve_of_sameDetails (h : Api.AsksToRevoke adminToken r)
    (hsize : r.body.length ≤ Api.RevokeInput.maxBodySize) {faults faults' : Faults}
    {m after : Memory} {result : Except Failure Revoked} (hsame : SameDetails faults faults')
    (hrun : (revoke services defaultSource correlation (Api.RevokeInput.read r)
      (some (Api.actorOf r))).run (prepare faults m) = (result, after)) :
    let api := Memory.api defaultSource adminToken origin
    ∃ after', serve api correlation faults' r m =
      (api.framed r (Api.ofRevoked result), after') ∧ SameButKinds after after' := by
  intro api
  rcases hrun' : (revoke services defaultSource correlation (Api.RevokeInput.read r)
    (some (Api.actorOf r))).run (prepare faults' m) with ⟨result', after'⟩
  obtain ⟨hresult, hstates⟩ := alike_revoke alike_services defaultSource correlation
    (Api.RevokeInput.read r) (some (Api.actorOf r)) (prepare faults m) (prepare faults' m)
    ⟨rfl, rfl, rfl, hsame⟩
  rw [hrun, hrun'] at hresult hstates
  have hresult : result = result' := hresult
  rw [hresult]
  exact ⟨after', api.run_answer_of_revoke correlation h hsize hrun', hstates⟩

end

-- The caller of a revocation is told the truth about the directory. One record is kept at the end of
-- it, and a failure of another kind with the same detail would have made no difference at all.
theorem serve_tells_removal (defaultSource adminToken correlation : String) (origin : Api.Origin)
    {r : Http.Request} (h : Api.AsksToRevoke adminToken r)
    (hsize : r.body.length ≤ Api.RevokeInput.maxBodySize) (faults : Faults) (m : Memory) :
    let api := Memory.api defaultSource adminToken origin
    let seen := api.seen correlation r (prepare faults m)
    let served := serve api correlation faults r m
    TellsRemoval seen m.grants served.2.grants served.1 ∧
      served.2.calls = seen.map callOf ∧ served.2.calls.countP Call.isLog = 1 ∧
      ∀ faults', SameDetails faults faults' →
        let served' := serve api correlation faults' r m
        served'.1 = served.1 ∧ served'.2.calls = served.2.calls ∧
          served'.2.grants = served.2.grants ∧ served'.2.attempts = served.2.attempts := by
  intro api seen served
  obtain ⟨course, htaken⟩ := exists_taken services (Api.RevokeInput.read r) (prepare faults m)
  obtain ⟨events, kept, result, hshows, hcourse, -⟩ :=
    (fits_of_taken htaken : Fits services defaultSource correlation _ (some (Api.actorOf r)) _ _)
  obtain ⟨answer, hseen⟩ := api.seen_of_shows correlation h hsize hshows
  obtain ⟨answer', after, hwatched, hrun⟩ := hshows
  have hserve : served = (api.framed r (Api.ofRevoked result), after) :=
    api.run_answer_of_revoke correlation h hsize hrun
  have hcalls : after.calls = events.map callOf ++ [.log kept] := by
    rw [calls_of_watched rfl hwatched hrun, List.map_append]
    rfl
  rw [hserve]
  refine ⟨?_, ?_, ?_, ?_⟩
  · have htells : TellsRemoval (events ++ [.log kept answer]) (prepare faults m).grants after.grants
        (api.framed r (Api.ofRevoked result)) :=
      tellsRemoval_of_taken htaken hcourse hrun (api.status_framed r _)
        (api.body_framed_of_asksToRevoke h _)
    rwa [← hseen] at htells
  · have hmap : seen.map callOf = events.map callOf ++ [.log kept] := by
      rw [show seen = _ from hseen, List.map_append]
      rfl
    rw [hcalls, hmap]
  · rw [hcalls, List.countP_append, countP_of_seen hcourse]
    rfl
  · intro faults' hsame served'
    obtain ⟨after', hserve', hstates⟩ := serve_of_sameDetails h hsize hsame hrun
    have hserve' : served' = (api.framed r (Api.ofRevoked result), after') := hserve'
    rw [hserve']
    exact ⟨rfl, hstates.calls.symm, hstates.grants.symm, hstates.attempts.symm⟩

-- A directory that cannot remove anything for this reason.
def stuck (kind : Failure.Kind) : Faults := fun service =>
  if service = .remove then some ⟨kind, "itemLocked"⟩ else none

theorem serve_tells_removal_stuck :
    let api := Memory.api Report.standardSource "secret" Api.door.origin
    let seen := api.seen "c" Api.bearer (prepare (stuck .conflict) sharedItem)
    let served := serve api "c" (stuck .conflict) Api.bearer sharedItem
    TellsRemoval seen sharedItem.grants served.2.grants served.1 ∧
      (serve api "c" (stuck .internal) Api.bearer sharedItem).1 = served.1 := by
  have hasks : Api.AsksToRevoke "secret" Api.bearer := by decide
  have hsize : Api.bearer.body.length ≤ Api.RevokeInput.maxBodySize := by decide
  have hsame : SameDetails (stuck .conflict) (stuck .internal) := by
    intro service
    cases service <;> rfl
  obtain ⟨htells, -, -, hkinds⟩ := serve_tells_removal Report.standardSource "secret" "c"
    Api.door.origin hasks hsize (stuck .conflict) sharedItem
  obtain ⟨hresponse, -⟩ := hkinds _ hsame
  exact ⟨htells, hresponse⟩

end Memory

end Unshare
