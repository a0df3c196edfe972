import Unshare.Proofs.Answers
import Unshare.Proofs.Bookkeeping
import Unshare.Proofs.Reasons

namespace Unshare.Stack

open Database (insertAttempt)
open Remote (Request Reply)

-- One of these requests was answered, and not with success; this is what is said of the answer.
-- Form posts are for tokens and do not count.
def Rejected (s : Stack) (sent : List Request) (detail : String) : Prop :=
  ∃ r status body, (r, .answered status body) ∈ s.server.transcript sent ∧ r.method ≠ "POST" ∧
    Http.Status.isSuccess status = false ∧
    detail = Graph.errorMessage status body.text

section

variable {s t : Stack} {a b posts own : List Request} {base : Url} {operation : Graph.Operation}
  {id : GrantId} {detail : String}

theorem not_rejected_nil : ¬Rejected s [] detail := by
  rintro ⟨r, status, body, hmem, -⟩
  exact List.not_mem_nil hmem

theorem Sends.rejected_append (h : Sends s t a) (hr : Rejected s (a ++ b) detail) :
    Rejected s a detail ∨ Rejected t b detail := by
  obtain ⟨r, status, body, hmem, hrest⟩ := hr
  rw [Remote.Server.transcript_append, ← h.server] at hmem
  rcases List.mem_append.mp hmem with hmem | hmem
  · exact .inl ⟨r, status, body, hmem, hrest⟩
  · exact .inr ⟨r, status, body, hmem, hrest⟩

-- What is turned down of an operation is the one request that it sends itself.
theorem Performs.rejected (h : Performs s t base operation id posts own)
    (hr : Rejected s (posts ++ own) detail) : ∃ r status body, own = [r] ∧
      ((s.server.replay posts).exchange r).1 = .answered status body ∧
      Http.Status.isSuccess status = false ∧
      detail = Graph.errorMessage status body.text := by
  obtain ⟨r, status, body, hmem, hmethod, hrest⟩ := hr
  rw [Remote.Server.transcript_append] at hmem
  rcases List.mem_append.mp hmem with hmem | hmem
  · exact absurd (h.only r (mem_of_mem_transcript hmem)) hmethod
  · obtain rfl | ⟨q, rfl, -⟩ := h.isOwn.eq_nil_or
    · exact absurd hmem List.not_mem_nil
    · obtain ⟨rfl, hreply⟩ := Prod.mk.inj (List.mem_singleton.mp hmem)
      exact ⟨r, status, body, rfl, hreply.symm, hrest⟩

end

-- The detail of a judgement is what is said of the answer, whatever kind of failure it is.
theorem judged_of_not_isSuccess (answer : Remote.Answer)
    (h : Http.Status.isSuccess answer.status = false) :
    ∃ f, f.detail = Graph.errorMessage answer.status answer.body.text ∧
      judged answer = .error (.failure f) := by
  have hfailed : ¬answer.isSuccess = true := by
    rw [Remote.Answer.isSuccess, h]
    exact Bool.false_ne_true
  rw [judged, Graph.failureOf?, if_neg hfailed]
  by_cases hstatus : answer.status = 404
  · rw [if_pos hstatus]
    exact ⟨.notFound _, rfl, rfl⟩
  · rw [if_neg hstatus]
    exact ⟨.dependency _, rfl, rfl⟩

section

variable {α : Type} {g : Settings.Graph} {p : Token.Provider} {operation : Graph.Operation}
  {id : GrantId} {s t : Stack}

-- What follows an operation makes nothing of an answer that is no success.
theorem perform_rejected {next : Except Abort Remote.Answer → Action (Except Abort α)}
    (hnext : ∀ performed, ∃ outcome, next performed = pure outcome ∧
      ∀ abort, performed = .error abort → outcome = .error abort)
    {result : Except Crash (Except Abort α)}
    (h : Runs ((client g p).perform operation id >>= next) s result t) :
    ∃ sent, Sends s t sent ∧ ∀ detail, Rejected s sent detail →
      ∃ f, f.detail = detail ∧ result = .ok (.error (.failure f)) := by
  obtain ⟨performed, mid, hperform, hlast⟩ := h.steady_inv (outward_perform operation id).steady
  obtain ⟨outcome, houtcome, habort⟩ := hnext performed
  rw [houtcome] at hlast
  obtain ⟨rfl, rfl⟩ := hlast.pure_inv
  obtain ⟨posts, own, hperforms, -, hanswered, -⟩ := perform_inv hperform
  refine ⟨posts ++ own, hperforms.sends, ?_⟩
  intro detail hrejected
  obtain ⟨r, status, body, hone, hreply, hfailed, rfl⟩ := hperforms.rejected hrejected
  obtain ⟨f, hdetail, hjudged⟩ := judged_of_not_isSuccess ⟨r.url, status, body⟩ hfailed
  have hperformed := hanswered r status body hone hreply
  rw [hjudged] at hperformed
  injection hperformed with hperformed
  exact ⟨f, hdetail, by rw [habort _ hperformed]⟩

-- A call that leaves the database alone and comes to a failure with the directory's own words where
-- a request was turned down.
def HandsOn (act : Action (Except Failure α)) : Prop :=
  ∀ s result t, Runs act s result t → t.database = s.database ∧
    ∃ sent, Sends s t sent ∧ ∀ detail, Rejected s sent detail →
      ∃ f, f.detail = detail ∧ result = .ok (.error f)

theorem handsOn_of_settle {act : Action (Except Abort α)} (hact : Outward act)
    (hrejected : ∀ s result t, Runs act s result t → ∃ sent, Sends s t sent ∧
      ∀ detail, Rejected s sent detail → ∃ f, f.detail = detail ∧
        result = .ok (.error (.failure f))) : HandsOn (act >>= settle) := by
  intro s result t h
  obtain ⟨outcome, mid, hrun, hsettle⟩ := h.steady_inv hact.steady
  obtain ⟨rfl, -⟩ := settle_inv hsettle
  obtain ⟨sent, hsends, hfails⟩ := hrejected s _ t hrun
  refine ⟨(hact s _ t hrun).1, sent, hsends, ?_⟩
  intro detail hdetail
  obtain ⟨f, hf, houtcome⟩ := hfails detail hdetail
  injection houtcome with houtcome
  rw [houtcome] at hsettle
  exact ⟨f, hf, hsettle.pure_inv.1⟩

theorem fetchGrant_handsOn (id : GrantId) : HandsOn ((services (client g p)).fetchGrant id) := by
  refine handsOn_of_settle (outward_fetch id) fun s result t h => perform_rejected ?_ h
  intro performed
  cases performed with
  | error abort => exact ⟨_, rfl, fun _ he => congrArg _ (Except.error.inj he)⟩
  | ok answer =>
    cases hread : Graph.grantOf id answer with
    | error f => exact ⟨.error (.failure f), by simp only [hread], by simp⟩
    | ok grant => exact ⟨.ok grant, by simp only [hread], by simp⟩

theorem removeGrant_handsOn (id : GrantId) : HandsOn ((services (client g p)).removeGrant id) := by
  refine handsOn_of_settle (outward_remove id) fun s result t h => perform_rejected ?_ h
  intro performed
  cases performed with
  | error abort => exact ⟨_, rfl, fun _ he => congrArg _ (Except.error.inj he)⟩
  | ok answer => exact ⟨.ok (), rfl, by simp⟩

end

-- The attempt ended in a failure with this detail, and its record keeps the reason of it.
def EndsIn (s t : Stack) (result : Except Crash (Except Failure Revoked)) (detail : String) :
    Prop :=
  result = .ok (.error (.dependency detail)) ∧ ∃ kept,
    t.database = s.database.told [insertAttempt kept] ∧ kept.outcome = .failed ∧
    kept.reason = Report.nonEmpty (some (Attempt.sanitizeReason detail))

-- What an attempt comes to on its way from one state to another if a request of it was turned down.
def EndsRejected (s t : Stack) (result : Except Crash (Except Failure Revoked)) : Prop :=
  ∃ sent, Sends s t sent ∧ ∀ detail, Rejected s sent detail → EndsIn s t result detail

section

variable {g : Settings.Graph} {p : Token.Provider} {id : GrantId} {s t : Stack}
  {defaultSource correlation : String} {c : Revocation.Context} {r : RevokeRequest}
  {actor : Option Actor} {result : Except Crash (Except Failure Revoked)}

theorem refuse_endsIn (hopen : s.database.isOpen = true) {stage : Stage} {facts : Json.Fields}
    {detail : String} (h : Runs (Revocation.refuse (services (client g p)) defaultSource c stage
      facts (.dependency detail)) s result t) : EndsIn s t result detail := by
  obtain ⟨hresult, hdatabase⟩ := refuse_inv hopen h
  refine ⟨hresult, _, hdatabase, rfl, ?_⟩
  simp only [Report.toAttempt, Report.keptReason, Revocation.Context.failureReport,
    Failure.dependency, Option.map_some]

theorem endsRejected_of_quiet (h : Sends s t []) : EndsRejected s t result :=
  ⟨[], h, fun _ hrejected => absurd hrejected not_rejected_nil⟩

-- Either the first call fails, which ends the attempt, or nothing was turned down so far.
theorem HandsOn.endsRejected {α : Type} {act : Action (Except Failure α)} {stage : Stage}
    {facts : Json.Fields} {next : Except Failure α → Action (Except Failure Revoked)}
    (hact : HandsOn act) (hopen : s.database.isOpen = true)
    (herror : ∀ f, next (.error f) = Revocation.refuse (services (client g p)) defaultSource c stage
      facts (.dependency f.detail))
    (hok : ∀ a mid, mid.database.isOpen = true → Runs (next (.ok a)) mid result t →
      EndsRejected mid t result)
    (h : Runs (act >>= next) s result t) : EndsRejected s t result := by
  obtain ⟨first, mid, hfirst, hnext⟩ | ⟨crash, hfirst, rfl⟩ := h.bind_inv
  · obtain ⟨hdatabase, sent, hsends, hfails⟩ := hact s _ mid hfirst
    have hopen' : mid.database.isOpen = true := by
      rwa [hdatabase]
    cases first with
    | error f =>
      rw [herror] at hnext
      have hall := hsends.trans (quiet_refuse _ _ _ _ _ _ _ _ hnext)
      rw [List.append_nil] at hall
      refine ⟨sent, hall, ?_⟩
      intro detail hrejected
      obtain ⟨_, rfl, ⟨⟩⟩ := hfails detail hrejected
      obtain ⟨hend, kept, htold, hkept⟩ := refuse_endsIn hopen' hnext
      exact ⟨hend, kept, by rw [htold, hdatabase], hkept⟩
    | ok a =>
      obtain ⟨later, hlater, hends⟩ := hok a mid hopen' hnext
      refine ⟨sent ++ later, hsends.trans hlater, ?_⟩
      intro detail hrejected
      obtain hrejected | hrejected := hsends.rejected_append hrejected
      · obtain ⟨_, _, ⟨⟩⟩ := hfails detail hrejected
      · obtain ⟨hend, kept, htold, hkept⟩ := hends detail hrejected
        exact ⟨hend, kept, by rw [htold, hdatabase], hkept⟩
  · obtain ⟨-, sent, hsends, hfails⟩ := hact s _ t hfirst
    refine ⟨sent, hsends, ?_⟩
    intro detail hrejected
    obtain ⟨_, _, ⟨⟩⟩ := hfails detail hrejected

theorem remove_endsRejected (hopen : s.database.isOpen = true) {grant : Grant}
    (h : Runs (Revocation.remove (services (client g p)) defaultSource c id grant) s result t) :
    EndsRejected s t result := by
  refine (removeGrant_handsOn id).endsRejected hopen (fun _ => rfl) ?_ h
  intro _ mid _ hconclude
  exact endsRejected_of_quiet (quiet_conclude _ _ _ _ _ _ _ hconclude)

theorem revokeGrant_endsRejected (hopen : s.database.isOpen = true)
    (h : Runs (Revocation.revokeGrant (services (client g p)) defaultSource c id) s result t) :
    EndsRejected s t result := by
  refine (fetchGrant_handsOn id).endsRejected hopen (fun _ => rfl) ?_ h
  intro grant mid hopen' hnext
  cases hpolicy : Policy.evaluate grant with
  | deny reason =>
    simp only [hpolicy] at hnext
    exact endsRejected_of_quiet (quiet_refuse _ _ _ _ _ _ _ _ hnext)
  | allow =>
    simp only [hpolicy] at hnext
    exact remove_endsRejected hopen' hnext

theorem revoke_endsRejected (hopen : s.database.isOpen = true)
    (h : Runs (Revocation.revoke (services (client g p)) defaultSource correlation r actor) s
      result t) : EndsRejected s t result := by
  rw [Revocation.revoke] at h
  cases hid : r.trimmed.grantId? with
  | none =>
    simp only [hid] at h
    exact endsRejected_of_quiet (quiet_refuse _ _ _ _ _ _ _ _ h)
  | some id =>
    simp only [hid] at h
    exact revokeGrant_endsRejected hopen h

end

-- What a visit is answered.
def Visit.answer (api : Api Action) (v : Visit) (s : Stack) : Except Crash Http.Response :=
  (serve api v.correlation v.surroundings v.request { s with clock := v.clock }).1

section

variable {settings : Settings.Service} {api : Api Action} (hbuild : build settings = .ok api)

include hbuild

-- A visit in which a request was turned down asked for a revocation, and is answered as one that
-- ended in a failure.
theorem rejected_visit (v : Visit) {s : Stack} (hopen : s.database.isOpen = true) {detail : String}
    (h : Rejected (v.start s) (v.finish api s).server.received detail) :
    Api.AsksToRevoke api.adminToken v.request ∧
      v.answer api s =
        .ok (api.framed v.request (.ofFailure (.dependency detail))) ∧
      ∃ kept, (v.finish api s).database.statements = [insertAttempt kept] ∧
        kept.outcome = .failed ∧
        kept.reason = Report.nonEmpty (some (Attempt.sanitizeReason detail)) := by
  obtain ⟨p, hservices, hfault, -⟩ := parts_of_build hbuild
  have hopen : (v.start s).database.isOpen = true := hopen
  have hrun : Runs (api.answer v.correlation v.request) (v.start s) (v.answer api s)
      (v.finish api s) := rfl
  obtain ⟨first, hbare, hanswer⟩ := hrun.bind_pure_inv
  by_cases hshort : Api.AsksToRevoke api.adminToken v.request ∧
      v.request.body.length ≤ Api.RevokeInput.maxBodySize
  · obtain ⟨hasks, hsize⟩ := hshort
    rw [Api.answerBare_of_short api v.correlation hasks hsize, hservices] at hbare
    obtain ⟨revoked, hrevoke, rfl⟩ := hbare.bind_pure_inv
    obtain ⟨sent, hsends, hends⟩ := revoke_endsRejected hopen hrevoke
    rw [v.received_of_sends hsends] at h
    obtain ⟨rfl, kept, htold, hkept⟩ := hends detail h
    refine ⟨hasks, hanswer, kept, ?_, hkept⟩
    rw [htold]
    rfl
  · obtain ⟨hsends, -⟩ :=
      apart_answerBare hservices hfault v.correlation hshort _ first _ hbare hopen
    rw [v.received_of_sends hsends] at h
    exact absurd h not_rejected_nil

-- Whatever the directory turns down, its words reach the caller and the log, as far as there is
-- anything to see in them. A detail that is only markup leaves a record without a reason.
theorem rejection_leaves_reason (v : Visit) {s : Stack} (hopen : s.database.isOpen = true)
    {r : Request} {status : Nat} {body : Remote.Body}
    (hmem : (r, .answered status body) ∈
      (v.start s).server.transcript (v.finish api s).server.received)
    (hmethod : r.method = "GET" ∨ r.method = "DELETE")
    (hfailed : Http.Status.isSuccess status = false) :
    let said := Graph.said? body.text
    let detail := Graph.errorMessage status body.text
    (∃ response, v.answer api s = .ok response ∧ response.status = 502 ∧
        response.body = .json (.object [("ok", .bool false), ("error", .string detail)])) ∧
      (Text.isBlank detail = true ↔
        ∃ message, said = some ⟨none, some message⟩ ∧ Text.isBlank message = true) ∧
      (∃ q record, (v.finish api s).database.statements = [q] ∧
        q.Inserts "revoke_permission_logs" record ∧ record "outcome" = .text "failed" ∧
        (Attempt.IsMarkup detail → record "failure_reason" = .null) ∧
        (¬Attempt.IsMarkup detail →
          record "failure_reason" = .text (Attempt.sanitizeReason detail))) ∧
      (Attempt.IsMarkup detail → ∃ code message, said = some ⟨code, some message⟩) := by
  intro said detail
  have hpost : r.method ≠ "POST" := by
    obtain hmethod | hmethod := hmethod
    · rw [hmethod]
      decide
    · rw [hmethod]
      decide
  obtain ⟨hasks, hanswer, kept, hstatements, houtcome, hreason⟩ :=
    rejected_visit hbuild v hopen ⟨r, status, body, hmem, hpost, hfailed, rfl⟩
  refine ⟨⟨_, hanswer, api.status_framed _ _, api.body_framed_of_asksToRevoke hasks _⟩,
    Graph.isBlank_errorMessage_iff status _,
    ⟨_, _, hstatements, Database.inserts_insertAttempt kept, ?_, ?_, ?_⟩, Graph.said_of_isMarkup⟩
  · rw [Database.outcome_logged, houtcome]
    rfl
  · intro hmarkup
    rw [Database.reason_logged, hreason, (Attempt.keptReason_eq_none_iff detail).mpr hmarkup]
    rfl
  · intro hmarkup
    rw [Database.reason_logged, hreason, Attempt.keptReason_of_not_isMarkup hmarkup]
    rfl

end

theorem exists_of_mem_methods {server : Remote.Server} {sent : List Request} {method : String}
    {reply : Reply}
    (h : (method, reply) ∈ (server.transcript sent).map fun told => (told.1.method, told.2)) :
    ∃ r, (r, reply) ∈ server.transcript sent ∧ r.method = method := by
  obtain ⟨⟨r, _⟩, hmem, htold⟩ := List.mem_map.mp h
  obtain ⟨rfl, rfl⟩ := Prod.mk.inj htold
  exact ⟨r, hmem, rfl⟩

-- The directory turns down the read with this body.
def deniedVisit (body : String) : Visit :=
  ⟨0, "c", ⟨[textReply 200 "[\"t\",3600]"], [textReply 403 body], [], []⟩,
    ⟨"DELETE", "/api/permissions?driveId=d&itemId=i&permissionId=w",
      [("authorization", Text.Utf8.encode "Bearer secret")], []⟩⟩

def deniedBody : String :=
  "\x7b\"error\":\x7b\"code\":\"denied\",\"message\":\"<b>no</b>\"\x7d\x7d"

theorem rejection_leaves_reason_denied :
    build hub = .ok hubApi ∧ openHub.database.isOpen = true ∧
      (∃ response, (deniedVisit deniedBody).answer hubApi openHub = .ok response ∧
        response.body =
          .json (.object [("ok", .bool false), ("error", .string "denied: <b>no</b>")])) ∧
      ∃ q record, ((deniedVisit deniedBody).finish hubApi openHub).database.statements = [q] ∧
        q.Inserts "revoke_permission_logs" record ∧
        record "failure_reason" = .text "denied: no" := by
  have hbuild : build hub = .ok hubApi := rfl
  have hget : ("GET", textReply 403 deniedBody) ∈
      (((deniedVisit deniedBody).start openHub).server.transcript
        ((deniedVisit deniedBody).finish hubApi openHub).server.received).map
          fun told => (told.1.method, told.2) := by
    decide +kernel
  obtain ⟨r, hmem, hmethod⟩ := exists_of_mem_methods hget
  obtain ⟨⟨response, hanswer, -, hbody⟩, -, ⟨q, record, hstatements, hinserts, -, -, hreason⟩,
    -⟩ :=
    rejection_leaves_reason hbuild (deniedVisit deniedBody) (s := openHub) rfl hmem (.inl hmethod)
      (by decide)
  have hdetail : Graph.errorMessage 403 (Remote.Body.plain (Text.Utf8.encode deniedBody)).text =
      "denied: <b>no</b>" := by decide +kernel
  rw [hdetail] at hbody hreason
  refine ⟨hbuild, rfl, ⟨response, hanswer, hbody⟩, q, record, hstatements, hinserts, ?_⟩
  have hhead : "denied: <b>no</b>".toList = 'd' :: "enied: <b>no</b>".toList := rfl
  have hkept : Attempt.sanitizeReason "denied: <b>no</b>" = "denied: no" := by decide +kernel
  rw [← hkept]
  exact hreason (Attempt.not_isMarkup_of_head hhead (by decide) (by decide) (by decide))

-- A blank message without a code.
def silentBody : String :=
  "\x7b\"error\":\x7b\"message\":\"\"\x7d\x7d"

-- The caller of such a failure is told nothing of it, and its record keeps no reason.
theorem silent_rejection_leaves_nothing :
    build hub = .ok hubApi ∧ openHub.database.isOpen = true ∧
      (∃ r, (r, textReply 403 silentBody) ∈
        ((deniedVisit silentBody).start openHub).server.transcript
          ((deniedVisit silentBody).finish hubApi openHub).server.received ∧ r.method = "GET") ∧
      (deniedVisit silentBody).answer hubApi openHub =
        .ok (hubApi.framed (deniedVisit silentBody).request
          (.json 502 (.object [("ok", .bool false), ("error", .string "")]))) ∧
      ∃ q record, ((deniedVisit silentBody).finish hubApi openHub).database.statements = [q] ∧
        q.Inserts "revoke_permission_logs" record ∧ record "outcome" = .text "failed" ∧
        record "failure_reason" = .null := by
  have hbuild : build hub = .ok hubApi := rfl
  have hget : ("GET", textReply 403 silentBody) ∈
      (((deniedVisit silentBody).start openHub).server.transcript
        ((deniedVisit silentBody).finish hubApi openHub).server.received).map
          fun told => (told.1.method, told.2) := by
    decide +kernel
  obtain ⟨r, hmem, hmethod⟩ := exists_of_mem_methods hget
  have hdetail : Graph.errorMessage 403 (Remote.Body.plain (Text.Utf8.encode silentBody)).text =
      "" := by decide +kernel
  have hpost : r.method ≠ "POST" := by
    rw [hmethod]
    decide
  obtain ⟨-, hanswer, kept, hstatements, houtcome, hreason⟩ :=
    rejected_visit hbuild (deniedVisit silentBody) (s := openHub) rfl
      ⟨r, 403, _, hmem, hpost, by decide, hdetail.symm⟩
  have hmarkup : Attempt.IsMarkup "" := fun c _ _ _ => Attempt.not_standsOutside_nil
  refine ⟨hbuild, rfl, ⟨r, hmem, hmethod⟩, hanswer, _, _, hstatements,
    Database.inserts_insertAttempt kept, ?_, ?_⟩
  · rw [Database.outcome_logged, houtcome]
    rfl
  · rw [Database.reason_logged, hreason, (Attempt.keptReason_eq_none_iff "").mpr hmarkup]
    rfl

end Unshare.Stack
