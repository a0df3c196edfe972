import Unshare.Proofs.Ledger
import Unshare.Proofs.Permitted

namespace Unshare.Stack

open Remote (Request Reply)
open Database (Statement Transacted Attempts AuditsRemoval forgetStatements insertAudit insertAttempt)

section

variable {α β : Type}

-- An action that leaves the database alone and does not crash.
def Outward (act : Action α) : Prop :=
  ∀ s result t, Runs act s result t → t.database = s.database ∧ ∃ a, result = .ok a

theorem Outward.pure (a : α) : Outward (pure a : Action α) := by
  intro s result t h
  obtain ⟨rfl, rfl⟩ := h.pure_inv
  exact ⟨rfl, a, rfl⟩

theorem Outward.bind {act : Action α} {next : α → Action β} (h : Outward act)
    (hnext : ∀ a, Outward (next a)) : Outward (act >>= next) := by
  intro s result t hrun
  obtain ⟨a, mid, hact, hrest⟩ | ⟨c, hact, -⟩ := hrun.bind_inv
  · obtain ⟨hdatabase, hresult⟩ := hnext a mid result t hrest
    exact ⟨hdatabase.trans (h s _ mid hact).1, hresult⟩
  · obtain ⟨-, _, ⟨⟩⟩ := h s _ t hact

-- An action that does not crash.
def Steady (act : Action α) : Prop :=
  ∀ s c t, ¬Runs act s (.error c) t

theorem Runs.steady_inv {act : Action α} {next : α → Action β} {s t : Stack}
    {result : Except Crash β} (h : Runs (act >>= next) s result t) (hact : Steady act) :
    ∃ a mid, Runs act s (.ok a) mid ∧ Runs (next a) mid result t := by
  obtain hboth | ⟨c, hcrash, -⟩ := h.bind_inv
  · exact hboth
  · exact absurd hcrash (hact s c t)

theorem Outward.steady {act : Action α} (h : Outward act) : Steady act := by
  intro s c t hrun
  obtain ⟨-, _, ⟨⟩⟩ := h s _ t hrun

theorem Runs.onDatabase_inv {next : α → Action β} {s t : Stack} {result : Except Crash β}
    (act : Database → α × Database) (h : Runs (onDatabase act >>= next) s result t) :
    ∃ mid, mid.database = (act s.database).2 ∧
      Runs (next (act s.database).1) mid result t := by
  have hsteady : Steady (onDatabase act) := by
    rintro _ _ _ ⟨⟩
  obtain ⟨a, mid, hact, hnext⟩ := h.steady_inv hsteady
  cases hact
  exact ⟨_, rfl, hnext⟩

end

theorem outward_wire (r : Request) : Outward (wire r) := by
  intro s result t h
  obtain ⟨rfl, rfl⟩ := wire_inv h
  exact ⟨rfl, _, rfl⟩

theorem outward_send (r : Request) : Outward (Remote.send wire r) := by
  unfold Remote.send
  simp only
  split
  · exact .pure _
  · split
    · exact .pure _
    · apply (outward_wire _).bind
      intro reply
      cases reply <;> exact .pure _

theorem outward_access (p : Token.Provider) (now : Nat) (cache : Option Token.Cached) :
    Outward (p.access wire now cache) := by
  unfold Token.Provider.access Token.Provider.ask
  split
  · exact .pure _
  · apply Outward.bind
    · apply (outward_send _).bind
      intro sent
      cases sent <;> exact .pure _
    · intro asked
      cases asked with
      | error f => exact .pure _
      | ok issued =>
        cases hkeep : Token.keep now issued <;> simp only [hkeep] <;> exact .pure _

theorem outward_accessToken (p : Token.Provider) : Outward (accessToken p) := by
  have hget : Outward (get : Action Stack) := by
    rintro s _ _ ⟨⟩
    exact ⟨rfl, s, rfl⟩
  refine hget.bind fun s => (outward_access p s.clock s.token).bind fun taken => ?_
  rintro s _ _ ⟨⟩
  exact ⟨rfl, _, rfl⟩

section

variable {g : Settings.Graph} {p : Token.Provider}

theorem outward_perform (operation : Graph.Operation) (id : GrantId) :
    Outward ((client g p).perform operation id) := by
  unfold Graph.Client.perform
  split
  · exact .pure _
  · apply (outward_accessToken p).bind
    intro given
    cases given with
    | error abort => exact .pure _
    | ok token =>
      apply (outward_send _).bind
      intro sent
      cases sent with
      | error fault => exact .pure _
      | ok answer =>
        cases hfailure : Graph.failureOf? answer <;> simp only [hfailure] <;> exact .pure _

theorem outward_fetch (id : GrantId) : Outward ((client g p).fetch id) := by
  apply (outward_perform .fetch id).bind
  intro performed
  cases performed with
  | error abort => exact .pure _
  | ok answer =>
    cases hread : Graph.grantOf id answer <;> simp only [hread] <;> exact .pure _

theorem outward_remove (id : GrantId) : Outward ((client g p).remove id) := by
  apply (outward_perform .remove id).bind
  intro performed
  cases performed <;> exact .pure _

end

-- The last of these requests was a DELETE and was answered with success.
def EndsInRemoval (s : Stack) (sent : List Request) : Prop :=
  ∃ del status body, (s.server.transcript sent).getLast? = some (del, .answered status body) ∧
    del.method = "DELETE" ∧ Http.Status.isSuccess status = true

-- The last of these requests is for the permission under its own URL.
def EndsAt (base : Url) (id : GrantId) (sent : List Request) : Prop :=
  ∃ url r, Graph.permissionUrl base id = .ok url ∧ sent.getLast? = some r ∧
    r.url = Remote.sentUrl url

section

variable {s t : Stack} {a b posts own : List Request} {base : Url} {id : GrantId}

theorem endsInRemoval_concat_iff (front : List Request) (r : Request) :
    EndsInRemoval s (front ++ [r]) ↔ r.method = "DELETE" ∧ ∃ status body,
      ((s.server.replay front).exchange r).1 = .answered status body ∧
        Http.Status.isSuccess status = true := by
  have hlast : (s.server.transcript (front ++ [r])).getLast? =
      some (r, ((s.server.replay front).exchange r).1) := by
    rw [Remote.Server.transcript_append]
    exact List.getLast?_concat
  constructor
  · rintro ⟨del, status, body, hdel, hmethod, hsuccess⟩
    rw [hlast, Option.some.injEq, Prod.mk.injEq] at hdel
    obtain ⟨rfl, hreply⟩ := hdel
    exact ⟨hmethod, status, body, hreply, hsuccess⟩
  · rintro ⟨hmethod, status, body, hreply, hsuccess⟩
    exact ⟨r, status, body, by rw [hlast, hreply], hmethod, hsuccess⟩

theorem not_endsInRemoval_nil : ¬EndsInRemoval s [] := by
  rintro ⟨_, _, _, ⟨⟩, -⟩

theorem OnlyPosts.not_endsInRemoval (h : OnlyPosts posts) : ¬EndsInRemoval s posts := by
  rcases List.eq_nil_or_concat posts with rfl | ⟨front, r, hposts⟩
  · exact not_endsInRemoval_nil
  · rw [List.concat_eq_append] at hposts
    subst hposts
    rw [endsInRemoval_concat_iff]
    rintro ⟨hmethod, -⟩
    rw [h r (List.mem_append_right _ (List.mem_singleton_self r))] at hmethod
    exact absurd hmethod (by decide)

-- What ends a later part ends the whole.
theorem Sends.endsInRemoval_append_iff (h : Sends s t a) (ha : ¬EndsInRemoval s a) :
    EndsInRemoval s (a ++ b) ↔ EndsInRemoval t b := by
  rcases List.eq_nil_or_concat b with rfl | ⟨front, r, hb⟩
  · rw [List.append_nil]
    exact iff_of_false ha not_endsInRemoval_nil
  · rw [List.concat_eq_append] at hb
    subst hb
    rw [← List.append_assoc, endsInRemoval_concat_iff, endsInRemoval_concat_iff,
      Remote.Server.replay_append, h.server]

theorem EndsAt.append (h : EndsAt base id b) (a : List Request) : EndsAt base id (a ++ b) := by
  obtain ⟨url, r, hurl, hlast, hsent⟩ := h
  refine ⟨url, r, hurl, ?_, hsent⟩
  rw [List.getLast?_append, hlast]
  rfl

theorem IsOwn.endsAt {operation : Graph.Operation} {r : Request}
    (h : IsOwn s posts base operation id [r]) : EndsAt base id [r] := by
  obtain h | ⟨url, token, hurl, -, h⟩ := h
  · cases h
  · cases h
    exact ⟨url, _, hurl, rfl, Remote.Request.normalized_url _⟩

theorem Overruns.append (h : Overruns s a) (b : List Request) : Overruns s (a ++ b) := by
  obtain ⟨issued, hissued, hlate⟩ := h
  exact ⟨issued, hissued.append b, hlate⟩

theorem Sends.overruns (h : Sends s t a) (hb : Overruns t b) : Overruns s (a ++ b) := by
  obtain ⟨issued, hissued, hlate⟩ := hb
  exact ⟨issued, h.issues hissued, by rwa [← h.clock]⟩

-- Where a token was issued that is to be used for too long, it was issued on the way to the state
-- in between or after it.
theorem Sends.overruns_append_iff (h : Sends s t a) :
    Overruns s (a ++ b) ↔ Overruns s a ∨ Overruns t b := by
  refine ⟨?_, fun hover => hover.elim (fun ha => ha.append b) h.overruns⟩
  rintro ⟨issued, ⟨post, reply, hmem, hrest⟩, hlate⟩
  rw [Remote.Server.transcript_append, ← h.server] at hmem
  rcases List.mem_append.mp hmem with hmem | hmem
  · exact .inl ⟨issued, ⟨post, reply, hmem, hrest⟩, hlate⟩
  · rw [← h.clock] at hlate
    exact .inr ⟨issued, ⟨post, reply, hmem, hrest⟩, hlate⟩

-- What an operation sends itself issues no token.
theorem Performs.overruns_iff {operation : Graph.Operation}
    (h : Performs s t base operation id posts own) :
    Overruns s (posts ++ own) ↔ Overruns s posts := by
  refine ⟨?_, fun hover => hover.append own⟩
  rintro ⟨issued, ⟨post, reply, hmem, hpost, hrest⟩, hlate⟩
  rw [Remote.Server.transcript_append] at hmem
  rcases List.mem_append.mp hmem with hmem | hmem
  · exact ⟨issued, ⟨post, reply, hmem, hpost, hrest⟩, hlate⟩
  · obtain rfl | ⟨url, token, -, -, rfl⟩ := h.isOwn
    · exact absurd hmem List.not_mem_nil
    · rw [(Prod.mk.inj (List.mem_singleton.mp hmem)).1, Remote.Request.normalized_method] at hpost
      have hpost : operation.method = "POST" := hpost
      cases operation <;> exact absurd hpost (by decide)

theorem Performs.not_endsInRemoval (h : Performs s t base .fetch id posts own) :
    ¬EndsInRemoval s (posts ++ own) := by
  obtain rfl | ⟨url, token, -, -, rfl⟩ := h.isOwn
  · rw [List.append_nil]
    exact h.only.not_endsInRemoval
  · rw [endsInRemoval_concat_iff, Remote.Request.normalized_method]
    rintro ⟨hmethod, -⟩
    have hmethod : "GET" = "DELETE" := hmethod
    exact absurd hmethod (by decide)

theorem Performs.endsInRemoval_iff (h : Performs s t base .remove id posts own) :
    EndsInRemoval s (posts ++ own) ↔ ∃ r status body, own = [r] ∧
      ((s.server.replay posts).exchange r).1 = .answered status body ∧
      Http.Status.isSuccess status = true := by
  obtain rfl | ⟨url, token, -, -, rfl⟩ := h.isOwn
  · rw [List.append_nil]
    refine iff_of_false h.only.not_endsInRemoval ?_
    rintro ⟨_, _, _, ⟨⟩, -⟩
  · rw [endsInRemoval_concat_iff, Remote.Request.normalized_method]
    constructor
    · rintro ⟨-, status, body, hreply, hsuccess⟩
      exact ⟨_, status, body, rfl, hreply, hsuccess⟩
    · rintro ⟨r, status, body, hone, hreply, hsuccess⟩
      rw [List.singleton_inj.mp hone]
      exact ⟨rfl, status, body, hreply, hsuccess⟩

end

section

variable {g : Settings.Graph} {p : Token.Provider} {id : GrantId} {s t : Stack}

theorem crash_of_settle_iff {α : Type} {outcome : Except Abort α}
    {result : Except Crash (Except Failure α)} (h : Runs (settle outcome) s result t) :
    (∃ c, result = .error c) ↔
      ∃ c, (.ok outcome : Except Crash (Except Abort α)) = .ok (.error (.crash c)) := by
  cases outcome with
  | ok a => cases h; simp
  | error abort =>
    cases abort with
    | failure f => cases h; simp
    | crash c => cases h; simp

theorem clientFetch_ends {result : Except Crash (Except Abort Grant)}
    (h : Runs ((client g p).fetch id) s result t) :
    ∃ sent, Sends s t sent ∧ ¬EndsInRemoval s sent ∧
      ((∃ c, result = .ok (.error (.crash c))) ↔ Overruns s sent) := by
  obtain ⟨performed, mid, hperform, hnext⟩ := h.steady_inv (outward_perform .fetch id).steady
  obtain ⟨posts, own, hperforms, -, -, hover⟩ := perform_inv hperform
  have hends := hperforms.not_endsInRemoval
  rw [← hperforms.overruns_iff] at hover
  cases performed with
  | error abort =>
    obtain ⟨rfl, rfl⟩ := hnext.pure_inv
    refine ⟨posts ++ own, hperforms.sends, hends, ?_⟩
    simpa only [Except.ok.injEq, Except.error.injEq] using hover
  | ok answer =>
    have hfits : ¬Overruns s (posts ++ own) := by simp [← hover]
    cases hread : Graph.grantOf id answer with
    | error f =>
      simp only [hread] at hnext
      obtain ⟨rfl, rfl⟩ := hnext.pure_inv
      exact ⟨posts ++ own, hperforms.sends, hends, iff_of_false (by simp) hfits⟩
    | ok grant =>
      simp only [hread] at hnext
      obtain ⟨rfl, rfl⟩ := hnext.pure_inv
      exact ⟨posts ++ own, hperforms.sends, hends, iff_of_false (by simp) hfits⟩

theorem clientRemove_ends {result : Except Crash (Except Abort Unit)}
    (h : Runs ((client g p).remove id) s result t) :
    ∃ sent, Sends s t sent ∧ (EndsInRemoval s sent ↔ result = .ok (.ok ())) ∧
      (result = .ok (.ok ()) → EndsAt g.baseUrl id sent) ∧
      ((∃ c, result = .ok (.error (.crash c))) ↔ Overruns s sent) := by
  obtain ⟨performed, mid, hperform, hnext⟩ := h.steady_inv (outward_perform .remove id).steady
  obtain ⟨posts, own, hperforms, hanswer, hanswered, hover⟩ := perform_inv hperform
  refine ⟨posts ++ own, ?_⟩
  rw [hperforms.endsInRemoval_iff, hperforms.overruns_iff]
  cases performed with
  | error abort =>
    obtain ⟨rfl, rfl⟩ := hnext.pure_inv
    refine ⟨hperforms.sends, iff_of_false ?_ (by simp), by simp, ?_⟩
    · rintro ⟨r, status, body, hone, hreply, hsuccess⟩
      have hjudged := hanswered r status body hone hreply
      rw [judged_of_isSuccess hsuccess] at hjudged
      cases hjudged
    · simpa only [Except.ok.injEq, Except.error.injEq] using hover
  | ok answer =>
    obtain ⟨rfl, rfl⟩ := hnext.pure_inv
    obtain ⟨r, rfl, hsuccess, hreply⟩ := hanswer answer rfl
    exact ⟨hperforms.sends, iff_of_true ⟨r, _, _, rfl, hreply, hsuccess⟩ rfl,
      fun _ => hperforms.isOwn.endsAt.append posts,
      iff_of_false (by simp) (by simp [← hover])⟩

theorem fetchGrant_ends {result : Except Crash (Except Failure Grant)}
    (h : Runs ((services (client g p)).fetchGrant id) s result t) :
    t.database = s.database ∧ ∃ sent, Sends s t sent ∧ ¬EndsInRemoval s sent ∧
      ((∃ c, result = .error c) ↔ Overruns s sent) := by
  obtain ⟨fetched, last, hfetch, hsettle⟩ := h.steady_inv (outward_fetch id).steady
  obtain ⟨rfl, -⟩ := settle_inv hsettle
  obtain ⟨sent, hsends, hends, hover⟩ := clientFetch_ends hfetch
  exact ⟨(outward_fetch id s _ t hfetch).1, sent, hsends, hends,
    (crash_of_settle_iff hsettle).trans hover⟩

theorem removeGrant_ends {result : Except Crash (Except Failure Unit)}
    (h : Runs ((services (client g p)).removeGrant id) s result t) :
    t.database = s.database ∧ ∃ sent, Sends s t sent ∧
      (EndsInRemoval s sent ↔ result = .ok (.ok ())) ∧
      (result = .ok (.ok ()) → EndsAt g.baseUrl id sent) ∧
      ((∃ c, result = .error c) ↔ Overruns s sent) := by
  obtain ⟨removed, last, hremove, hsettle⟩ := h.steady_inv (outward_remove id).steady
  obtain ⟨rfl, hok⟩ := settle_inv hsettle
  obtain ⟨sent, hsends, hends, hat, hover⟩ := clientRemove_ends hremove
  have hremoved : result = .ok (.ok ()) → removed = .ok () := hok ()
  refine ⟨(outward_remove id s _ t hremove).1, sent, hsends, ?_, ?_,
    (crash_of_settle_iff hsettle).trans hover⟩
  · rw [hends]
    constructor
    · rintro ⟨⟩
      exact hsettle.pure_inv.1
    · intro hresult
      exact congrArg _ (hremoved hresult)
  · intro hresult
    exact hat (congrArg _ (hremoved hresult))

end

-- What an attempt tells the database on its way from one state to another, during which it sent
-- these requests.
inductive Books (base : Url) (r : RevokeRequest) (s t : Stack) (sent : List Request) : Prop
  | crashed (hover : Overruns s sent) (hends : ¬EndsInRemoval s sent)
    (hdatabase : t.database = s.database)
  | failed {a : Attempt} (hends : ¬EndsInRemoval s sent) (hattempts : Attempts r .failed a)
    (hdatabase : t.database = s.database.told [insertAttempt a])
  | removed {id : GrantId} {cache : List Statement} {event : AuditEvent} {a : Attempt}
    (hends : EndsInRemoval s sent) (hat : EndsAt base id sent) (haddresses : r.Addresses id)
    (hcache : Transacted s.database (forgetStatements id) cache)
    (haudit : AuditsRemoval id (insertAudit event)) (hattempts : Attempts r .success a)
    (hdatabase : t.database = s.database.told (cache ++ [insertAudit event, insertAttempt a]))

section

variable {α : Type} {g : Settings.Graph} {p : Token.Provider} {id : GrantId} {s t : Stack}
  {defaultSource correlation : String} {r : RevokeRequest} {actor : Option Actor}

theorem record_told (hopen : s.database.isOpen = true) {report : Report} {act : Unit → Action α}
    {result : Except Crash α}
    (h : Runs (Revocation.record (services (client g p)) defaultSource report >>= act) s result t) :
    ∃ mid, mid.database = s.database.told [insertAttempt (report.toAttempt defaultSource)] ∧
      Runs (act ()) mid result t := by
  have hsteady : Steady (Revocation.record (services (client g p)) defaultSource report) := by
    intro s c t hrecord
    obtain ⟨mid, -, hnext⟩ :=
      hrecord.onDatabase_inv (Database.appendAttempt (report.toAttempt defaultSource))
    cases hnext
  obtain ⟨_, mid, hrecord, hnext⟩ := h.steady_inv hsteady
  obtain ⟨last, hdatabase, hlast⟩ :=
    hrecord.onDatabase_inv (Database.appendAttempt (report.toAttempt defaultSource))
  obtain ⟨-, rfl⟩ := hlast.pure_inv
  rw [Database.appendAttempt_of_isOpen hopen] at hdatabase
  exact ⟨mid, hdatabase, hnext⟩

theorem attempts_failureReport (stage : Stage) (reason : String) (facts : Json.Fields) :
    Attempts r .failed (Report.toAttempt defaultSource
      (Revocation.Context.failureReport ⟨r.trimmed, actor, correlation⟩ stage reason facts)) :=
  ⟨rfl, rfl, rfl, rfl⟩

theorem attempts_successReport (warning : Option String) (facts : Json.Fields) :
    Attempts r .success (Report.toAttempt defaultSource
      (Revocation.Context.successReport ⟨r.trimmed, actor, correlation⟩ warning facts)) :=
  ⟨rfl, rfl, rfl, rfl⟩

theorem refuse_inv (hopen : s.database.isOpen = true) {c : Revocation.Context} {stage : Stage}
    {facts : Json.Fields} {f : Failure} {result : Except Crash (Except Failure Revoked)}
    (h : Runs (Revocation.refuse (services (client g p)) defaultSource c stage facts f) s
      result t) :
    result = .ok (.error f) ∧ t.database = s.database.told
      [insertAttempt ((c.failureReport stage f.detail facts).toAttempt defaultSource)] := by
  obtain ⟨mid, hdatabase, hnext⟩ := record_told hopen h
  obtain ⟨rfl, rfl⟩ := hnext.pure_inv
  exact ⟨rfl, hdatabase⟩

theorem refuse_told (hopen : s.database.isOpen = true) {stage : Stage} {facts : Json.Fields}
    {f : Failure} {result : Except Crash (Except Failure Revoked)}
    (h : Runs (Revocation.refuse (services (client g p)) defaultSource
      ⟨r.trimmed, actor, correlation⟩ stage facts f) s result t) :
    ∃ a, Attempts r .failed a ∧ t.database = s.database.told [insertAttempt a] := by
  obtain ⟨-, hdatabase⟩ := refuse_inv hopen h
  exact ⟨_, attempts_failureReport stage f.detail facts, hdatabase⟩

theorem conclude_told (hopen : s.database.isOpen = true) {grant : Grant}
    {result : Except Crash (Except Failure Revoked)}
    (h : Runs (Revocation.conclude (services (client g p)) defaultSource
      ⟨r.trimmed, actor, correlation⟩ id grant) s result t) :
    ∃ cache event a, Transacted s.database (forgetStatements id) cache ∧
      AuditsRemoval id (insertAudit event) ∧ Attempts r .success a ∧
      t.database = s.database.told (cache ++ [insertAudit event, insertAttempt a]) := by
  let event := Revocation.Context.auditEvent ⟨r.trimmed, actor, correlation⟩ grant id
  obtain ⟨a, ha, hrest⟩ := h.onDatabase_inv (Database.forgetGrant id)
  obtain ⟨b, hb, hrest⟩ := hrest.onDatabase_inv (Database.appendAudit event)
  obtain ⟨cache, hcache, htransacted⟩ := Database.forgetGrant_of_isOpen hopen id
  have hopen' : (s.database.told cache).isOpen = true := hopen
  rw [ha, hcache, Database.appendAudit_of_isOpen hopen', Database.told_told] at hb
  have hopen' : b.database.isOpen = true := by
    rw [hb]
    exact hopen
  obtain ⟨mid, hdatabase, hnext⟩ := record_told hopen' hrest
  obtain ⟨-, rfl⟩ := hnext.pure_inv
  rw [hb, Database.told_told, List.append_assoc] at hdatabase
  exact ⟨cache, event, _, htransacted, Database.auditsRemoval_insertAudit _ grant id,
    attempts_successReport _ grant.details, hdatabase⟩

theorem remove_books (hopen : s.database.isOpen = true) (ha : r.Addresses id) {grant : Grant}
    {result : Except Crash (Except Failure Revoked)}
    (h : Runs (Revocation.remove (services (client g p)) defaultSource
      ⟨r.trimmed, actor, correlation⟩ id grant) s result t) :
    ∃ sent, Sends s t sent ∧ Books g.baseUrl r s t sent := by
  obtain ⟨removed, mid, hremove, hnext⟩ | ⟨c, hremove, rfl⟩ := h.bind_inv
  · obtain ⟨hdatabase, sent, hsends, hends, hat, -⟩ := removeGrant_ends hremove
    have hopen' : mid.database.isOpen = true := by
      rwa [hdatabase]
    have hsent : ∀ {u}, Sends mid u [] → Sends s u sent := by
      intro u hquiet
      have htrans := hsends.trans hquiet
      rwa [List.append_nil] at htrans
    cases removed with
    | error f =>
      obtain ⟨a, hattempts, htold⟩ := refuse_told hopen' hnext
      have hnot : ¬EndsInRemoval s sent := by
        rw [hends]
        rintro ⟨⟩
      exact ⟨sent, hsent (quiet_refuse _ _ _ _ _ _ _ _ hnext),
        .failed hnot hattempts (by rw [htold, hdatabase])⟩
    | ok _ =>
      obtain ⟨cache, event, a, hcache, haudit, hattempts, htold⟩ := conclude_told hopen' hnext
      rw [hdatabase] at hcache htold
      exact ⟨sent, hsent (quiet_conclude _ _ _ _ _ _ _ hnext),
        .removed (hends.mpr rfl) (hat rfl) ha hcache haudit hattempts htold⟩
  · obtain ⟨hdatabase, sent, hsends, hends, -, hover⟩ := removeGrant_ends hremove
    have hnot : ¬EndsInRemoval s sent := by
      rw [hends]
      rintro ⟨⟩
    exact ⟨sent, hsends, .crashed (hover.mp ⟨c, rfl⟩) hnot hdatabase⟩

-- What is sent before does not change what the attempt ends in.
theorem Books.of_sends {base : Url} {a b : List Request} {mid : Stack} (h : Sends s mid a)
    (ha : ¬EndsInRemoval s a) (hdatabase : mid.database = s.database)
    (hb : Books base r mid t b) : Books base r s t (a ++ b) := by
  have hends : EndsInRemoval s (a ++ b) ↔ EndsInRemoval mid b := h.endsInRemoval_append_iff ha
  cases hb with
  | crashed hover hnot htold =>
    exact .crashed (h.overruns hover) (fun hend => hnot (hends.mp hend)) (htold.trans hdatabase)
  | failed hnot hattempts htold =>
    rw [hdatabase] at htold
    exact .failed (fun hend => hnot (hends.mp hend)) hattempts htold
  | removed hend hat haddresses hcache haudit hattempts htold =>
    rw [hdatabase] at hcache htold
    exact .removed (hends.mpr hend) (hat.append a) haddresses hcache haudit hattempts htold

theorem revokeGrant_books (hopen : s.database.isOpen = true) (ha : r.Addresses id)
    {result : Except Crash (Except Failure Revoked)}
    (h : Runs (Revocation.revokeGrant (services (client g p)) defaultSource
      ⟨r.trimmed, actor, correlation⟩ id) s result t) :
    ∃ sent, Sends s t sent ∧ Books g.baseUrl r s t sent := by
  obtain ⟨fetched, mid, hfetch, hnext⟩ | ⟨c, hfetch, rfl⟩ := h.bind_inv
  · obtain ⟨hdatabase, sent, hsends, hnot, -⟩ := fetchGrant_ends hfetch
    have hopen' : mid.database.isOpen = true := by
      rwa [hdatabase]
    -- An attempt that ends here is recorded as a failure.
    have hrefused : ∀ {stage facts f},
        Runs (Revocation.refuse (services (client g p)) defaultSource
          ⟨r.trimmed, actor, correlation⟩ stage facts f) mid result t →
        ∃ sent, Sends s t sent ∧ Books g.baseUrl r s t sent := by
      intro stage facts f hrefuse
      obtain ⟨a, hattempts, htold⟩ := refuse_told hopen' hrefuse
      have htrans := hsends.trans (quiet_refuse _ _ _ _ _ _ _ _ hrefuse)
      rw [List.append_nil] at htrans
      exact ⟨sent, htrans, .failed hnot hattempts (by rw [htold, hdatabase])⟩
    cases fetched with
    | error f => exact hrefused hnext
    | ok grant =>
      cases hpolicy : Policy.evaluate grant with
      | deny reason =>
        simp only [hpolicy] at hnext
        exact hrefused hnext
      | allow =>
        simp only [hpolicy] at hnext
        obtain ⟨later, hlater, hbooks⟩ := remove_books hopen' ha hnext
        exact ⟨sent ++ later, hsends.trans hlater, hbooks.of_sends hsends hnot hdatabase⟩
  · obtain ⟨hdatabase, sent, hsends, hnot, hover⟩ := fetchGrant_ends hfetch
    exact ⟨sent, hsends, .crashed (hover.mp ⟨c, rfl⟩) hnot hdatabase⟩

theorem revoke_books (hopen : s.database.isOpen = true)
    {result : Except Crash (Except Failure Revoked)}
    (h : Runs (Revocation.revoke (services (client g p)) defaultSource correlation r actor) s
      result t) : ∃ sent, Sends s t sent ∧ Books g.baseUrl r s t sent := by
  rw [Revocation.revoke] at h
  cases hid : r.trimmed.grantId? with
  | none =>
    simp only [hid] at h
    obtain ⟨a, hattempts, htold⟩ := refuse_told hopen h
    exact ⟨[], quiet_refuse _ _ _ _ _ _ _ _ h, .failed not_endsInRemoval_nil hattempts htold⟩
  | some id =>
    simp only [hid] at h
    exact revokeGrant_books hopen ((r.grantId?_eq_some_iff id).mp hid) h

end

end Unshare.Stack
