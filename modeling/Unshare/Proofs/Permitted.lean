import Unshare.Proofs.Outgoing
import Unshare.Proofs.Pipeline
import Unshare.Proofs.Releasable

namespace Unshare

namespace Api

section

-- What is true of answers for which nobody is asked, of revocations, of listings and of the word on
-- the database, and stays true when an answer is put into another form, is true of every answer.
variable {m : Type → Type} [Monad m] {P : m Http.Response → Prop} {api : Api m}
  {correlation : String} (hpure : ∀ response, P (pure response))
  (hrevoke : ∀ asked actor, P (do
    return ofRevoked (← Revocation.revoke api.services api.defaultSource correlation asked actor)))
  (hlist : ∀ query, P (do return ofListed (← Revocation.recent api.services query)))
  (hhealth : P api.answerHealth)

include hpure hrevoke hlist hhealth

theorem serve_of_parts (route : Route) (actor : Actor) (r : Http.Request) :
    P (api.serve correlation route actor r) := by
  have hbody : P (api.answerRevoke correlation actor r) := by
    unfold answerRevoke
    split
    · exact hpure _
    · exact hrevoke _ _
  have hlisted : P (api.answerList r) := by
    unfold answerList
    split
    · exact hpure _
    · split
      · exact hpure _
      · exact hlist _
  cases route with
  | health => exact hhealth
  | permissions => exact hbody
  | revoke => exact hbody
  | attempts => exact hlisted

theorem answerOn_of_parts (route : Route) (r : Http.Request) :
    P (api.answerOn correlation route r) := by
  unfold answerOn
  cases api.admitTo route r with
  | error f => exact hpure _
  | ok actor =>
    by_cases hanswers : route.methods.contains r.method = true
    · simp only [hanswers, if_true]
      exact serve_of_parts hpure hrevoke hlist hhealth route actor r
    · simp only [hanswers]
      exact hpure _

theorem answer_of_parts (hform : ∀ act (f : Http.Response → Http.Response), P act →
    P (do let response ← act; return f response)) (r : Http.Request) :
    P (api.answer correlation r) := by
  unfold answer
  apply hform
  unfold answerBare
  by_cases hoptions : r.method = "OPTIONS"
  · simp only [if_pos hoptions]
    exact hpure _
  · simp only [if_neg hoptions]
    cases Route.ofPath? r.path with
    | none => exact hpure _
    | some route => exact answerOn_of_parts hpure hrevoke hlist hhealth route r

end

end Api

namespace Stack

open Remote (Request Reply)

section

variable {α β : Type}

-- An action that sends nothing.
def Quiet (act : Action α) : Prop :=
  ∀ s result t, Runs act s result t → Sends s t []

theorem Quiet.pure (a : α) : Quiet (pure a : Action α) := by
  intro s result t h
  obtain ⟨-, rfl⟩ := h.pure_inv
  exact Sends.refl t

theorem Quiet.bind {act : Action α} {next : α → Action β} (h : Quiet act)
    (hnext : ∀ a, Quiet (next a)) : Quiet (act >>= next) := by
  intro s result t hrun
  obtain ⟨a, mid, hact, hrest⟩ | ⟨c, hact, -⟩ := hrun.bind_inv
  · exact (h s _ mid hact).trans (hnext a mid result t hrest)
  · exact h s _ t hact

theorem Quiet.closed : Revocation.Closed @Quiet :=
  ⟨Quiet.pure, Quiet.bind⟩

theorem Quiet.onDatabase (act : Database → α × Database) : Quiet (onDatabase act) := by
  intro s result t h
  cases h
  exact ⟨by simp, rfl, rfl, fun _ htoken => .inl htoken⟩

end

section

variable {g : Settings.Graph} {p : Token.Provider} (defaultSource : String)

theorem quiet_refuse (c : Revocation.Context) (stage : Stage) (facts : Json.Fields) (f : Failure) :
    Quiet (Revocation.refuse (services (client g p)) defaultSource c stage facts f) :=
  Quiet.closed.refuse (fun _ => Quiet.onDatabase (Database.appendAttempt _)) c stage facts f

theorem quiet_conclude (c : Revocation.Context) (id : GrantId) (grant : Grant) :
    Quiet (Revocation.conclude (services (client g p)) defaultSource c id grant) := by
  apply Quiet.closed.conclude
  · exact fun r => Quiet.onDatabase (Database.appendAttempt _)
  · exact fun id => Quiet.onDatabase (Database.forgetGrant id)
  · exact fun event => Quiet.onDatabase (Database.appendAudit event)

end

-- What the request `get`, sent after these, was answered: a permission that the guard lets pass.
def Releases (s : Stack) (before : List Request) (get : Request) : Prop :=
  ∃ status body j p, ((s.server.replay before).exchange get).1 = .answered status body ∧
    Http.Status.isSuccess status = true ∧ Json.ofBytes? body.bytes = some j ∧
    Graph.Permission.ofJson? j = some p ∧ p.inheritedFrom = none ∧
    ∀ role ∈ p.roles, ¬Policy.SpellsOwner role

-- What a step may send: nothing, or what reads a permission, or what reads one that the answer
-- releases and then goes on to remove it.
inductive Permitted (s : Stack) (base : Url) : List Request → Prop
  | nothing : Permitted s base []
  | read {id : GrantId} {posts own : List Request} : OnlyPosts posts →
    IsOwn s posts base .fetch id own → Permitted s base (posts ++ own)
  | remove {id : GrantId} {posts later own : List Request} {get : Request} : OnlyPosts posts →
    IsOwn s posts base .fetch id [get] → Releases s posts get → OnlyPosts later →
    IsOwn s (posts ++ get :: later) base .remove id own →
    Permitted s base (posts ++ get :: later ++ own)

theorem IsOwn.of_sends {s t : Stack} {a b own : List Request} {base : Url}
    {operation : Graph.Operation} {id : GrantId} (h : Sends s t a)
    (hown : IsOwn t b base operation id own) : IsOwn s (a ++ b) base operation id own := by
  refine hown.imp_right ?_
  rintro ⟨url, token, hurl, htoken, hown⟩
  exact ⟨url, token, hurl, h.holds htoken, hown⟩

section

variable {g : Settings.Graph} {p : Token.Provider}

theorem settle_inv {α : Type} {outcome : Except Abort α} {s t : Stack}
    {result : Except Crash (Except Failure α)} (h : Runs (settle outcome) s result t) :
    t = s ∧ ∀ a, result = .ok (.ok a) → outcome = .ok a := by
  cases outcome with
  | ok a =>
    obtain ⟨rfl, rfl⟩ := h.pure_inv
    refine ⟨rfl, ?_⟩
    rintro _ ⟨⟩
    rfl
  | error abort =>
    cases abort with
    | failure f =>
      obtain ⟨rfl, rfl⟩ := h.pure_inv
      exact ⟨rfl, by simp⟩
    | crash c =>
      obtain ⟨rfl, rfl⟩ := h.throw_inv
      exact ⟨rfl, by simp⟩

theorem permission_of_grantOf {id : GrantId} {answer : Remote.Answer} {grant : Grant}
    (h : Graph.grantOf id answer = .ok grant) : ∃ j p, Json.ofBytes? answer.body.bytes = some j ∧
      Graph.Permission.ofJson? j = some p ∧ grant = p.toGrant id := by
  rw [Graph.grantOf, Remote.Answer.decode] at h
  cases hread : (Json.ofBytes? answer.body.bytes).bind Graph.Permission.ofJson? with
  | none =>
    rw [hread] at h
    cases h
  | some p =>
    rw [hread] at h
    cases h
    obtain ⟨j, hj, hp⟩ := Option.bind_eq_some_iff.mp hread
    exact ⟨j, p, hj, hp, rfl⟩

-- A grant that was read and that the guard lets pass is one that the answer releases.
theorem clientFetch_inv {id : GrantId} {s t : Stack} {result : Except Crash (Except Abort Grant)}
    (h : Runs ((client g p).fetch id) s result t) :
    ∃ posts own, Performs s t g.baseUrl .fetch id posts own ∧ ∀ grant, result = .ok (.ok grant) →
      Policy.evaluate grant = .allow → ∃ get, own = [get] ∧ Releases s posts get := by
  obtain ⟨performed, mid, hperform, hnext⟩ | ⟨c, hperform, rfl⟩ := h.bind_inv
  · obtain ⟨posts, own, hperforms, hanswer, -⟩ := perform_inv hperform
    cases performed with
    | error abort =>
      obtain ⟨rfl, rfl⟩ := hnext.pure_inv
      exact ⟨posts, own, hperforms, by simp⟩
    | ok answer =>
      obtain ⟨get, hget, hsuccess, hreply⟩ := hanswer answer rfl
      cases hread : Graph.grantOf id answer with
      | error f =>
        simp only [hread] at hnext
        obtain ⟨rfl, rfl⟩ := hnext.pure_inv
        exact ⟨posts, own, hperforms, by simp⟩
      | ok grant =>
        simp only [hread] at hnext
        obtain ⟨rfl, rfl⟩ := hnext.pure_inv
        refine ⟨posts, own, hperforms, ?_⟩
        rintro _ ⟨⟩ hallow
        obtain ⟨j, permission, hj, hpermission, rfl⟩ := permission_of_grantOf hread
        obtain ⟨hinherited, hroles⟩ := not_or.mp ((Policy.evaluate_eq_allow_iff _).mp hallow)
        refine ⟨get, hget, answer.status, answer.body, j, permission, hreply, hsuccess, hj,
          hpermission, ?_, ?_⟩
        · exact Option.not_isSome_iff_eq_none.mp hinherited
        · intro role hrole howner
          exact hroles ⟨role, hrole, howner⟩
  · obtain ⟨posts, own, hperforms, -⟩ := perform_inv hperform
    exact ⟨posts, own, hperforms, by simp⟩

theorem fetchGrant_inv {id : GrantId} {s t : Stack}
    {result : Except Crash (Except Failure Grant)}
    (h : Runs ((services (client g p)).fetchGrant id) s result t) :
    ∃ posts own, Performs s t g.baseUrl .fetch id posts own ∧ ∀ grant, result = .ok (.ok grant) →
      Policy.evaluate grant = .allow → ∃ get, own = [get] ∧ Releases s posts get := by
  obtain ⟨fetched, last, hfetch, hsettle⟩ | ⟨c, hfetch, rfl⟩ := h.bind_inv
  · obtain ⟨rfl, hgrant⟩ := settle_inv hsettle
    obtain ⟨posts, own, hperforms, hreleases⟩ := clientFetch_inv hfetch
    refine ⟨posts, own, hperforms, ?_⟩
    intro grant hresult hallow
    exact hreleases grant (congrArg _ (hgrant grant hresult)) hallow
  · obtain ⟨posts, own, hperforms, -⟩ := clientFetch_inv hfetch
    exact ⟨posts, own, hperforms, by simp⟩

theorem clientRemove_inv {id : GrantId} {s t : Stack} {result : Except Crash (Except Abort Unit)}
    (h : Runs ((client g p).remove id) s result t) :
    ∃ posts own, Performs s t g.baseUrl .remove id posts own := by
  obtain ⟨performed, mid, hperform, hnext⟩ | ⟨c, hperform, -⟩ := h.bind_inv
  · obtain ⟨posts, own, hperforms, -⟩ := perform_inv hperform
    have hend : t = mid := by
      cases performed with
      | error abort => exact hnext.pure_inv.2
      | ok answer => exact hnext.pure_inv.2
    rw [hend]
    exact ⟨posts, own, hperforms⟩
  · obtain ⟨posts, own, hperforms, -⟩ := perform_inv hperform
    exact ⟨posts, own, hperforms⟩

theorem removeGrant_inv {id : GrantId} {s t : Stack}
    {result : Except Crash (Except Failure Unit)}
    (h : Runs ((services (client g p)).removeGrant id) s result t) :
    ∃ posts own, Performs s t g.baseUrl .remove id posts own := by
  obtain ⟨removed, last, hremove, hsettle⟩ | ⟨c, hremove, -⟩ := h.bind_inv
  · obtain ⟨rfl, -⟩ := settle_inv hsettle
    exact clientRemove_inv hremove
  · exact clientRemove_inv hremove

theorem remove_inv {defaultSource : String} {c : Revocation.Context} {id : GrantId}
    {grant : Grant} {s t : Stack} {result : Except Crash (Except Failure Revoked)}
    (h : Runs (Revocation.remove (services (client g p)) defaultSource c id grant) s result t) :
    ∃ posts own, Performs s t g.baseUrl .remove id posts own := by
  obtain ⟨removed, mid, hremove, hnext⟩ | ⟨c, hremove, -⟩ := h.bind_inv
  · obtain ⟨posts, own, hperforms⟩ := removeGrant_inv hremove
    have hrest : Sends mid t [] := by
      cases removed with
      | error f => exact quiet_refuse _ _ _ _ _ _ _ _ hnext
      | ok _ => exact quiet_conclude _ _ _ _ _ _ _ hnext
    have hsends := hperforms.sends.trans hrest
    rw [List.append_nil] at hsends
    exact ⟨posts, own, hsends, hperforms.only, hperforms.isOwn⟩
  · exact removeGrant_inv hremove

theorem revokeGrant_inv {defaultSource : String} {c : Revocation.Context} {id : GrantId}
    {s t : Stack} {result : Except Crash (Except Failure Revoked)}
    (h : Runs (Revocation.revokeGrant (services (client g p)) defaultSource c id) s result t) :
    ∃ sent, Sends s t sent ∧ Permitted s g.baseUrl sent := by
  obtain ⟨fetched, mid, hfetch, hnext⟩ | ⟨crash, hfetch, -⟩ := h.bind_inv
  · obtain ⟨posts, own, hperforms, hreleases⟩ := fetchGrant_inv hfetch
    have hread : Permitted s g.baseUrl (posts ++ own) := .read hperforms.only hperforms.isOwn
    -- Unless the grant is removed, nothing is sent once it was read.
    have hended : Sends mid t [] → ∃ sent, Sends s t sent ∧ Permitted s g.baseUrl sent := by
      intro hquiet
      have hsends := hperforms.sends.trans hquiet
      rw [List.append_nil] at hsends
      exact ⟨posts ++ own, hsends, hread⟩
    cases fetched with
    | error f => exact hended (quiet_refuse _ _ _ _ _ _ _ _ hnext)
    | ok grant =>
      cases hpolicy : Policy.evaluate grant with
      | deny reason =>
        simp only [hpolicy] at hnext
        exact hended (quiet_refuse _ _ _ _ _ _ _ _ hnext)
      | allow =>
        simp only [hpolicy] at hnext
        obtain ⟨get, rfl, hget⟩ := hreleases grant rfl hpolicy
        obtain ⟨later, del, hremoves⟩ := remove_inv hnext
        have hdel := IsOwn.of_sends hperforms.sends hremoves.isOwn
        have hsends := hperforms.sends.trans hremoves.sends
        simp only [List.append_assoc, List.cons_append, List.nil_append] at hsends hdel
        refine ⟨posts ++ get :: later ++ del, ?_,
          .remove hperforms.only hperforms.isOwn hget hremoves.only hdel⟩
        rwa [List.append_assoc, List.cons_append]
  · obtain ⟨posts, own, hperforms, -⟩ := fetchGrant_inv hfetch
    exact ⟨posts ++ own, hperforms.sends, .read hperforms.only hperforms.isOwn⟩

theorem revoke_inv {defaultSource correlation : String} {r : RevokeRequest} {actor : Option Actor}
    {s t : Stack} {result : Except Crash (Except Failure Revoked)}
    (h : Runs (Revocation.revoke (services (client g p)) defaultSource correlation r actor) s
      result t) : ∃ sent, Sends s t sent ∧ Permitted s g.baseUrl sent := by
  rw [Revocation.revoke] at h
  cases hid : r.trimmed.grantId? with
  | none =>
    simp only [hid] at h
    exact ⟨[], quiet_refuse _ _ _ _ _ _ _ _ h, .nothing⟩
  | some id =>
    simp only [hid] at h
    exact revokeGrant_inv h

end

section

variable {α β : Type} {base : Url}

-- An action that sends only what a step may send.
def Guarded (base : Url) (act : Action α) : Prop :=
  ∀ s result t, Runs act s result t → ∃ sent, Sends s t sent ∧ Permitted s base sent

theorem Quiet.guarded {act : Action α} (h : Quiet act) : Guarded base act :=
  fun s result t hrun => ⟨[], h s result t hrun, .nothing⟩

theorem Guarded.bind {act : Action α} {next : α → Action β} (h : Guarded base act)
    (hnext : ∀ a, Quiet (next a)) : Guarded base (act >>= next) := by
  intro s result t hrun
  obtain ⟨a, mid, hact, hrest⟩ | ⟨c, hact, -⟩ := hrun.bind_inv
  · obtain ⟨sent, hsends, hpermitted⟩ := h s _ mid hact
    have htrans := hsends.trans (hnext a mid result t hrest)
    rw [List.append_nil] at htrans
    exact ⟨sent, htrans, hpermitted⟩
  · exact h s _ t hact

end

section

variable {g : Settings.Graph} {p : Token.Provider} {api : Api Action}
  (hservices : api.services = services (client g p)) (hfault : Quiet api.databaseFault)

include hservices hfault

theorem guarded_answer (correlation : String) (r : Http.Request) :
    Guarded g.baseUrl (api.answer correlation r) := by
  apply Api.answer_of_parts
  · exact fun response => (Quiet.pure response).guarded
  · intro asked actor
    rw [hservices]
    exact Guarded.bind (fun s result t h => revoke_inv h) fun _ => Quiet.pure _
  · intro query
    rw [hservices]
    exact ((Quiet.onDatabase (Database.listAttempts _)).bind fun _ => Quiet.pure _).guarded
  · exact (hfault.bind fun _ => Quiet.pure _).guarded
  · exact fun act f h => h.bind fun _ => Quiet.pure _

end

theorem parts_of_build {settings : Settings.Service} {api : Api Action}
    (h : build settings = .ok api) : ∃ p, api.services = services (client settings.graph p) ∧
      api.databaseFault = onDatabase Database.check ∧ api.adminToken = settings.adminToken := by
  obtain ⟨p, origin, -, -, rfl⟩ := build_inv h
  exact ⟨p, rfl, rfl, rfl⟩

end Stack

end Unshare
