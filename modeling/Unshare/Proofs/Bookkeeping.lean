import Mathlib.Data.List.Forall2
import Unshare.Proofs.BodyFirst
import Unshare.Proofs.FailClosed
import Unshare.Proofs.Telling

namespace Unshare.Stack

open Api (AsksToRevoke)
open Database (Statement Spares ForgetsCopy AuditsRemoval LogsAttempt insertAttempt selectAttempts
  startsWith)
open Remote (Request)

-- How the statements begin that remove the copy of a grant or add to the audit trail.
def followUps : List String :=
  ["BEGIN", "COMMIT", "ROLLBACK", "DELETE", "UPDATE", "INSERT INTO audit_log_entries"]

def IsFollowUp (q : Statement) : Prop :=
  ∃ start ∈ followUps, startsWith start q.sql = true

-- The text is long enough to tell that it begins otherwise than a follow-up.
def Departs (text : String) : Prop :=
  ∀ start ∈ followUps, start.toList.length ≤ text.toList.length ∧ startsWith start text = false

theorem Departs.append {a : String} (h : Departs a) (b : String) : Departs (a ++ b) := by
  intro start hstart
  obtain ⟨hlength, hother⟩ := h start hstart
  refine ⟨?_, ?_⟩
  · rw [String.toList_append, List.length_append]
    exact Nat.le_add_right_of_le hlength
  · rw [← Bool.not_eq_true, startsWith, List.isPrefixOf_iff_prefix] at hother ⊢
    rw [String.toList_append]
    intro hlonger
    exact hother (List.prefix_of_prefix_length_le hlonger (List.prefix_append _ _) hlength)

theorem Departs.not_isFollowUp {q : Statement} (h : Departs q.sql) : ¬IsFollowUp q := by
  rintro ⟨start, hstart, hsame⟩
  rw [(h start hstart).2] at hsame
  cases hsame

theorem not_isFollowUp_insertAttempt (a : Attempt) : ¬IsFollowUp (insertAttempt a) := by
  apply Departs.not_isFollowUp
  refine .append (.append ?_ _) _
  unfold Departs
  decide +kernel

theorem not_isFollowUp_selectAttempts (q : Attempt.Query) : ¬IsFollowUp (selectAttempts q) := by
  apply Departs.not_isFollowUp
  iterate 4 apply Departs.append
  unfold Departs
  decide +kernel

theorem not_isFollowUp_check : ¬IsFollowUp (Database.plain "SELECT 1") := by
  unfold IsFollowUp
  decide +kernel

-- What does not touch the directory: nothing is sent, and what the database is told does no more
-- than to read or to add to the attempt log.
def Apart {α : Type} (act : Action α) : Prop :=
  ∀ s result t, Runs act s result t → s.database.isOpen = true → Sends s t [] ∧
    ∃ told, t.database = s.database.told told ∧ ∀ q ∈ told, ¬IsFollowUp q ∧ Spares q

section

variable {α β : Type}

theorem Apart.pure (a : α) : Apart (pure a : Action α) := by
  intro s result t h _
  obtain ⟨-, rfl⟩ := h.pure_inv
  exact ⟨Sends.refl t, [], (Database.told_nil _).symm, by simp⟩

theorem Apart.of_tells {act : Database → α × Database} {q : Statement}
    (htells : ∀ db : Database, db.isOpen = true → (act db).2 = db.told [q])
    (hfollowUp : ¬IsFollowUp q) (hspares : Spares q) : Apart (onDatabase act) := by
  intro s result t h hopen
  refine ⟨Quiet.onDatabase act s result t h, [q], ?_, ?_⟩
  · cases h
    exact htells _ hopen
  · rw [List.forall_mem_singleton]
    exact ⟨hfollowUp, hspares⟩

theorem Runs.bind_pure_inv {act : Action α} {f : α → β} {s t : Stack} {result : Except Crash β}
    (h : Runs (act >>= fun a => pure (f a)) s result t) :
    ∃ first, Runs act s first t ∧ result = first.map f := by
  obtain ⟨a, mid, hact, hnext⟩ | ⟨c, hact, rfl⟩ := h.bind_inv
  · obtain ⟨rfl, rfl⟩ := hnext.pure_inv
    exact ⟨_, hact, rfl⟩
  · exact ⟨_, hact, rfl⟩

theorem Apart.bind_pure {act : Action α} (h : Apart act) (f : α → β) :
    Apart (act >>= fun a => Pure.pure (f a)) := by
  intro s result t hrun hopen
  obtain ⟨first, hact, -⟩ := hrun.bind_pure_inv
  exact h s first t hact hopen

end

section

variable {g : Settings.Graph} {p : Token.Provider} {api : Api Action}

theorem apart_answerList (hservices : api.services = services (client g p)) (r : Http.Request) :
    Apart (api.answerList r) := by
  unfold Api.answerList
  split
  · exact .pure _
  · split
    · exact .pure _
    · rw [hservices]
      apply Apart.bind_pure
      exact .of_tells (fun db hopen => Database.listAttempts_of_isOpen hopen _)
        (not_isFollowUp_selectAttempts _) (Database.spares_selectAttempts _)

theorem apart_answerHealth (hfault : api.databaseFault = onDatabase Database.check) :
    Apart api.answerHealth := by
  unfold Api.answerHealth
  rw [hfault]
  apply Apart.bind_pure
  exact .of_tells (fun db hopen => Database.check_of_isOpen hopen) not_isFollowUp_check
    Database.spares_check

-- Whatever is not answered by a revocation leaves the directory alone.
theorem apart_answerBare (hservices : api.services = services (client g p))
    (hfault : api.databaseFault = onDatabase Database.check) (correlation : String)
    {r : Http.Request}
    (h : ¬(AsksToRevoke api.adminToken r ∧ r.body.length ≤ Api.RevokeInput.maxBodySize)) :
    Apart (api.answerBare correlation r) := by
  by_cases hrevoke : AsksToRevoke api.adminToken r
  · have hlong : r.body.length > Api.RevokeInput.maxBodySize :=
      Nat.lt_of_not_le fun hsize => h ⟨hrevoke, hsize⟩
    rw [Api.answerBare_of_asksToRevoke api correlation hrevoke, Api.answerRevoke, if_pos hlong]
    exact .pure _
  · by_cases hreaches : Api.Reaches api.adminToken r
    · obtain ⟨route, hprotected, hasks, hbears⟩ := hreaches
      rw [Api.answerBare_of_bears api correlation hprotected hasks hbears]
      cases route with
      | health => cases hprotected
      | permissions => exact absurd ⟨.inl hasks, hbears⟩ hrevoke
      | revoke => exact absurd ⟨.inr hasks, hbears⟩ hrevoke
      | attempts => exact apart_answerList hservices r
    · obtain ⟨response, hsettles⟩ | hhealth := Api.settles_or_asks_health hreaches
      · rw [hsettles api correlation rfl]
        exact .pure _
      · rw [Api.answerBare_of_asks_health api correlation hhealth]
        exact apart_answerHealth hfault

end

-- How what a visit tells the database goes with what it sends. A removal is followed by the copy, as
-- far as its transaction gets, the audit trail and the log; any other attempt is only logged. The
-- audit trail and the log lose nothing in any case.
structure FollowsDirectory (settings : Settings.Service) (v : Visit) (s t : Stack) : Prop where
  removed : EndsInRemoval s t.server.received →
    AsksToRevoke settings.adminToken v.request ∧ ∃ id cache audit record,
      (Api.RevokeInput.read v.request).Addresses id ∧
      EndsAt settings.graph.baseUrl id t.server.received ∧
      ForgetsCopy s.database id cache ∧ AuditsRemoval id audit ∧
      LogsAttempt (Api.RevokeInput.read v.request) "success" record ∧
      t.database.statements = cache ++ [audit, record]
  failed : AsksToRevoke settings.adminToken v.request →
    v.request.body.length ≤ Api.RevokeInput.maxBodySize → ¬Overruns s t.server.received →
    ¬EndsInRemoval s t.server.received → ∃ record,
      LogsAttempt (Api.RevokeInput.read v.request) "failed" record ∧
      t.database.statements = [record]
  only_removed : ∀ q ∈ t.database.statements, IsFollowUp q → EndsInRemoval s t.server.received
  spared : ∀ q ∈ t.database.statements, Spares q

section

variable {settings : Settings.Service} {v : Visit} {s t : Stack} {sent : List Request}

theorem Books.isOpen {base : Url} {r : RevokeRequest} (h : Books base r s t sent) :
    t.database.isOpen = s.database.isOpen := by
  cases h with
  | crashed _ _ hdatabase => rw [hdatabase]
  | failed _ _ hdatabase =>
    rw [hdatabase]
    rfl
  | removed _ _ _ _ _ _ hdatabase =>
    rw [hdatabase]
    rfl

theorem followsDirectory_of_books (hreceived : t.server.received = sent)
    (hnothing : s.database.statements = [])
    (hasks : AsksToRevoke settings.adminToken v.request)
    (h : Books settings.graph.baseUrl (Api.RevokeInput.read v.request) s t sent) :
    FollowsDirectory settings v s t := by
  have htold : ∀ {statements}, t.database = s.database.told statements →
      t.database.statements = statements := by
    intro statements hdatabase
    rw [hdatabase, Database.told, hnothing, List.nil_append]
  subst hreceived
  cases h with
  | crashed hover hends hdatabase =>
    have hnone : t.database.statements = [] := by rw [hdatabase, hnothing]
    constructor
    · exact fun hremoved => absurd hremoved hends
    · exact fun _ _ hclock => absurd hover hclock
    · simp [hnone]
    · simp [hnone]
  | @failed a hends hattempts hdatabase =>
    have hone : t.database.statements = [insertAttempt a] := htold hdatabase
    constructor
    · exact fun hremoved => absurd hremoved hends
    · exact fun _ _ _ _ => ⟨_, Database.logsAttempt_insertAttempt hattempts, hone⟩
    · rw [hone, List.forall_mem_singleton]
      exact fun hfollowUp => absurd hfollowUp (not_isFollowUp_insertAttempt a)
    · rw [hone, List.forall_mem_singleton]
      exact Database.spares_insertAttempt a
  | @removed id cache event a hends hat haddresses hcache haudit hattempts hdatabase =>
    have hall := htold hdatabase
    constructor
    · exact fun _ => ⟨hasks, id, cache, _, _, haddresses, hat,
        Database.forgetsCopy_of_transacted hcache, haudit,
        Database.logsAttempt_insertAttempt hattempts, hall⟩
    · exact fun _ _ _ hnot => absurd hends hnot
    · exact fun _ _ _ => hends
    · rw [hall, List.forall_mem_append, List.forall_mem_cons, List.forall_mem_singleton]
      exact ⟨Database.spares_of_transacted hcache, Database.spares_insertAudit event,
        Database.spares_insertAttempt a⟩

theorem followsDirectory_of_apart (hreceived : t.server.received = [])
    (hshort : ¬(AsksToRevoke settings.adminToken v.request ∧
      v.request.body.length ≤ Api.RevokeInput.maxBodySize))
    (h : ∀ q ∈ t.database.statements, ¬IsFollowUp q ∧ Spares q) :
    FollowsDirectory settings v s t where
  removed := by
    rw [hreceived]
    exact fun hremoved => absurd hremoved not_endsInRemoval_nil
  failed := fun hasks hsize => absurd ⟨hasks, hsize⟩ hshort
  only_removed := fun q hq hfollowUp => absurd hfollowUp (h q hq).1
  spared := fun q hq => (h q hq).2

end

section

variable {settings : Settings.Service} {api : Api Action} (hbuild : build settings = .ok api)

include hbuild

theorem followsDirectory_visit (v : Visit) {s : Stack} (hopen : s.database.isOpen = true) :
    FollowsDirectory settings v (v.start s) (v.finish api s) ∧
      (v.finish api s).database.isOpen = true := by
  obtain ⟨p, hservices, hfault, htoken⟩ := parts_of_build hbuild
  have hopen : (v.start s).database.isOpen = true := hopen
  have hrun : Runs (api.answer v.correlation v.request) (v.start s) _ (v.finish api s) := rfl
  obtain ⟨first, hbare, -⟩ := hrun.bind_pure_inv
  by_cases hshort : AsksToRevoke settings.adminToken v.request ∧
      v.request.body.length ≤ Api.RevokeInput.maxBodySize
  · obtain ⟨hasks, hsize⟩ := hshort
    rw [Api.answerBare_of_short api v.correlation (by rwa [htoken]) hsize, hservices] at hbare
    obtain ⟨revoked, hrevoke, -⟩ := hbare.bind_pure_inv
    obtain ⟨sent, hsends, hbooks⟩ := revoke_books hopen hrevoke
    refine ⟨followsDirectory_of_books (v.received_of_sends hsends) rfl hasks hbooks, ?_⟩
    rw [hbooks.isOpen]
    exact hopen
  · have hapart := apart_answerBare hservices hfault v.correlation (by rwa [htoken])
    obtain ⟨hsends, told, hdatabase, htold⟩ := hapart _ first _ hbare hopen
    have hstatements : (v.finish api s).database.statements = told := by
      rw [hdatabase]
      rfl
    refine ⟨followsDirectory_of_apart (v.received_of_sends hsends) hshort ?_, ?_⟩
    · rw [hstatements]
      exact htold
    · rw [hdatabase]
      exact hopen

-- Whatever is asked of the service, whatever the directory answers and whichever statements fail,
-- the records say that a permission was removed in exactly those steps that removed one.
theorem steps_follow_directory (visits : List Visit) {s : Stack}
    (hopen : s.database.isOpen = true) :
    List.Forall₂ (fun v step => FollowsDirectory settings v step.1 step.2) visits
      (steps api visits s) := by
  induction visits generalizing s with
  | nil => exact .nil
  | cons v rest ih =>
    obtain ⟨hfollows, hopen⟩ := followsDirectory_visit hbuild v hopen
    exact .cons hfollows (ih hopen)

end

-- The hub with a database.
def openHub : Stack :=
  { idleHub with database := .prepared [] [] }

-- The database refuses every statement, since each begins with nothing.
def stuckVisits : List Visit :=
  hubVisits.map fun v => { v with surroundings.failing := [("", "locked")] }

theorem steps_follow_directory_stuckVisits :
    build hub = .ok hubApi ∧ openHub.database.isOpen = true ∧
      (steps hubApi stuckVisits openHub).map (fun step => step.2.database.statements.length) =
        [3, 1] ∧
      List.Forall₂ (fun v step => FollowsDirectory hub v step.1 step.2) stuckVisits
        (steps hubApi stuckVisits openHub) :=
  have hbuild : build hub = .ok hubApi := rfl
  ⟨hbuild, rfl, by decide +kernel, steps_follow_directory hbuild stuckVisits rfl⟩

end Unshare.Stack
