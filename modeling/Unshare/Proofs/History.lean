import Mathlib.Data.List.Nodup
import Unshare.Memory.Run
import Unshare.Proofs.Courses
import Unshare.Proofs.Guard

namespace Unshare.Memory

open Revocation

-- Nothing that is kept from one step to the next was changed.
structure SameStore (m m' : Memory) : Prop where
  grants : m'.grants = m.grants
  attempts : m'.attempts = m.attempts
  faults : m'.faults = m.faults

theorem SameStore.trans {a b c : Memory} (h : SameStore a b) (h' : SameStore b c) :
    SameStore a c :=
  ⟨h'.grants.trans h.grants, h'.attempts.trans h.attempts, h'.faults.trans h.faults⟩

-- The state in which a call acts.
def noted (m : Memory) (note : Call) : Memory :=
  { m with calls := m.calls ++ [note] }

theorem sameStore_noted (m : Memory) (note : Call) : SameStore m (m.noted note) :=
  ⟨rfl, rfl, rfl⟩

theorem run_fetchGrant (id : GrantId) (m : Memory) :
    (services.fetchGrant id).run m =
      match m.faults .fetch with
      | some f => (.error f, m.noted (.fetch id))
      | none =>
        match m.find? id with
        | some g => (.ok g, m.noted (.fetch id))
        | none => (.error (notFound id), m.noted (.fetch id)) := rfl

theorem run_removeGrant (id : GrantId) (m : Memory) :
    (services.removeGrant id).run m =
      match m.faults .remove with
      | some f => (.error f, m.noted (.remove id))
      | none => (.ok (), (m.noted (.remove id)).erase id) := rfl

theorem run_forgetGrant (id : GrantId) (m : Memory) :
    (services.forgetGrant id).run m =
      match m.faults .forget with
      | some f => (.error f, m.noted (.forget id))
      | none => (.ok (), m.noted (.forget id)) := rfl

theorem run_appendAudit (event : AuditEvent) (m : Memory) :
    (services.appendAudit event).run m =
      match m.faults .audit with
      | some f => (.error f, m.noted (.audit event))
      | none => (.ok (), m.noted (.audit event)) := rfl

theorem run_appendAttempt (attempt : Attempt) (m : Memory) :
    (services.appendAttempt attempt).run m =
      match m.faults .log with
      | some f => (.error f, m.noted (.log attempt))
      | none => (.ok (), (m.noted (.log attempt)).keep attempt) := rfl

theorem run_listAttempts (query : Attempt.Query) (m : Memory) :
    (services.listAttempts query).run m =
      match m.faults .list with
      | some f => (.error f, m.noted (.list query))
      | none => (.ok (window query m.attempts), m.noted (.list query)) := rfl

theorem sameStore_fetchGrant {id : GrantId} {m m' : Memory} {answer : Except Failure Grant}
    (h : (services.fetchGrant id).run m = (answer, m')) : SameStore m m' := by
  rw [run_fetchGrant] at h
  cases hf : m.faults .fetch with
  | some f =>
    rw [hf] at h
    cases h
    exact sameStore_noted m _
  | none =>
    rw [hf] at h
    cases hg : m.find? id with
    | none =>
      rw [hg] at h
      cases h
      exact sameStore_noted m _
    | some g =>
      rw [hg] at h
      cases h
      exact sameStore_noted m _

theorem find?_of_fetchGrant {id : GrantId} {m m' : Memory} {g : Grant}
    (h : (services.fetchGrant id).run m = (.ok g, m')) : m.find? id = some g := by
  rw [run_fetchGrant] at h
  cases hf : m.faults .fetch with
  | some f =>
    rw [hf] at h
    cases h
  | none =>
    rw [hf] at h
    cases hg : m.find? id with
    | none =>
      rw [hg] at h
      cases h
    | some g' =>
      rw [hg] at h
      cases h
      rfl

theorem sameStore_of_removeGrant {id : GrantId} {m m' : Memory} {f : Failure}
    (h : (services.removeGrant id).run m = (.error f, m')) : SameStore m m' := by
  rw [run_removeGrant] at h
  cases hf : m.faults .remove with
  | some f' =>
    rw [hf] at h
    cases h
    exact sameStore_noted m _
  | none =>
    rw [hf] at h
    cases h

theorem erase_of_removeGrant {id : GrantId} {m m' : Memory}
    (h : (services.removeGrant id).run m = (.ok (), m')) : SameStore (m.erase id) m' := by
  rw [run_removeGrant] at h
  cases hf : m.faults .remove with
  | some f' =>
    rw [hf] at h
    cases h
  | none =>
    rw [hf] at h
    cases h
    exact ⟨rfl, rfl, rfl⟩

theorem sameStore_forgetGrant (id : GrantId) (m : Memory) :
    SameStore m ((services.forgetGrant id).run m).2 := by
  rw [run_forgetGrant]
  cases m.faults .forget <;> exact sameStore_noted m _

theorem sameStore_appendAudit (event : AuditEvent) (m : Memory) :
    SameStore m ((services.appendAudit event).run m).2 := by
  rw [run_appendAudit]
  cases m.faults .audit <;> exact sameStore_noted m _

theorem sameStore_listAttempts (query : Attempt.Query) (m : Memory) :
    SameStore m ((services.listAttempts query).run m).2 := by
  rw [run_listAttempts]
  cases m.faults .list <;> exact sameStore_noted m _

-- The records by which the log grows when it is handed this one.
def added (m : Memory) (a : Attempt) : List LoggedAttempt :=
  if m.faults .log = none then
    [⟨a, m.attempts.length + 1, timeOf (m.attempts.length + 1)⟩]
  else []

theorem SameStore.added_eq {m m' : Memory} (h : SameStore m m') (a : Attempt) :
    m'.added a = m.added a := by
  simp only [added, h.attempts, h.faults]

theorem afterRecord_services (defaultSource : String) (report : Report) (m : Memory) :
    (afterRecord services defaultSource report m).grants = m.grants ∧
      (afterRecord services defaultSource report m).attempts =
        m.attempts ++ m.added (report.toAttempt defaultSource) := by
  unfold afterRecord
  rw [run_appendAttempt]
  cases hf : m.faults .log with
  | some f => simp [added, hf, noted]
  | none => simp [added, hf, noted, keep]

-- What one revocation does to the store, told from its result.
structure Effect (r : RevokeRequest) (m : Memory) (result : Except Failure Revoked)
    (m' : Memory) : Prop where
  record : ∃ course kept, Records r course result kept ∧
    m'.attempts = m.attempts ++ m.added kept
  same_of_error : ∀ f, result = .error f → m'.grants = m.grants
  removed_of_ok : ∀ done, result = .ok done → ∃ g ∈ m.grants, r.Addresses g.id ∧
    Policy.evaluate g = .allow ∧ m'.grants = m.grants.filter fun other => other.id ≠ g.id

section

variable {defaultSource correlation : String} {r : RevokeRequest} {actor : Option Actor}
  {m n m' : Memory} {result : Except Failure Revoked}

theorem effect_of_refuse (course : Course) {stage : Stage} {facts : Json.Fields} {f : Failure}
    (hstage : stage.code = course.stage) (hs : SameStore m n)
    (h : (refuse services defaultSource ⟨r.trimmed, actor, correlation⟩ stage facts f).run n =
      (result, m')) : Effect r m result m' := by
  rw [run_refuse] at h
  cases h
  let report := Context.failureReport ⟨r.trimmed, actor, correlation⟩ stage f.detail facts
  obtain ⟨hgrants, hattempts⟩ := afterRecord_services defaultSource report n
  have hadded : (afterRecord services defaultSource report n).attempts =
      m.attempts ++ m.added (report.toAttempt defaultSource) := by
    rw [hattempts, hs.attempts, hs.added_eq]
  refine ⟨⟨course, _, records_failureReport stage facts f hstage, hadded⟩, ?_, ?_⟩
  · intro _ _
    exact hgrants.trans hs.grants
  · rintro _ ⟨⟩

theorem effect_of_conclude {g : Grant} (hg : g ∈ m.grants) (ha : r.Addresses g.id)
    (hp : Policy.evaluate g = .allow) (hs : SameStore (m.erase g.id) n)
    (h : (conclude services defaultSource ⟨r.trimmed, actor, correlation⟩ g.id g).run n =
      (result, m')) : Effect r m result m' := by
  let c : Context := ⟨r.trimmed, actor, correlation⟩
  let cached := (services.forgetGrant g.id).run n
  let audited := (services.appendAudit (c.auditEvent g g.id)).run cached.2
  let report := c.successReport (joinWarnings cached.1 audited.1) g.details
  have hsame : SameStore (m.erase g.id) audited.2 :=
    hs.trans ((sameStore_forgetGrant g.id n).trans (sameStore_appendAudit _ cached.2))
  have hrun : (conclude services defaultSource c g.id g).run n =
      (.ok ⟨joinWarnings cached.1 audited.1⟩,
        afterRecord services defaultSource report audited.2) := rfl
  rw [hrun] at h
  cases h
  obtain ⟨hgrants, hattempts⟩ := afterRecord_services defaultSource report audited.2
  have hadded : (afterRecord services defaultSource report audited.2).attempts =
      m.attempts ++ m.added (report.toAttempt defaultSource) := by
    rw [hattempts, hsame.attempts, hsame.added_eq]
    rfl
  refine ⟨⟨.removed g.id g, _, records_successReport _ _ rfl, hadded⟩, ?_, ?_⟩
  · rintro _ ⟨⟩
  · intro _ _
    exact ⟨g, hg, ha, hp, hgrants.trans hsame.grants⟩

theorem mem_of_find? {id : GrantId} {g : Grant} (h : m.find? id = some g) :
    g ∈ m.grants ∧ g.id = id :=
  ⟨List.mem_of_find?_eq_some h, by simpa using List.find?_some h⟩

theorem effect_of_revoke
    (h : (revoke services defaultSource correlation r actor).run m = (result, m')) :
    Effect r m result m' := by
  obtain ⟨course, ht⟩ := exists_taken services r m
  cases course with
  | incomplete =>
    rw [revoke_of_isIncomplete services defaultSource correlation actor ht] at h
    exact effect_of_refuse .incomplete rfl ⟨rfl, rfl, rfl⟩ h
  | fetchFailed id f =>
    obtain ⟨ha, n, hf⟩ := ht
    rw [revoke_of_addresses services defaultSource correlation actor ha,
      run_revokeGrant_of_error services defaultSource hf] at h
    exact effect_of_refuse (.fetchFailed id f) rfl (sameStore_fetchGrant hf) h
  | refused id g reason =>
    obtain ⟨ha, n, hf, hp⟩ := ht
    rw [revoke_of_addresses services defaultSource correlation actor ha,
      run_revokeGrant_of_deny services defaultSource hf hp] at h
    exact effect_of_refuse (.refused id g reason) rfl (sameStore_fetchGrant hf) h
  | removeFailed id g f =>
    obtain ⟨ha, n, n', hf, hp, hr⟩ := ht
    rw [revoke_of_addresses services defaultSource correlation actor ha,
      run_revokeGrant_of_allow services defaultSource hf hp,
      run_remove_of_error services defaultSource hr] at h
    exact effect_of_refuse (.removeFailed id g f) rfl
      ((sameStore_fetchGrant hf).trans (sameStore_of_removeGrant hr)) h
  | removed id g =>
    obtain ⟨ha, n, n', hf, hp, hr⟩ := ht
    obtain ⟨hg, rfl⟩ := mem_of_find? (find?_of_fetchGrant hf)
    rw [revoke_of_addresses services defaultSource correlation actor ha,
      run_revokeGrant_of_allow services defaultSource hf hp,
      run_remove_of_ok services defaultSource hr] at h
    have hfetched := sameStore_fetchGrant hf
    have hremoved := erase_of_removeGrant hr
    have hs : SameStore (m.erase g.id) n' := by
      refine ⟨?_, ?_, ?_⟩
      · rw [hremoved.grants]
        simp only [erase, hfetched.grants]
      · rw [hremoved.attempts]
        exact hfetched.attempts
      · rw [hremoved.faults]
        exact hfetched.faults
    exact effect_of_conclude hg ha hp hs h

end

-- The step revoked the grant with this id.
def Revokes (id : GrantId) : Step × Answer → Prop
  | (.revoke r _ _, .revoked (.ok _)) => r.Addresses id
  | _ => False

-- The step is a revocation whose log did not fail.
def isLogged : Step × Answer → Bool
  | (.revoke _ _ faults, _) => (faults .log).isNone
  | (.list _ _, _) => false

-- The record names what the step asked for, and a success exactly where the step had one.
def Tells (kept : LoggedAttempt) : Step × Answer → Prop
  | (.revoke r _ _, .revoked result) =>
    kept.drive = Text.present r.drive ∧ kept.item = Text.present r.item ∧
      kept.permission = Text.present r.permission ∧
      (kept.outcome = .success ↔ ∃ done, result = .ok done)
  | _ => False

-- How the store after these steps comes from the store before them.
structure Follows (events : List (Step × Answer)) (m m' : Memory) : Prop where
  sublist : m'.grants.Sublist m.grants
  gone_iff : ∀ g ∈ m.grants, g ∉ m'.grants ↔ ∃ e ∈ events, Revokes g.id e
  spared : ∀ g ∈ m.grants, Policy.IsProtected g → g ∈ m'.grants
  log : ∃ entries, m'.attempts = m.attempts ++ entries ∧
    List.Forall₂ Tells entries (events.filter isLogged)

theorem Follows.nil (m : Memory) : Follows [] m m where
  sublist := List.Sublist.refl _
  gone_iff := by
    intro g hg
    simp [hg]
  spared := fun _ hg _ => hg
  log := ⟨[], by simp, List.Forall₂.nil⟩

theorem Follows.append {first second : List (Step × Answer)} {a b c : Memory}
    (h : Follows first a b) (h' : Follows second b c) : Follows (first ++ second) a c where
  sublist := h'.sublist.trans h.sublist
  gone_iff := by
    intro g hg
    have hfirst := h.gone_iff g hg
    simp only [List.mem_append, or_and_right, exists_or, ← hfirst]
    by_cases hb : g ∈ b.grants
    · simp only [h'.gone_iff g hb, hb, not_true_eq_false, false_or]
    · have hc : g ∉ c.grants := fun hc => hb (h'.sublist.subset hc)
      simp only [hb, hc, not_false_eq_true, true_or]
  spared := fun g hg hp => h'.spared g (h.spared g hg hp) hp
  log := by
    obtain ⟨entries, he, ht⟩ := h.log
    obtain ⟨entries', he', ht'⟩ := h'.log
    refine ⟨entries ++ entries', ?_, ?_⟩
    · rw [he', he, List.append_assoc]
    · rw [List.filter_append]
      exact List.rel_append ht ht'

section

variable {r : RevokeRequest} {actor : Option Actor} {faults : Faults} {m m' : Memory}
  {result : Except Failure Revoked}

theorem log_of_effect (h : Effect r (prepare faults m) result m') :
    ∃ entries, m'.attempts = m.attempts ++ entries ∧
      List.Forall₂ Tells entries
        ([(.revoke r actor faults, .revoked result)].filter isLogged) := by
  obtain ⟨course, kept, hr, ha⟩ := h.record
  refine ⟨_, ha, ?_⟩
  have htells : Tells ⟨kept, m.attempts.length + 1, timeOf (m.attempts.length + 1)⟩
      (.revoke r actor faults, .revoked result) :=
    ⟨hr.drive, hr.item, hr.permission, hr.outcome⟩
  cases hf : faults .log with
  | some f => simp [added, prepare, isLogged, hf]
  | none =>
    simp only [added, prepare, isLogged, hf, if_true, Option.isNone_none, List.filter_cons_of_pos,
      List.filter_nil]
    exact List.Forall₂.cons htells List.Forall₂.nil

theorem follows_of_error {f : Failure} (h : Effect r (prepare faults m) (.error f) m') :
    Follows [(.revoke r actor faults, .revoked (.error f))] m m' := by
  have hg : m'.grants = m.grants := h.same_of_error f rfl
  refine ⟨?_, ?_, ?_, log_of_effect h⟩
  · rw [hg]
  · intro g hmem
    simp [hg, hmem, Revokes]
  · intro g hmem _
    rwa [hg]

theorem follows_of_ok {done : Revoked} (hm : (m.grants.map Grant.id).Nodup)
    (h : Effect r (prepare faults m) (.ok done) m') :
    Follows [(.revoke r actor faults, .revoked (.ok done))] m m' := by
  obtain ⟨target, htarget, ha, hp, hg⟩ := h.removed_of_ok done rfl
  have hg : m'.grants = m.grants.filter fun other => other.id ≠ target.id := hg
  have hkept : ∀ g ∈ m.grants, g ∈ m'.grants ↔ g.id ≠ target.id := by
    intro g hmem
    simp [hg, hmem]
  refine ⟨?_, ?_, ?_, log_of_effect h⟩
  · rw [hg]
    exact List.filter_sublist
  · intro g hmem
    rw [hkept g hmem, not_not]
    constructor
    · intro he
      exact ⟨_, List.mem_cons_self, he ▸ ha⟩
    · rintro ⟨e, he, hrev⟩
      rw [List.mem_singleton] at he
      subst he
      exact RevokeRequest.Addresses.unique hrev ha
  · intro g hmem hprotected
    rw [hkept g hmem]
    intro he
    -- no two grants share an id, so the protected one would be the one that the guard let pass
    have hsame : g = target := List.inj_on_of_nodup_map hm hmem htarget he
    subst hsame
    exact (Policy.evaluate_eq_allow_iff g).mp hp hprotected

end

variable (defaultSource correlation : String)

theorem follows_perform (step : Step) {m : Memory} (hm : (m.grants.map Grant.id).Nodup) :
    let taken := step.perform defaultSource correlation m
    Follows [(step, taken.1)] m taken.2 := by
  intro taken
  cases step with
  | revoke r actor faults =>
    rcases hrun : (revoke services defaultSource correlation r actor).run (prepare faults m) with
      ⟨result, m'⟩
    have htaken : taken = (.revoked result, m') := by
      simp only [taken, Step.perform, Step.faults, hrun]
    rw [htaken]
    cases result with
    | error f => exact follows_of_error (effect_of_revoke hrun)
    | ok done => exact follows_of_ok hm (effect_of_revoke hrun)
  | list query faults =>
    have hsame : SameStore (prepare faults m) taken.2 :=
      sameStore_listAttempts (boundQuery query) (prepare faults m)
    refine ⟨?_, ?_, ?_, [], ?_, List.Forall₂.nil⟩
    · rw [hsame.grants]
      exact List.Sublist.refl _
    · intro g hg
      have hg' : g ∈ taken.2.grants := by
        rw [hsame.grants]
        exact hg
      simp [hg', Revokes]
    · intro g hg _
      rw [hsame.grants]
      exact hg
    · rw [hsame.attempts, List.append_nil]
      rfl

-- The state in which a run ends.
def after (steps : List Step) (m : Memory) : Memory :=
  ((run defaultSource correlation steps m).map Prod.snd).getLastD m

-- The steps of a run, each with its answer.
def history (steps : List Step) (m : Memory) : List (Step × Answer) :=
  steps.zip ((run defaultSource correlation steps m).map Prod.fst)

theorem after_cons (step : Step) (rest : List Step) (m : Memory) :
    after defaultSource correlation (step :: rest) m =
      after defaultSource correlation rest (step.perform defaultSource correlation m).2 := by
  simp only [after, run, List.map_cons, List.getLastD_cons]

theorem history_cons (step : Step) (rest : List Step) (m : Memory) :
    history defaultSource correlation (step :: rest) m =
      [(step, (step.perform defaultSource correlation m).1)] ++
        history defaultSource correlation rest (step.perform defaultSource correlation m).2 := rfl

theorem follows_run (steps : List Step) (m : Memory) (hm : (m.grants.map Grant.id).Nodup) :
    Follows (history defaultSource correlation steps m) m
      (after defaultSource correlation steps m) := by
  induction steps generalizing m with
  | nil => exact Follows.nil m
  | cons step rest ih =>
    have hstep := follows_perform defaultSource correlation step hm
    rw [history_cons, after_cons]
    exact hstep.append (ih _ ((hstep.sublist.map Grant.id).nodup hm))

theorem after_append (front back : List Step) (m : Memory) :
    after defaultSource correlation (front ++ back) m =
      after defaultSource correlation back (after defaultSource correlation front m) := by
  induction front generalizing m with
  | nil => rfl
  | cons step rest ih => rw [List.cons_append, after_cons, after_cons, ih]

theorem run_leaves_history (steps : List Step) (m : Memory)
    (hm : (m.grants.map Grant.id).Nodup) :
    let events := history defaultSource correlation steps m
    let last := after defaultSource correlation steps m
    (∀ g ∈ m.grants, Policy.IsProtected g → g ∈ last.grants) ∧
      (∀ g ∈ m.grants, g ∉ last.grants ↔ ∃ e ∈ events, Revokes g.id e) ∧
      last.grants.Sublist m.grants ∧
      (∃ entries, last.attempts = m.attempts ++ entries ∧
        entries.length = events.countP isLogged ∧
        List.Forall₂ Tells entries (events.filter isLogged)) ∧
      ∀ front query faults back, steps = front ++ .list query faults :: back →
        let before := after defaultSource correlation front m
        let listed := after defaultSource correlation (front ++ [.list query faults]) m
        listed.grants = before.grants ∧ listed.attempts = before.attempts := by
  intro events last
  have h := follows_run defaultSource correlation steps m hm
  obtain ⟨entries, he, ht⟩ := h.log
  refine ⟨h.spared, h.gone_iff, h.sublist, ⟨entries, he, ?_, ht⟩, ?_⟩
  · rw [ht.length_eq, List.countP_eq_length_filter]
  · intro front query faults back _ before listed
    have hlisted : listed = after defaultSource correlation [.list query faults] before :=
      after_append defaultSource correlation front _ m
    have hsame := sameStore_listAttempts (boundQuery query) (prepare faults before)
    rw [hlisted]
    exact ⟨hsame.grants, hsame.attempts⟩

def writersGrant : Grant :=
  ⟨⟨"d", "i", "w", .refl false, .refl false, .refl false⟩, ["write"], none, none⟩

def ownersGrant : Grant :=
  ⟨⟨"d", "i", "o", .refl false, .refl false, .refl false⟩, ["read", "coOwner"], none, none⟩

def sharedItem : Memory :=
  .ofGrants [writersGrant, ownersGrant]

-- Both grants are revoked while the log fails, then the writer's once more.
def sharedItemSteps : List Step :=
  [.revoke ⟨some " d", some "i", some "w\n", none⟩ none fun service =>
     if service = .log then some (.internal "full") else none,
   .revoke ⟨some "d", some "i", some "o", none⟩ none noFaults,
   .list ⟨0, 0, none, none, none⟩ noFaults,
   .revoke ⟨some "d", some "i", some "w", none⟩ none noFaults]

theorem run_leaves_history_sharedItem :
    (sharedItem.grants.map Grant.id).Nodup ∧
      ownersGrant ∈ (after "test" "c" sharedItemSteps sharedItem).grants ∧
      (writersGrant ∉ (after "test" "c" sharedItemSteps sharedItem).grants ↔
        ∃ e ∈ history "test" "c" sharedItemSteps sharedItem, Revokes writersGrant.id e) := by
  have hm : (sharedItem.grants.map Grant.id).Nodup := by decide
  have howner : Policy.IsProtected ownersGrant := by
    have hdenied : Policy.evaluate ownersGrant ≠ .allow := by decide
    rw [ne_eq, Policy.evaluate_eq_allow_iff, Classical.not_not] at hdenied
    exact hdenied
  obtain ⟨hspared, hgone, -⟩ := run_leaves_history "test" "c" sharedItemSteps sharedItem hm
  refine ⟨hm, hspared ownersGrant ?_ howner, hgone writersGrant ?_⟩
  · exact List.mem_cons_of_mem _ List.mem_cons_self
  · exact List.mem_cons_self

example :
    let last := after "test" "c" sharedItemSteps sharedItem
    (last.grants.map fun g => g.id.permission) = ["o"] ∧
      (last.attempts.map fun a => a.outcome) = [.failed, .failed] := by
  decide

end Unshare.Memory
