import Unshare.Proofs.Signing

namespace Unshare.Memory

open Revocation

-- The same revocation, where the log may fail otherwise or not at all.
inductive Step.SameButLog : Step → Step → Prop
  | revoke (r : RevokeRequest) (actor : Option Actor) {faults faults' : Faults}
      (h : ∀ service, service ≠ .log → faults service = faults' service) :
      SameButLog (.revoke r actor faults) (.revoke r actor faults')

-- States that differ in what the log has kept, and in how it fails.
structure SameButLogged (m m' : Memory) : Prop where
  grants : m.grants = m'.grants
  calls : m.calls = m'.calls
  faults : ∀ service, service ≠ .log → m.faults service = m'.faults service

theorem SameButLogged.noted {m m' : Memory} (h : SameButLogged m m') (note : Call) :
    SameButLogged (m.noted note) (m'.noted note) where
  grants := h.grants
  calls := congrArg (· ++ [note]) h.calls
  faults := h.faults

theorem SameButLogged.erase {m m' : Memory} (h : SameButLogged m m') (id : GrantId) :
    SameButLogged (m.erase id) (m'.erase id) where
  grants := congrArg (List.filter _) h.grants
  calls := h.calls
  faults := h.faults

theorem SameButLogged.alike_call {α : Type} {act : Memory → Except Failure α × Memory}
    {service : Service} (hservice : service ≠ .log) (note : Call)
    (h : ∀ m m', SameButLogged m m' →
      SameDetail (act m).1 (act m').1 ∧ SameButLogged (act m).2 (act m').2) :
    Alike SameButLogged SameDetail (call service note act) (call service note act) := by
  refine alike_call_of ?_ (fun _ _ hsame => hsame.noted note) h
  intro m m' hsame
  rw [hsame.faults service hservice]

-- Whether the log keeps a record or fails, the rest of the state only notes the call.
theorem sameButLogged_appendAttempt (attempt : Attempt) (m : Memory) :
    SameButLogged ((services.appendAttempt attempt).run m).2 (m.noted (.log attempt)) := by
  rw [run_appendAttempt]
  cases m.faults .log with
  | none => exact ⟨rfl, rfl, fun _ _ => rfl⟩
  | some f => exact ⟨rfl, rfl, fun _ _ => rfl⟩

theorem SameButLogged.symm {m m' : Memory} (h : SameButLogged m m') : SameButLogged m' m :=
  ⟨h.grants.symm, h.calls.symm, fun service hservice => (h.faults service hservice).symm⟩

theorem SameButLogged.trans {m m' m'' : Memory} (h : SameButLogged m m')
    (h' : SameButLogged m' m'') : SameButLogged m m'' :=
  ⟨h.grants.trans h'.grants, h.calls.trans h'.calls,
    fun service hservice => (h.faults service hservice).trans (h'.faults service hservice)⟩

theorem alike_but_logged : services.Alike SameButLogged services where
  fetchGrant id := by
    refine alike_fetchGrant ?_ (fun _ _ hsame => hsame.noted _) (fun _ _ hsame => hsame.grants)
    intro m m' hsame
    rw [hsame.faults .fetch (by decide)]
  removeGrant id :=
    SameButLogged.alike_call (by decide) _ fun m m' hsame => ⟨.ok (), hsame.erase id⟩
  forgetGrant id := SameButLogged.alike_call (by decide) _ fun m m' hsame => ⟨.ok (), hsame⟩
  appendAudit event := SameButLogged.alike_call (by decide) _ fun m m' hsame => ⟨.ok (), hsame⟩
  appendAttempt attempt := by
    intro m m' hsame
    have hnoted := hsame.noted (.log attempt)
    exact ⟨trivial, (sameButLogged_appendAttempt attempt m).trans
      (hnoted.trans (sameButLogged_appendAttempt attempt m').symm)⟩

-- The record that a call hands to the log.
def Call.record? : Call → Option Attempt
  | .log attempt => some attempt
  | _ => none

-- With these failures set, the log keeps the records that were handed to it since it had the
-- entries before, all of them or none.
structure Keeps (faults : Faults) (before : List LoggedAttempt) (m : Memory) : Prop where
  faults_eq : m.faults = faults
  attempts : m.attempts.map LoggedAttempt.toAttempt = before.map LoggedAttempt.toAttempt ++
    if faults .log = none then m.calls.filterMap Call.record? else []

theorem keeps_prepare (faults : Faults) (m : Memory) :
    Keeps faults m.attempts (prepare faults m) where
  faults_eq := rfl
  attempts := by simp [prepare]

section

variable {faults : Faults} {before : List LoggedAttempt} {m : Memory}

theorem Keeps.noted (h : Keeps faults before m) {note : Call} (hnote : note.record? = none) :
    Keeps faults before (m.noted note) where
  faults_eq := h.faults_eq
  attempts := by
    show m.attempts.map _ = _ ++ if _ then (m.calls ++ [note]).filterMap Call.record? else []
    rw [List.filterMap_append, List.filterMap_cons_none hnote, List.filterMap_nil, List.append_nil]
    exact h.attempts

theorem Keeps.appendAttempt (h : Keeps faults before m) (attempt : Attempt) :
    Keeps faults before ((services.appendAttempt attempt).run m).2 := by
  rw [run_appendAttempt, h.faults_eq]
  have hattempts := h.attempts
  cases hf : faults .log with
  | some f =>
    rw [hf] at hattempts
    refine ⟨h.faults_eq, ?_⟩
    rw [hf]
    exact hattempts
  | none =>
    rw [hf] at hattempts
    refine ⟨h.faults_eq, ?_⟩
    show (m.attempts ++ [_]).map _ = _ ++ if _ then (m.calls ++ [_]).filterMap Call.record? else []
    rw [hf, if_pos rfl] at *
    rw [List.map_append, hattempts, List.filterMap_append, List.append_assoc]
    rfl

-- One run beside itself: a relation on its states that holds of equal states only.
theorem Keeps.alike_call {α : Type} {act : Memory → Except Failure α × Memory} (service : Service)
    {note : Call} (hnote : note.record? = none)
    (h : ∀ m, Keeps faults before m → Keeps faults before (act m).2) :
    Alike (fun m m' => m = m' ∧ Keeps faults before m) SameDetail (call service note act)
      (call service note act) := by
  refine alike_call_of ?_ ?_ ?_
  · rintro m _ ⟨rfl, -⟩
    rfl
  · rintro m _ ⟨rfl, hkeeps⟩
    exact ⟨rfl, hkeeps.noted hnote⟩
  · rintro m _ ⟨rfl, hkeeps⟩
    exact ⟨.refl _, rfl, h m hkeeps⟩

theorem Keeps.alike_services :
    services.Alike (fun m m' => m = m' ∧ Keeps faults before m) services where
  fetchGrant id := by
    refine Keeps.alike_call _ rfl fun m hkeeps => ?_
    cases m.find? id <;> exact hkeeps
  removeGrant id := Keeps.alike_call _ rfl fun m hkeeps => ⟨hkeeps.faults_eq, hkeeps.attempts⟩
  forgetGrant id := Keeps.alike_call _ rfl fun m hkeeps => hkeeps
  appendAudit event := Keeps.alike_call _ rfl fun m hkeeps => hkeeps
  appendAttempt attempt := by
    rintro m _ ⟨rfl, hkeeps⟩
    exact ⟨trivial, rfl, hkeeps.appendAttempt attempt⟩

theorem Keeps.revoke (h : Keeps faults before m) (defaultSource correlation : String)
    (r : RevokeRequest) (actor : Option Actor) :
    Keeps faults before ((revoke services defaultSource correlation r actor).run m).2 :=
  (alike_revoke Keeps.alike_services defaultSource correlation r actor m m ⟨rfl, h⟩).2.2

end

section

variable (defaultSource correlation : String)

-- The records that the log kept of a step, told from the failures set for it and the calls of it.
def keptOf (step : Step) (after : Memory) : List Attempt :=
  if step.faults .log = none then after.calls.filterMap Call.record? else []

theorem attempts_perform (step : Step) (m : Memory) :
    let after := (step.perform defaultSource correlation m).2
    after.attempts.map LoggedAttempt.toAttempt =
      m.attempts.map LoggedAttempt.toAttempt ++ keptOf step after := by
  have hstart := keeps_prepare step.faults m
  cases step with
  | revoke r actor faults => exact (hstart.revoke defaultSource correlation r actor).attempts
  | list query faults =>
    have hlisted : ((services.listAttempts (boundQuery query)).run (prepare faults m)).2 =
        (prepare faults m).noted (.list (boundQuery query)) := by
      rw [run_listAttempts]
      cases (prepare faults m).faults .list <;> rfl
    have hkeeps : Keeps faults m.attempts
        ((services.listAttempts (boundQuery query)).run (prepare faults m)).2 := by
      rw [hlisted]
      exact hstart.noted rfl
    exact hkeeps.attempts

-- The records that the log kept of a run, step by step.
def keptOfRun (steps : List Step) (m : Memory) : List Attempt :=
  (steps.zip (run defaultSource correlation steps m)).flatMap fun (step, _, after) =>
    keptOf step after

theorem attempts_run (steps : List Step) (m : Memory) :
    (after defaultSource correlation steps m).attempts.map LoggedAttempt.toAttempt =
      m.attempts.map LoggedAttempt.toAttempt ++ keptOfRun defaultSource correlation steps m := by
  induction steps generalizing m with
  | nil => exact (List.append_nil _).symm
  | cons step rest ih =>
    rw [after_cons, ih, attempts_perform defaultSource correlation step m, List.append_assoc]
    rfl

-- What is left of a step besides the entries of the log.
structure SameStep (taken taken' : Answer × Memory) : Prop where
  answer : taken.1 = taken'.1
  calls : taken.2.calls = taken'.2.calls
  grants : taken.2.grants = taken'.2.grants

theorem sameStep_perform {step step' : Step} (h : step.SameButLog step') {m m' : Memory}
    (hgrants : m.grants = m'.grants) :
    SameStep (step.perform defaultSource correlation m)
      (step'.perform defaultSource correlation m') := by
  cases h with
  | revoke r actor hfaults =>
    rename_i faults faults'
    have hstart : SameButLogged (prepare faults m) (prepare faults' m') := ⟨hgrants, rfl, hfaults⟩
    obtain ⟨hresult, hstates⟩ :=
      alike_revoke alike_but_logged defaultSource correlation r actor _ _ hstart
    exact ⟨congrArg Answer.revoked hresult, hstates.calls, hstates.grants⟩

theorem forall₂_run {steps steps' : List Step} (h : List.Forall₂ Step.SameButLog steps steps')
    {m m' : Memory} (hgrants : m.grants = m'.grants) :
    List.Forall₂ SameStep (run defaultSource correlation steps m)
      (run defaultSource correlation steps' m') := by
  induction h generalizing m m' with
  | nil => exact .nil
  | cons hstep hrest ih =>
    have hsame := sameStep_perform defaultSource correlation hstep hgrants
    exact .cons hsame (ih hsame.grants)

theorem countP_isLog_run {steps steps' : List Step}
    (h : List.Forall₂ Step.SameButLog steps steps') (m : Memory) :
    ∀ taken ∈ run defaultSource correlation steps m, taken.2.calls.countP Call.isLog = 1 := by
  induction h generalizing m with
  | nil => simp [run]
  | cons hstep hrest ih =>
    intro taken htaken
    obtain rfl | htaken := List.mem_cons.mp htaken
    · cases hstep with
      | revoke r actor hfaults => exact countP_isLog_of_revoke defaultSource correlation r actor rfl
    · exact ih _ taken htaken

-- Runs that differ in where the log fails come to the same answers by the same calls and leave the
-- same grants, and each hands one record to the log in every step. What the log has kept in the end
-- is what was handed to it in the steps in which it did not fail.
theorem run_ignores_log {steps steps' : List Step}
    (h : List.Forall₂ Step.SameButLog steps steps') (m : Memory) :
    let taken := run defaultSource correlation steps m
    let taken' := run defaultSource correlation steps' m
    List.Forall₂ SameStep taken taken' ∧
      (∀ step ∈ taken, step.2.calls.countP Call.isLog = 1) ∧
      (after defaultSource correlation steps m).attempts.map LoggedAttempt.toAttempt =
        m.attempts.map LoggedAttempt.toAttempt ++ keptOfRun defaultSource correlation steps m ∧
      (after defaultSource correlation steps' m).attempts.map LoggedAttempt.toAttempt =
        m.attempts.map LoggedAttempt.toAttempt ++ keptOfRun defaultSource correlation steps' m :=
  ⟨forall₂_run defaultSource correlation h rfl, countP_isLog_run defaultSource correlation h m,
    attempts_run defaultSource correlation steps m,
    attempts_run defaultSource correlation steps' m⟩

end

-- A log that fails with this detail.
def fullLog (detail : String) : Faults := fun service =>
  if service = .log then some (.internal detail) else none

theorem fullLog_eq_noFaults (detail : String) :
    ∀ service, service ≠ .log → fullLog detail service = noFaults service := by
  intro service hservice
  simp [fullLog, noFaults, hservice]

-- The writer's grant is revoked, then the owner's, where the log fails at the second step or at
-- none.
def lossySteps (faults : Faults) : List Step :=
  [.revoke ⟨some "d", some "i", some "w", none⟩ none noFaults,
   .revoke ⟨some "d", some "i", some "o", none⟩ none faults]

theorem run_ignores_log_lossySteps :
    List.Forall₂ Step.SameButLog (lossySteps (fullLog "full")) (lossySteps noFaults) ∧
      List.Forall₂ SameStep (run "test" "c" (lossySteps (fullLog "full")) sharedItem)
        (run "test" "c" (lossySteps noFaults) sharedItem) ∧
      (keptOfRun "test" "c" (lossySteps (fullLog "full")) sharedItem).length = 1 ∧
      (keptOfRun "test" "c" (lossySteps noFaults) sharedItem).length = 2 := by
  have hsteps : List.Forall₂ Step.SameButLog (lossySteps (fullLog "full")) (lossySteps noFaults) :=
    .cons (.revoke _ _ fun _ _ => rfl) (.cons (.revoke _ _ (fullLog_eq_noFaults "full")) .nil)
  obtain ⟨hsame, -, -, -⟩ := run_ignores_log "test" "c" hsteps sharedItem
  exact ⟨hsteps, hsame, by decide, by decide⟩

end Unshare.Memory
