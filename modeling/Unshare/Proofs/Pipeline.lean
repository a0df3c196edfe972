import Unshare.Revocation.Basic
import Unshare.Proofs.Addressing

namespace Unshare.Revocation

section

variable {m : Type → Type} [Monad m] {C : {α : Type} → m α → Prop}

-- What holds of computations that do nothing and is kept by sequences.
structure Closed (C : {α : Type} → m α → Prop) : Prop where
  pure : ∀ {α : Type} (a : α), C (pure a)
  bind : ∀ {α β : Type} {act : m α} {next : α → m β}, C act → (∀ a, C (next a)) →
    C (act >>= next)

namespace Closed

variable {s : Services m} {defaultSource : String} (hclosed : Closed @C)
  (hlog : ∀ r : Report, C (s.appendAttempt (r.toAttempt defaultSource)))

include hclosed hlog

theorem refuse (c : Context) (stage : Stage) (facts : Json.Fields) (f : Failure) :
    C (refuse s defaultSource c stage facts f) := by
  have hrecord : C (record s defaultSource (c.failureReport stage f.detail facts)) :=
    hclosed.bind (hlog _) fun _ => hclosed.pure ()
  exact hclosed.bind hrecord fun _ => hclosed.pure _

variable (hforget : ∀ id, C (s.forgetGrant id)) (haudit : ∀ event, C (s.appendAudit event))

include hforget haudit

theorem conclude (c : Context) (id : GrantId) (g : Grant) :
    C (conclude s defaultSource c id g) := by
  apply hclosed.bind (hforget id)
  intro cached
  apply hclosed.bind (haudit _)
  intro audited
  have hrecord : C (record s defaultSource
      (c.successReport (joinWarnings cached audited) g.details)) :=
    hclosed.bind (hlog _) fun _ => hclosed.pure ()
  exact hclosed.bind hrecord fun _ => hclosed.pure _

variable (hfetch : ∀ id, C (s.fetchGrant id)) (hremove : ∀ id, C (s.removeGrant id))

include hremove

theorem remove (c : Context) (id : GrantId) (g : Grant) : C (remove s defaultSource c id g) := by
  apply hclosed.bind (hremove id)
  intro removed
  cases removed with
  | error f => exact hclosed.refuse hlog _ _ _ _
  | ok _ => exact hclosed.conclude hlog hforget haudit c id g

include hfetch

theorem revokeGrant (c : Context) (id : GrantId) : C (revokeGrant s defaultSource c id) := by
  apply hclosed.bind (hfetch id)
  intro fetched
  cases fetched with
  | error f => exact hclosed.refuse hlog _ _ _ _
  | ok g =>
    cases hpolicy : Policy.evaluate g with
    | deny reason =>
      simp only [hpolicy]
      exact hclosed.refuse hlog _ _ _ _
    | allow =>
      simp only [hpolicy]
      exact hclosed.remove hlog hforget haudit hremove c id g

theorem revoke (correlation : String) (r : RevokeRequest) (actor : Option Actor) :
    C (revoke s defaultSource correlation r actor) := by
  rw [Revocation.revoke]
  cases hid : r.trimmed.grantId? with
  | none =>
    simp only
    exact hclosed.refuse hlog _ _ _ _
  | some id =>
    simp only
    exact hclosed.revokeGrant hlog hforget haudit hfetch hremove _ id

end Closed

end

variable {σ : Type} (s : Services (StateM σ)) (defaultSource correlation : String)

-- The state after a record was handed to the log, whatever the log answered.
def afterRecord (report : Report) (x : σ) : σ :=
  ((s.appendAttempt (report.toAttempt defaultSource)).run x).2

theorem run_refuse (c : Context) (stage : Stage) (facts : Json.Fields) (f : Failure) (x : σ) :
    (refuse s defaultSource c stage facts f).run x =
      (.error f, afterRecord s defaultSource (c.failureReport stage f.detail facts) x) := rfl

theorem run_remove_of_error {c : Context} {id : GrantId} {g : Grant} {x y : σ} {f : Failure}
    (h : (s.removeGrant id).run x = (.error f, y)) :
    (remove s defaultSource c id g).run x =
      (refuse s defaultSource c .removing g.details (.dependency f.detail)).run y := by
  simp only [remove, StateT.run_bind, h]
  rfl

theorem run_remove_of_ok {c : Context} {id : GrantId} {g : Grant} {x y : σ}
    (h : (s.removeGrant id).run x = (.ok (), y)) :
    (remove s defaultSource c id g).run x = (conclude s defaultSource c id g).run y := by
  simp only [remove, StateT.run_bind, h]
  rfl

theorem run_revokeGrant_of_error {c : Context} {id : GrantId} {x y : σ} {f : Failure}
    (h : (s.fetchGrant id).run x = (.error f, y)) :
    (revokeGrant s defaultSource c id).run x =
      (refuse s defaultSource c .fetching [] (.dependency f.detail)).run y := by
  simp only [revokeGrant, StateT.run_bind, h]
  rfl

theorem run_revokeGrant_of_ok {c : Context} {id : GrantId} {g : Grant} {x y : σ}
    (h : (s.fetchGrant id).run x = (.ok g, y)) :
    (revokeGrant s defaultSource c id).run x =
      (match Policy.evaluate g with
        | .deny reason =>
          refuse s defaultSource c .validation (reason.evidence g) (.forbidden reason.code)
        | .allow => remove s defaultSource c id g).run y := by
  simp only [revokeGrant, StateT.run_bind, h]
  rfl

theorem run_revokeGrant_of_deny {c : Context} {id : GrantId} {g : Grant}
    {reason : Policy.Refusal} {x y : σ} (h : (s.fetchGrant id).run x = (.ok g, y))
    (hp : Policy.evaluate g = .deny reason) :
    (revokeGrant s defaultSource c id).run x =
      (refuse s defaultSource c .validation (reason.evidence g) (.forbidden reason.code)).run y := by
  rw [run_revokeGrant_of_ok s defaultSource h, hp]

theorem run_revokeGrant_of_allow {c : Context} {id : GrantId} {g : Grant} {x y : σ}
    (h : (s.fetchGrant id).run x = (.ok g, y)) (hp : Policy.evaluate g = .allow) :
    (revokeGrant s defaultSource c id).run x = (remove s defaultSource c id g).run y := by
  rw [run_revokeGrant_of_ok s defaultSource h, hp]

variable {r : RevokeRequest} (actor : Option Actor)

theorem revoke_of_isIncomplete (h : r.IsIncomplete) :
    revoke s defaultSource correlation r actor =
      refuse s defaultSource ⟨r.trimmed, actor, correlation⟩ .validation
        [("missing", .ofStrings r.trimmed.missing)] (.validation missingPartsCode) := by
  rw [← r.grantId?_eq_none_iff] at h
  simp only [revoke, h]

theorem revoke_of_addresses {id : GrantId} (h : r.Addresses id) :
    revoke s defaultSource correlation r actor =
      revokeGrant s defaultSource ⟨r.trimmed, actor, correlation⟩ id := by
  rw [← r.grantId?_eq_some_iff] at h
  simp only [revoke, h]

end Unshare.Revocation
