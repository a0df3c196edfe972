import Unshare.Proofs.Signing

namespace Unshare

-- The same services, where the directory knows of this grant only.
def Services.confined {m : Type → Type} [Monad m] (id? : Option GrantId) (s : Services m) :
    Services m :=
  { s with
    fetchGrant := fun id =>
      if id? = some id then s.fetchGrant id else pure (.error (.dependency ""))
    removeGrant := fun id =>
      if id? = some id then s.removeGrant id else pure (.error (.dependency "")) }

namespace Revocation

variable {m : Type → Type} [Monad m] (s : Services m) (defaultSource correlation : String)

-- An attempt asks the directory for the grant that its request addresses and for no other.
theorem revoke_confined (r : RevokeRequest) (actor : Option Actor) :
    revoke (s.confined r.trimmed.grantId?) defaultSource correlation r actor =
      revoke s defaultSource correlation r actor := by
  cases hid : r.trimmed.grantId? with
  | none =>
    simp only [revoke, hid]
    rfl
  | some id =>
    have hfetch : (s.confined (some id)).fetchGrant id = s.fetchGrant id := if_pos rfl
    have hremove : (s.confined (some id)).removeGrant id = s.removeGrant id := if_pos rfl
    simp only [revoke, hid, revokeGrant, remove, hfetch, hremove]
    rfl

end Revocation

namespace Memory

open Revocation

-- States that go together for whoever asks for this grant only.
structure SameAt (id? : Option GrantId) (m m' : Memory) : Prop where
  found : ∀ id, id? = some id → m.find? id = m'.find? id
  calls : m.calls = m'.calls
  faults : m.faults = m'.faults

theorem find?_erase_self (m : Memory) (id : GrantId) : (m.erase id).find? id = none := by
  rw [find?, List.find?_eq_none]
  intro g hg
  simpa using (List.mem_filter.mp hg).2

section

variable {id? : Option GrantId} {m m' : Memory}

theorem SameAt.noted (h : SameAt id? m m') (note : Call) :
    SameAt id? (m.noted note) (m'.noted note) where
  found := h.found
  calls := congrArg (· ++ [note]) h.calls
  faults := h.faults

theorem SameAt.erase {id : GrantId} (hid : id? = some id) (h : SameAt id? m m') :
    SameAt id? (m.erase id) (m'.erase id) where
  found := by
    rintro other hother
    obtain rfl := Option.some.inj (hid.symm.trans hother)
    rw [find?_erase_self, find?_erase_self]
  calls := h.calls
  faults := h.faults

theorem SameAt.alike_call {α : Type} {act : Memory → Except Failure α × Memory}
    (service : Service) (note : Call) (h : ∀ m m', SameAt id? m m' →
      SameDetail (act m).1 (act m').1 ∧ SameAt id? (act m).2 (act m').2) :
    Alike (SameAt id?) SameDetail (call service note act) (call service note act) := by
  refine alike_call_of ?_ (fun _ _ hsame => hsame.noted note) h
  intro m m' hsame
  rw [hsame.faults]

end

theorem alike_confined (id? : Option GrantId) :
    (services.confined id?).Alike (SameAt id?) (services.confined id?) where
  fetchGrant id := by
    by_cases hid : id? = some id
    · simp only [Services.confined, if_pos hid]
      refine alike_fetchGrant_of_find? ?_ (fun _ _ hsame => hsame.noted _)
        (fun _ _ hsame => hsame.found id hid)
      intro m m' hsame
      rw [hsame.faults]
    · simp only [Services.confined, if_neg hid]
      exact .pure (.refl _)
  removeGrant id := by
    by_cases hid : id? = some id
    · simp only [Services.confined, if_pos hid]
      exact SameAt.alike_call _ _ fun m m' hsame => ⟨.ok (), hsame.erase hid⟩
    · simp only [Services.confined, if_neg hid]
      exact .pure (.refl _)
  forgetGrant id := SameAt.alike_call _ _ fun m m' hsame => ⟨.ok (), hsame⟩
  appendAudit event := SameAt.alike_call _ _ fun m m' hsame => ⟨.ok (), hsame⟩
  appendAttempt attempt := by
    apply Alike.ignore
    refine SameAt.alike_call _ _ fun m m' hsame => ⟨.ok (), ?_⟩
    exact ⟨hsame.found, hsame.calls, hsame.faults⟩

-- The grants that are left of these once an attempt has come to this result.
def left (r : RevokeRequest) (result : Except Failure Revoked) (grants : List Grant) :
    List Grant :=
  match result with
  | .ok _ => grants.filter fun g => r.trimmed.grantId? ≠ some g.id
  | .error _ => grants

section

variable {r r' : RevokeRequest} {m m' : Memory} {result : Except Failure Revoked}
  {grants : List Grant}

theorem Effect.grants_eq (h : Effect r m result m') : m'.grants = left r result m.grants := by
  cases result with
  | error f => exact h.same_of_error f rfl
  | ok done =>
    obtain ⟨target, -, haddresses, -, hgrants⟩ := h.removed_of_ok done rfl
    rw [hgrants, left, (r.grantId?_eq_some_iff target.id).mpr haddresses]
    refine List.filter_congr fun g _ => ?_
    simp only [ne_eq, Option.some.injEq, eq_comm]

theorem left_comm (r r' : RevokeRequest) (result result' : Except Failure Revoked)
    (grants : List Grant) :
    left r result (left r' result' grants) = left r' result' (left r result grants) := by
  cases result with
  | error f => rfl
  | ok done =>
    cases result' with
    | error f => rfl
    | ok done' =>
      simp only [left, List.filter_filter]
      exact List.filter_congr fun g _ => Bool.and_comm _ _

-- What is left is still found, unless it was the grant that the attempt was about.
theorem find?_left (result : Except Failure Revoked) {id : GrantId} (h : ¬r.Addresses id) :
    (left r result grants).find? (fun g => g.id = id) = grants.find? (fun g => g.id = id) := by
  cases result with
  | error f => rfl
  | ok done =>
    rw [left, List.find?_filter]
    refine congrArg (List.find? · grants) (funext fun g => ?_)
    by_cases hid : g.id = id
    · rw [← r.grantId?_eq_some_iff] at h
      simp [h, hid]
    · simp [hid]

theorem not_mem_left {done : Revoked} {id : GrantId} (h : r.Addresses id) :
    ∀ g ∈ left r (.ok done) grants, g.id ≠ id := by
  intro g hg
  rw [left, List.mem_filter, (r.grantId?_eq_some_iff id).mpr h] at hg
  have hother := hg.2
  rw [decide_eq_true_eq, ne_eq, Option.some.injEq] at hother
  exact fun hid => hother hid.symm

end

section

variable {defaultSource correlation correlation' : String} {r r' : RevokeRequest}
  {actor actor' : Option Actor} {faults faults' : Faults} {m m' : Memory}

theorem perform_revoke (defaultSource correlation : String) (r : RevokeRequest)
    (actor : Option Actor) (faults : Faults) (m : Memory) :
    (Step.revoke r actor faults).perform defaultSource correlation m =
      let taken := (revoke services defaultSource correlation r actor).run (prepare faults m)
      (.revoked taken.1, taken.2) :=
  rfl

-- A revocation sees no more of the store than the grant that it addresses.
theorem perform_of_find? (defaultSource correlation : String) (actor : Option Actor)
    (faults : Faults) (h : ∀ id, r.Addresses id → m.find? id = m'.find? id) :
    let taken := (Step.revoke r actor faults).perform defaultSource correlation m
    let taken' := (Step.revoke r actor faults).perform defaultSource correlation m'
    taken'.1 = taken.1 ∧ taken'.2.calls = taken.2.calls := by
  intro taken taken'
  have hstart : SameAt r.trimmed.grantId? (prepare faults m) (prepare faults m') :=
    ⟨fun id hid => h id ((r.grantId?_eq_some_iff id).mp hid), rfl, rfl⟩
  have halike := alike_revoke (alike_confined r.trimmed.grantId?) defaultSource correlation r actor
  rw [revoke_confined] at halike
  obtain ⟨hresult, hstates⟩ := halike _ _ hstart
  exact ⟨congrArg Answer.revoked hresult.symm, hstates.calls.symm⟩

theorem perform_numbered (defaultSource correlation correlation' : String) (r : RevokeRequest)
    (actor : Option Actor) (faults : Faults) (m : Memory) :
    let taken := (Step.revoke r actor faults).perform defaultSource correlation m
    let taken' := (Step.revoke r actor faults).perform defaultSource correlation' m
    taken'.1 = taken.1 ∧ taken'.2.calls = taken.2.calls.map (Call.numbered correlation') := by
  intro taken taken'
  obtain ⟨hresult, -, hcalls⟩ :=
    numbered_revoke defaultSource correlation r actor correlation' (m := prepare faults m) rfl
  exact ⟨congrArg Answer.revoked hresult, hcalls⟩

theorem perform_alike (h : ∀ id, r.Addresses id → m.find? id = m'.find? id) :
    let taken := (Step.revoke r actor faults).perform defaultSource correlation m
    let taken' := (Step.revoke r actor faults).perform defaultSource correlation' m'
    taken'.1 = taken.1 ∧ taken'.2.calls = taken.2.calls.map (Call.numbered correlation') := by
  intro taken taken'
  obtain ⟨hresult, hcalls⟩ :=
    perform_numbered defaultSource correlation correlation' r actor faults m
  obtain ⟨hresult', hcalls'⟩ := perform_of_find? defaultSource correlation' actor faults h
  exact ⟨hresult'.trans hresult, hcalls'.trans hcalls⟩

theorem exists_left (defaultSource correlation : String) (r : RevokeRequest)
    (actor : Option Actor) (faults : Faults) (m : Memory) :
    ∃ result, ((Step.revoke r actor faults).perform defaultSource correlation m).1 =
        .revoked result ∧
      ((Step.revoke r actor faults).perform defaultSource correlation m).2.grants =
        left r result m.grants :=
  ⟨_, rfl, (effect_of_revoke (m := prepare faults m) rfl).grants_eq⟩

theorem find?_perform {id : GrantId} (h : ¬r.Addresses id) :
    ((Step.revoke r actor faults).perform defaultSource correlation m).2.find? id = m.find? id := by
  obtain ⟨result, -, hgrants⟩ := exists_left defaultSource correlation r actor faults m
  rw [find?, hgrants]
  exact find?_left result h

-- Where two attempts come to the same in either order, the same grants are left.
theorem grants_comm {number number' : String}
    {first second first' second' : Answer × Memory}
    (hfirst : (Step.revoke r actor faults).perform defaultSource correlation m = first)
    (hsecond : (Step.revoke r' actor' faults').perform defaultSource correlation' first.2 = second)
    (hfirst' : (Step.revoke r' actor' faults').perform defaultSource number' m = first')
    (hsecond' : (Step.revoke r actor faults).perform defaultSource number first'.2 = second')
    (hone : second'.1 = first.1) (hother : first'.1 = second.1) :
    second'.2.grants = second.2.grants := by
  subst hfirst hsecond hfirst' hsecond'
  obtain ⟨result, hresult, hahead⟩ := exists_left defaultSource correlation r actor faults m
  obtain ⟨result', hresult', hbehind⟩ := exists_left defaultSource correlation' r' actor' faults'
    ((Step.revoke r actor faults).perform defaultSource correlation m).2
  obtain ⟨early, hearly, hahead'⟩ := exists_left defaultSource number' r' actor' faults' m
  obtain ⟨late, hlate, hbehind'⟩ := exists_left defaultSource number r actor faults
    ((Step.revoke r' actor' faults').perform defaultSource number' m).2
  have hsame : late = result := Answer.revoked.inj (hlate.symm.trans (hone.trans hresult))
  have hsame' : early = result' := Answer.revoked.inj (hearly.symm.trans (hother.trans hresult'))
  rw [hbehind', hahead', hbehind, hahead, hsame, hsame']
  exact left_comm r r' result result' m.grants

theorem grants_sublist_perform (defaultSource correlation : String) (step : Step) (m : Memory) :
    (step.perform defaultSource correlation m).2.grants.Sublist m.grants := by
  cases step with
  | revoke r actor faults =>
    obtain ⟨result, -, hgrants⟩ := exists_left defaultSource correlation r actor faults m
    rw [hgrants]
    cases result with
    | ok done => exact List.filter_sublist
    | error f => exact List.Sublist.refl _
  | list query faults =>
    rw [show (Step.perform defaultSource correlation (.list query faults) m).2.grants = _ from
      (sameStore_listAttempts (boundQuery query) (prepare faults m)).grants]
    exact List.Sublist.refl _

-- The state after these steps, each taken under its own number.
def afterNumbered (defaultSource : String) (steps : List (String × Step)) (m : Memory) : Memory :=
  steps.foldl (fun m step => (step.2.perform defaultSource step.1 m).2) m

theorem grants_sublist_afterNumbered (defaultSource : String) (steps : List (String × Step))
    (m : Memory) : (afterNumbered defaultSource steps m).grants.Sublist m.grants := by
  induction steps generalizing m with
  | nil => exact List.Sublist.refl _
  | cons step rest ih =>
    exact (ih _).trans (grants_sublist_perform defaultSource step.1 step.2 m)

-- A grant that was revoked is not found after any further steps.
theorem find?_of_revoked {id : GrantId} {done : Revoked} (h : r.Addresses id)
    (hdone : ((Step.revoke r actor faults).perform defaultSource correlation m).1 =
      .revoked (.ok done)) (steps : List (String × Step)) :
    (afterNumbered defaultSource steps
      ((Step.revoke r actor faults).perform defaultSource correlation m).2).find? id = none := by
  obtain ⟨result, hresult, hgrants⟩ := exists_left defaultSource correlation r actor faults m
  have hok : result = .ok done := Answer.revoked.inj (hresult.symm.trans hdone)
  rw [find?, List.find?_eq_none]
  intro g hg
  have hleft : g ∈ left r (.ok done) m.grants := by
    rw [← hok, ← hgrants]
    exact (grants_sublist_afterNumbered defaultSource steps _).subset hg
  simpa using not_mem_left h g hleft

-- Where the grant is gone, a revocation of it finds nothing and removes nothing.
theorem perform_of_gone {id : GrantId} (h : r.Addresses id) (hgone : m.find? id = none)
    (hfetch : faults .fetch = none) :
    let taken := (Step.revoke r actor faults).perform defaultSource correlation m
    taken.1 = .revoked (.error (.dependency ("itemNotFound: " ++ id.composite))) ∧
      taken.2.grants = m.grants ∧ ∃ kept, taken.2.calls = [.fetch id, .log kept] := by
  intro taken
  have hanswer : (services.fetchGrant id).run (prepare faults m) =
      (.error (notFound id), (prepare faults m).noted (.fetch id)) := by
    have hgone' : (prepare faults m).find? id = none := hgone
    have hfetch' : (prepare faults m).faults .fetch = none := hfetch
    rw [run_fetchGrant, hfetch', hgone']
  let report := Context.failureReport ⟨r.trimmed, actor, correlation⟩ .fetching
    (notFound id).detail []
  have htaken : taken = (.revoked (.error (.dependency (notFound id).detail)),
      afterRecord services defaultSource report ((prepare faults m).noted (.fetch id))) := by
    have hrun := perform_revoke defaultSource correlation r actor faults m
    rw [revoke_of_addresses services defaultSource correlation actor h,
      run_revokeGrant_of_error services defaultSource hanswer, run_refuse] at hrun
    exact hrun
  rw [htaken]
  refine ⟨rfl, (afterRecord_services defaultSource report _).1,
    report.toAttempt defaultSource, ?_⟩
  rw [afterRecord, run_appendAttempt]
  cases ((prepare faults m).noted (.fetch id)).faults .log <;> rfl

end

-- Revocations of different grants can be taken in either order: each comes to the same, makes the
-- same calls up to the number on its record, and the same grants are left. Once a grant was
-- revoked, every later revocation that gets to ask for it is told that it is not there, whatever
-- was done in between.
theorem revokes_commute_and_stay (defaultSource : String) (m : Memory) :
    (∀ (r r' : RevokeRequest) (actor actor' : Option Actor) (faults faults' : Faults),
      (∀ id, r.Addresses id → ¬r'.Addresses id) → ∀ correlation correlation' number number',
      let one := Step.revoke r actor faults
      let other := Step.revoke r' actor' faults'
      let ahead := one.perform defaultSource correlation m
      let behind := other.perform defaultSource correlation' ahead.2
      let ahead' := other.perform defaultSource number' m
      let behind' := one.perform defaultSource number ahead'.2
      behind'.1 = ahead.1 ∧ behind'.2.calls = ahead.2.calls.map (Call.numbered number) ∧
        ahead'.1 = behind.1 ∧ ahead'.2.calls = behind.2.calls.map (Call.numbered number') ∧
        behind'.2.grants = behind.2.grants) ∧
    ∀ (r r' : RevokeRequest) (actor actor' : Option Actor) (faults faults' : Faults)
      (id : GrantId) (correlation correlation' : String) (done : Revoked), r.Addresses id →
      r'.Addresses id → faults' .fetch = none →
      let first := (Step.revoke r actor faults).perform defaultSource correlation m
      first.1 = .revoked (.ok done) → ∀ steps,
        let before := afterNumbered defaultSource steps first.2
        let again := (Step.revoke r' actor' faults').perform defaultSource correlation' before
        again.1 = .revoked (.error (.dependency ("itemNotFound: " ++ id.composite))) ∧
          again.2.grants = before.grants ∧ ∃ kept, again.2.calls = [.fetch id, .log kept] := by
  constructor
  · intro r r' actor actor' faults faults' hapart correlation correlation' number number' one other
      ahead behind ahead' behind'
    have hfind : ∀ id, r.Addresses id → m.find? id = ahead'.2.find? id := fun id ha =>
      (find?_perform (hapart id ha)).symm
    have hfind' : ∀ id, r'.Addresses id → ahead.2.find? id = m.find? id := fun id ha =>
      find?_perform fun hb => hapart id hb ha
    obtain ⟨hone, honeCalls⟩ : behind'.1 = ahead.1 ∧ _ := perform_alike hfind
    obtain ⟨hother, hotherCalls⟩ : ahead'.1 = behind.1 ∧ _ := perform_alike hfind'
    exact ⟨hone, honeCalls, hother, hotherCalls, grants_comm rfl rfl rfl rfl hone hother⟩
  · intro r r' actor actor' faults faults' id correlation correlation' done ha ha' hfetch first
      hfirst steps before again
    exact perform_of_gone ha' (find?_of_revoked ha hfirst steps) hfetch

def revokeWriter : Step :=
  .revoke ⟨some " d", some "i", some "w", none⟩ none noFaults

def revokeOwner : Step :=
  .revoke ⟨some "d", some "i", some "o", none⟩ none noFaults

theorem revokes_commute_and_stay_sharedItem :
    ((revokeOwner.perform "test" "c" (revokeWriter.perform "test" "c" sharedItem).2).2.grants =
      (revokeWriter.perform "test" "k" (revokeOwner.perform "test" "k" sharedItem).2).2.grants) ∧
    (revokeWriter.perform "test" "c" sharedItem).1 = .revoked (.ok ⟨none⟩) ∧
    (revokeWriter.perform "test" "k" (afterNumbered "test" [("c", revokeOwner)]
      (revokeWriter.perform "test" "c" sharedItem).2)).1 =
        .revoked (.error (.dependency "itemNotFound: d:i:w")) := by
  obtain ⟨hcommute, hstay⟩ := revokes_commute_and_stay "test" sharedItem
  have hwriter : RevokeRequest.Addresses ⟨some " d", some "i", some "w", none⟩ writersGrant.id :=
    ⟨rfl, rfl, rfl⟩
  have howner : RevokeRequest.Addresses ⟨some "d", some "i", some "o", none⟩ ownersGrant.id :=
    ⟨rfl, rfl, rfl⟩
  have hapart : ∀ id, RevokeRequest.Addresses ⟨some " d", some "i", some "w", none⟩ id →
      ¬RevokeRequest.Addresses ⟨some "d", some "i", some "o", none⟩ id := by
    intro id ha hb
    have hsame : writersGrant.id = ownersGrant.id := (hwriter.unique ha).trans (hb.unique howner)
    exact absurd hsame (by decide)
  have hdone : (revokeWriter.perform "test" "c" sharedItem).1 = .revoked (.ok ⟨none⟩) := rfl
  obtain ⟨-, -, -, -, hgrants⟩ := hcommute _ _ none none noFaults noFaults hapart "c" "c" "k" "k"
  obtain ⟨hgone, -⟩ := hstay _ _ none none noFaults noFaults _ "c" "k" ⟨none⟩ hwriter hwriter rfl
    hdone [("c", revokeOwner)]
  exact ⟨hgrants.symm, hdone, hgone⟩

end Memory

end Unshare
