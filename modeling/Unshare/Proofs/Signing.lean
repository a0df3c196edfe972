import Unshare.Proofs.Answers

namespace Unshare

-- The same object with this number of an attempt.
def Json.correlated (correlation : String) : Json → Json
  | .object fields => .object (Fields.insert "correlationId" (.string correlation) fields)
  | other => other

-- Who made an attempt, through what, and its number.
structure Signature where
  actor : Option Actor
  source : String
  correlation : String

def Attempt.signed (signature : Signature) (a : Attempt) : Attempt :=
  { a with
    actor := signature.actor
    source := signature.source
    details := a.details.correlated signature.correlation }

def LoggedAttempt.signed (signature : Signature) (a : LoggedAttempt) : LoggedAttempt :=
  { a with toAttempt := a.toAttempt.signed signature }

-- The audit trail is told neither the source nor the number.
def AuditEvent.signed (signature : Signature) (e : AuditEvent) : AuditEvent :=
  { e with actor := signature.actor }

-- The same services, with this signature put on everything that is logged.
def Services.signing {m : Type → Type} (signature : Signature) (s : Services m) : Services m :=
  { s with
    appendAudit := fun event => s.appendAudit (event.signed signature)
    appendAttempt := fun attempt => s.appendAttempt (attempt.signed signature) }

namespace Revocation

-- What is asked in both is the same, whoever asks.
structure Context.SameTarget (c c' : Context) : Prop where
  drive : c'.request.drive = c.request.drive
  item : c'.request.item = c.request.item
  permission : c'.request.permission = c.request.permission

def Context.signature (defaultSource : String) (c : Context) : Signature where
  actor := Actor.known c.actor
  source := (Text.nonBlank c.request.source).getD defaultSource
  correlation := c.correlation

section

variable {c c' : Context} (h : c.SameTarget c') (defaultSource : String)

theorem correlated_details (facts : Json.Fields) (stage : Json) :
    Json.object ((c'.details facts).insert "stage" stage) =
      (Json.object ((c.details facts).insert "stage" stage)).correlated c'.correlation := by
  have hdetails : (c'.details facts).insert "stage" stage =
      ((c.details facts).insert "stage" stage).insert "correlationId" (.string c'.correlation) :=
    (Json.Fields.insert_insert_of_ne (by decide) _ _ _ _).symm
  rw [hdetails]
  rfl

include h

theorem failureReport_signed (stage : Stage) (reason : String) (facts : Json.Fields) :
    (c'.failureReport stage reason facts).toAttempt defaultSource =
      ((c.failureReport stage reason facts).toAttempt defaultSource).signed
        (c'.signature defaultSource) := by
  simp only [Report.toAttempt, Context.failureReport, Attempt.signed, Context.signature,
    h.drive, h.item, h.permission, ← correlated_details]
  rfl

theorem successReport_signed (warning : Option String) (facts : Json.Fields) :
    (c'.successReport warning facts).toAttempt defaultSource =
      ((c.successReport warning facts).toAttempt defaultSource).signed
        (c'.signature defaultSource) := by
  simp only [Report.toAttempt, Context.successReport, Attempt.signed, Context.signature,
    h.drive, h.item, h.permission, ← correlated_details]
  rfl

variable {m : Type → Type} [Monad m] (s : Services m)

theorem refuse_eq_signing (stage : Stage) (facts : Json.Fields) (f : Failure) :
    refuse s defaultSource c' stage facts f =
      refuse (s.signing (c'.signature defaultSource)) defaultSource c stage facts f := by
  rw [refuse, record, failureReport_signed h]
  rfl

theorem conclude_eq_signing (id : GrantId) (g : Grant) :
    conclude s defaultSource c' id g =
      conclude (s.signing (c'.signature defaultSource)) defaultSource c id g := by
  simp only [conclude, record, successReport_signed h]
  rfl

theorem remove_eq_signing (id : GrantId) (g : Grant) :
    remove s defaultSource c' id g =
      remove (s.signing (c'.signature defaultSource)) defaultSource c id g := by
  simp only [remove, refuse_eq_signing h, conclude_eq_signing h]
  rfl

theorem revokeGrant_eq_signing (id : GrantId) :
    revokeGrant s defaultSource c' id =
      revokeGrant (s.signing (c'.signature defaultSource)) defaultSource c id := by
  simp only [revokeGrant, refuse_eq_signing h, remove_eq_signing h]
  rfl

end

-- The signature of an attempt with this source, number and actor.
def signatureOf (defaultSource correlation : String) (source : Option String)
    (actor : Option Actor) : Signature where
  actor := Actor.known actor
  source := (Text.present source).getD defaultSource
  correlation := correlation

theorem signature_eq_signatureOf (defaultSource correlation : String) (r : RevokeRequest)
    (actor : Option Actor) :
    Context.signature defaultSource ⟨r.trimmed, actor, correlation⟩ =
      signatureOf defaultSource correlation r.source actor := by
  have hkept : Text.nonBlank (Text.present r.source) = Text.present r.source := by
    cases hsource : Text.present r.source with
    | none => rfl
    | some text => simp [Text.nonBlank, Text.isBlank_of_present hsource]
  simp only [Context.signature, signatureOf, RevokeRequest.trimmed, hkept]

-- An attempt made by somebody else, through something else and under another number, is the same
-- attempt on services that put that signature on what they log.
theorem revoke_eq_signing {m : Type → Type} [Monad m] (s : Services m)
    (defaultSource correlation correlation' : String) (r : RevokeRequest) (source' : Option String)
    (actor actor' : Option Actor) :
    revoke s defaultSource correlation' { r with source := source' } actor' =
      revoke (s.signing (signatureOf defaultSource correlation' source' actor')) defaultSource
        correlation r actor := by
  have hsame : Context.SameTarget ⟨r.trimmed, actor, correlation⟩
      ⟨RevokeRequest.trimmed { r with source := source' }, actor', correlation'⟩ := ⟨rfl, rfl, rfl⟩
  rw [← signature_eq_signatureOf defaultSource correlation' { r with source := source' } actor']
  have hid : (RevokeRequest.trimmed { r with source := source' }).grantId? = r.trimmed.grantId? :=
    rfl
  simp only [revoke, hid]
  cases r.trimmed.grantId? with
  | none => exact refuse_eq_signing hsame defaultSource s _ _ _
  | some id => exact revokeGrant_eq_signing hsame defaultSource s id

end Revocation

namespace Memory

open Revocation

def Call.signed (signature : Signature) : Call → Call
  | .audit event => .audit (event.signed signature)
  | .log attempt => .log (attempt.signed signature)
  | call => call

-- The same call, with this number on what is logged.
def Call.numbered (correlation : String) : Call → Call
  | .log attempt => .log { attempt with details := attempt.details.correlated correlation }
  | call => call

-- On what was signed by the same actor through the same source, a signature changes the number
-- only.
theorem Call.signed_signed (actor : Option Actor) (source correlation correlation' : String)
    (call : Call) :
    (call.signed ⟨actor, source, correlation⟩).signed ⟨actor, source, correlation'⟩ =
      (call.signed ⟨actor, source, correlation⟩).numbered correlation' := by
  cases call <;> rfl

-- The second state is the first with this signature on everything that was logged since the log had
-- these entries.
structure Countersigned (signature : Signature) (before : List LoggedAttempt)
    (m m' : Memory) : Prop where
  grants : m'.grants = m.grants
  faults : m'.faults = m.faults
  calls : m'.calls = m.calls.map (Call.signed signature)
  attempts : ∃ entries, m.attempts = before ++ entries ∧
    m'.attempts = before ++ entries.map (LoggedAttempt.signed signature)

section

variable {signature : Signature} {before : List LoggedAttempt} {m m' : Memory}

theorem Countersigned.noted (h : Countersigned signature before m m') (note : Call) :
    Countersigned signature before (m.noted note) (m'.noted (note.signed signature)) where
  grants := h.grants
  faults := h.faults
  calls := by
    show m'.calls ++ [note.signed signature] = (m.calls ++ [note]).map _
    rw [h.calls, List.map_append]
    rfl
  attempts := h.attempts

theorem Countersigned.erase (h : Countersigned signature before m m') (id : GrantId) :
    Countersigned signature before (m.erase id) (m'.erase id) where
  grants := by
    show m'.grants.filter _ = m.grants.filter _
    rw [h.grants]
  faults := h.faults
  calls := h.calls
  attempts := h.attempts

theorem Countersigned.keep (h : Countersigned signature before m m') (attempt : Attempt) :
    Countersigned signature before (m.keep attempt) (m'.keep (attempt.signed signature)) where
  grants := h.grants
  faults := h.faults
  calls := h.calls
  attempts := by
    obtain ⟨entries, he, he'⟩ := h.attempts
    have hnumber : m'.attempts.length = m.attempts.length := by
      rw [he, he', List.length_append, List.length_append, List.length_map]
    refine ⟨entries ++ [⟨attempt, m.attempts.length + 1, timeOf (m.attempts.length + 1)⟩], ?_, ?_⟩
    · rw [← List.append_assoc, ← he]
      rfl
    · rw [List.map_append, ← List.append_assoc, ← he', ← hnumber]
      rfl

theorem Countersigned.alike_call {α : Type} {act act' : Memory → Except Failure α × Memory}
    (service : Service) (note : Call)
    (h : ∀ m m', Countersigned signature before m m' →
      SameDetail (act m).1 (act' m').1 ∧ Countersigned signature before (act m).2 (act' m').2) :
    Alike (Countersigned signature before) SameDetail (call service note act)
      (call service (note.signed signature) act') := by
  refine alike_call_of ?_ (fun _ _ hsigned => hsigned.noted note) h
  intro m m' hsigned
  rw [hsigned.faults]

end

theorem alike_signing (signature : Signature) (before : List LoggedAttempt) :
    services.Alike (Countersigned signature before) (services.signing signature) where
  fetchGrant id := by
    refine alike_fetchGrant ?_ (fun _ _ hsigned => hsigned.noted _)
      (fun _ _ hsigned => hsigned.grants.symm)
    intro m m' hsigned
    rw [hsigned.faults]
  removeGrant id := Countersigned.alike_call _ _ fun m m' hsigned => ⟨.ok (), hsigned.erase id⟩
  forgetGrant id := Countersigned.alike_call _ _ fun m m' hsigned => ⟨.ok (), hsigned⟩
  appendAudit event := Countersigned.alike_call _ _ fun m m' hsigned => ⟨.ok (), hsigned⟩
  appendAttempt attempt :=
    (Countersigned.alike_call _ _ fun m m' hsigned => ⟨.ok (), hsigned.keep attempt⟩).ignore

-- Among these calls one record is kept. It names this actor, and so does what the audit trail is
-- told, but nobody is named where nothing is known of the actor.
structure Names (actor : Option Actor) (calls : List Call) : Prop where
  one_record : calls.countP Call.isLog = 1
  recorded : ∀ kept, .log kept ∈ calls → kept.actor = Actor.known actor
  audited : ∀ event, .audit event ∈ calls → event.actor = Actor.known actor
  unnamed_iff : ∀ kept, .log kept ∈ calls →
    (kept.actor = none ↔ actor = none ∨ actor = some ⟨none, none, none⟩)

section

variable (defaultSource correlation : String) (r : RevokeRequest) (actor : Option Actor)

theorem countP_isLog_of_revoke {m : Memory} (hnew : m.calls = []) :
    (((revoke services defaultSource correlation r actor).run m).2.calls).countP Call.isLog =
      1 := by
  obtain ⟨course, htaken⟩ := exists_taken services r m
  obtain ⟨events, kept, result, ⟨answer, after, hwatched, hrun⟩, hcourse, -⟩ :=
    (fits_of_taken htaken : Fits services defaultSource correlation r actor m course)
  rw [hrun, calls_of_watched hnew hwatched hrun, List.map_append, List.countP_append,
    countP_of_seen hcourse]
  rfl

-- The same attempt made by somebody else, in the same state.
theorem countersigned_revoke (correlation' : String) (source' : Option String)
    (actor' : Option Actor) {m : Memory} (hnew : m.calls = []) :
    let one := (revoke services defaultSource correlation r actor).run m
    let other :=
      (revoke services defaultSource correlation' { r with source := source' } actor').run m
    other.1 = one.1 ∧
      Countersigned (signatureOf defaultSource correlation' source' actor') m.attempts one.2
        other.2 := by
  intro one other
  let signature := signatureOf defaultSource correlation' source' actor'
  have hstart : Countersigned signature m.attempts m m :=
    ⟨rfl, rfl, by rw [hnew]; rfl, [], by simp, by simp⟩
  obtain ⟨hresult, hstates⟩ := alike_revoke (alike_signing signature m.attempts) defaultSource
    correlation r actor m m hstart
  have hother : other = (revoke (services.signing signature) defaultSource correlation r actor).run
      m := by
    rw [← revoke_eq_signing services defaultSource correlation correlation' r source' actor actor']
  rw [hother]
  exact ⟨hresult.symm, hstates⟩

-- An attempt puts its own signature on whatever it logs: signing it once more changes nothing.
theorem names_revoke {m : Memory} (hnew : m.calls = []) :
    Names actor ((revoke services defaultSource correlation r actor).run m).2.calls := by
  obtain ⟨-, hsigned⟩ :=
    countersigned_revoke defaultSource correlation r actor correlation r.source actor hnew
  have hcalls := hsigned.calls
  have hrecorded : ∀ kept, .log kept ∈ ((revoke services defaultSource correlation r actor).run
      m).2.calls → kept.actor = Actor.known actor := by
    intro kept hmem
    rw [hcalls] at hmem
    obtain ⟨call, -, hcall⟩ := List.mem_map.mp hmem
    cases call <;> cases hcall
    rfl
  refine ⟨countP_isLog_of_revoke defaultSource correlation r actor hnew, hrecorded, ?_, ?_⟩
  · intro event hmem
    rw [hcalls] at hmem
    obtain ⟨call, -, hcall⟩ := List.mem_map.mp hmem
    cases call <;> cases hcall
    rfl
  · intro kept hmem
    rw [hrecorded kept hmem, Actor.known_eq_none_iff]

-- The number of an attempt is found on its record and nowhere else.
theorem numbered_revoke (correlation' : String) {m : Memory} (hnew : m.calls = []) :
    let one := (revoke services defaultSource correlation r actor).run m
    let other := (revoke services defaultSource correlation' r actor).run m
    other.1 = one.1 ∧ other.2.grants = one.2.grants ∧
      other.2.calls = one.2.calls.map (Call.numbered correlation') := by
  intro one other
  obtain ⟨-, hown⟩ :=
    countersigned_revoke defaultSource correlation r actor correlation r.source actor hnew
  obtain ⟨hresult, hsigned⟩ :=
    countersigned_revoke defaultSource correlation r actor correlation' r.source actor hnew
  refine ⟨hresult, hsigned.grants, ?_⟩
  have hone : one.2.calls =
      one.2.calls.map (Call.signed (signatureOf defaultSource correlation r.source actor)) :=
    hown.calls
  have hother : other.2.calls =
      one.2.calls.map (Call.signed (signatureOf defaultSource correlation' r.source actor)) :=
    hsigned.calls
  rw [hother, hone, List.map_map, List.map_map]
  exact List.map_congr_left fun call _ => Call.signed_signed _ _ _ _ call

-- Who asks and through what makes no difference to what is done, and none to what is logged but for
-- the signature on it.
theorem revoke_ignores_signature (correlation' : String) (source' : Option String)
    (actor' : Option Actor) (faults : Faults) (m : Memory) :
    let one := (revoke services defaultSource correlation r actor).run (prepare faults m)
    let other := (revoke services defaultSource correlation' { r with source := source' }
      actor').run (prepare faults m)
    let signature := signatureOf defaultSource correlation' source' actor'
    other.1 = one.1 ∧ other.2.grants = one.2.grants ∧
      other.2.calls = one.2.calls.map (Call.signed signature) ∧
      (∃ entries, one.2.attempts = m.attempts ++ entries ∧
        other.2.attempts = m.attempts ++ entries.map (LoggedAttempt.signed signature)) ∧
      Names actor one.2.calls ∧ Names actor' other.2.calls := by
  intro one other signature
  obtain ⟨hresult, hsigned⟩ :=
    countersigned_revoke defaultSource correlation r actor correlation' source' actor'
      (m := prepare faults m) rfl
  exact ⟨hresult, hsigned.grants, hsigned.calls, hsigned.attempts,
    names_revoke defaultSource correlation r actor rfl,
    names_revoke defaultSource correlation' _ actor' rfl⟩

end

end Memory

end Unshare
