import Unshare.Graph.Client
import Unshare.Proofs.Computations
import Unshare.Proofs.Marks
import Unshare.Proofs.Reasons
import Unshare.Proofs.Releasable
import Unshare.Proofs.TextRecords

namespace Unshare

namespace Json

-- What is given where a record may be missing: a value that shows what it is, or null or nothing
-- where it is missing.
def MayGive {α : Type} (shows : Json → α → Prop) (given : Option Json) : Option α → Prop
  | some a => ∃ v, given = some v ∧ v ≠ .null ∧ shows v a
  | none => given = none ∨ given = some .null

theorem optional?_eq_some_iff {α : Type} {read? : Json → Option α} {shows : Json → α → Prop}
    (h : ∀ v a, read? v = some a ↔ shows v a) (given : Option Json) (value : Option α) :
    optional? read? given = some value ↔ MayGive shows given value := by
  cases value with
  | none => exact optional?_eq_some_none_iff read? given
  | some a =>
    simp only [MayGive, ← h]
    cases given with
    | none => simp [optional?]
    | some v => cases v <;> simp [optional?]

end Json

namespace Graph

open Json (Gives IsGivenAs MayGive)

-- The grant that an answer describes. The time its link ends is given beside the link, and says
-- nothing where there is no link.
def Describes (id : GrantId) (j : Json) (g : Grant) : Prop :=
  ∃ roles link inheritedFrom expiration ends,
    j.Gives permissionNames [roles, link, inheritedFrom, expiration] ∧ g.id = id ∧
    (roles = none ∧ g.roles = [] ∨ roles = some (.array (g.roles.map .string))) ∧
    IsGivenAs expiration ends ∧
    MayGive (fun v l => v.Records ["scope", "type", "webUrl"] [l.scope, l.kind, l.webUrl] ∧
      l.expiration = ends) link g.link ∧
    MayGive (fun v r => v.Records ["driveId", "id"] [r.drive, r.item]) inheritedFrom g.inheritedFrom

-- The body of an error, with the code and the message it has.
def IsEnvelope (body : String) (code message : Option String) : Prop :=
  ∃ j error, Json.ofText? body = some j ∧ j.Gives ["error"] [some error] ∧
    error.Records ["code", "message"] [code, message]

-- The failure that an answer without success stands for.
structure StandsFor (status : Nat) (body : String) (f : Failure) : Prop where
  missing : f.kind = .notFound ↔ status = 404
  other : f.kind = .dependency ↔ status ≠ 404
  coded : ∀ code message, IsEnvelope body (some code) (some message) →
    f.detail = code ++ ": " ++ message
  worded : ∀ message, IsEnvelope body none (some message) → f.detail = message
  blank : (∀ code message, ¬IsEnvelope body code (some message)) → Text.isBlank body = true →
    f.detail = "graph request failed with status " ++ Http.Status.display status
  plain : (∀ code message, ¬IsEnvelope body code (some message)) → Text.isBlank body = false →
    f.detail = "graph request failed with status " ++ Http.Status.display status ++ ": " ++
      Text.trim body

namespace Permission

-- The link of a grant, from the link of a permission and the time beside it.
theorem timed_link_iff (given : Option Json) (ends : Option String) (link : Option SharingLink) :
    (∃ untimed, Json.optional? linkOfJson? given = some untimed ∧
        untimed.map (fun l => { l with expiration := ends }) = link) ↔
      MayGive (fun v l => v.Records ["scope", "type", "webUrl"] [l.scope, l.kind, l.webUrl] ∧
        l.expiration = ends) given link := by
  simp only [Json.optional?_eq_some_iff linkOfJson?_eq_some_iff]
  constructor
  · rintro ⟨untimed, hgiven, rfl⟩
    cases untimed with
    | none => exact hgiven
    | some l =>
      obtain ⟨v, hv, hnull, hrecords, -⟩ := hgiven
      exact ⟨v, hv, hnull, hrecords, rfl⟩
  · intro hgiven
    cases link with
    | none => exact ⟨none, hgiven, rfl⟩
    | some l =>
      obtain ⟨v, hv, hnull, hrecords, rfl⟩ := hgiven
      exact ⟨some { l with expiration := none }, ⟨v, hv, hnull, hrecords, rfl⟩, rfl⟩

theorem describes_iff (id : GrantId) (j : Json) (g : Grant) :
    Describes id j g ↔ ∃ p, ofJson? j = some p ∧ p.toGrant id = g := by
  constructor
  · rintro ⟨roles, link, inheritedFrom, expiration, ends, hgives, hid, hroles, hends, hlink, hitem⟩
    obtain ⟨untimed, huntimed, hlink⟩ := (timed_link_iff link ends g.link).mpr hlink
    refine ⟨⟨g.roles, untimed, g.inheritedFrom, ends⟩, ?_, ?_⟩
    · rw [ofJson?_eq_some_iff]
      exact ⟨roles, link, inheritedFrom, expiration, hgives,
        (rolesOfJson?_eq_some_iff roles g.roles).mpr hroles, huntimed,
        (Json.optional?_eq_some_iff itemOfJson?_eq_some_iff inheritedFrom _).mpr hitem,
        (Json.optionalString?_eq_some_iff expiration ends).mpr hends⟩
    · rw [toGrant, hlink, ← hid]
  · rintro ⟨p, hread, rfl⟩
    obtain ⟨roles, link, inheritedFrom, expiration, hgives, hroles, hlink, hitem, hends⟩ :=
      (ofJson?_eq_some_iff j p).mp hread
    exact ⟨roles, link, inheritedFrom, expiration, p.expiration, hgives, rfl,
      (rolesOfJson?_eq_some_iff roles p.roles).mp hroles,
      (Json.optionalString?_eq_some_iff expiration p.expiration).mp hends,
      (timed_link_iff link p.expiration _).mp ⟨p.link, hlink, rfl⟩,
      (Json.optional?_eq_some_iff itemOfJson?_eq_some_iff inheritedFrom _).mp hitem⟩

end Permission

theorem grantOf_eq_ok_iff (id : GrantId) (a : Remote.Answer) (g : Grant) :
    grantOf id a = .ok g ↔ ∃ j, Json.ofBytes? a.body.bytes = some j ∧ Describes id j g := by
  have hread : ∀ p, (Json.ofBytes? a.body.bytes).bind Permission.ofJson? = some p ↔
      ∃ j, Json.ofBytes? a.body.bytes = some j ∧ Permission.ofJson? j = some p := by
    intro p
    exact Option.bind_eq_some_iff
  simp only [Permission.describes_iff]
  rw [grantOf, Remote.Answer.decode]
  cases hbody : (Json.ofBytes? a.body.bytes).bind Permission.ofJson? with
  | some p =>
    obtain ⟨j, hj, hp⟩ := (hread p).mp hbody
    simp [hj, hp]
  | none =>
    simp only [reduceCtorEq, false_iff]
    rintro ⟨j, hj, p, hp, -⟩
    have hsome := (hread p).mpr ⟨j, hj, hp⟩
    rw [hbody] at hsome
    cases hsome

theorem exists_grantOf_eq_error (id : GrantId) (a : Remote.Answer)
    (h : ¬∃ j g, Json.ofBytes? a.body.bytes = some j ∧ Describes id j g) :
    ∃ rest, grantOf id a =
      .error (.dependency ("graph returned an invalid permission payload: " ++ rest)) := by
  cases hgrant : grantOf id a with
  | ok g =>
    obtain ⟨j, hj, hg⟩ := (grantOf_eq_ok_iff id a g).mp hgrant
    exact absurd ⟨j, g, hj, hg⟩ h
  | error f =>
    rw [grantOf] at hgrant
    split at hgrant
    · cases hgrant
    · cases hgrant
      exact ⟨_, rfl⟩

theorem ErrorBody.envelope_read?_iff (j error : Json) :
    envelopeLayout.read? j = some [some error] ↔ j.Gives ["error"] [some error] := by
  have hlayout : envelopeLayout.IsStrict ["error"] := ⟨rfl, by decide, rfl⟩
  exact hlayout.read?_eq_some_iff j [error]

theorem said?_eq_some_iff (body : String) (code message : Option String) :
    said? body = some ⟨code, message⟩ ↔ IsEnvelope body code message := by
  have henvelope : ∀ j, ErrorBody.ofEnvelope? j = some ⟨code, message⟩ ↔
      ∃ error, j.Gives ["error"] [some error] ∧
        error.Records ["code", "message"] [code, message] := by
    intro j
    simp only [← ErrorBody.envelope_read?_iff]
    rw [ErrorBody.ofEnvelope?]
    split
    · rename_i error hread
      simp [hread, ErrorBody.ofJson?_eq_some_iff]
    · rename_i hread
      simp only [reduceCtorEq, false_iff]
      rintro ⟨error, h, -⟩
      exact hread error h
  rw [said?, Option.bind_eq_some_iff]
  simp only [henvelope, IsEnvelope, exists_and_left]

theorem errorMessage_of_unsaid {status : Nat} {body : String}
    (h : ∀ code message, said? body ≠ some ⟨code, some message⟩) :
    errorMessage status body = plainMessage status body := by
  obtain ⟨code, message, hsaid, -⟩ | ⟨message, hsaid, -⟩ | ⟨-, hplain⟩ :=
    errorMessage_cases status body
  · exact absurd hsaid (h (some code) message)
  · exact absurd hsaid (h none message)
  · exact hplain

theorem standsFor_of_detail {status : Nat} {body : String} {f : Failure}
    (hmissing : f.kind = .notFound ↔ status = 404)
    (hother : f.kind = .dependency ↔ status ≠ 404) (hdetail : f.detail = errorMessage status body) :
    StandsFor status body f where
  missing := hmissing
  other := hother
  coded := by
    intro code message h
    have hsaid : (Json.ofText? body).bind ErrorBody.ofEnvelope? = some ⟨code, message⟩ :=
      (said?_eq_some_iff body code message).mpr h
    rw [hdetail, errorMessage, hsaid]
  worded := by
    intro message h
    have hsaid : (Json.ofText? body).bind ErrorBody.ofEnvelope? = some ⟨none, message⟩ :=
      (said?_eq_some_iff body none message).mpr h
    rw [hdetail, errorMessage, hsaid]
  blank := by
    intro h hblank
    rw [hdetail, errorMessage_of_unsaid, plainMessage, if_pos hblank]
    exact fun code message => mt (said?_eq_some_iff body code message).mp (h code message)
  plain := by
    intro h hblank
    rw [hdetail, errorMessage_of_unsaid, plainMessage, if_neg (by simp [hblank])]
    exact fun code message => mt (said?_eq_some_iff body code message).mp (h code message)

theorem failureOf?_cases (a : Remote.Answer) :
    ((200 ≤ a.status ∧ a.status < 300) ∧ failureOf? a = none) ∨
      ¬(200 ≤ a.status ∧ a.status < 300) ∧
        ∃ f, failureOf? a = some f ∧ StandsFor a.status a.body.text f := by
  have hstatus : a.isSuccess = true ↔ 200 ≤ a.status ∧ a.status < 300 := by
    simp [Remote.Answer.isSuccess, Http.Status.isSuccess]
  rw [failureOf?, ← hstatus]
  by_cases hsuccess : a.isSuccess = true
  · exact .inl ⟨hsuccess, if_pos hsuccess⟩
  · rw [if_neg hsuccess]
    refine .inr ⟨hsuccess, ?_⟩
    by_cases hmissing : a.status = 404
    · rw [if_pos hmissing]
      exact ⟨_, rfl, standsFor_of_detail (by simp [Failure.notFound, hmissing])
        (by simp [Failure.notFound, hmissing]) rfl⟩
    · rw [if_neg hmissing]
      exact ⟨_, rfl, standsFor_of_detail (by simp [Failure.dependency, hmissing])
        (by simp [Failure.dependency, hmissing]) rfl⟩

namespace Client

variable {σ : Type}

-- There is a token for the operation, its request may be sent, and the directory answers it so.
def Answered (c : Client (StateM σ)) (operation : Operation) (id : GrantId) (s : σ) (status : Nat)
    (body : Remote.Body) (t : σ) : Prop :=
  ∃ url token mid, permissionUrl c.baseUrl id = .ok url ∧
    c.accessToken.run s = (.ok token, mid) ∧
    (request operation url token).normalized.hasLegalHeaders = true ∧
    Remote.isSendable (request operation url token).normalized.url = true ∧
    (c.wire (request operation url token).normalized).run mid = (.answered status body, t)

section

variable {c : Client (StateM σ)} {operation : Operation} {id : GrantId} {s t : σ} {status : Nat}
  {body : Remote.Body}

theorem run_perform (h : c.Answered operation id s status body t) :
    ∃ url, (c.perform operation id).run s =
      (match failureOf? ⟨url, status, body⟩ with
        | some f => .error (.failure f)
        | none => .ok ⟨url, status, body⟩, t) := by
  obtain ⟨url, token, mid, hurl, htoken, hheaders, hsendable, hwire⟩ := h
  have hsent : (Remote.send c.wire (request operation url token)).run mid =
      (.ok ⟨(request operation url token).normalized.url, status, body⟩, t) := by
    simp only [Remote.send, hheaders, hsendable, Bool.not_true, Bool.false_eq_true, if_false]
    rw [run_bind_of_run hwire]
    rfl
  refine ⟨(request operation url token).normalized.url, ?_⟩
  simp only [perform, hurl]
  rw [run_bind_of_run htoken]
  dsimp only
  rw [run_bind_of_run hsent]
  dsimp only
  cases failureOf? ⟨(request operation url token).normalized.url, status, body⟩ <;> rfl

theorem run_remove_cases (h : c.Answered .remove id s status body t) :
    ((200 ≤ status ∧ status < 300) ∧ (c.remove id).run s = (.ok (), t)) ∨
      ¬(200 ≤ status ∧ status < 300) ∧ ∃ f, (c.remove id).run s = (.error (.failure f), t) ∧
        StandsFor status body.text f := by
  obtain ⟨url, hrun⟩ := run_perform h
  rw [remove, run_bind_of_run hrun]
  obtain ⟨hsuccess, hnone⟩ | ⟨hfailed, f, hf, hstands⟩ := failureOf?_cases ⟨url, status, body⟩
  · rw [hnone]
    exact .inl ⟨hsuccess, rfl⟩
  · rw [hf]
    exact .inr ⟨hfailed, f, rfl, hstands⟩

theorem run_fetch_cases (h : c.Answered .fetch id s status body t) :
    ((200 ≤ status ∧ status < 300) ∧
        ∃ url, (c.fetch id).run s = ((grantOf id ⟨url, status, body⟩).mapError .failure, t)) ∨
      ¬(200 ≤ status ∧ status < 300) ∧ ∃ f, (c.fetch id).run s = (.error (.failure f), t) ∧
        StandsFor status body.text f := by
  obtain ⟨url, hrun⟩ := run_perform h
  rw [fetch, run_bind_of_run hrun]
  obtain ⟨hsuccess, hnone⟩ | ⟨hfailed, f, hf, hstands⟩ := failureOf?_cases ⟨url, status, body⟩
  · rw [hnone]
    refine .inl ⟨hsuccess, url, ?_⟩
    dsimp only
    cases grantOf id ⟨url, status, body⟩ <;> rfl
  · rw [hf]
    exact .inr ⟨hfailed, f, rfl, hstands⟩

end

-- The caller of an operation gets the grant or the removal that a success stands for, and the
-- failure that anything else does.
theorem answers_are_classified (c : Client (StateM σ)) (id : GrantId) (s : σ) (status : Nat)
    (body : Remote.Body) (t : σ) :
    (c.Answered .remove id s status body t →
      (200 ≤ status ∧ status < 300 → (c.remove id).run s = (.ok (), t)) ∧
      (¬(200 ≤ status ∧ status < 300) → ∃ f, (c.remove id).run s = (.error (.failure f), t) ∧
        StandsFor status body.text f)) ∧
    (c.Answered .fetch id s status body t →
      (200 ≤ status ∧ status < 300 →
        (∀ g, (c.fetch id).run s = (.ok g, t) ↔
          ∃ j, Json.ofBytes? body.bytes = some j ∧ Describes id j g) ∧
        ((¬∃ j g, Json.ofBytes? body.bytes = some j ∧ Describes id j g) →
          ∃ rest, (c.fetch id).run s = (.error (.failure (.dependency
            ("graph returned an invalid permission payload: " ++ rest))), t))) ∧
      (¬(200 ≤ status ∧ status < 300) → ∃ f, (c.fetch id).run s = (.error (.failure f), t) ∧
        StandsFor status body.text f)) := by
  constructor
  · intro hanswered
    obtain ⟨hsuccess, hrun⟩ | ⟨hfailed, hrun⟩ := run_remove_cases hanswered
    · exact ⟨fun _ => hrun, fun hno => absurd hsuccess hno⟩
    · exact ⟨fun hyes => absurd hyes hfailed, fun _ => hrun⟩
  · intro hanswered
    obtain ⟨hsuccess, url, hrun⟩ | ⟨hfailed, hrun⟩ := run_fetch_cases hanswered
    · refine ⟨fun _ => ⟨?_, ?_⟩, fun hno => absurd hsuccess hno⟩
      · intro g
        have hpair : ∀ result : Except Abort Grant, (result, t) = (.ok g, t) ↔ result = .ok g := by
          simp
        rw [hrun, ← grantOf_eq_ok_iff id ⟨url, status, body⟩ g]
        refine (hpair _).trans ?_
        cases grantOf id ⟨url, status, body⟩ <;> simp [Except.mapError]
      · intro hnot
        obtain ⟨rest, hrest⟩ := exists_grantOf_eq_error id ⟨url, status, body⟩ hnot
        rw [hrun, hrest]
        exact ⟨rest, rfl⟩
    · exact ⟨fun hyes => absurd hyes hfailed, fun _ => hrun⟩

-- A permission with a time but no link.
def looseTime : String :=
  "\x7b\"id\":\"p\",\"expirationDateTime\":\"2030\"\x7d"

def goneText : String :=
  "\x7b\"error\":\x7b\"message\":\"gone\"\x7d\x7d"

-- The same in UTF-16, with the mark that says so in front.
def goneError : List UInt8 :=
  0xFF :: 0xFE :: Text.Utf16.encode .lowFirst goneText

def forgetful : Client (StateM Unit) where
  baseUrl := ⟨"https", "", none, some (.name "graph.test"), none, false, .segments [""], none, none⟩
  accessToken := pure (.ok "token")
  wire r := pure <| if r.method = "GET" then .answered 200 (Text.Utf8.encode looseTime)
    else .answered 404 goneError

def forgotten : GrantId :=
  ⟨"d", "i", "p", .refl false, .refl false, .refl false⟩

theorem answers_are_classified_forgetful :
    (forgetful.fetch forgotten).run () = (.ok ⟨forgotten, [], none, none⟩, ()) ∧
      ∃ f, (forgetful.remove forgotten).run () = (.error (.failure f), ()) ∧
        f.kind = .notFound ∧ f.detail = "gone" := by
  have hextend : forgetful.baseUrl.extend? (segmentsOf forgotten) =
      some ⟨"https", "", none, some (.name "graph.test"), none, false,
        .segments (segmentsOf forgotten), none, none⟩ := by
    decide +kernel
  have hurl : permissionUrl forgetful.baseUrl forgotten =
      .ok ⟨"https", "", none, some (.name "graph.test"), none, false,
        .segments (segmentsOf forgotten), none, none⟩ := by
    rw [permissionUrl, hextend]
  have hget : ∀ r : Remote.Request, r.method = "GET" →
      (forgetful.wire r).run () = (.answered 200 (Text.Utf8.encode looseTime), ()) := by
    intro r h
    simp only [forgetful, h, if_true]
    rfl
  have hother : ∀ r : Remote.Request, r.method ≠ "GET" →
      (forgetful.wire r).run () = (.answered 404 goneError, ()) := by
    intro r h
    simp only [forgetful, h, if_false]
    rfl
  have hfetched : forgetful.Answered .fetch forgotten () 200 (Text.Utf8.encode looseTime) () :=
    ⟨_, "token", (), hurl, rfl, by decide +kernel, by decide +kernel, hget _ (by decide +kernel)⟩
  have hremoved : forgetful.Answered .remove forgotten () 404 goneError () :=
    ⟨_, "token", (), hurl, rfl, by decide +kernel, by decide +kernel, hother _ (by decide +kernel)⟩
  have hpermission : Json.ofBytes? (Text.Utf8.encode looseTime) =
      some (.object [("id", .string "p"), ("expirationDateTime", .string "2030")]) :=
    congrArg Json.ofPlaces? (Text.Utf8.decode_encodeChars looseTime.toList)
  have hdescribes : Describes forgotten
      (.object [("id", .string "p"), ("expirationDateTime", .string "2030")])
      ⟨forgotten, [], none, none⟩ := by
    refine ⟨none, none, none, some (.string "2030"), some "2030", ?_, rfl, .inl ⟨rfl, rfl⟩, .inl rfl,
      .inl rfl, .inl rfl⟩
    simp [Gives, permissionNames, Json.Fields.named]
  have henvelope : IsEnvelope (Remote.Body.plain goneError).text none (some "gone") := by
    have htext : (Remote.Body.plain goneError).text = goneText :=
      (Remote.Body.text_of_marked goneText none).2.1
    rw [htext, ← said?_eq_some_iff]
    decide +kernel
  obtain ⟨hgiven, -⟩ := (answers_are_classified forgetful forgotten () 200 _ ()).2 hfetched
  obtain ⟨-, hfailed⟩ := (answers_are_classified forgetful forgotten () 404 _ ()).1 hremoved
  obtain ⟨f, hf, hstands⟩ := hfailed (by decide)
  exact ⟨((hgiven (by decide)).1 _).mpr ⟨_, hpermission, hdescribes⟩, f, hf,
    hstands.missing.mpr rfl, hstands.worded "gone" henvelope⟩

end Client

end Graph

end Unshare
