import Unshare.Memory.Api
import Unshare.Proofs.Courses
import Unshare.Proofs.Escapes

namespace Unshare

namespace Http.Request

-- These bytes are the first value that the headers give this name, which is in lower case.
def Gives (r : Request) (name : String) (bytes : List UInt8) : Prop :=
  ∃ before written after, r.headers = before ++ (written, bytes) :: after ∧
    lowerName written = name ∧ ∀ header ∈ before, lowerName header.1 ≠ name

-- A space, a visible character of ASCII or a tab.
def IsPrintable (b : UInt8) : Prop :=
  0x20 ≤ b.toNat ∧ b.toNat ≤ 0x7E ∨ b.toNat = 0x09

-- The first authorization is a printable text, the word `Bearer`, one space, and the token with
-- any blanks around it.
def Bears (r : Request) (token : String) : Prop :=
  ∃ bytes rest, r.Gives "authorization" bytes ∧ (∀ b ∈ bytes, IsPrintable b) ∧
    bytes = Text.Utf8.encode ("Bearer " ++ rest) ∧ Text.trim rest ≠ "" ∧
      Text.Utf8.encode (Text.trim rest) = Text.Utf8.encode token

-- The first value under this name is printable and shows something, which is this text.
def Presents (r : Request) (name text : String) : Prop :=
  ∃ bytes value, r.Gives name bytes ∧ (∀ b ∈ bytes, IsPrintable b) ∧
    bytes = Text.Utf8.encode value ∧ Text.isBlank value = false ∧ Text.trim value = text

-- The request is for this route, by a method that the route answers.
def Asks (r : Request) (route : Api.Route) : Prop :=
  r.path = route.path ∧ r.method ∈ route.methods

theorem header?_eq_some_iff (r : Request) (name : String) (bytes : List UInt8) :
    r.header? name = some bytes ↔ r.Gives name bytes := by
  simp only [header?, Gives, Option.map_eq_some_iff, List.find?_eq_some_iff_append,
    decide_eq_true_eq, Bool.not_eq_true', decide_eq_false_iff_not]
  constructor
  · rintro ⟨⟨written, _⟩, ⟨hname, before, after, hheaders, hbefore⟩, rfl⟩
    exact ⟨before, written, after, hheaders, hname, hbefore⟩
  · rintro ⟨before, written, after, hheaders, hname, hbefore⟩
    exact ⟨(written, bytes), ⟨hname, before, after, hheaders, hbefore⟩, rfl⟩

theorem isHeaderText_iff (b : UInt8) : isHeaderText b = true ↔ IsPrintable b := by
  simp only [isHeaderText, IsPrintable, Bool.or_eq_true, Bool.and_eq_true, decide_eq_true_eq,
    beq_iff_eq, UInt8.le_iff_toNat_le, UInt8.lt_iff_toNat_lt, ← UInt8.toNat_inj]
  show 0x20 ≤ b.toNat ∧ b.toNat < 0x7F ∨ b.toNat = 0x09 ↔ _
  omega

theorem encodeChars_byteChars {bytes : List UInt8} (h : ∀ b ∈ bytes, IsPrintable b) :
    Text.Utf8.encodeChars (bytes.map Text.Percent.byteChar) = bytes := by
  induction bytes with
  | nil => rfl
  | cons b rest ih =>
    obtain ⟨hb, hrest⟩ := List.forall_mem_cons.mp h
    have hascii : b.toNat < 0x80 := by
      unfold IsPrintable at hb
      omega
    have hrest := ih hrest
    simp only [Text.Utf8.encodeChars] at hrest ⊢
    rw [List.map_cons, List.flatMap_cons, hrest, Text.Percent.utf8EncodeChar_byteChar hascii]
    rfl

theorem headerText?_eq_some_iff (r : Request) (name text : String) :
    r.headerText? name = some text ↔
      ∃ bytes, r.Gives name bytes ∧ (∀ b ∈ bytes, IsPrintable b) ∧
        bytes = Text.Utf8.encode text := by
  have hread : ∀ bytes : List UInt8, (∀ b ∈ bytes, IsPrintable b) →
      (String.ofList (bytes.map fun b => Char.ofNat b.toNat) = text ↔
        bytes = Text.Utf8.encode text) := by
    intro bytes hbytes
    have hencoded := encodeChars_byteChars hbytes
    constructor
    · rintro rfl
      rw [Text.Utf8.encode, String.toList_ofList]
      exact hencoded.symm
    · intro h
      apply Text.Utf8.encode_injective
      rw [← h, Text.Utf8.encode, String.toList_ofList]
      exact hencoded
  have hall : ∀ bytes : List UInt8, bytes.all isHeaderText = true ↔ ∀ b ∈ bytes, IsPrintable b := by
    intro bytes
    simp only [List.all_eq_true, isHeaderText_iff]
  simp only [headerText?, Option.bind_eq_some_iff, header?_eq_some_iff]
  apply exists_congr
  intro bytes
  apply and_congr_right
  intro _
  split
  · rename_i h
    have hbytes := (hall bytes).mp h
    rw [Option.some.injEq, hread bytes hbytes, and_iff_right hbytes]
  · rename_i h
    have hbytes := fun hprintable => h ((hall bytes).mpr hprintable)
    constructor
    · intro hnone
      cases hnone
    · rintro ⟨hprintable, -⟩
      exact absurd hprintable hbytes

theorem present_headerText?_eq_some_iff (r : Request) (name text : String) :
    Text.present (r.headerText? name) = some text ↔ r.Presents name text := by
  constructor
  · intro h
    obtain ⟨value, hvalue⟩ : ∃ value, r.headerText? name = some value := by
      cases hread : r.headerText? name with
      | none => simp [hread, Text.present] at h
      | some value => exact ⟨value, rfl⟩
    obtain ⟨bytes, hgives, hprintable, hbytes⟩ := (r.headerText?_eq_some_iff name value).mp hvalue
    rw [hvalue] at h
    cases hblank : Text.isBlank value with
    | true =>
      rw [Text.present_of_isBlank hblank] at h
      cases h
    | false =>
      rw [Text.present_of_not_isBlank hblank] at h
      exact ⟨bytes, value, hgives, hprintable, hbytes, hblank, Option.some.inj h⟩
  · rintro ⟨bytes, value, hgives, hprintable, hbytes, hseen, rfl⟩
    have hvalue := (r.headerText?_eq_some_iff name value).mpr ⟨bytes, hgives, hprintable, hbytes⟩
    rw [hvalue, Text.present_of_not_isBlank hseen]

theorem present_headerText?_eq_none_iff (r : Request) (name : String) :
    Text.present (r.headerText? name) = none ↔ ∀ text, ¬r.Presents name text := by
  simp only [Option.eq_none_iff_forall_ne_some, ne_eq, present_headerText?_eq_some_iff]

end Http.Request

namespace Api

open Http

theorem Route.ofPath?_eq_some_iff (path : String) (route : Route) :
    ofPath? path = some route ↔ path = route.path := by
  constructor
  · intro h
    have hpath := List.find?_some h
    exact (beq_iff_eq.mp hpath).symm
  · rintro rfl
    exact ofPath?_path route

theorem dropStart?_eq_some_iff (start cs rest : List Char) :
    dropStart? start cs = some rest ↔ cs = start ++ rest := by
  unfold dropStart?
  split
  · rename_i h
    obtain ⟨tail, rfl⟩ := List.isPrefixOf_iff_prefix.mp h
    simp
  · rename_i h
    constructor
    · intro hnone
      cases hnone
    · rintro rfl
      exact absurd (List.isPrefixOf_iff_prefix.mpr (List.prefix_append start rest)) h

theorem bearerToken?_eq_some_iff (r : Request) (token : String) :
    bearerToken? r = some token ↔
      ∃ bytes rest, r.Gives "authorization" bytes ∧ (∀ b ∈ bytes, Request.IsPrintable b) ∧
        bytes = Text.Utf8.encode ("Bearer " ++ rest) ∧ Text.trim rest ≠ "" ∧
          Text.trim rest = token := by
  have hmark : ∀ (value : String) (rest : List Char),
      value.toList = bearerMark ++ rest ↔ value = "Bearer " ++ String.ofList rest := by
    intro value rest
    have hword : "Bearer ".toList = bearerMark := rfl
    simp only [← String.toList_inj, String.toList_append, String.toList_ofList, hword]
  simp only [bearerToken?, Option.bind_eq_some_iff, Request.headerText?_eq_some_iff,
    dropStart?_eq_some_iff, hmark, Text.present, Option.map_some, Option.filter_eq_some_iff,
    Option.some.injEq]
  constructor
  · rintro ⟨_, ⟨bytes, hgives, hprintable, hbytes⟩, rest, rfl, rfl, hseen⟩
    exact ⟨bytes, String.ofList rest, hgives, hprintable, hbytes, by simpa using hseen, rfl⟩
  · rintro ⟨bytes, rest, hgives, hprintable, hbytes, hseen, rfl⟩
    refine ⟨_, ⟨bytes, hgives, hprintable, hbytes⟩, rest.toList, ?_, ?_, ?_⟩
    · rw [String.ofList_toList]
    · rw [String.ofList_toList]
    · simpa using hseen

theorem sameToken_iff (presented expected : String) :
    sameToken presented expected = true ↔
      Text.Utf8.encode presented = Text.Utf8.encode expected :=
  sameBytes_iff _ _

theorem bears_iff (r : Request) (token : String) :
    r.Bears token ↔ ∃ presented, bearerToken? r = some presented ∧
      sameToken presented token = true := by
  simp only [bearerToken?_eq_some_iff, sameToken_iff]
  constructor
  · rintro ⟨bytes, rest, hgives, hprintable, hbytes, hseen, hsame⟩
    exact ⟨_, ⟨bytes, rest, hgives, hprintable, hbytes, hseen, rfl⟩, hsame⟩
  · rintro ⟨_, ⟨bytes, rest, hgives, hprintable, hbytes, hseen, rfl⟩, hsame⟩
    exact ⟨bytes, rest, hgives, hprintable, hbytes, hseen, hsame⟩

-- Each part of the actor is what the request presents for it, and missing where it presents
-- nothing.
structure Forwards (r : Request) (actor : Actor) : Prop where
  oid : ∀ text, actor.oid = some text ↔ r.Presents "x-ms-client-principal-id" text
  upn : ∀ text, actor.upn = some text ↔ r.Presents "x-ms-client-principal-name" text
  name : ∀ text, actor.name = some text ↔ r.Presents "x-actor-name" text

theorem forwards_actorOf (r : Request) : Forwards r (actorOf r) where
  oid := r.present_headerText?_eq_some_iff _
  upn := r.present_headerText?_eq_some_iff _
  name := r.present_headerText?_eq_some_iff _

instance (r : Request) (token : String) : Decidable (r.Bears token) :=
  decidable_of_iff ((bearerToken? r).any (sameToken · token) = true) <| by
    rw [bears_iff, Option.any_eq_true]

instance (r : Request) (route : Route) : Decidable (r.Asks route) :=
  inferInstanceAs (Decidable (_ ∧ _))

theorem checkAdmission_of_bears {r : Request} {token : String} (h : r.Bears token) :
    checkAdmission token r = .ok (actorOf r) := by
  obtain ⟨presented, hpresented, hsame⟩ := (bears_iff r token).mp h
  simp only [checkAdmission, hpresented, hsame, if_true]

theorem checkAdmission_of_not_bears {r : Request} {token : String} (h : ¬r.Bears token) :
    ∃ detail, checkAdmission token r = .error (.unauthorized detail) := by
  unfold checkAdmission
  cases hpresented : bearerToken? r with
  | none => exact ⟨_, rfl⟩
  | some presented =>
    have hother : ¬sameToken presented token = true := by
      intro hsame
      exact h ((bears_iff r token).mpr ⟨presented, hpresented, hsame⟩)
    exact ⟨_, if_neg hother⟩

-- A request that may reach a service: it asks for a protected route and bears the token.
def Reaches (token : String) (r : Request) : Prop :=
  ∃ route : Route, route.isProtected = true ∧ r.Asks route ∧ r.Bears token

section

variable {m : Type → Type} (api : Api m)

-- An answer in the form in which it leaves the service.
def framed (r : Request) (response : Response) : Response :=
  let framed := response.addHeaders api.origin.headers
  if r.method = "HEAD" then framed.withoutBody else framed

theorem status_framed (r : Request) (response : Response) :
    (api.framed r response).status = response.status := by
  unfold framed
  split <;> rfl

theorem admitTo_of_isProtected {route : Route} (h : route.isProtected = true) (r : Request) :
    api.admitTo route r = checkAdmission api.adminToken r := by
  simp only [admitTo, h, if_true]

variable [Monad m] (correlation : String) {r : Request} {route : Route}

theorem answerBare_of_asks (h : r.Asks route) :
    api.answerBare correlation r = api.answerOn correlation route r := by
  have hoptions : r.method ≠ "OPTIONS" := by
    intro he
    have hmethod := h.2
    rw [he] at hmethod
    cases route <;> revert hmethod <;> decide
  have hroute := (Route.ofPath?_eq_some_iff r.path route).mpr h.1
  simp only [answerBare, if_neg hoptions, hroute]

theorem answerOn_of_ok {actor : Actor} (hmethod : r.method ∈ route.methods)
    (h : api.admitTo route r = .ok actor) :
    api.answerOn correlation route r = api.serve correlation route actor r := by
  have hanswers : route.methods.contains r.method = true := List.contains_iff_mem.mpr hmethod
  simp only [answerOn, h, hanswers, if_true]

theorem answerBare_of_bears (hprotected : route.isProtected = true) (hasks : r.Asks route)
    (hbears : r.Bears api.adminToken) :
    api.answerBare correlation r = api.serve correlation route (actorOf r) r := by
  have hadmit := api.admitTo_of_isProtected hprotected r
  rw [checkAdmission_of_bears hbears] at hadmit
  rw [answerBare_of_asks api correlation hasks, answerOn_of_ok api correlation hasks.2 hadmit]

theorem answerBare_of_asks_health (h : r.Asks .health) :
    api.answerBare correlation r = api.answerHealth := by
  rw [answerBare_of_asks api correlation h, answerOn_of_ok api correlation h.2 rfl]
  rfl

end

-- Every service with this token gives the request this answer and does nothing else, whatever it
-- works with.
def Settles (token : String) (r : Request) (response : Response) : Prop :=
  ∀ {m : Type → Type} [Monad m] (api : Api m) (correlation : String), api.adminToken = token →
    api.answerBare correlation r = pure response

theorem settles_of_not_bears {token : String} {r : Request} {route : Route}
    (hprotected : route.isProtected = true) (hasks : r.Asks route) (hbears : ¬r.Bears token) :
    ∃ response, response.status = 401 ∧ Settles token r response := by
  obtain ⟨detail, hdenied⟩ := checkAdmission_of_not_bears hbears
  have hanswers : route.methods.contains r.method = true := List.contains_iff_mem.mpr hasks.2
  refine ⟨.ofFailure (.unauthorized detail), rfl, ?_⟩
  rintro m _ api correlation rfl
  have hadmit := api.admitTo_of_isProtected hprotected r
  rw [hdenied] at hadmit
  rw [answerBare_of_asks api correlation hasks]
  simp only [answerOn, hadmit, hanswers, if_true]

theorem settles_of_not_asks (token : String) {r : Request} (h : ∀ route, ¬r.Asks route) :
    ∃ response, Settles token r response := by
  by_cases hoptions : r.method = "OPTIONS"
  · refine ⟨preflight (Route.ofPath? r.path), ?_⟩
    intro m _ api correlation _
    simp only [answerBare, if_pos hoptions]
  cases hroute : Route.ofPath? r.path with
  | none =>
    refine ⟨.empty 404, ?_⟩
    intro m _ api correlation _
    simp only [answerBare, if_neg hoptions, hroute]
  | some route =>
    have hpath := (Route.ofPath?_eq_some_iff r.path route).mp hroute
    have hanswers : route.methods.contains r.method = false := by
      rw [← Bool.not_eq_true, List.contains_iff_mem]
      exact fun hmethod => h route ⟨hpath, hmethod⟩
    cases hadmit : (if route.isProtected then checkAdmission token r else .ok ⟨none, none, none⟩)
      with
    | error f =>
      refine ⟨(Response.ofFailure f).addHeaders [("allow", route.allowed)], ?_⟩
      rintro m _ api correlation rfl
      have hadmit : api.admitTo route r = .error f := hadmit
      simp only [answerBare, if_neg hoptions, hroute, answerOn, hadmit, hanswers,
        Bool.false_eq_true, if_false]
    | ok actor =>
      refine ⟨(Response.empty 405).addHeaders [("allow", route.allowed)], ?_⟩
      rintro m _ api correlation rfl
      have hadmit : api.admitTo route r = .ok actor := hadmit
      simp only [answerBare, if_neg hoptions, hroute, answerOn, hadmit, hanswers,
        Bool.false_eq_true, if_false]

-- The one route that is open to everybody asks no service, but looks at the database.
theorem settles_or_asks_health {token : String} {r : Request} (h : ¬Reaches token r) :
    (∃ response, Settles token r response) ∨ r.Asks .health := by
  by_cases hasks : ∃ route, r.Asks route
  · obtain ⟨route, hasks⟩ := hasks
    cases hprotected : route.isProtected with
    | true =>
      have hbears : ¬r.Bears token := fun hbears => h ⟨route, hprotected, hasks, hbears⟩
      obtain ⟨response, -, hsettles⟩ := settles_of_not_bears hprotected hasks hbears
      exact Or.inl ⟨response, hsettles⟩
    | false =>
      cases route with
      | health => exact Or.inr hasks
      | _ => cases hprotected
  · exact Or.inl (settles_of_not_asks token fun route hroute => hasks ⟨route, hroute⟩)

section

variable {σ : Type} (api : Api (StateM σ))

-- The same service, with every call on what it works with seen.
def watched : Api (StateM (σ × List Services.Event)) where
  services := api.services.watched
  defaultSource := api.defaultSource
  adminToken := api.adminToken
  origin := api.origin
  databaseFault := fun (x, seen) =>
    let (fault, y) := api.databaseFault.run x
    (fault, y, seen)

theorem run_answer (correlation : String) (r : Request) (x : σ) :
    (api.answer correlation r).run x =
      (api.framed r ((api.answerBare correlation r).run x).1,
        ((api.answerBare correlation r).run x).2) := rfl

end

def door : Api (StateM Memory) :=
  Memory.api Report.standardSource "secret" ⟨"https://desk.test", by decide, by decide⟩

-- A removal with these authorizations.
def removal (authorizations : List (String × String)) : Request where
  method := "DELETE"
  target := "/api/permissions?driveId=d&itemId=i&permissionId=w"
  headers := authorizations.map fun (name, value) => (name, Text.Utf8.encode value)
  body := []

def bearer : Request :=
  removal [("AUTHORIZATION", "Bearer \tsecret "), ("X-Actor-Name", " Ann"), ("x-actor-name", "Bo")]

end Api

end Unshare
