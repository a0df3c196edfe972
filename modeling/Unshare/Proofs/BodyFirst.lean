import Unshare.Proofs.Admitted
import Unshare.Proofs.Layouts

namespace Unshare

namespace RevokeRequest

-- A part of what addresses a grant.
inductive Part
  | drive
  | item
  | permission

namespace Part

def label : Part → String
  | drive => "driveId"
  | item => "itemId"
  | permission => "permissionId"

def ofRequest (r : RevokeRequest) : Part → Option String
  | drive => r.drive
  | item => r.item
  | permission => r.permission

def ofId (id : GrantId) : Part → String
  | drive => id.drive
  | item => id.item
  | permission => id.permission

def ofRecord (kept : Attempt) : Part → Option String
  | drive => kept.drive
  | item => kept.item
  | permission => kept.permission

variable (part : Part) {r : RevokeRequest}

theorem present_of_addresses {id : GrantId} (h : r.Addresses id) :
    Text.present (part.ofRequest r) = some (part.ofId id) := by
  cases part with
  | drive => exact h.1
  | item => exact h.2.1
  | permission => exact h.2.2

theorem label_not_mem_missing {text : String}
    (h : Text.present (part.ofRequest r) = some text) : part.label ∉ r.trimmed.missing := by
  cases part with
  | drive =>
    have hgiven : r.trimmed.drive = some text := h
    simp [missing, label, hgiven]
  | item =>
    have hgiven : r.trimmed.item = some text := h
    simp [missing, label, hgiven]
  | permission =>
    have hgiven : r.trimmed.permission = some text := h
    simp [missing, label, hgiven]

end Part

end RevokeRequest

-- The record says that these parts were missing.
def Attempt.Misses (kept : Attempt) (labels : List String) : Prop :=
  ∃ fields, kept.details = .object fields ∧
    Json.Fields.get? "missing" fields = some (.ofStrings labels)

namespace Revocation

open RevokeRequest (Part)
open Services (Event)

-- The call is about a grant with this part. A record names it and does not say that it is missing.
def Uses (part : Part) (text : String) : Event → Prop
  | .fetch id _ | .remove id _ | .forget id _ => part.ofId id = text
  | .audit told _ => ∃ id, told.entityId = GrantId.composite id ∧ part.ofId id = text
  | .log kept _ =>
    part.ofRecord kept = some text ∧ ∀ labels, kept.Misses labels → part.label ∉ labels
  | .list .. => False

section

variable {σ : Type} {s : Services (StateM σ)} {defaultSource correlation : String}
  {r : RevokeRequest} {actor : Option Actor} {x : σ} {events : List Event} {kept : Attempt}
  {result : Except Failure Revoked}

-- The record tells of missing parts where the request lacks some, and then of all that it lacks.
def TellsMissing (r : RevokeRequest) (kept : Attempt) : Prop :=
  ∃ fields, kept.details = .object fields ∧ ∀ value,
    Json.Fields.get? "missing" fields = some value ↔
      r.IsIncomplete ∧ value = .ofStrings r.trimmed.missing

theorem get?_missing_toAttempt (source : String) (c : Context) (facts : Json.Fields)
    {report : Report} (h : report.details = c.details facts) :
    ∃ fields, (report.toAttempt source).details = .object fields ∧
      Json.Fields.get? "missing" fields = Json.Fields.get? "missing" facts := by
  refine ⟨_, rfl, ?_⟩
  rw [Json.Fields.get?_insert_of_ne (by decide), h, Context.details,
    Json.Fields.get?_insert_of_ne (by decide)]

theorem tellsMissing_of_isIncomplete (c : Context) (h : r.IsIncomplete) {report : Report}
    (hreport : report.details = c.details [("missing", .ofStrings r.trimmed.missing)]) :
    TellsMissing r (report.toAttempt defaultSource) := by
  obtain ⟨fields, hfields, hget⟩ := get?_missing_toAttempt defaultSource c _ hreport
  refine ⟨fields, hfields, fun value => ?_⟩
  rw [hget, and_iff_right h]
  exact ⟨fun hsome => (Option.some.inj hsome).symm, fun hvalue => hvalue ▸ rfl⟩

theorem tellsMissing_of_addresses (c : Context) {id : GrantId} (h : r.Addresses id)
    {facts : Json.Fields} (hfacts : Json.Fields.get? "missing" facts = none) {report : Report}
    (hreport : report.details = c.details facts) :
    TellsMissing r (report.toAttempt defaultSource) := by
  obtain ⟨fields, hfields, hget⟩ := get?_missing_toAttempt defaultSource c _ hreport
  refine ⟨fields, hfields, fun value => ?_⟩
  rw [hget, hfacts]
  exact iff_of_false (by simp) fun htold => RevokeRequest.not_isIncomplete_of_addresses h htold.1

theorem tellsMissing_of_shows
    (h : Shows s defaultSource correlation r actor x events kept result) :
    TellsMissing r kept := by
  obtain ⟨course, ht⟩ := exists_taken s r x
  cases course with
  | incomplete =>
    obtain ⟨-, rfl, -⟩ := h.unique (shows_incomplete ht)
    exact tellsMissing_of_isIncomplete _ ht rfl
  | fetchFailed id f =>
    obtain ⟨-, rfl, -⟩ := h.unique (shows_fetchFailed ht)
    exact tellsMissing_of_addresses _ ht.1 rfl rfl
  | refused id g reason =>
    obtain ⟨-, rfl, -⟩ := h.unique (shows_refused ht)
    have hfacts : Json.Fields.get? "missing" (reason.evidence g) = none := by
      cases reason <;> rfl
    exact tellsMissing_of_addresses _ ht.1 hfacts rfl
  | removeFailed id g f =>
    obtain ⟨-, rfl, -⟩ := h.unique (shows_removeFailed ht)
    exact tellsMissing_of_addresses _ ht.1 rfl rfl
  | removed id g =>
    obtain ⟨ha, y, z, hfetch, hp, hremove⟩ := ht
    obtain ⟨-, rfl, -⟩ := h.unique (shows_removed ha hfetch hp hremove rfl rfl)
    exact tellsMissing_of_addresses _ ha rfl rfl

theorem missing_of_shows (h : Shows s defaultSource correlation r actor x events kept result)
    {labels : List String} (hm : kept.Misses labels) : labels = r.trimmed.missing := by
  obtain ⟨fields, hfields, htells⟩ := tellsMissing_of_shows h
  obtain ⟨_, hobject, hlabels⟩ := hm
  cases hfields.symm.trans hobject
  exact Json.ofStrings_injective ((htells _).mp hlabels).2

theorem ofRecord_of_records {course : Course} (h : Records r course result kept) (part : Part) :
    part.ofRecord kept = Text.present (part.ofRequest r) := by
  cases part with
  | drive => exact h.drive
  | item => exact h.item
  | permission => exact h.permission

-- The calls of a course are about the grant that the request addresses.
theorem uses_of_seen {course : Course} (ht : course.Taken s r x) (hseen : course.Seen events result)
    {part : Part} {text : String} (hpart : Text.present (part.ofRequest r) = some text) :
    ∀ event ∈ events, Uses part text event := by
  have hid : ∀ id, r.Addresses id → part.ofId id = text := by
    intro id ha
    exact Option.some.inj ((part.present_of_addresses ha).symm.trans hpart)
  cases course with
  | incomplete => simp [hseen.1]
  | fetchFailed id f => simpa [hseen.1, Uses] using hid id ht.1
  | refused id g reason => simpa [hseen.1, Uses] using hid id ht.1
  | removeFailed id g f => simpa [hseen.1, Uses] using hid id ht.1
  | removed id g =>
    obtain ⟨cached, told, audited, done, rfl, htold, -⟩ := hseen
    have hid := hid id ht.1
    simp only [List.forall_mem_cons, List.not_mem_nil, false_implies, implies_true, and_true]
    exact ⟨hid, hid, hid, id, htold, hid⟩

-- Every call of an attempt is about what the request names.
theorem uses_of_shows (h : Shows s defaultSource correlation r actor x events kept result)
    {part : Part} {text : String} (hpart : Text.present (part.ofRequest r) = some text)
    (answer : Except Failure Unit) :
    ∀ event ∈ events ++ [.log kept answer], Uses part text event := by
  obtain ⟨course, ht, hseen, hrecords⟩ := h.exists_course
  have hlog : Uses part text (.log kept answer) := by
    -- Another part may be missing, and the record then names that one.
    refine ⟨(ofRecord_of_records hrecords part).trans hpart, ?_⟩
    intro labels hm
    rw [missing_of_shows h hm]
    exact part.label_not_mem_missing hpart
  intro event hevent
  obtain hevent | hevent := List.mem_append.mp hevent
  · exact uses_of_seen ht hseen hpart event hevent
  · obtain rfl := List.mem_singleton.mp hevent
    exact hlog

end

end Revocation

namespace Api

namespace RevokeInput

open RevokeRequest (Part)

-- The names of every part that a body may have.
def partNames : List (List String) :=
  [driveNames, itemNames, permissionNames, sourceNames]

-- Each part is given at most once, as a text or null. What else is given does not matter.
def IsSound (fields : Json.Fields) : Prop :=
  ∀ names ∈ partNames, ∃ text, fields.Tells names text

def namesOf : Part → List String
  | .drive => driveNames
  | .item => itemNames
  | .permission => permissionNames

theorem ofJson?_object_eq_some_iff (fields : Json.Fields) (r : RevokeRequest) :
    ofJson? (.object fields) = some r ↔
      fields.Tells driveNames r.drive ∧ fields.Tells itemNames r.item ∧
        fields.Tells permissionNames r.permission ∧ fields.Tells sourceNames r.source := by
  simp only [Json.Layout.tells_iff, Option.bind_eq_some_iff]
  constructor
  · intro h
    unfold ofJson? at h
    split at h
    · rename_i drive item permission source hread
      rw [Json.Layout.read?, Json.Layout.ofFields?, Json.mapM_eq_some_iff] at hread
      simp only [layout, List.forall₂_cons] at hread
      obtain ⟨hdrive, hitem, hpermission, hsource, -⟩ := hread
      simp only [Option.bind_eq_bind, Option.bind_eq_some_iff, Option.pure_def,
        Option.some.injEq] at h
      obtain ⟨d, hd, i, hi, p, hp, t, ht, rfl⟩ := h
      exact ⟨⟨_, hdrive, hd⟩, ⟨_, hitem, hi⟩, ⟨_, hpermission, hp⟩, ⟨_, hsource, ht⟩⟩
    · cases h
  · rintro ⟨⟨drive, hdrive, hd⟩, ⟨item, hitem, hi⟩, ⟨permission, hpermission, hp⟩,
      ⟨source, hsource, ht⟩⟩
    have hread : layout.read? (.object fields) = some [drive, item, permission, source] := by
      rw [Json.Layout.read?, Json.Layout.ofFields?, Json.mapM_eq_some_iff]
      exact .cons hdrive (.cons hitem (.cons hpermission (.cons hsource .nil)))
    simp only [ofJson?, hread, hd, hi, hp, ht]
    rfl

theorem isSound_iff (fields : Json.Fields) :
    IsSound fields ↔ ∃ r, ofJson? (.object fields) = some r := by
  simp only [IsSound, partNames, List.forall_mem_cons, List.not_mem_nil, false_implies,
    implies_true, and_true, ofJson?_object_eq_some_iff]
  constructor
  · rintro ⟨⟨drive, hd⟩, ⟨item, hi⟩, ⟨permission, hp⟩, ⟨source, hs⟩⟩
    exact ⟨⟨drive, item, permission, source⟩, hd, hi, hp, hs⟩
  · rintro ⟨r, hd, hi, hp, hs⟩
    exact ⟨⟨_, hd⟩, ⟨_, hi⟩, ⟨_, hp⟩, ⟨_, hs⟩⟩

theorem tells_of_ofJson? {fields : Json.Fields} {r : RevokeRequest}
    (h : ofJson? (.object fields) = some r) (part : Part) :
    fields.Tells (namesOf part) (part.ofRequest r) := by
  obtain ⟨hd, hi, hp, -⟩ := (ofJson?_object_eq_some_iff fields r).mp h
  cases part with
  | drive => exact hd
  | item => exact hi
  | permission => exact hp

-- An object says one thing of a part.
theorem eq_of_tells {names : List String} {fields : Json.Fields} {a b : Option String}
    (ha : fields.Tells names a) (hb : fields.Tells names b) : a = b := by
  rw [Json.Layout.tells_iff] at ha hb
  exact Option.some.inj (ha.symm.trans hb)

theorem step?_of_isAsciiBlank {b : UInt8} (h : isAsciiBlank b = true) {l : Json.Token.Lexing}
    (hl : Json.Token.step? ⟨[], .between⟩ (some (Text.Percent.byteChar b)) = some l) :
    l = ⟨[], .between⟩ := by
  simp only [isAsciiBlank, Bool.or_eq_true, beq_iff_eq] at h
  rcases h with (((rfl | rfl) | rfl) | rfl) | rfl <;> cases hl <;> rfl

theorem isAscii_of_isAsciiBlank {b : UInt8} (h : isAsciiBlank b = true) : b.toNat < 0x80 := by
  simp only [isAsciiBlank, Bool.or_eq_true, beq_iff_eq] at h
  rcases h with (((rfl | rfl) | rfl) | rfl) | rfl <;> decide

-- Blanks alone are no value in JSON, so a body of blanks says as little as one that cannot be read.
theorem ofBytes?_of_blank {body : List UInt8} (h : ∀ b ∈ body, isAsciiBlank b = true) :
    Json.ofBytes? body = none := by
  -- A form feed stops the lexer; every other blank leaves it where it stood.
  have hlexed : ∀ l, (Text.Utf8.decode body).foldlM Json.Token.step? ⟨[], .between⟩ = some l →
      l = ⟨[], .between⟩ := by
    rw [Text.Utf8.decode_of_ascii fun b hb => isAscii_of_isAsciiBlank (h b hb)]
    induction body with
    | nil =>
      rintro _ ⟨⟩
      rfl
    | cons b rest ih =>
      obtain ⟨hb, hrest⟩ := List.forall_mem_cons.mp h
      intro l hl
      rw [List.map_cons, List.foldlM_cons, Option.bind_eq_bind, Option.bind_eq_some_iff] at hl
      obtain ⟨l', hstep, hl⟩ := hl
      obtain rfl := step?_of_isAsciiBlank hb hstep
      exact ih hrest l hl
  rw [Json.ofBytes?, Json.ofPlaces?, Json.Token.ofPlaces?]
  cases hl : (Text.Utf8.decode body).foldlM Json.Token.step? ⟨[], .between⟩ with
  | none => rfl
  | some l =>
    obtain rfl := hlexed l hl
    rfl

theorem ofBody_eq (body : List UInt8) :
    ofBody body = ((Json.ofBytes? body).bind ofJson?).getD .empty := by
  unfold ofBody
  split
  · rename_i hblank
    rw [ofBytes?_of_blank (List.all_eq_true.mp hblank)]
    rfl
  · rfl

theorem present_read (part : Part) {r : Http.Request} {value : String}
    (h : part.ofRequest (ofBody r.body) = some value) (hseen : Text.isBlank value = false) :
    Text.present (part.ofRequest (read r)) = some (Text.trim value) := by
  have hread : part.ofRequest (read r) = some value := by
    have hfirst : part.ofRequest (read r) =
        (Text.nonBlank (part.ofRequest (ofBody r.body)) <|> part.ofRequest (ofQuery r.query)) := by
      cases part <;> rfl
    rw [hfirst, h]
    simp [Text.nonBlank, hseen]
  have htrimmed : Text.trim value ≠ "" := by
    rw [ne_eq, Text.trim_eq_empty_iff, hseen]
    exact Bool.false_ne_true
  rw [hread]
  simp [Text.present, htrimmed]

variable {r : Http.Request} {fields : Json.Fields}

-- What a body names with something to show in it is what the request names.
theorem present_read_of_givesOnce (hbody : Json.ofBytes? r.body = some (.object fields))
    (hsound : IsSound fields) {part : Part} {value : String}
    (hgives : fields.GivesOnce (namesOf part) (.string value))
    (hseen : Text.isBlank value = false) :
    Text.present (part.ofRequest (read r)) = some (Text.trim value) := by
  obtain ⟨said, hsaid⟩ := (isSound_iff fields).mp hsound
  have hvalue : part.ofRequest said = some value :=
    eq_of_tells (tells_of_ofJson? hsaid part) hgives
  refine present_read part ?_ hseen
  rw [ofBody_eq, hbody, Option.bind_some, hsaid]
  exact hvalue

-- An object that is not sound says nothing.
theorem read_of_not_isSound (hbody : Json.ofBytes? r.body = some (.object fields))
    (hsound : ¬IsSound fields) : read r = read { r with body := [] } := by
  have hnone : ofJson? (.object fields) = none := by
    rw [Option.eq_none_iff_forall_ne_some]
    intro said hsaid
    exact hsound ((isSound_iff fields).mpr ⟨said, hsaid⟩)
  have hempty : ofBody r.body = ofBody [] := by
    rw [ofBody_eq, hbody, Option.bind_some, hnone]
    rfl
  unfold read
  rw [hempty]
  rfl

end RevokeInput

open Http
open RevokeRequest (Part)
open Revocation (Shows Uses)
open Services (Event)

-- The request asks to revoke and bears the token.
def AsksToRevoke (token : String) (r : Request) : Prop :=
  (r.Asks .permissions ∨ r.Asks .revoke) ∧ r.Bears token

instance (token : String) (r : Request) : Decidable (AsksToRevoke token r) :=
  inferInstanceAs (Decidable (_ ∧ _))

theorem answerBare_of_asksToRevoke {m : Type → Type} [Monad m] (api : Api m) (correlation : String)
    {r : Request} (h : AsksToRevoke api.adminToken r) :
    api.answerBare correlation r = api.answerRevoke correlation (actorOf r) r := by
  obtain ⟨hasks | hasks, hbears⟩ := h
  · exact answerBare_of_bears api correlation rfl hasks hbears
  · exact answerBare_of_bears api correlation rfl hasks hbears

-- What asks to revoke with a body that is not too long is answered by a revocation.
theorem answerBare_of_short {m : Type → Type} [Monad m] (api : Api m) (correlation : String)
    {r : Request} (h : AsksToRevoke api.adminToken r)
    (hsize : r.body.length ≤ RevokeInput.maxBodySize) :
    api.answerBare correlation r = do
      return ofRevoked (← Revocation.revoke api.services api.defaultSource correlation
        (RevokeInput.read r) (some (actorOf r))) := by
  rw [answerBare_of_asksToRevoke api correlation h, answerRevoke, if_neg (Nat.not_lt_of_le hsize)]

theorem asksToRevoke_withBody (token : String) (r : Request) (body : List UInt8) :
    AsksToRevoke token { r with body := body } ↔ AsksToRevoke token r := Iff.rfl

section

variable {σ : Type} (api : Api (StateM σ)) (correlation : String) {r : Request}

-- The calls that the services see while the request is answered.
def seen (r : Request) (x : σ) : List Event :=
  ((api.watched.answer correlation r).run (x, [])).2.2

theorem seen_of_long (h : AsksToRevoke api.adminToken r)
    (hsize : ¬r.body.length ≤ RevokeInput.maxBodySize) (x : σ) : api.seen correlation r x = [] := by
  have hanswer := api.watched.answerBare_of_asksToRevoke correlation h
  rw [seen, run_answer, hanswer, answerRevoke, if_pos (Nat.lt_of_not_le hsize)]
  rfl

theorem seen_of_shows (h : AsksToRevoke api.adminToken r)
    (hsize : r.body.length ≤ RevokeInput.maxBodySize) {x : σ} {events : List Event} {kept : Attempt}
    {result : Except Failure Revoked}
    (hshows : Shows api.services api.defaultSource correlation (RevokeInput.read r)
      (some (actorOf r)) x events kept result) :
    ∃ answer, api.seen correlation r x = events ++ [.log kept answer] := by
  obtain ⟨answer, y, hrun, -⟩ := hshows
  have hrun : (Revocation.revoke api.watched.services api.watched.defaultSource correlation
      (RevokeInput.read r) (some (actorOf r))).run (x, []) =
        (result, y, events ++ [.log kept answer]) := hrun
  refine ⟨answer, ?_⟩
  rw [seen, run_answer, api.watched.answerBare_of_short correlation h hsize, StateT.run_bind, hrun]
  rfl

theorem seen_uses {part : Part} {text : String} (h : AsksToRevoke api.adminToken r)
    (hpart : Text.present (part.ofRequest (RevokeInput.read r)) = some text) (x : σ) :
    (∀ event ∈ api.seen correlation r x, Uses part text event) ∧
      (r.body.length ≤ RevokeInput.maxBodySize → ∃ before kept answer,
        api.seen correlation r x = before ++ [.log kept answer]) := by
  by_cases hsize : r.body.length ≤ RevokeInput.maxBodySize
  · obtain ⟨course, ht⟩ := Revocation.exists_taken api.services (RevokeInput.read r) x
    obtain ⟨events, kept, result, hshows, -⟩ := Revocation.fits_of_taken ht
    obtain ⟨answer, hseen⟩ := api.seen_of_shows correlation h hsize hshows
    rw [hseen]
    exact ⟨Revocation.uses_of_shows hshows hpart answer, fun _ => ⟨events, kept, answer, rfl⟩⟩
  · -- A body that is too long is refused before it is looked at.
    have hseen := api.seen_of_long correlation h hsize x
    rw [hseen]
    exact ⟨fun event hevent => (List.not_mem_nil hevent).elim, fun hshort => absurd hshort hsize⟩

theorem answer_of_not_isSound {fields : Json.Fields} (h : AsksToRevoke api.adminToken r)
    (hsize : r.body.length ≤ RevokeInput.maxBodySize)
    (hbody : Json.ofBytes? r.body = some (.object fields)) (hsound : ¬RevokeInput.IsSound fields) :
    api.answer correlation r = api.answer correlation { r with body := [] } := by
  have hbare := (asksToRevoke_withBody api.adminToken r []).mpr h
  have hread := RevokeInput.read_of_not_isSound hbody hsound
  have hsame : api.answerBare correlation r = api.answerBare correlation { r with body := [] } := by
    rw [answerBare_of_short api correlation h hsize,
      answerBare_of_short api correlation hbare (Nat.zero_le _), hread]
    rfl
  rw [answer, hsame]
  rfl

-- What a sound body says of the grant is what the whole attempt is about, whatever the query says.
-- A body that is not sound says nothing at all, not even what it could be understood to say.
theorem answer_uses_body (h : AsksToRevoke api.adminToken r) {fields : Json.Fields}
    (hbody : Json.ofBytes? r.body = some (.object fields)) :
    (RevokeInput.IsSound fields → ∀ (part : Part) (value : String),
      fields.GivesOnce (RevokeInput.namesOf part) (.string value) → Text.isBlank value = false →
        ∀ x, (∀ event ∈ api.seen correlation r x, Uses part (Text.trim value) event) ∧
          (r.body.length ≤ RevokeInput.maxBodySize → ∃ before kept answer,
            api.seen correlation r x = before ++ [.log kept answer])) ∧
    (¬RevokeInput.IsSound fields → r.body.length ≤ RevokeInput.maxBodySize →
      api.answer correlation r = api.answer correlation { r with body := [] }) := by
  refine ⟨?_, ?_⟩
  · intro hsound part value hgives hseen x
    have hpart := RevokeInput.present_read_of_givesOnce hbody hsound hgives hseen
    exact api.seen_uses correlation h hpart x
  · intro hsound hsize
    exact api.answer_of_not_isSound correlation h hsize hbody hsound

end

-- A removal of what the query names, and the same with a body.
def dispute : Request where
  method := "DELETE"
  target := "/api/permissions?driveId=x&itemId=i&permissionId=w"
  headers := [("authorization", Text.Utf8.encode "Bearer secret")]
  body := []

def disputed (body : String) : Request :=
  { dispute with body := Text.Utf8.encode body }

theorem asksToRevoke_disputed (body : String) : AsksToRevoke door.adminToken (disputed body) := by
  have hasks : AsksToRevoke door.adminToken dispute := by decide
  exact (asksToRevoke_withBody door.adminToken dispute _).mpr hasks

theorem ofBytes?_disputed (body : String) :
    Json.ofBytes? (disputed body).body = Json.ofText? body :=
  congrArg Json.ofPlaces? (Text.Utf8.decode_encodeChars body.toList)

-- The drive goes by its other name here, beside a field that is no part.
def soundFields : Json.Fields :=
  [("drive_id", .string " d "), ("note", .number "5")]

def soundBody : String :=
  "\x7b\"drive_id\": \" d \", \"note\": 5\x7d"

theorem answer_uses_body_disputed :
    let r := disputed soundBody
    AsksToRevoke door.adminToken r ∧ Json.ofBytes? r.body = some (.object soundFields) ∧
      RevokeInput.IsSound soundFields ∧
      soundFields.GivesOnce (RevokeInput.namesOf .drive) (.string " d ") ∧
      Text.isBlank " d " = false ∧
      ∀ x, (∀ event ∈ door.seen "c" r x, Uses .drive (Text.trim " d ") event) ∧
        ∃ before kept answer, door.seen "c" r x = before ++ [.log kept answer] := by
  intro r
  have hasks := asksToRevoke_disputed soundBody
  have hbody : Json.ofBytes? r.body = some (.object soundFields) :=
    ofBytes?_disputed soundBody
  have hgives : soundFields.GivesOnce (RevokeInput.namesOf .drive) (.string " d ") :=
    ⟨[], _, _, rfl, by decide, by decide⟩
  have hsound : RevokeInput.IsSound soundFields :=
    (RevokeInput.isSound_iff _).mpr ⟨⟨some " d ", none, none, none⟩, rfl⟩
  have hseen : Text.isBlank " d " = false := by decide
  refine ⟨hasks, hbody, hsound, hgives, hseen, ?_⟩
  intro x
  obtain ⟨huses, -⟩ := answer_uses_body door "c" hasks hbody
  obtain ⟨hevents, hlast⟩ := huses hsound .drive " d " hgives hseen x
  exact ⟨hevents, hlast (by decide)⟩

-- The drive can be read, but the item is no text.
def unsoundFields : Json.Fields :=
  [("driveId", .string "d"), ("itemId", .number "5")]

def unsoundBody : String :=
  "\x7b\"driveId\": \"d\", \"itemId\": 5\x7d"

theorem ofBytes?_unsoundBody :
    Json.ofBytes? (disputed unsoundBody).body = some (.object unsoundFields) :=
  ofBytes?_disputed unsoundBody

theorem read_unsoundBody : RevokeInput.read (disputed unsoundBody) =
    ⟨some "x", some "i", some "w", none⟩ := by
  have hsound : ¬RevokeInput.IsSound unsoundFields := by
    rw [RevokeInput.isSound_iff]
    rintro ⟨_, ⟨⟩⟩
  rw [RevokeInput.read_of_not_isSound ofBytes?_unsoundBody hsound]
  decide +kernel

-- The grant that the query names.
def strayGrant : Grant :=
  ⟨⟨"x", "i", "w", .refl false, .refl false, .refl false⟩, ["write"], none, none⟩

-- The body names a drive once, in a text, and yet a grant on another drive is removed.
theorem removes_beside_body :
    let r := disputed unsoundBody
    AsksToRevoke door.adminToken r ∧ Json.ofBytes? r.body = some (.object unsoundFields) ∧
      unsoundFields.GivesOnce (RevokeInput.namesOf .drive) (.string "d") ∧
      Text.isBlank "d" = false ∧
      ∃ event ∈ door.seen "c" r (.ofGrants [strayGrant]),
        event = .remove strayGrant.id (.ok ()) ∧ ¬Uses .drive (Text.trim "d") event := by
  intro r
  have hasks := asksToRevoke_disputed unsoundBody
  have hgives : unsoundFields.GivesOnce (RevokeInput.namesOf .drive) (.string "d") :=
    ⟨[], _, _, rfl, by decide, by decide⟩
  have htaken : (Revocation.Course.removed strayGrant.id strayGrant).Taken door.services
      (RevokeInput.read r) (.ofGrants [strayGrant]) := by
    rw [read_unsoundBody]
    exact ⟨⟨rfl, rfl, rfl⟩, _, _, rfl, rfl, rfl⟩
  obtain ⟨events, kept, result, hshows, hcourse, -⟩ := Revocation.fits_removed htaken
  obtain ⟨cached, told, audited, done, rfl, -, -⟩ := hcourse
  obtain ⟨answer, hseen⟩ := door.seen_of_shows "c" hasks (by decide) hshows
  refine ⟨hasks, ofBytes?_unsoundBody, hgives, by decide, _, ?_, rfl, ?_⟩
  · rw [hseen]
    simp
  · show ¬"x" = Text.trim "d"
    decide

end Api

end Unshare
