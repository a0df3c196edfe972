import Unshare.Proofs.Forms
import Unshare.Proofs.Printing
import Unshare.Proofs.Signing

namespace Unshare

theorem Text.present_nonBlank (s : Option String) : present (nonBlank s) = present s := by
  cases s with
  | none => rfl
  | some text =>
    cases hblank : isBlank text with
    | false => rw [nonBlank, Option.filter_some, hblank, Bool.not_false, if_pos rfl]
    | true =>
      have htrimmed : trim text = "" := (trim_eq_empty_iff text).mpr hblank
      rw [nonBlank, Option.filter_some, hblank, present, present, Option.map_some, htrimmed]
      rfl

-- What a form says of a part that has these names: a text once, or nothing.
def Text.Form.Pairs.Tells (names : List String) (pairs : Text.Form.Pairs) : Option String → Prop
  | some text => ∃ before name after, pairs = before ++ (name, text) :: after ∧ name ∈ names ∧
      ∀ pair ∈ before ++ after, pair.1 ∉ names
  | none => ∀ pair ∈ pairs, pair.1 ∉ names

theorem RevokeRequest.trimmed_orElse_empty (r : RevokeRequest) :
    (r.orElse empty).trimmed = r.trimmed := by
  simp [trimmed, orElse, empty, Text.present_nonBlank]

-- An attempt uses no more of its request than is left of it without the blanks.
theorem Revocation.revoke_of_trimmed {m : Type → Type} [Monad m] (s : Services m)
    (defaultSource correlation : String) {r r' : RevokeRequest} (actor : Option Actor)
    (h : r.trimmed = r'.trimmed) :
    revoke s defaultSource correlation r actor = revoke s defaultSource correlation r' actor := by
  simp only [revoke, h]

namespace Api.RevokeInput

-- Each part is told as the request has it.
structure Told (tells : List String → Option String → Prop) (f : RevokeRequest) : Prop where
  drive : tells driveNames f.drive
  item : tells itemNames f.item
  permission : tells permissionNames f.permission
  source : tells sourceNames f.source

-- Asks for this in the body, with an object that may be written in any way, and not in the query.
def AsksInBody (f : RevokeRequest) (r : Http.Request) : Prop :=
  r.query = "" ∧ ∃ written, ∃ fields : Json.Fields, r.body = Text.Utf8.encodeChars written ∧
    Json.Lays written (Json.object fields).tokens ∧ Told (fun names => fields.Tells names) f

-- Asks for this in the query, with a form that may be written in any way, and not in the body.
def AsksInQuery (f : RevokeRequest) (r : Http.Request) : Prop :=
  r.body.all isAsciiBlank = true ∧ ∃ pairs : Text.Form.Pairs, Text.Form.Spells r.query pairs ∧
    Told (fun names => pairs.Tells names) f

theorem single?_eq_some_iff (names : List String) (pairs : Text.Form.Pairs)
    (text : Option String) : single? names pairs = some text ↔ pairs.Tells names text := by
  unfold single?
  cases text with
  | none =>
    rw [Text.Form.Pairs.Tells, ← Json.values_eq_nil_iff]
    split
    · rename_i hnone
      exact iff_of_true rfl hnone
    · rename_i hone
      rw [hone]
      simp
    · rename_i hnone _
      exact iff_of_false (by simp) hnone
  | some text =>
    rw [Text.Form.Pairs.Tells, ← Json.values_eq_singleton_iff]
    split
    · rename_i hnone
      rw [hnone]
      simp
    · rename_i hone
      rw [hone]
      simp
    · rename_i _ hmore
      exact iff_of_false (by simp) (hmore text)

theorem ofPairs?_eq_some_iff (pairs : Text.Form.Pairs) (f : RevokeRequest) :
    ofPairs? pairs = some f ↔ Told (fun names => pairs.Tells names) f := by
  constructor
  · intro h
    simp only [ofPairs?, Option.bind_eq_bind, Option.bind_eq_some_iff, Option.pure_def,
      Option.some.injEq, single?_eq_some_iff] at h
    obtain ⟨drive, hd, item, hi, permission, hp, source, hs, rfl⟩ := h
    exact ⟨hd, hi, hp, hs⟩
  · intro h
    simp only [ofPairs?, (single?_eq_some_iff _ _ _).mpr h.drive,
      (single?_eq_some_iff _ _ _).mpr h.item, (single?_eq_some_iff _ _ _).mpr h.permission,
      (single?_eq_some_iff _ _ _).mpr h.source]
    rfl

theorem ofJson?_object_iff_told (fields : Json.Fields) (f : RevokeRequest) :
    ofJson? (.object fields) = some f ↔ Told (fun names => fields.Tells names) f := by
  rw [ofJson?_object_eq_some_iff]
  constructor
  · rintro ⟨hd, hi, hp, hs⟩
    exact ⟨hd, hi, hp, hs⟩
  · rintro ⟨hd, hi, hp, hs⟩
    exact ⟨hd, hi, hp, hs⟩

theorem ofQuery_empty : ofQuery "" = .empty := by
  decide

variable {f : RevokeRequest} {r : Http.Request}

theorem trimmed_read_of_asksInBody (h : AsksInBody f r) : (read r).trimmed = f.trimmed := by
  obtain ⟨hquery, written, fields, hbody, hlays, htold⟩ := h
  have hjson : Json.ofBytes? r.body = some (.object fields) := by
    rw [Json.ofBytes?, hbody, Text.Utf8.decode_encodeChars]
    exact Json.ofChars?_of_lays hlays
  have hof : ofJson? (.object fields) = some f := (ofJson?_object_iff_told fields f).mpr htold
  rw [read, ofBody_eq, hjson, Option.bind_some, hof, Option.getD_some, hquery, ofQuery_empty,
    f.trimmed_orElse_empty]

theorem read_of_asksInQuery (h : AsksInQuery f r) : read r = f := by
  obtain ⟨hblank, pairs, hspells, htold⟩ := h
  rw [read, ofBody, if_pos hblank, ofQuery, Text.Form.decode_of_spells hspells,
    (ofPairs?_eq_some_iff pairs f).mpr htold]
  rfl

-- A body and a query that ask for this, each in one of its ways.
def fieldsOf (f : RevokeRequest) : Json.Fields :=
  [("drive_id", .ofOption f.drive), ("itemId", .ofOption f.item),
    ("permissionId", .ofOption f.permission), ("source", .ofOption f.source)]

def pairsOf (f : RevokeRequest) : Text.Form.Pairs :=
  f.drive.toList.map ("driveId", ·) ++ f.item.toList.map ("item_id", ·) ++
    f.permission.toList.map ("permissionId", ·) ++ f.source.toList.map ("source", ·)

theorem asksInBody_fieldsOf (hquery : r.query = "")
    (hbody : r.body = Text.Utf8.encodeChars (Json.object (fieldsOf f)).print) : AsksInBody f r := by
  have hwritable : Json.AreWritable (Json.object (fieldsOf f)).tokens := by
    refine Json.areWritable_object ?_
    simp only [fieldsOf, List.forall_mem_cons, Json.areWritable_ofOption, List.not_mem_nil,
      false_implies, implies_true, and_self]
  have htold : ofJson? (.object (fieldsOf f)) = some f := by
    obtain ⟨drive, item, permission, source⟩ := f
    cases drive <;> cases item <;> cases permission <;> cases source <;> rfl
  exact ⟨hquery, _, _, hbody, Json.lays_print_self hwritable,
    (ofJson?_object_iff_told _ _).mp htold⟩

theorem asksInQuery_pairsOf (hbody : r.body.all isAsciiBlank = true)
    (hquery : r.query = Text.Form.encode (pairsOf f)) : AsksInQuery f r := by
  have htold : ofPairs? (pairsOf f) = some f := by
    obtain ⟨drive, item, permission, source⟩ := f
    cases drive <;> cases item <;> cases permission <;> cases source <;> rfl
  refine ⟨hbody, _, ?_, (ofPairs?_eq_some_iff _ _).mp htold⟩
  rw [hquery]
  exact Text.Form.spells_encode _

end Api.RevokeInput

namespace Memory

open Revocation
open Services (Event)

-- The call is about what this request addresses, or keeps its parts without blanks around them.
def Call.Concerns (f : RevokeRequest) : Call → Prop
  | .fetch id | .remove id | .forget id => f.Addresses id
  | .audit told => ∃ id, f.Addresses id ∧ told.entityId = id.composite
  | .log kept => kept.drive = Text.present f.drive ∧ kept.item = Text.present f.item ∧
      kept.permission = Text.present f.permission
  | .list _ => False

section

variable {defaultSource adminToken correlation : String} {origin : Api.Origin}
  {f : RevokeRequest} {actor : Option Actor} {m : Memory}

theorem concerns_of_seen {σ : Type} {s : Services (StateM σ)} {x : σ} {course : Course}
    {events : List Event} {result : Except Failure Revoked} (ht : course.Taken s f x)
    (hseen : course.Seen events result) : ∀ event ∈ events, (callOf event).Concerns f := by
  cases course with
  | incomplete => simp [hseen.1]
  | fetchFailed id failure => simpa [hseen.1, callOf, Call.Concerns] using ht.1
  | refused id g reason => simpa [hseen.1, callOf, Call.Concerns] using ht.1
  | removeFailed id g failure => simpa [hseen.1, callOf, Call.Concerns] using ht.1
  | removed id g =>
    obtain ⟨cached, told, audited, done, rfl, htold, -⟩ := hseen
    simp only [List.forall_mem_cons, List.not_mem_nil, false_implies, implies_true, and_true]
    exact ⟨ht.1, ht.1, ht.1, id, ht.1, htold⟩

theorem concerns_revoke (hnew : m.calls = []) :
    ∀ call ∈ ((revoke services defaultSource correlation f actor).run m).2.calls,
      call.Concerns f := by
  obtain ⟨course, ht⟩ := exists_taken services f m
  obtain ⟨events, kept, result, ⟨answer, after, hwatched, hrun⟩, hseen, hrecords⟩ :=
    (fits_of_taken ht : Fits services defaultSource correlation f actor m course)
  rw [hrun, calls_of_watched hnew hwatched hrun]
  intro call hcall
  obtain ⟨event, hevent, rfl⟩ := List.mem_map.mp hcall
  obtain hevent | hevent := List.mem_append.mp hevent
  · exact concerns_of_seen ht hseen event hevent
  · obtain rfl := List.mem_singleton.mp hevent
    exact ⟨hrecords.drive, hrecords.item, hrecords.permission⟩

-- A request is answered by a revocation of what it asks for, in whatever way it asks.
theorem serve_of_trimmed {r : Http.Request} (h : Api.AsksToRevoke adminToken r)
    (hsize : r.body.length ≤ Api.RevokeInput.maxBodySize)
    (hread : (Api.RevokeInput.read r).trimmed = f.trimmed) (faults : Faults) (m : Memory) :
    let taken := (revoke services defaultSource correlation f (some (Api.actorOf r))).run
      (prepare faults m)
    serve (api defaultSource adminToken origin) correlation faults r m =
      ((Api.ofRevoked taken.1).addHeaders origin.headers, taken.2) := by
  intro taken
  have hrun : (revoke services defaultSource correlation (Api.RevokeInput.read r)
      (some (Api.actorOf r))).run (prepare faults m) = (taken.1, taken.2) := by
    rw [revoke_of_trimmed services defaultSource correlation _ hread]
    rfl
  rw [serve, (api defaultSource adminToken origin).run_answer_of_revoke correlation h hsize hrun,
    Api.framed_of_asksToRevoke _ h]
  rfl

end

-- What is asked for in a body and what is asked for in a query come to the same: the same answer,
-- the same calls up to the number on the record, and the same grants. All of it is about what was
-- asked for, without the blanks around it.
theorem serve_of_body_or_query (defaultSource adminToken : String) (origin : Api.Origin)
    {f : RevokeRequest} {r r' : Http.Request} (h : Api.AsksToRevoke adminToken r)
    (h' : Api.AsksToRevoke adminToken r') (hactor : Api.actorOf r' = Api.actorOf r)
    (hsize : r.body.length ≤ Api.RevokeInput.maxBodySize)
    (hsize' : r'.body.length ≤ Api.RevokeInput.maxBodySize)
    (hbody : Api.RevokeInput.AsksInBody f r) (hquery : Api.RevokeInput.AsksInQuery f r')
    (correlation correlation' : String) (faults : Faults) (m : Memory) :
    let api := Memory.api defaultSource adminToken origin
    let one := serve api correlation faults r m
    let other := serve api correlation' faults r' m
    other.1 = one.1 ∧ other.2.grants = one.2.grants ∧
      other.2.calls = one.2.calls.map (Call.numbered correlation') ∧
      ∀ call ∈ one.2.calls, call.Concerns f := by
  intro api one other
  have hone : one = _ :=
    serve_of_trimmed h hsize (Api.RevokeInput.trimmed_read_of_asksInBody hbody) faults m
  have hother : other = _ :=
    serve_of_trimmed h' hsize' (congrArg _ (Api.RevokeInput.read_of_asksInQuery hquery)) faults m
  rw [hactor] at hother
  obtain ⟨hresult, hgrants, hcalls⟩ := numbered_revoke defaultSource correlation f
    (some (Api.actorOf r)) correlation' (m := prepare faults m) rfl
  rw [hone, hother]
  refine ⟨?_, hgrants, hcalls, concerns_revoke rfl⟩
  rw [hresult]

-- A grant whose drive is given with blanks around it, through a source that takes escapes.
def spelt : RevokeRequest :=
  ⟨some " d ", some "i", some "w", some "Ä \"&\" 😀"⟩

def speltInBody : Http.Request where
  method := "DELETE"
  target := "/api/permissions"
  headers := [("authorization", Text.Utf8.encode "Bearer secret")]
  body := Text.Utf8.encodeChars (Json.object (Api.RevokeInput.fieldsOf spelt)).print

def speltInQuery : Http.Request where
  method := "POST"
  target := "/api/permissions/revoke?driveId=+d+&item_id=i&permissionId=w" ++
    "&source=%C3%84+%22%26%22+%F0%9F%98%80"
  headers := [("authorization", Text.Utf8.encode "Bearer secret")]
  body := [0x20, 0x0A]

theorem serve_of_body_or_query_spelt :
    let api := Memory.api Report.standardSource "secret" Api.door.origin
    let one := serve api "c" noFaults speltInBody sharedItem
    let other := serve api "k" noFaults speltInQuery sharedItem
    other.1 = one.1 ∧ other.2.calls = one.2.calls.map (Call.numbered "k") ∧
      other.2.grants = one.2.grants ∧ one.2.grants = [ownersGrant] := by
  have hbody : Api.RevokeInput.AsksInBody spelt speltInBody :=
    Api.RevokeInput.asksInBody_fieldsOf rfl rfl
  have hquery : Api.RevokeInput.AsksInQuery spelt speltInQuery :=
    Api.RevokeInput.asksInQuery_pairsOf rfl (by decide +kernel)
  have hactor : Api.actorOf speltInQuery = Api.actorOf speltInBody := rfl
  obtain ⟨hresponse, hgrants, hcalls, -⟩ := serve_of_body_or_query Report.standardSource "secret"
    Api.door.origin (by decide) (by decide) hactor (by decide +kernel) (by decide) hbody hquery
    "c" "k" noFaults sharedItem
  exact ⟨hresponse, hcalls, hgrants, by decide +kernel⟩

end Memory

end Unshare
