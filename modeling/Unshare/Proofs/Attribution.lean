import Unshare.Proofs.BodyFirst
import Unshare.Proofs.History

namespace Unshare

namespace Revocation

open Services (Event)

-- Whoever this event names, if it names anybody, is this actor.
def Names (actor : Option Actor) : Event → Prop
  | .log kept _ => kept.actor = actor
  | .audit told _ => told.actor = actor
  | _ => True

section

variable {σ : Type} {s : Services (StateM σ)} {defaultSource correlation : String}
  {r : RevokeRequest} {actor : Option Actor} {x : σ} {events : List Event} {kept : Attempt}
  {result : Except Failure Revoked}

-- Whatever course an attempt takes, its entries name the one actor.
theorem names_of_shows (h : Shows s defaultSource correlation r actor x events kept result)
    (answer : Except Failure Unit) :
    ∀ event ∈ events ++ [.log kept answer], Names (Actor.known actor) event := by
  obtain ⟨course, ht⟩ := exists_taken s r x
  cases course with
  | incomplete =>
    obtain ⟨rfl, rfl, -⟩ := h.unique (shows_incomplete ht)
    simp [Names, refusal, Report.toAttempt, Context.failureReport]
  | fetchFailed id f =>
    obtain ⟨rfl, rfl, -⟩ := h.unique (shows_fetchFailed ht)
    simp [Names, refusal, Report.toAttempt, Context.failureReport]
  | refused id g reason =>
    obtain ⟨rfl, rfl, -⟩ := h.unique (shows_refused ht)
    simp [Names, refusal, Report.toAttempt, Context.failureReport]
  | removeFailed id g f =>
    obtain ⟨rfl, rfl, -⟩ := h.unique (shows_removeFailed ht)
    simp [Names, refusal, Report.toAttempt, Context.failureReport]
  | removed id g =>
    obtain ⟨ha, y, z, hfetch, hp, hremove⟩ := ht
    obtain ⟨rfl, rfl, -⟩ := h.unique (shows_removed ha hfetch hp hremove rfl rfl)
    simp [Names, Report.toAttempt, Context.successReport, Context.auditEvent]

end

end Revocation

namespace Api

open Http
open Revocation (exists_taken fits_of_taken Names names_of_shows)
open Services (Event)

-- The headers in which the identity provider forwards who asks.
def actorHeaders : List String :=
  ["x-ms-client-principal-id", "x-ms-client-principal-name", "x-actor-name"]

-- Each part of this actor is what the request presents for it, and there is no actor where it
-- presents none.
structure Attributes (r : Request) (actor : Option Actor) : Prop where
  oid : ∀ text, actor.bind Actor.oid = some text ↔ r.Presents "x-ms-client-principal-id" text
  upn : ∀ text, actor.bind Actor.upn = some text ↔ r.Presents "x-ms-client-principal-name" text
  name : ∀ text, actor.bind Actor.name = some text ↔ r.Presents "x-actor-name" text
  unnamed_iff : actor = none ↔ ∀ name ∈ actorHeaders, ∀ text, ¬r.Presents name text

theorem attributes_actorOf (r : Request) : Attributes r (Actor.known (some (actorOf r))) where
  oid text := by
    rw [Actor.bind_known rfl]
    exact (forwards_actorOf r).oid text
  upn text := by
    rw [Actor.bind_known rfl]
    exact (forwards_actorOf r).upn text
  name text := by
    rw [Actor.bind_known rfl]
    exact (forwards_actorOf r).name text
  unnamed_iff := by
    simp only [Actor.known_eq_none_iff, reduceCtorEq, false_or, Option.some.injEq, actorOf,
      Actor.of, Actor.mk.injEq, r.present_headerText?_eq_none_iff, actorHeaders,
      List.forall_mem_cons, List.not_mem_nil, false_implies, implies_true, and_true]
    rfl

section

variable {σ : Type} (api : Api (StateM σ)) (correlation : String) {r : Request}

theorem seen_names (h : AsksToRevoke api.adminToken r) (x : σ) :
    (∀ event ∈ api.seen correlation r x, Names (Actor.known (some (actorOf r))) event) ∧
      (r.body.length ≤ RevokeInput.maxBodySize → ∃ events kept answer,
        api.seen correlation r x = events ++ [.log kept answer]) := by
  by_cases hsize : r.body.length ≤ RevokeInput.maxBodySize
  · obtain ⟨course, ht⟩ := exists_taken api.services (RevokeInput.read r) x
    obtain ⟨events, kept, result, hshows, -⟩ := fits_of_taken ht
    obtain ⟨answer, hseen⟩ := api.seen_of_shows correlation h hsize hshows
    rw [hseen]
    exact ⟨names_of_shows hshows answer, fun _ => ⟨events, kept, answer, rfl⟩⟩
  · have hseen := api.seen_of_long correlation h hsize x
    rw [hseen]
    exact ⟨fun event hevent => (List.not_mem_nil hevent).elim, fun hshort => absurd hshort hsize⟩

-- What the identity provider forwards of who asks is what the entries name: every part of it that
-- can be read, and nobody where none can.
theorem answer_attributes (h : AsksToRevoke api.adminToken r) (x : σ) :
    let seen := api.seen correlation r x
    (∀ kept answer, .log kept answer ∈ seen → Attributes r kept.actor) ∧
      (∀ told answer, .audit told answer ∈ seen → Attributes r told.actor) ∧
      (r.body.length ≤ RevokeInput.maxBodySize → ∃ events kept answer,
        seen = events ++ [.log kept answer]) := by
  intro seen
  obtain ⟨hnames, hlast⟩ := api.seen_names correlation h x
  refine ⟨?_, ?_, hlast⟩
  · intro kept answer hmem
    have hkept : kept.actor = Actor.known (some (actorOf r)) := hnames _ hmem
    rw [hkept]
    exact attributes_actorOf r
  · intro told answer hmem
    have htold : told.actor = Actor.known (some (actorOf r)) := hnames _ hmem
    rw [htold]
    exact attributes_actorOf r

end

-- A removal that somebody of this name asks for.
def signedRemoval (name : String) : Request :=
  removal [("authorization", "Bearer secret"), ("x-actor-name", name),
    ("x-ms-client-principal-id", " ")]

theorem answer_attributes_signedRemoval :
    let r := signedRemoval " Ann Lee\t"
    AsksToRevoke door.adminToken r ∧ ∃ events kept answer,
      door.seen "c" r Memory.sharedItem = events ++ [.log kept answer] ∧
        kept.actor.bind Actor.name = some "Ann Lee" ∧
        ¬∃ oid, kept.actor.bind Actor.oid = some oid := by
  intro r
  have hasks : AsksToRevoke door.adminToken r := by decide
  obtain ⟨hrecords, -, hlast⟩ := answer_attributes door "c" hasks Memory.sharedItem
  obtain ⟨events, kept, answer, hseen⟩ := hlast (by decide)
  have hkept : Attributes r kept.actor := by
    apply hrecords kept answer
    rw [hseen]
    simp
  refine ⟨hasks, events, kept, answer, hseen, ?_, ?_⟩
  · rw [hkept.name, ← r.present_headerText?_eq_some_iff]
    decide
  · rintro ⟨oid, hoid⟩
    have hblank : Text.present (r.headerText? "x-ms-client-principal-id") = none := by decide
    rw [hkept.oid, ← r.present_headerText?_eq_some_iff, hblank] at hoid
    cases hoid

-- A name that is not printable all through is lost, though it is sound text.
theorem unprintable_name_is_lost :
    let r := signedRemoval "Zoë"
    AsksToRevoke door.adminToken r ∧ r.Gives "x-actor-name" (Text.Utf8.encode "Zoë") ∧
      Text.isBlank "Zoë" = false ∧ ∃ events kept answer,
        door.seen "c" r Memory.sharedItem = events ++ [.log kept answer] ∧ kept.actor = none := by
  intro r
  have hasks : AsksToRevoke door.adminToken r := by decide
  have hgives : r.Gives "x-actor-name" (Text.Utf8.encode "Zoë") :=
    (r.header?_eq_some_iff _ _).mp (by decide)
  obtain ⟨hnames, hlast⟩ := door.seen_names "c" hasks Memory.sharedItem
  obtain ⟨events, kept, answer, hseen⟩ := hlast (by decide)
  have hkept : kept.actor = Actor.known (some (actorOf r)) := by
    apply hnames (.log kept answer)
    rw [hseen]
    simp
  refine ⟨hasks, hgives, by decide, events, kept, answer, hseen, ?_⟩
  rw [hkept]
  decide

end Api

end Unshare
