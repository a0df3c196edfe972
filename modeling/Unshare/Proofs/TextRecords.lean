import Unshare.Attempt
import Unshare.Graph.Answer
import Unshare.Proofs.Layouts

namespace Unshare

namespace Json

-- What is given where a text may be missing: the text, or null or nothing where it is missing.
def IsGivenAs (given : Option Json) (text : Option String) : Prop :=
  given = some (ofOption text) ∨ given = none ∧ text = none

-- A record whose fields of these names are these texts. An object has them in any order and among
-- others, and may leave out a field whose text is missing; an array has exactly them, in order.
def Records (names : List String) (texts : List (Option String)) : Json → Prop
  | .object fields => List.Forall₂ (fun name text => Fields.Tells [name] fields text) names texts
  | .array items => items.length = names.length ∧ items = texts.map ofOption
  | _ => False

theorem optionalString?_eq_some_iff (given : Option Json) (text : Option String) :
    optionalString? given = some text ↔ IsGivenAs given text := by
  cases given with
  | none => simp [optionalString?, optional?, IsGivenAs, eq_comm]
  | some v => cases v <;> cases text <;>
      simp [optionalString?, optional?, string?, IsGivenAs, ofOption]

theorem tells_singleton_iff (name : String) (fields : Fields) (text : Option String) :
    fields.Tells [name] text ↔
      ∃ given : Option Json, fields.named name = given.toList ∧ IsGivenAs given text := by
  rw [Layout.tells_iff, Option.bind_eq_some_iff]
  refine exists_congr fun given => and_congr ?_ (optionalString?_eq_some_iff given text)
  exact Layout.find?_eq_some_iff rfl (.inl (by simp)) fields

-- Going from one list to another place by place, with a stop on the way.
theorem forall₂_between_iff {α β γ : Type} {R : α → β → Prop} {S : β → γ → Prop} (xs : List α)
    (zs : List γ) : (∃ ys, List.Forall₂ R xs ys ∧ List.Forall₂ S ys zs) ↔
      List.Forall₂ (fun x z => ∃ y, R x y ∧ S y z) xs zs := by
  induction xs generalizing zs with
  | nil => simp
  | cons x xs ih =>
    cases zs with
    | nil => simp
    | cons z zs =>
      rw [List.forall₂_cons, ← ih]
      constructor
      · rintro ⟨ys, hleft, hright⟩
        obtain ⟨y, rest, hy, hrest, rfl⟩ := List.forall₂_cons_left_iff.mp hleft
        obtain ⟨hz, htail⟩ := List.forall₂_cons.mp hright
        exact ⟨⟨y, hy, hz⟩, rest, hrest, htail⟩
      · rintro ⟨⟨y, hy, hz⟩, rest, hrest, htail⟩
        exact ⟨y :: rest, .cons hy hrest, .cons hz htail⟩

theorem forall₂_isGivenAs_some_iff (items : List Json) (texts : List (Option String)) :
    List.Forall₂ IsGivenAs (items.map some) texts ↔ items = texts.map ofOption := by
  have hitem : ∀ item text, IsGivenAs (some item) text ↔ item = ofOption text := by
    intro item text
    simp [IsGivenAs]
  simp only [List.forall₂_map_left_iff, hitem]
  rw [← List.forall₂_eq_eq_eq, List.forall₂_map_right_iff]

namespace Layout

variable {layout : Layout} {names : List String}

theorem records_iff (h : layout.IsLenient names) (j : Json) (texts : List (Option String)) :
    j.Records names texts ↔
      ∃ values, layout.read? j = some values ∧ List.Forall₂ IsGivenAs values texts := by
  simp only [read?_eq_some_iff h]
  cases j with
  | object fields =>
    rw [Records]
    simp only [tells_singleton_iff, Gives]
    exact (forall₂_between_iff names texts).symm
  | array items =>
    rw [Records]
    simp only [Gives]
    constructor
    · rintro ⟨hlength, hitems⟩
      exact ⟨_, ⟨hlength, rfl⟩, (forall₂_isGivenAs_some_iff items texts).mpr hitems⟩
    · rintro ⟨_, ⟨hlength, rfl⟩, hgiven⟩
      exact ⟨hlength, (forall₂_isGivenAs_some_iff items texts).mp hgiven⟩
  | _ => simp [Records, Gives]

end Layout

end Json

open Json (Records IsGivenAs optionalString?_eq_some_iff)

theorem Actor.ofJson?_eq_some_iff (j : Json) (a : Actor) :
    ofJson? j = some a ↔ j.Records ["oid", "upn", "name"] [a.oid, a.upn, a.name] := by
  have hlayout : layout.IsLenient ["oid", "upn", "name"] :=
    ⟨rfl, by decide, ⟨_, rfl, rfl⟩⟩
  obtain ⟨oid, upn, name⟩ := a
  rw [Json.Layout.records_iff hlayout, ofJson?]
  cases layout.read? j with
  | none => simp
  | some values =>
    match values with
    | [_, _, _] => simp [Option.bind_eq_some_iff, optionalString?_eq_some_iff]
    | [] | [_] | [_, _] | _ :: _ :: _ :: _ :: _ => simp

theorem SharingLink.ofJson?_eq_some_iff (j : Json) (l : SharingLink) :
    ofJson? j = some l ↔ j.Records ["scope", "type", "webUrl", "expiration"]
      [l.scope, l.kind, l.webUrl, l.expiration] := by
  have hlayout : layout.IsLenient ["scope", "type", "webUrl", "expiration"] :=
    ⟨rfl, by decide, ⟨_, rfl, rfl⟩⟩
  obtain ⟨scope, kind, webUrl, expiration⟩ := l
  rw [Json.Layout.records_iff hlayout, ofJson?]
  cases layout.read? j with
  | none => simp
  | some values =>
    match values with
    | [_, _, _, _] => simp [Option.bind_eq_some_iff, optionalString?_eq_some_iff]
    | [] | [_] | [_, _] | [_, _, _] | _ :: _ :: _ :: _ :: _ :: _ => simp

theorem ItemRef.ofJson?_eq_some_iff (j : Json) (r : ItemRef) :
    ofJson? j = some r ↔ j.Records ["driveId", "itemId"] [r.drive, r.item] := by
  have hlayout : layout.IsLenient ["driveId", "itemId"] :=
    ⟨rfl, by decide, ⟨_, rfl, rfl⟩⟩
  obtain ⟨drive, item⟩ := r
  rw [Json.Layout.records_iff hlayout, ofJson?]
  cases layout.read? j with
  | none => simp
  | some values =>
    match values with
    | [_, _] => simp [Option.bind_eq_some_iff, optionalString?_eq_some_iff]
    | [] | [_] | _ :: _ :: _ :: _ => simp

namespace Graph

theorem Permission.itemOfJson?_eq_some_iff (j : Json) (r : ItemRef) :
    itemOfJson? j = some r ↔ j.Records ["driveId", "id"] [r.drive, r.item] := by
  have hlayout : itemLayout.IsLenient ["driveId", "id"] :=
    ⟨rfl, by decide, ⟨_, rfl, rfl⟩⟩
  obtain ⟨drive, item⟩ := r
  rw [Json.Layout.records_iff hlayout, itemOfJson?]
  cases itemLayout.read? j with
  | none => simp
  | some values =>
    match values with
    | [_, _] => simp [Option.bind_eq_some_iff, optionalString?_eq_some_iff]
    | [] | [_] | _ :: _ :: _ :: _ => simp

theorem ErrorBody.ofJson?_eq_some_iff (j : Json) (e : ErrorBody) :
    ofJson? j = some e ↔ j.Records ["code", "message"] [e.code, e.message] := by
  have hlayout : layout.IsLenient ["code", "message"] :=
    ⟨rfl, by decide, ⟨_, rfl, rfl⟩⟩
  obtain ⟨code, message⟩ := e
  rw [Json.Layout.records_iff hlayout, ofJson?]
  cases layout.read? j with
  | none => simp
  | some values =>
    match values with
    | [_, _] => simp [Option.bind_eq_some_iff, optionalString?_eq_some_iff]
    | [] | [_] | _ :: _ :: _ :: _ => simp

theorem Permission.linkOfJson?_eq_some_iff (j : Json) (l : SharingLink) :
    linkOfJson? j = some l ↔
      j.Records ["scope", "type", "webUrl"] [l.scope, l.kind, l.webUrl] ∧
        l.expiration = none := by
  have hlayout : linkLayout.IsLenient ["scope", "type", "webUrl"] :=
    ⟨rfl, by decide, ⟨_, rfl, rfl⟩⟩
  obtain ⟨scope, kind, webUrl, expiration⟩ := l
  rw [Json.Layout.records_iff hlayout, linkOfJson?]
  cases linkLayout.read? j with
  | none => simp
  | some values =>
    match values with
    | [_, _, _] =>
      simp [Option.bind_eq_some_iff, optionalString?_eq_some_iff, and_assoc, @eq_comm _ none]
    | [] | [_] | [_, _] | _ :: _ :: _ :: _ :: _ => simp

end Graph

end Unshare
