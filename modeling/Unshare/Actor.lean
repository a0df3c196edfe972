import Unshare.Text.Blank
import Unshare.Json.Layout

namespace Unshare

structure Actor where
  oid : Option String
  upn : Option String
  name : Option String
deriving DecidableEq, Repr

namespace Actor

-- Trims the parts and drops blank ones.
def of (oid upn name : Option String) : Actor :=
  ⟨Text.present oid, Text.present upn, Text.present name⟩

def isEmpty (a : Actor) : Bool :=
  a.oid.isNone && a.upn.isNone && a.name.isNone

-- The most telling part: the principal name, else the object id, else the display name.
def subject (a : Actor) : Option String :=
  a.upn <|> a.oid <|> a.name

-- The actor, unless it says nothing.
def known (a : Option Actor) : Option Actor :=
  a.filter fun a => !a.isEmpty

def field (name : String) (value : Option String) : Json.Fields :=
  value.elim [] fun text => [(name, .string text)]

-- Parts that are missing are left out.
def toJson (a : Actor) : Json :=
  .object (field "oid" a.oid ++ field "upn" a.upn ++ field "name" a.name)

-- All parts, null where missing.
def toFullJson (a : Actor) : Json :=
  .object [("oid", .ofOption a.oid), ("upn", .ofOption a.upn), ("name", .ofOption a.name)]

def layout : Json.Layout :=
  [⟨["oid"], .optional⟩, ⟨["upn"], .optional⟩, ⟨["name"], .optional⟩]

def ofJson? (j : Json) : Option Actor :=
  match layout.read? j with
  | some [oid, upn, name] => do
    return ⟨← Json.optionalString? oid, ← Json.optionalString? upn, ← Json.optionalString? name⟩
  | _ => none

theorem isEmpty_iff (a : Actor) : a.isEmpty = true ↔ a = ⟨none, none, none⟩ := by
  obtain ⟨oid, upn, name⟩ := a
  simp [isEmpty, and_assoc]

theorem known_eq_none_iff (actor : Option Actor) :
    known actor = none ↔ actor = none ∨ actor = some ⟨none, none, none⟩ := by
  cases actor with
  | none => simp [known]
  | some a => simp [known, isEmpty_iff]

-- An actor that is left out has no part that could be lost.
theorem bind_known {part : Actor → Option String} (h : part ⟨none, none, none⟩ = none)
    (actor : Option Actor) : (known actor).bind part = actor.bind part := by
  cases hknown : known actor with
  | none =>
    obtain rfl | rfl := (known_eq_none_iff actor).mp hknown
    · rfl
    · exact h.symm
  | some a =>
    obtain ⟨rfl, -⟩ := Option.filter_eq_some_iff.mp hknown
    rfl

end Actor

end Unshare
