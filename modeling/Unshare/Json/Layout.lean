import Unshare.Json.Basic

namespace Unshare.Json

-- What may stand for a field that is not given.
inductive Absence
  -- nothing: the field must be given
  | required
  -- its absence in an object, but not in an array
  | optional
  -- its absence in either
  | defaulted
deriving DecidableEq, Repr

structure Layout.Field where
  names : List String
  absence : Absence
deriving DecidableEq, Repr

-- The fields of a record in order.
abbrev Layout := List Layout.Field

namespace Layout

-- Whether a field may be missing from an object.
def Field.mayLack (f : Field) : Bool :=
  f.absence != .required

def valuesNamed (names : List String) (fields : Fields) : List Json :=
  (fields.filter fun (name, _) => names.contains name).map Prod.snd

-- What an object gives a field: refused where it is given twice, or not at all but needed.
def Field.find? (f : Field) (fields : Fields) : Option (Option Json) :=
  match valuesNamed f.names fields with
  | [] => if f.mayLack then some none else none
  | [value] => some (some value)
  | _ => none

def ofFields? (layout : Layout) (fields : Fields) : Option (List (Option Json)) :=
  layout.mapM fun f => f.find? fields

def ofItems? : Layout → List Json → Option (List (Option Json))
  | [], [] => some []
  | [], _ :: _ => none
  | f :: rest, [] => if f.absence = .defaulted then (ofItems? rest []).map (none :: ·) else none
  | _ :: rest, item :: items => (ofItems? rest items).map (some item :: ·)

-- The value given to each field of the layout, in its order. Unknown names are passed over.
def read? (layout : Layout) : Json → Option (List (Option Json))
  | .object fields => ofFields? layout fields
  | .array items => ofItems? layout items
  | _ => none

end Layout

def string? : Json → Option String
  | .string text => some text
  | _ => none

-- Reads a value that may be null or not given.
def optional? {α : Type} (read? : Json → Option α) : Option Json → Option (Option α)
  | none => some none
  | some .null => some none
  | some value => (read? value).map some

def optionalString? : Option Json → Option (Option String) :=
  optional? string?

def strings? : Json → Option (List String)
  | .array items => items.mapM string?
  | _ => none

-- An unsigned number: digits alone, within the bound.
def nat? (bound : Nat) : Json → Option Nat
  | .number numeral =>
    if numeral.toList.all Text.Decimal.isDigit then Text.Decimal.read? bound numeral else none
  | _ => none

-- One of several names, given as itself or as the only field of an object, with null.
def variantName? : Json → Option String
  | .string name => some name
  | .object [(name, .null)] => some name
  | _ => none

end Unshare.Json
