import Unshare.Revocation.Services
import Unshare.Text.Blank
import Unshare.Text.Form

namespace Unshare.Api.ListInput

inductive Fault
  | duplicate (name : String)
  | malformed (name : String) (cause : Text.Decimal.Fault)
deriving DecidableEq, Repr

def Fault.message : Fault → String
  | .duplicate name => "duplicate field `" ++ name ++ "`"
  | .malformed name cause => name ++ ": " ++ cause.message

-- The answer to a query that cannot be read.
def Fault.answer (f : Fault) : String :=
  "Failed to deserialize query string: " ++ f.message

structure Fields where
  limit : Option Nat
  offset : Option Nat
  drive : Option String
  item : Option String
  outcome : Option String

def Fields.empty : Fields :=
  ⟨none, none, none, none, none⟩

def readNumber (name value : String) : Except Fault Nat :=
  match Text.Decimal.read Text.maxWord64 value with
  | .ok n => .ok n
  | .error cause => .error (.malformed name cause)

-- Refuses a name that was given before.
def once {α : Type} (name : String) (current : Option α) (next : Except Fault Fields) :
    Except Fault Fields :=
  if current.isSome then .error (.duplicate name) else next

def readPair (fields : Fields) (pair : String × String) : Except Fault Fields :=
  match pair with
  | ("limit", value) => once "limit" fields.limit do
      return { fields with limit := some (← readNumber "limit" value) }
  | ("offset", value) => once "offset" fields.offset do
      return { fields with offset := some (← readNumber "offset" value) }
  | ("drive_id", value) => once "drive_id" fields.drive (.ok { fields with drive := some value })
  | ("item_id", value) => once "item_id" fields.item (.ok { fields with item := some value })
  | ("outcome", value) => once "outcome" fields.outcome (.ok { fields with outcome := some value })
  | _ => .ok fields

def ofPairs (pairs : Text.Form.Pairs) : Except Fault Fields :=
  pairs.foldlM readPair Fields.empty

-- The outcome asked for; a blank one is none.
def outcome? (value : Option String) : Except Failure (Option Outcome) :=
  match Text.present value with
  | none => .ok none
  | some code =>
    match Outcome.ofCode? code with
    | some o => .ok (some o)
    | none => .error (.validation ("unknown revoke outcome filter '" ++ code ++ "'"))

def toQuery (fields : Fields) : Except Failure Attempt.Query := do
  let outcome ← outcome? fields.outcome
  return ⟨fields.limit.getD 0, fields.offset.getD 0, fields.drive, fields.item, outcome⟩

def ofQuery (query : String) : Except Fault Fields :=
  ofPairs (Text.Form.decode query)

end Unshare.Api.ListInput
