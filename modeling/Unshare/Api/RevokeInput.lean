import Unshare.Http.Message
import Unshare.Json.Layout
import Unshare.Json.Reader
import Unshare.Revocation.Request
import Unshare.Text.Form

namespace Unshare.Api.RevokeInput

-- The names of the four parts; each of the first three has two spellings.
def driveNames : List String := ["driveId", "drive_id"]
def itemNames : List String := ["itemId", "item_id"]
def permissionNames : List String := ["permissionId", "permission_id"]
def sourceNames : List String := ["source"]

def layout : Json.Layout :=
  [⟨driveNames, .defaulted⟩, ⟨itemNames, .defaulted⟩, ⟨permissionNames, .defaulted⟩,
   ⟨sourceNames, .defaulted⟩]

def ofJson? (j : Json) : Option RevokeRequest :=
  match layout.read? j with
  | some [drive, item, permission, source] => do
    return ⟨← Json.optionalString? drive, ← Json.optionalString? item,
      ← Json.optionalString? permission, ← Json.optionalString? source⟩
  | _ => none

-- The value under one of these names; refused if there is more than one.
def single? (names : List String) (pairs : Text.Form.Pairs) : Option (Option String) :=
  match (pairs.filter fun (name, _) => names.contains name).map Prod.snd with
  | [] => some none
  | [value] => some (some value)
  | _ => none

def ofPairs? (pairs : Text.Form.Pairs) : Option RevokeRequest := do
  return ⟨← single? driveNames pairs, ← single? itemNames pairs, ← single? permissionNames pairs,
    ← single? sourceNames pairs⟩

def ofQuery (query : String) : RevokeRequest :=
  (ofPairs? (Text.Form.decode query)).getD .empty

-- The blanks of ASCII.
def isAsciiBlank (b : UInt8) : Bool :=
  b == 0x20 || b == 0x09 || b == 0x0A || b == 0x0C || b == 0x0D

def ofBody (body : List UInt8) : RevokeRequest :=
  if body.all isAsciiBlank then .empty
  else ((Json.ofBytes? body).bind ofJson?).getD .empty

def read (r : Http.Request) : RevokeRequest :=
  (ofBody r.body).orElse (ofQuery r.query)

-- The largest body that is looked at, in bytes.
def maxBodySize : Nat := 2097152

end Unshare.Api.RevokeInput
