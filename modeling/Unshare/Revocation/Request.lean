import Unshare.Grant

namespace Unshare

structure RevokeRequest where
  drive : Option String
  item : Option String
  permission : Option String
  source : Option String
deriving DecidableEq, Repr

namespace RevokeRequest

def empty : RevokeRequest :=
  ⟨none, none, none, none⟩

def trimmed (r : RevokeRequest) : RevokeRequest :=
  ⟨Text.present r.drive, Text.present r.item, Text.present r.permission, Text.present r.source⟩

-- Fills the parts that are missing or blank from another request.
def orElse (r other : RevokeRequest) : RevokeRequest where
  drive := Text.nonBlank r.drive <|> other.drive
  item := Text.nonBlank r.item <|> other.item
  permission := Text.nonBlank r.permission <|> other.permission
  source := Text.nonBlank r.source <|> other.source

-- The grant the parts address, taken as they stand.
def grantId? (r : RevokeRequest) : Option GrantId :=
  match r.drive, r.item, r.permission with
  | some drive, some item, some permission => (GrantId.of? drive item permission).toOption
  | _, _, _ => none

-- The names of the parts that are missing.
def missing (r : RevokeRequest) : List String :=
  (if r.drive.isNone then ["driveId"] else []) ++
    (if r.item.isNone then ["itemId"] else []) ++
      (if r.permission.isNone then ["permissionId"] else [])

theorem missing_eq_nil_iff (r : RevokeRequest) :
    r.missing = [] ↔ r.drive.isSome ∧ r.item.isSome ∧ r.permission.isSome := by
  cases hd : r.drive <;> cases hi : r.item <;> cases hp : r.permission <;>
    simp [missing, hd, hi, hp]

end RevokeRequest

end Unshare
