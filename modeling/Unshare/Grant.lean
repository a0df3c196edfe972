import Unshare.RequiredText

namespace Unshare

-- The three parts that address a permission. None of them is blank.
structure GrantId where
  drive : String
  item : String
  permission : String
  drive_visible : Text.isBlank drive = false
  item_visible : Text.isBlank item = false
  permission_visible : Text.isBlank permission = false
deriving DecidableEq

namespace GrantId

-- The address made of these parts, unless one of them is blank.
def of? (drive item permission : String) : Except Failure GrantId :=
  if hd : Text.isBlank drive = false then
    if hi : Text.isBlank item = false then
      if hp : Text.isBlank permission = false then
        .ok ⟨drive, item, permission, hd, hi, hp⟩
      else .error RequiredText.blankFailure
    else .error RequiredText.blankFailure
  else .error RequiredText.blankFailure

-- The parts joined by colons.
def composite (id : GrantId) : String :=
  id.drive ++ ":" ++ id.item ++ ":" ++ id.permission

theorem eq_of_parts {a b : GrantId} (hd : a.drive = b.drive) (hi : a.item = b.item)
    (hp : a.permission = b.permission) : a = b := by
  cases a
  cases b
  simp_all

end GrantId

structure SharingLink where
  scope : Option String
  kind : Option String
  webUrl : Option String
  expiration : Option String
deriving DecidableEq, Repr

namespace SharingLink

def toJson (l : SharingLink) : Json :=
  .object [("scope", .ofOption l.scope), ("type", .ofOption l.kind),
    ("webUrl", .ofOption l.webUrl), ("expiration", .ofOption l.expiration)]

def layout : Json.Layout :=
  [⟨["scope"], .optional⟩, ⟨["type"], .optional⟩, ⟨["webUrl"], .optional⟩,
   ⟨["expiration"], .optional⟩]

def ofJson? (j : Json) : Option SharingLink :=
  match layout.read? j with
  | some [scope, kind, webUrl, expiration] => do
    return ⟨← Json.optionalString? scope, ← Json.optionalString? kind,
      ← Json.optionalString? webUrl, ← Json.optionalString? expiration⟩
  | _ => none

end SharingLink

-- An item elsewhere, as far as it is known.
structure ItemRef where
  drive : Option String
  item : Option String
deriving DecidableEq, Repr

namespace ItemRef

def toJson (r : ItemRef) : Json :=
  .object [("driveId", .ofOption r.drive), ("itemId", .ofOption r.item)]

def layout : Json.Layout :=
  [⟨["driveId"], .optional⟩, ⟨["itemId"], .optional⟩]

def ofJson? (j : Json) : Option ItemRef :=
  match layout.read? j with
  | some [drive, item] => do
    return ⟨← Json.optionalString? drive, ← Json.optionalString? item⟩
  | _ => none

end ItemRef

structure Grant where
  id : GrantId
  roles : List String
  link : Option SharingLink
  inheritedFrom : Option ItemRef
deriving DecidableEq

namespace Grant

def linkJson (g : Grant) : Json :=
  g.link.elim .null SharingLink.toJson

def inheritedJson (g : Grant) : Json :=
  g.inheritedFrom.elim .null ItemRef.toJson

-- What a record about this grant keeps of it.
def details (g : Grant) : Json.Fields :=
  [("roles", .ofStrings g.roles), ("link", g.linkJson)]

end Grant

end Unshare
