import Unshare.Grant
import Unshare.Json.Reader
import Unshare.Remote.Basic

namespace Unshare.Graph

-- A permission as the directory writes it.
structure Permission where
  roles : List String
  link : Option SharingLink
  inheritedFrom : Option ItemRef
  expiration : Option String

namespace Permission

def linkLayout : Json.Layout :=
  [⟨["scope"], .optional⟩, ⟨["type"], .optional⟩, ⟨["webUrl"], .optional⟩]

def linkOfJson? (j : Json) : Option SharingLink :=
  match linkLayout.read? j with
  | some [scope, kind, webUrl] => do
    return ⟨← Json.optionalString? scope, ← Json.optionalString? kind,
      ← Json.optionalString? webUrl, none⟩
  | _ => none

def itemLayout : Json.Layout :=
  [⟨["driveId"], .optional⟩, ⟨["id"], .optional⟩]

def itemOfJson? (j : Json) : Option ItemRef :=
  match itemLayout.read? j with
  | some [drive, item] => do
    return ⟨← Json.optionalString? drive, ← Json.optionalString? item⟩
  | _ => none

def layout : Json.Layout :=
  [⟨["roles"], .defaulted⟩, ⟨["link"], .optional⟩, ⟨["inheritedFrom"], .optional⟩,
   ⟨["expirationDateTime"], .optional⟩]

-- Roles that are not given are none; roles that are null are refused.
def rolesOfJson? : Option Json → Option (List String)
  | none => some []
  | some j => j.strings?

def ofJson? (j : Json) : Option Permission :=
  match layout.read? j with
  | some [roles, link, inheritedFrom, expiration] => do
    return ⟨← rolesOfJson? roles, ← Json.optional? linkOfJson? link,
      ← Json.optional? itemOfJson? inheritedFrom, ← Json.optionalString? expiration⟩
  | _ => none

-- The grant a permission stands for. The time it ends belongs to its link.
def toGrant (p : Permission) (id : GrantId) : Grant where
  id := id
  roles := p.roles
  link := p.link.map fun l => { l with expiration := p.expiration }
  inheritedFrom := p.inheritedFrom

end Permission

-- The code and the message of an error, where the directory gives them.
structure ErrorBody where
  code : Option String
  message : Option String
deriving DecidableEq, Repr

namespace ErrorBody

def layout : Json.Layout :=
  [⟨["code"], .optional⟩, ⟨["message"], .optional⟩]

def ofJson? (j : Json) : Option ErrorBody :=
  match layout.read? j with
  | some [code, message] => do
    return ⟨← Json.optionalString? code, ← Json.optionalString? message⟩
  | _ => none

def envelopeLayout : Json.Layout :=
  [⟨["error"], .required⟩]

def ofEnvelope? (j : Json) : Option ErrorBody :=
  match envelopeLayout.read? j with
  | some [some error] => ofJson? error
  | _ => none

end ErrorBody

-- What is said of an answer that tells nothing itself.
def plainMessage (status : Nat) (body : String) : String :=
  let line := "graph request failed with status " ++ Http.Status.display status
  if Text.isBlank body then line else line ++ ": " ++ Text.trim body

def errorMessage (status : Nat) (body : String) : String :=
  match (Json.ofText? body).bind ErrorBody.ofEnvelope? with
  | some ⟨some code, some message⟩ => code ++ ": " ++ message
  | some ⟨none, some message⟩ => message
  | _ => plainMessage status body

-- The failure an answer stands for, unless it is a success.
def failureOf? (a : Remote.Answer) : Option Failure :=
  if a.isSuccess then none
  else if a.status = 404 then some (.notFound (errorMessage a.status a.body.text))
  else some (.dependency (errorMessage a.status a.body.text))

-- The grant an answer of success describes.
def grantOf (id : GrantId) (a : Remote.Answer) : Except Failure Grant :=
  match a.decode Permission.ofJson? Json.ofBytes? with
  | .ok permission => .ok (permission.toGrant id)
  | .error fault =>
    .error (.dependency ("graph returned an invalid permission payload: " ++ fault.message))

end Unshare.Graph
