import Unshare.Json.Layout
import Unshare.Json.Reader
import Unshare.Remote.Basic
import Unshare.Text.Form

namespace Unshare.Token

structure Provider where
  url : Url
  clientId : String
  clientSecret : String

-- A token and the second from which it is not used any more.
structure Cached where
  token : String
  freshUntil : Nat
deriving DecidableEq, Repr

-- What the authority hands out: a token and its lifetime in seconds.
structure Issued where
  token : String
  lifetime : Nat
deriving DecidableEq, Repr

-- The provider of a tenant's tokens under an authority.
def Provider.of? (authority : Url) (tenant clientId clientSecret : String) :
    Except Failure Provider :=
  match authority.extend? [tenant, "oauth2", "v2.0", "token"] with
  | some url => .ok ⟨url, clientId, clientSecret⟩
  | none => .error (.validation "authority URL cannot be a base")

-- Seconds before the end of its lifetime from which a token is not used any more.
def margin : Nat := 60

-- The last second that the clock can name.
def lastSecond : Nat := 0x7FFFFFFFFFFFFFFF

def scope : String := "https://graph.microsoft.com/.default"

def formType : String := "application/x-www-form-urlencoded"

def Provider.form (p : Provider) : Text.Form.Pairs :=
  [("grant_type", "client_credentials"), ("client_id", p.clientId),
   ("client_secret", p.clientSecret), ("scope", scope)]

def Provider.request (p : Provider) : Remote.Request where
  method := "POST"
  url := p.url
  authorization := []
  contentType := some formType
  body := Text.Utf8.encode (Text.Form.encode p.form)

def Issued.layout : Json.Layout :=
  [⟨["access_token"], .required⟩, ⟨["expires_in"], .required⟩]

def Issued.ofJson? (j : Json) : Option Issued :=
  match layout.read? j with
  | some [some token, some lifetime] => do
    return ⟨← token.string?, ← lifetime.nat? Text.maxWord64⟩
  | _ => none

-- What an answer to the request for a token says.
def ofAnswer (a : Remote.Answer) : Except Failure Issued :=
  if a.isSuccess then
    match a.decode Issued.ofJson? Json.ofBytes? with
    | .ok issued => .ok issued
    | .error fault => .error (.dependency ("invalid token response: " ++ fault.message))
  else
    .error (.dependency
      ("token request failed with status " ++ Http.Status.display a.status ++ ": " ++ a.body.text))

def Provider.ask {m : Type → Type} [Monad m] (p : Provider) (wire : Remote.Wire m) :
    m (Except Failure Issued) := do
  match ← Remote.send wire p.request with
  | .error fault => return .error (.dependency ("token request failed: " ++ fault.message))
  | .ok answer => return ofAnswer answer

-- The kept token, if it is still used in this second.
def fresh? (now : Nat) (cache : Option Cached) : Option String :=
  (cache.filter fun c => now < c.freshUntil).map Cached.token

-- Keeps a new token, if the clock can name the second until which it is used.
def keep (now : Nat) (issued : Issued) : Except Crash Cached :=
  let freshUntil := now + (issued.lifetime - margin)
  if freshUntil ≤ lastSecond then .ok ⟨issued.token, freshUntil⟩
  else .error ⟨"the lifetime of a token does not fit the clock"⟩

-- A token to use in this second, and what is kept afterwards.
def Provider.access {m : Type → Type} [Monad m] (p : Provider) (wire : Remote.Wire m) (now : Nat)
    (cache : Option Cached) : m (Except Abort String × Option Cached) := do
  match fresh? now cache with
  | some token => return (.ok token, cache)
  | none =>
    match ← p.ask wire with
    | .error f => return (.error (.failure f), cache)
    | .ok issued =>
      match keep now issued with
      | .ok cached => return (.ok issued.token, some cached)
      | .error crash => return (.error (.crash crash), cache)

end Unshare.Token
