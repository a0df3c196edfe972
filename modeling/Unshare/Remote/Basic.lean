import Unshare.Api.Origin
import Unshare.Http.Status
import Unshare.Text.Base64
import Unshare.Text.Utf16
import Unshare.Url.Path

namespace Unshare.Remote

structure Request where
  method : String
  url : Url
  authorization : List String
  contentType : Option String
  body : List UInt8

-- The body of an answer: its bytes, and what they spell in the encoding that is declared for them,
-- if one is declared that is not UTF-8.
structure Body where
  bytes : List UInt8
  declared : Option String
deriving DecidableEq, Repr

namespace Body

-- A body in UTF-8.
def plain (bytes : List UInt8) : Body :=
  ⟨bytes, none⟩

instance : Coe (List UInt8) Body := ⟨plain⟩

-- The body as text. A byte order mark at the start says how to read what follows it, whatever is
-- declared.
def text (b : Body) : String :=
  match b.bytes with
  | 0xEF :: 0xBB :: 0xBF :: rest => Text.Utf8.decodeLossy rest
  | 0xFF :: 0xFE :: rest => Text.Utf16.decodeLossy .lowFirst rest
  | 0xFE :: 0xFF :: rest => Text.Utf16.decodeLossy .highFirst rest
  | bytes => b.declared.getD (Text.Utf8.decodeLossy bytes)

end Body

-- What comes of a request that was sent.
inductive Reply
  | answered (status : Nat) (body : Body)
  | timedOut
  | unreachable
deriving DecidableEq, Repr

-- Sends a request.
abbrev Wire (m : Type → Type) := Request → m Reply

-- Why a request came to nothing.
inductive Fault
  | illegalHeader
  | notSendable (url : Url)
  | timedOut (url : Url)
  | unreachable (url : Url)
  | undecodable (url : Url)
deriving DecidableEq, Repr

def describe (what : String) (url : Url) : String :=
  what ++ " for url (" ++ url.render ++ ")"

def Fault.message : Fault → String
  | .illegalHeader => "builder error"
  | .notSendable url => describe "builder error" url
  | .timedOut url | .unreachable url => describe "error sending request" url
  | .undecodable url => describe "error decoding response body" url

-- An answer, with the URL it was asked for.
structure Answer where
  url : Url
  status : Nat
  body : Body

namespace Answer

def isSuccess (a : Answer) : Bool :=
  Http.Status.isSuccess a.status

-- The body read as JSON of some shape.
def decode {α : Type} (a : Answer) (read? : Json → Option α) (parse? : List UInt8 → Option Json) :
    Except Fault α :=
  match (parse? a.body.bytes).bind read? with
  | some value => .ok value
  | none => .error (.undecodable a.url)

end Answer

-- The longest URL that is sent, in characters.
def maxUrlLength : Nat := 65534

-- Characters that a host may hold but no request names.
def unsendable : List Char := ['"', '\x60', '\x7b', '\x7d']

def isSendable (url : Url) : Bool :=
  url.isWeb && url.print.length ≤ maxUrlLength
    && !url.host.any fun host => host.print.any unsendable.contains

-- What a part of a URL says, if it is text.
def unescape? (part : String) : Option String :=
  Text.Utf8.decode? (Text.Percent.decodeChars part.toList)

-- The header that carries the name and password of a URL. The name must be text, and if it is
-- missing the password must be; a password that is not is left out behind a name.
def basicCredentials? (url : Url) : Option String := do
  let user ← unescape? url.user
  let password := url.password.bind unescape?
  if user = "" ∧ password.isNone then none
  else
    return "Basic " ++ String.ofList
      (Text.Base64.encode (Text.Utf8.encode (user ++ ":" ++ password.getD "")))

-- Moves credentials from the URL into the headers.
def Request.normalized (r : Request) : Request :=
  match basicCredentials? r.url with
  | some header =>
    { r with url := r.url.withoutCredentials, authorization := header :: r.authorization }
  | none => r

def Request.hasLegalHeaders (r : Request) : Bool :=
  r.authorization.all fun value => (Text.Utf8.encode value).all Api.isHeaderByte

-- Sends a request that may be sent, and takes the answer.
def send {m : Type → Type} [Monad m] (wire : Wire m) (request : Request) :
    m (Except Fault Answer) := do
  let r := request.normalized
  if !r.hasLegalHeaders then return .error .illegalHeader
  else if !isSendable r.url then return .error (.notSendable r.url)
  else
    match ← wire r with
    | .answered status body => return .ok ⟨r.url, status, body⟩
    | .timedOut => return .error (.timedOut r.url)
    | .unreachable => return .error (.unreachable r.url)

end Unshare.Remote
