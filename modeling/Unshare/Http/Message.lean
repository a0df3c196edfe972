import Unshare.Failure
import Unshare.Text.Split
import Unshare.Text.Utf8

namespace Unshare.Http

structure Request where
  method : String
  target : String
  headers : List (String × List UInt8)
  body : List UInt8

inductive Body
  | empty
  | json (value : Json)
  | text (content : String)

structure Response where
  status : Nat
  headers : List (String × String)
  body : Body

def lowerAscii (c : Char) : Char :=
  if 'A' ≤ c ∧ c ≤ 'Z' then Char.ofNat (c.toNat + 32) else c

def lowerName (name : String) : String :=
  String.ofList (name.toList.map lowerAscii)

namespace Request

-- The first value under this name, which is given in lower case.
def header? (r : Request) (name : String) : Option (List UInt8) :=
  (r.headers.find? fun (n, _) => lowerName n = name).map Prod.snd

-- Bytes that a header shows as text: visible ASCII, spaces and tabs.
def isHeaderText (b : UInt8) : Bool :=
  (0x20 ≤ b && b < 0x7F) || b == 0x09

-- The first value under this name, if all of it is text.
def headerText? (r : Request) (name : String) : Option String :=
  (r.header? name).bind fun bytes =>
    if bytes.all isHeaderText then
      some (String.ofList (bytes.map fun b => Char.ofNat b.toNat))
    else none

-- The target without the scheme and the server before its path.
def dropServer (target : List Char) : List Char :=
  match target with
  | '/' :: _ => target
  | _ =>
    match Text.breakOn ':' target with
    | (_, some ('/' :: '/' :: rest)) => rest.dropWhile fun c => c ≠ '/' && c ≠ '?'
    | _ => target

-- The path and the query, which end where a fragment starts.
def resource (r : Request) : List Char :=
  dropServer (r.target.toList.takeWhile (· ≠ '#'))

-- The path; the root where none follows a server.
def path (r : Request) : String :=
  match r.resource.takeWhile (· ≠ '?') with
  | [] => "/"
  | cs => String.ofList cs

-- What follows the first `?`; nothing if there is none.
def query (r : Request) : String :=
  String.ofList ((r.resource.dropWhile (· ≠ '?')).drop 1)

end Request

namespace Response

def json (status : Nat) (value : Json) : Response :=
  ⟨status, [("content-type", "application/json")], .json value⟩

def text (status : Nat) (content : String) : Response :=
  ⟨status, [("content-type", "text/plain; charset=utf-8")], .text content⟩

def empty (status : Nat) : Response :=
  ⟨status, [], .empty⟩

-- The answer that tells of a failure.
def ofFailure (f : Failure) : Response :=
  json f.kind.status f.body

def addHeaders (headers : List (String × String)) (r : Response) : Response :=
  { r with headers := r.headers ++ headers }

def withoutBody (r : Response) : Response :=
  { r with body := .empty }

end Response

end Unshare.Http
