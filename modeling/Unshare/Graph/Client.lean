import Unshare.Graph.Answer
import Unshare.Graph.Url

namespace Unshare.Graph

structure Client (m : Type → Type) where
  baseUrl : Url
  accessToken : m (Except Abort String)
  wire : Remote.Wire m

inductive Operation
  | fetch
  | remove
deriving DecidableEq, Repr

def Operation.method : Operation → String
  | .fetch => "GET"
  | .remove => "DELETE"

def Operation.label : Operation → String
  | .fetch => "get permission"
  | .remove => "delete permission"

def request (operation : Operation) (url : Url) (token : String) : Remote.Request where
  method := operation.method
  url := url
  authorization := ["Bearer " ++ token]
  contentType := none
  body := []

def transportFailure (operation : Operation) : Remote.Fault → Failure
  | .timedOut _ => .dependency ("graph " ++ operation.label ++ " timed out")
  | fault =>
    .dependency ("graph " ++ operation.label ++ " transport error: " ++ fault.message)

namespace Client

variable {m : Type → Type} [Monad m]

-- The directory's answer of success to an operation.
def perform (c : Client m) (operation : Operation) (id : GrantId) :
    m (Except Abort Remote.Answer) := do
  match permissionUrl c.baseUrl id with
  | .error f => return .error (.failure f)
  | .ok url =>
    match ← c.accessToken with
    | .error abort => return .error abort
    | .ok token =>
      match ← Remote.send c.wire (request operation url token) with
      | .error fault => return .error (.failure (transportFailure operation fault))
      | .ok answer =>
        match failureOf? answer with
        | some f => return .error (.failure f)
        | none => return .ok answer

def fetch (c : Client m) (id : GrantId) : m (Except Abort Grant) := do
  match ← c.perform .fetch id with
  | .error abort => return .error abort
  | .ok answer =>
    match grantOf id answer with
    | .ok grant => return .ok grant
    | .error f => return .error (.failure f)

def remove (c : Client m) (id : GrantId) : m (Except Abort Unit) := do
  match ← c.perform .remove id with
  | .error abort => return .error abort
  | .ok _ => return .ok ()

end Client

end Unshare.Graph
