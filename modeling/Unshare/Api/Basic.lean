import Unshare.Api.Admission
import Unshare.Api.ListInput
import Unshare.Api.Origin
import Unshare.Api.RevokeInput
import Unshare.Api.Route
import Unshare.Revocation.Basic

namespace Unshare

-- The service as it runs: what it works with and how it was set up.
structure Api (m : Type → Type) where
  services : Services m
  defaultSource : String
  adminToken : String
  origin : Api.Origin
  -- why the database does not answer, if it does not
  databaseFault : m (Option String)

namespace LoggedAttempt

-- A record as the listing shows it.
def toJson (a : LoggedAttempt) : Json :=
  .object [("log_id", .ofInt a.number), ("occurred_at", .string a.occurredAt),
    ("actor", a.actor.elim .null Actor.toFullJson), ("drive_id", .ofOption a.drive),
    ("item_id", .ofOption a.item), ("permission_id", .ofOption a.permission),
    ("outcome", .string a.outcome.code), ("failure_reason", .ofOption a.reason),
    ("warning", .ofOption a.warning), ("source", .string a.source), ("details", a.details)]

end LoggedAttempt

namespace Api

open Http

def revokedBody (r : Revoked) : Json :=
  .object (("ok", .bool true) :: r.warning.elim [] fun w => [("warning", .string w)])

def ofRevoked : Except Failure Revoked → Response
  | .ok r => .json 200 (revokedBody r)
  | .error f => .ofFailure f

def ofListed : Except Failure (List LoggedAttempt) → Response
  | .ok entries => .json 200 (.array (entries.map LoggedAttempt.toJson))
  | .error f => .ofFailure f

-- Whether the service can do its work, which it cannot without its database.
def healthResponse (fault : Option String) : Response :=
  let ready := fault.isNone
  let postgres := Json.object [("status", .string (if ready then "ok" else "error")),
    ("detail", .ofOption fault)]
  .json (if ready then 200 else 503)
    (.object [("status", .string (if ready then "ok" else "degraded")), ("ready", .bool ready),
      ("postgres", postgres)])

section

variable {m : Type → Type} [Monad m]

def answerRevoke (api : Api m) (correlation : String) (actor : Actor) (r : Request) :
    m Response := do
  if r.body.length > RevokeInput.maxBodySize then
    return .text 413 "Failed to buffer the request body: length limit exceeded"
  else
    return ofRevoked (← Revocation.revoke api.services api.defaultSource correlation
      (RevokeInput.read r) (some actor))

def answerList (api : Api m) (r : Request) : m Response := do
  match ListInput.ofQuery r.query with
  | .error fault => return .text 400 fault.answer
  | .ok fields =>
    match ListInput.toQuery fields with
    | .error f => return .ofFailure f
    | .ok query => return ofListed (← Revocation.recent api.services query)

def answerHealth (api : Api m) : m Response := do
  return healthResponse (← api.databaseFault)

-- Serves an admitted request whose method the route answers.
def serve (api : Api m) (correlation : String) (route : Route) (actor : Actor) (r : Request) :
    m Response :=
  match route with
  | .health => answerHealth api
  | .permissions | .revoke => answerRevoke api correlation actor r
  | .attempts => answerList api r

-- Nobody is asked who they are on an open route.
def admitTo (api : Api m) (route : Route) (r : Request) : Except Failure Actor :=
  if route.isProtected then checkAdmission api.adminToken r else .ok ⟨none, none, none⟩

-- What a request to a known route is answered.
def answerOn (api : Api m) (correlation : String) (route : Route) (r : Request) : m Response := do
  let answers := route.methods.contains r.method
  let note := fun (response : Response) =>
    if answers then response else response.addHeaders [("allow", route.allowed)]
  match api.admitTo route r with
  | .error f => return note (.ofFailure f)
  | .ok actor =>
    if answers then api.serve correlation route actor r
    else return note (.empty 405)

-- What a question about cross-origin use is answered; nothing is done for it.
def preflight (route : Option Route) : Response :=
  (Response.empty 200).addHeaders
    (Origin.preflightHeaders ++ route.elim [] fun route => [("allow", route.allowed)])

def answerBare (api : Api m) (correlation : String) (r : Request) : m Response := do
  let route := Route.ofPath? r.path
  if r.method = "OPTIONS" then return preflight route
  else
    match route with
    | none => return .empty 404
    | some route => api.answerOn correlation route r

-- The answer to a request. A request for the head alone is answered without a body.
def answer (api : Api m) (correlation : String) (r : Request) : m Response := do
  let response ← api.answerBare correlation r
  let framed := response.addHeaders api.origin.headers
  return if r.method = "HEAD" then framed.withoutBody else framed

end

end Api

end Unshare
