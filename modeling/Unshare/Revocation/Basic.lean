import Unshare.Policy
import Unshare.Revocation.Report
import Unshare.Revocation.Request
import Unshare.Revocation.Services

namespace Unshare

-- What a successful revocation tells its caller.
structure Revoked where
  warning : Option String
deriving DecidableEq, Repr

namespace Revocation

def missingPartsCode : String :=
  "driveId_itemId_permissionId_required"

def staleCopyWarning (detail : String) : String :=
  "graph_delete_succeeded_local_sync_failed:" ++ detail

def lostAuditWarning (detail : String) : String :=
  "audit_write_failed:" ++ detail

-- Everything a record of one attempt has in common, however the attempt ends.
structure Context where
  request : RevokeRequest
  actor : Option Actor
  correlation : String

namespace Context

def details (c : Context) (facts : Json.Fields) : Json.Fields :=
  facts.insert "correlationId" (.string c.correlation)

def failureReport (c : Context) (stage : Stage) (reason : String) (facts : Json.Fields) :
    Report where
  actor := c.actor
  drive := c.request.drive
  item := c.request.item
  permission := c.request.permission
  outcome := .failed
  stage := stage
  reason := some reason
  warning := none
  source := c.request.source
  details := c.details facts

def successReport (c : Context) (warning : Option String) (facts : Json.Fields) : Report where
  actor := c.actor
  drive := c.request.drive
  item := c.request.item
  permission := c.request.permission
  outcome := .success
  stage := .completed
  reason := none
  warning := warning
  source := c.request.source
  details := c.details facts

-- What the audit trail is told of a removed grant.
def auditEvent (c : Context) (g : Grant) (id : GrantId) : AuditEvent where
  actor := Actor.known c.actor
  action := .permissionDeleted
  entityType := "drive_item_permission"
  entityId := id.composite
  details := .object g.details

end Context

-- The warnings about what failed after the removal, joined and bounded.
def joinWarnings (cached audited : Except Failure Unit) : Option String :=
  match cached, audited with
  | .ok _, .ok _ => none
  | .error f, .ok _ => some (Attempt.boundWarning (staleCopyWarning f.detail))
  | .ok _, .error g => some (Attempt.boundWarning (lostAuditWarning g.detail))
  | .error f, .error g =>
    some (Attempt.boundWarning (staleCopyWarning f.detail ++ " | " ++ lostAuditWarning g.detail))

section

variable {m : Type → Type} [Monad m]

-- Keeps the record of an attempt; a log that fails is passed over.
def record (s : Services m) (defaultSource : String) (r : Report) : m Unit := do
  let _ ← s.appendAttempt (r.toAttempt defaultSource)
  return ()

-- Ends an attempt before the removal.
def refuse (s : Services m) (defaultSource : String) (c : Context) (stage : Stage)
    (facts : Json.Fields) (f : Failure) : m (Except Failure Revoked) := do
  record s defaultSource (c.failureReport stage f.detail facts)
  return .error f

-- What follows once the directory has removed the grant.
def conclude (s : Services m) (defaultSource : String) (c : Context) (id : GrantId) (g : Grant) :
    m (Except Failure Revoked) := do
  let cached ← s.forgetGrant id
  let audited ← s.appendAudit (c.auditEvent g id)
  let warning := joinWarnings cached audited
  record s defaultSource (c.successReport warning g.details)
  return .ok ⟨warning⟩

-- Removes a grant that was fetched and may be removed.
def remove (s : Services m) (defaultSource : String) (c : Context) (id : GrantId) (g : Grant) :
    m (Except Failure Revoked) := do
  match ← s.removeGrant id with
  | .error f => refuse s defaultSource c .removing g.details (.dependency f.detail)
  | .ok () => conclude s defaultSource c id g

-- Fetches a grant and lets the guard decide.
def revokeGrant (s : Services m) (defaultSource : String) (c : Context) (id : GrantId) :
    m (Except Failure Revoked) := do
  match ← s.fetchGrant id with
  | .error f => refuse s defaultSource c .fetching [] (.dependency f.detail)
  | .ok g =>
    match Policy.evaluate g with
    | .deny reason =>
      refuse s defaultSource c .validation (reason.evidence g) (.forbidden reason.code)
    | .allow => remove s defaultSource c id g

-- Revokes what the request asks for. Only one record of it is ever kept.
def revoke (s : Services m) (defaultSource correlation : String) (r : RevokeRequest)
    (actor : Option Actor) : m (Except Failure Revoked) :=
  let c : Context := ⟨r.trimmed, actor, correlation⟩
  match c.request.grantId? with
  | none =>
    refuse s defaultSource c .validation [("missing", .ofStrings c.request.missing)]
      (.validation missingPartsCode)
  | some id => revokeGrant s defaultSource c id

-- A query in the form in which it is put to the log: a limit of nothing is fifty, no limit is above
-- five hundred, and blank filters are dropped.
def boundQuery (q : Attempt.Query) : Attempt.Query where
  limit := if q.limit = 0 then 50 else min q.limit 500
  offset := q.offset
  drive := Text.nonBlank q.drive
  item := Text.nonBlank q.item
  outcome := q.outcome

-- The records asked for, newest first.
def recent (s : Services m) (q : Attempt.Query) : m (Except Failure (List LoggedAttempt)) :=
  s.listAttempts (boundQuery q)

end

end Revocation

end Unshare
