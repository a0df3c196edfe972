import Unshare.Database.Basic
import Unshare.Revocation.Services
import Unshare.Time.Calendar

namespace Unshare.Database

def grantParams (id : GrantId) : List Param :=
  [.text id.drive, .text id.item, .text id.permission]

def forgetGrants (id : GrantId) : Statement :=
  ⟨"DELETE FROM msgraph_drive_item_permission_grants " ++
    "WHERE drive_id = $1 AND item_id = $2 AND permission_id = $3", grantParams id⟩

def forgetPermission (id : GrantId) : Statement :=
  ⟨"DELETE FROM msgraph_drive_item_permissions " ++
    "WHERE drive_id = $1 AND item_id = $2 AND permission_id = $3", grantParams id⟩

def refreshItem (id : GrantId) : Statement :=
  ⟨"UPDATE msgraph_drive_items SET permissions_last_synced_at = now(), " ++
    "permissions_last_error_at = NULL, permissions_last_error = NULL " ++
    "WHERE drive_id = $1 AND id = $2", [.text id.drive, .text id.item]⟩

-- The statements that remove the copy of a grant, each with what is said if it fails.
def forgetSteps (id : GrantId) : List (Statement × String) :=
  [(forgetGrants id, "failed to delete cached permission grants"),
   (forgetPermission id, "failed to delete cached permission"),
   (refreshItem id, "failed to update item permission sync state")]

-- Turns a text that says what failed into a failure.
def asFailure {α : Type} : Except String α × Database → Except Failure α × Database
  | (.ok value, db) => (.ok value, db)
  | (.error message, db) => (.error (.internal message), db)

def forgetGrant (id : GrantId) (db : Database) : Except Failure Unit × Database :=
  asFailure (transaction (forgetSteps id) db)

def actorParams (actor : Option Actor) : List Param :=
  [.ofText (actor.bind Actor.oid), .ofText (actor.bind Actor.upn), .ofText (actor.bind Actor.name)]

def insertAudit (e : AuditEvent) : Statement :=
  ⟨"INSERT INTO audit_log_entries ( actor_oid, actor_upn, actor_name, action, entity_type, " ++
    "entity_id, details ) VALUES ($1, $2, $3, $4, $5, $6, $7)",
   actorParams e.actor ++
    [.text e.action.code, .text e.entityType, .text e.entityId, .json e.details]⟩

def appendAudit (e : AuditEvent) (db : Database) : Except Failure Unit × Database :=
  asFailure (issueAll [(insertAudit e, "failed to append audit event")] db)

def insertAttempt (a : Attempt) : Statement :=
  ⟨"INSERT INTO revoke_permission_logs ( actor_oid, actor_upn, actor_name, drive_id, item_id, " ++
    "permission_id, outcome, failure_reason, warning, source, details ) " ++
    "VALUES ($1, $2, $3, $4, $5, $6, $7, $8, $9, $10, $11)",
   actorParams a.actor ++
    [.ofText a.drive, .ofText a.item, .ofText a.permission, .text a.outcome.code,
     .ofText a.reason, .ofText a.warning, .text a.source, .json a.details]⟩

def appendAttempt (a : Attempt) (db : Database) : Except Failure Unit × Database :=
  asFailure (issueAll [(insertAttempt a, "failed to append revoke attempt log")] db)

def maxListLimit : Nat := 500
def maxListOffset : Nat := 10000

def selectAttempts (q : Attempt.Query) : Statement :=
  ⟨"SELECT id, occurred_at, actor_oid, actor_upn, actor_name, drive_id, item_id, " ++
    "permission_id, outcome, failure_reason, warning, source, details " ++
    "FROM revoke_permission_logs WHERE ($1::TEXT IS NULL OR drive_id = $1) " ++
    "AND ($2::TEXT IS NULL OR item_id = $2) AND ($3::TEXT IS NULL OR outcome = $3) " ++
    "ORDER BY occurred_at DESC, id DESC LIMIT $4 OFFSET $5",
   [.ofText q.drive, .ofText q.item, .ofText (q.outcome.map Outcome.code),
    .number (Nat.max 1 (Nat.min q.limit maxListLimit)),
    .number (Nat.min q.offset maxListOffset)]⟩

-- A row all of whose needed values are there.
structure FullRow where
  row : Row
  id : Int
  occurredAt : Int
  outcome : String
  source : String

def need {α : Type} (column : String) (value : Option α) : Except Fault α :=
  match value with
  | some v => .ok v
  | none => .error (.missingValue column)

def Row.full (r : Row) : Except Fault FullRow := do
  let id ← need "id" r.id
  let occurredAt ← need "occurred_at" r.occurredAt
  let outcome ← need "outcome" r.outcome
  let source ← need "source" r.source
  return ⟨r, id, occurredAt, outcome, source⟩

def unknownOutcome (id : Int) (outcome : String) : Failure :=
  .internal ("revoke log " ++ String.ofList (Text.Decimal.signed id) ++
    " has unknown outcome '" ++ outcome ++ "'")

-- The record a row holds.
def FullRow.attempt (r : FullRow) : Except Failure LoggedAttempt :=
  match Outcome.ofCode? r.outcome with
  | none => .error (unknownOutcome r.id r.outcome)
  | some outcome => .ok {
      actor := Actor.known (some (Actor.of r.row.actorOid r.row.actorUpn r.row.actorName))
      drive := r.row.drive
      item := r.row.item
      permission := r.row.permission
      outcome := outcome
      reason := r.row.reason
      warning := r.row.warning
      source := r.source
      details := r.row.details
      number := r.id
      occurredAt := Time.instantText r.occurredAt }

def listLabel : String := "failed to list revoke attempt logs"

-- The records of all rows, or the failure of the first row that holds none.
def readRows (rows : List Row) : Except Failure (List LoggedAttempt) :=
  match rows.mapM Row.full with
  | .error fault => .error (.internal (listLabel ++ ": " ++ fault.message))
  | .ok full => full.mapM FullRow.attempt

def listAttempts (q : Attempt.Query) (db : Database) :
    Except Failure (List LoggedAttempt) × Database :=
  match asFailure (issueAll [(selectAttempts q, listLabel)] db) with
  | (.error f, after) => (.error f, after)
  | (.ok (), after) => (readRows after.rows, after)

-- Why the database does not answer, if it does not.
def check (db : Database) : Option String × Database :=
  match issue (plain "SELECT 1") db with
  | (.ok (), after) => (none, after)
  | (.error fault, after) => (some ("postgres check failed: " ++ fault.message), after)

end Unshare.Database
