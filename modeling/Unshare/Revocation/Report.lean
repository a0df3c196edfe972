import Unshare.Attempt

namespace Unshare

structure Report where
  actor : Option Actor
  drive : Option String
  item : Option String
  permission : Option String
  outcome : Outcome
  stage : Stage
  reason : Option String
  warning : Option String
  source : Option String
  details : Json.Fields

namespace Report

-- The source that a record names where the caller names none.
def standardSource : String :=
  "item_permissions_revoke"

-- The text, unless it is empty.
def nonEmpty (s : Option String) : Option String :=
  s.filter fun t => !t.isEmpty

def keptReason (r : Report) : Option String :=
  match r.outcome with
  | .failed => nonEmpty (r.reason.map Attempt.sanitizeReason)
  | .success => none

def keptWarning (r : Report) : Option String :=
  match r.outcome with
  | .success => nonEmpty (r.warning.map Attempt.boundWarning)
  | .failed => none

-- The record kept of the attempt.
def toAttempt (defaultSource : String) (r : Report) : Attempt where
  actor := Actor.known r.actor
  drive := r.drive
  item := r.item
  permission := r.permission
  outcome := r.outcome
  reason := r.keptReason
  warning := r.keptWarning
  source := (Text.nonBlank r.source).getD defaultSource
  details := .object (r.details.insert "stage" (.string r.stage.code))

theorem keptReason_of_success {r : Report} (h : r.outcome = .success) : r.keptReason = none := by
  simp [keptReason, h]

theorem keptWarning_of_failed {r : Report} (h : r.outcome = .failed) : r.keptWarning = none := by
  simp [keptWarning, h]

-- Whatever the details say of the stage, the record names the stage the attempt came to.
theorem stage_toAttempt (defaultSource : String) (r : Report) :
    ∃ fields, (r.toAttempt defaultSource).details = .object fields ∧
      Json.Fields.get? "stage" fields = some (.string r.stage.code) :=
  ⟨_, rfl, Json.Fields.get?_insert_self _ _ _⟩

end Report

end Unshare
