import Unshare.Actor
import Unshare.Grant

namespace Unshare

-- How far an attempt came.
inductive Stage
  | validation
  | fetching
  | removing
  | completed
deriving DecidableEq, Repr

namespace Stage

def code : Stage → String
  | .validation => "validation"
  | .fetching => "graph_get_permission"
  | .removing => "graph_delete_permission"
  | .completed => "completed"

def all : List Stage :=
  [.validation, .fetching, .removing, .completed]

def ofCode? (code : String) : Option Stage :=
  all.find? fun stage => stage.code == code

def toJson (stage : Stage) : Json :=
  .string stage.code

def ofJson? (j : Json) : Option Stage :=
  j.variantName?.bind ofCode?

end Stage

inductive Outcome
  | success
  | failed
deriving DecidableEq, Repr

namespace Outcome

def code : Outcome → String
  | .success => "success"
  | .failed => "failed"

def ofCode? : String → Option Outcome
  | "success" => some .success
  | "failed" => some .failed
  | _ => none

def toJson (outcome : Outcome) : Json :=
  .string outcome.code

def ofJson? (j : Json) : Option Outcome :=
  j.variantName?.bind ofCode?

theorem ofCode?_code (o : Outcome) : ofCode? o.code = some o := by
  cases o <;> rfl

theorem ofCode?_eq_some_iff {code : String} {o : Outcome} :
    ofCode? code = some o ↔ code = o.code := by
  constructor
  · intro h
    unfold ofCode? at h
    split at h <;> simp_all [Outcome.code]
    · subst h; rfl
    · subst h; rfl
  · rintro rfl
    exact ofCode?_code o

end Outcome

-- What the audit trail can tell of.
inductive AuditAction
  | permissionDeleted
deriving DecidableEq, Repr

namespace AuditAction

def code : AuditAction → String
  | .permissionDeleted => "permission_deleted"

def ofCode? : String → Option AuditAction
  | "permission_deleted" => some .permissionDeleted
  | _ => none

def toJson (action : AuditAction) : Json :=
  .string action.code

def ofJson? (j : Json) : Option AuditAction :=
  j.variantName?.bind ofCode?

end AuditAction

-- The forensic record of one attempt.
structure Attempt where
  actor : Option Actor
  drive : Option String
  item : Option String
  permission : Option String
  outcome : Outcome
  reason : Option String
  warning : Option String
  source : String
  details : Json

-- A record as it is kept: with its number and the time it was written.
structure LoggedAttempt extends Attempt where
  number : Int
  occurredAt : String

-- One entry of the audit trail.
structure AuditEvent where
  actor : Option Actor
  action : AuditAction
  entityType : String
  entityId : String
  details : Json

namespace Attempt

def maxReasonLength : Nat := 240
def maxWarningLength : Nat := 500

-- What follows the first `>`, if there is one.
def afterClosing? : List Char → Option (List Char)
  | [] => none
  | c :: rest => if c = '>' then some rest else afterClosing? rest

theorem length_afterClosing? {cs rest : List Char} (h : afterClosing? cs = some rest) :
    rest.length < cs.length := by
  induction cs with
  | nil => simp [afterClosing?] at h
  | cons c tail ih =>
    simp only [afterClosing?] at h
    split at h
    · cases h; simp
    · exact Nat.lt_succ_of_lt (ih h)

-- Leaves out each part from a `<` to the next `>`, and any bracket that is left over.
def stripMarkup : List Char → List Char
  | [] => []
  | c :: rest =>
    if c = '<' then
      match _h : afterClosing? rest with
      | some tail => stripMarkup tail
      | none => stripMarkup rest
    else if c = '>' then stripMarkup rest
    else c :: stripMarkup rest
termination_by cs => cs.length
decreasing_by
  · exact Nat.lt_succ_of_lt (length_afterClosing? _h)
  · simp
  · simp
  · simp

-- A failure reason in the form in which it is kept.
def sanitizeReason (reason : String) : String :=
  Text.truncate maxReasonLength (Text.trim (String.ofList (stripMarkup reason.toList)))

-- A warning in the form in which it is kept.
def boundWarning (warning : String) : String :=
  Text.truncate maxWarningLength (Text.trim warning)

theorem stripMarkup_bracket_free (cs : List Char) :
    '<' ∉ stripMarkup cs ∧ '>' ∉ stripMarkup cs := by
  fun_induction stripMarkup cs with
  | case1 => simp
  | case2 rest tail h ih => exact ih
  | case3 rest h ih => exact ih
  | case4 rest h ih => exact ih
  | case5 c rest ho hc ih =>
    simp only [List.mem_cons, not_or]
    exact ⟨⟨fun e => ho e.symm, ih.1⟩, ⟨fun e => hc e.symm, ih.2⟩⟩

theorem sanitizeReason_bracket_free (reason : String) :
    '<' ∉ (sanitizeReason reason).toList ∧ '>' ∉ (sanitizeReason reason).toList := by
  have kept {c : Char} (h : c ∈ (sanitizeReason reason).toList) :
      c ∈ stripMarkup reason.toList := by
    have := Text.mem_of_mem_truncate h
    rw [Text.toList_trim, String.toList_ofList] at this
    exact Text.mem_of_mem_trimChars this
  have hfree := stripMarkup_bracket_free reason.toList
  exact ⟨fun h => hfree.1 (kept h), fun h => hfree.2 (kept h)⟩

theorem length_sanitizeReason_le (reason : String) :
    (sanitizeReason reason).length ≤ maxReasonLength :=
  Text.length_truncate_le _ _

theorem length_boundWarning_le (warning : String) :
    (boundWarning warning).length ≤ maxWarningLength :=
  Text.length_truncate_le _ _

end Attempt

end Unshare
