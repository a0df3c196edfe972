import Unshare.Database.Stores
import Unshare.Text.Split

namespace Unshare.Database

-- Brackets and commas are words of their own.
def isMark (c : Char) : Bool :=
  c = '(' || c = ')' || c = ','

def setApart (c : Char) : List Char :=
  if isMark c then [' ', c, ' '] else [c]

def wordsOf (chars : List Char) : List String :=
  ((Text.splitOn ' ' (chars.flatMap setApart)).filter (!·.isEmpty)).map String.ofList

def Statement.words (s : Statement) : List String :=
  wordsOf s.sql.toList

-- What a row must meet: its column holds the parameter, or does so if the parameter is not null.
inductive Condition
  | equals (column : String) (place : Nat)
  | equalsIfGiven (column : String) (place : Nat)
deriving DecidableEq

-- What a column is set to.
inductive Setting
  | null
  | now
deriving DecidableEq

inductive Change
  | delete (table : String) (conditions : List Condition)
  | update (table : String) (settings : List (String × Setting)) (conditions : List Condition)
deriving DecidableEq

inductive Command
  | start
  | commit
  | rollback
  | change (c : Change)
deriving DecidableEq

-- One row for a table, each column with the place of its parameter.
structure Insertion where
  table : String
  columns : List String
  places : List Nat
deriving DecidableEq

inductive Direction
  | ascending
  | descending
deriving DecidableEq

structure Selection where
  columns : List String
  table : String
  conditions : List Condition
  order : List (String × Direction)
  limit : Nat
  offset : Nat
deriving DecidableEq

-- The place of a parameter; the type behind a `::` leaves it as it is.
def place? (word : String) : Option Nat :=
  match word.toList with
  | '$' :: rest => Text.Decimal.read? Text.maxWord16 (String.ofList (Text.breakOn ':' rest).1)
  | _ => none

def condition? : List String → Option Condition
  | [column, "=", place] => (place? place).map (.equals column)
  | ["(", place, "IS", "NULL", "OR", column, "=", again, ")"] =>
    if place? again = place? place then (place? place).map (.equalsIfGiven column) else none
  | _ => none

def conditions? (words : List String) : Option (List Condition) :=
  (Text.splitOn "AND" words).mapM condition?

def setting? : List String → Option (String × Setting)
  | [column, "=", "NULL"] => some (column, .null)
  | [column, "=", "now", "(", ")"] => some (column, .now)
  | _ => none

def single? : List String → Option String
  | [word] => some word
  | _ => none

def key? : List String → Option (String × Direction)
  | [column, "ASC"] => some (column, .ascending)
  | [column, "DESC"] => some (column, .descending)
  | _ => none

-- The list whose members are read one by one between the commas.
def listed? {α : Type} (read? : List String → Option α) (words : List String) : Option (List α) :=
  (Text.splitOn "," words).mapM read?

def Command.ofWords? : List String → Option Command
  | ["BEGIN"] => some .start
  | ["COMMIT"] => some .commit
  | ["ROLLBACK"] => some .rollback
  | "DELETE" :: "FROM" :: table :: "WHERE" :: rest =>
    (conditions? rest).map fun conditions => .change (.delete table conditions)
  | "UPDATE" :: table :: "SET" :: rest =>
    match Text.breakOn "WHERE" rest with
    | (settings, some conditions) => do
      return .change (.update table (← listed? setting? settings) (← conditions? conditions))
    | _ => none
  | _ => none

def Insertion.ofWords? : List String → Option Insertion
  | "INSERT" :: "INTO" :: table :: "(" :: rest =>
    match Text.breakOn ")" rest with
    | (columns, some ("VALUES" :: "(" :: rest)) =>
      match Text.breakOn ")" rest with
      | (places, some []) => do
        return ⟨table, ← listed? single? columns, ← listed? (single? · >>= place?) places⟩
      | _ => none
    | _ => none
  | _ => none

def Selection.ofWords? : List String → Option Selection
  | "SELECT" :: rest =>
    match Text.breakOn "FROM" rest with
    | (columns, some (table :: "WHERE" :: rest)) =>
      match Text.breakOn "ORDER" rest with
      | (conditions, some ("BY" :: rest)) =>
        match Text.breakOn "LIMIT" rest with
        | (order, some [limit, "OFFSET", offset]) => do
          return ⟨← listed? single? columns, table, ← conditions? conditions, ← listed? key? order,
            ← place? limit, ← place? offset⟩
        | _ => none
      | _ => none
    | _ => none
  | _ => none

def Statement.command? (s : Statement) : Option Command :=
  Command.ofWords? s.words

def Statement.insertion? (s : Statement) : Option Insertion :=
  Insertion.ofWords? s.words

def Statement.selection? (s : Statement) : Option Selection :=
  Selection.ofWords? s.words

theorem words_of_chars {s : Statement} {chars : List Char} (h : s.sql = String.ofList chars) :
    s.words = wordsOf chars := by
  rw [Statement.words, h, String.toList_ofList]

-- A text put together of spelt texts is spelt by their characters.
theorem append_eq_ofList {a b : String} {as bs : List Char} (ha : a = String.ofList as)
    (hb : b = String.ofList bs) : a ++ b = String.ofList (as ++ bs) := by
  rw [ha, hb, String.ofList_append]

theorem command?_begin : beginStatement.command? = some .start := by
  decide +kernel

theorem command?_commit : commitStatement.command? = some .commit := by
  decide +kernel

theorem command?_rollback : rollbackStatement.command? = some .rollback := by
  decide +kernel

def grantConditions : List Condition :=
  [.equals "drive_id" 1, .equals "item_id" 2, .equals "permission_id" 3]

theorem command?_forgetGrants (id : GrantId) : (forgetGrants id).command? =
    some (.change (.delete "msgraph_drive_item_permission_grants" grantConditions)) := by
  rw [Statement.command?, words_of_chars (append_eq_ofList rfl rfl)]
  decide +kernel

theorem command?_forgetPermission (id : GrantId) : (forgetPermission id).command? =
    some (.change (.delete "msgraph_drive_item_permissions" grantConditions)) := by
  rw [Statement.command?, words_of_chars (append_eq_ofList rfl rfl)]
  decide +kernel

theorem command?_refreshItem (id : GrantId) : (refreshItem id).command? =
    some (.change (.update "msgraph_drive_items"
      [("permissions_last_synced_at", .now), ("permissions_last_error_at", .null),
        ("permissions_last_error", .null)]
      [.equals "drive_id" 1, .equals "id" 2])) := by
  rw [Statement.command?, words_of_chars (append_eq_ofList (append_eq_ofList rfl rfl) rfl)]
  decide +kernel

-- How an attempt is added to the log.
def logInsertion : Insertion :=
  ⟨"revoke_permission_logs",
    ["actor_oid", "actor_upn", "actor_name", "drive_id", "item_id", "permission_id", "outcome",
      "failure_reason", "warning", "source", "details"],
    [1, 2, 3, 4, 5, 6, 7, 8, 9, 10, 11]⟩

theorem insertion?_insertAttempt (a : Attempt) :
    (insertAttempt a).insertion? = some logInsertion := by
  rw [Statement.insertion?, words_of_chars (append_eq_ofList (append_eq_ofList rfl rfl) rfl)]
  decide +kernel

-- How an event is added to the audit trail.
def auditInsertion : Insertion :=
  ⟨"audit_log_entries",
    ["actor_oid", "actor_upn", "actor_name", "action", "entity_type", "entity_id", "details"],
    [1, 2, 3, 4, 5, 6, 7]⟩

theorem insertion?_insertAudit (e : AuditEvent) :
    (insertAudit e).insertion? = some auditInsertion := by
  rw [Statement.insertion?, words_of_chars (append_eq_ofList rfl rfl)]
  decide +kernel

-- How the log is asked for attempts.
def logSelection : Selection where
  columns := ["id", "occurred_at", "actor_oid", "actor_upn", "actor_name", "drive_id", "item_id",
    "permission_id", "outcome", "failure_reason", "warning", "source", "details"]
  table := "revoke_permission_logs"
  conditions :=
    [.equalsIfGiven "drive_id" 1, .equalsIfGiven "item_id" 2, .equalsIfGiven "outcome" 3]
  order := [("occurred_at", .descending), ("id", .descending)]
  limit := 4
  offset := 5

theorem selection?_selectAttempts (q : Attempt.Query) :
    (selectAttempts q).selection? = some logSelection := by
  rw [Statement.selection?, words_of_chars (append_eq_ofList (append_eq_ofList (append_eq_ofList
    (append_eq_ofList rfl rfl) rfl) rfl) rfl)]
  decide +kernel

end Unshare.Database
