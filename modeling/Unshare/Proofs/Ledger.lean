import Mathlib.Data.List.Forall2
import Unshare.Proofs.Addressing
import Unshare.Proofs.Tables
import Unshare.Revocation.Basic

namespace Unshare.Database

-- The record that an insertion adds to its table. Columns without a parameter are null.
def Insertion.record (i : Insertion) (params : List Param) : Record := fun column =>
  (((i.columns.zip i.places).lookup column).bind (param? params)).elim .null Param.value

-- The statement adds this record to the table; each column that it names has a parameter.
def Statement.Inserts (q : Statement) (table : String) (record : Record) : Prop :=
  ∃ insertion, q.insertion? = some insertion ∧ insertion.table = table ∧
    insertion.columns.length = insertion.places.length ∧
    (∀ place ∈ insertion.places, (param? q.params place).isSome) ∧
    insertion.record q.params = record

-- What a column holds of a text: the text without the blanks around it, or nothing where nothing
-- else is left or no text is given.
inductive HoldsTrimmed : Option String → Value → Prop
  | visible {text : String} : Text.isBlank text = false →
    HoldsTrimmed (some text) (.text (Text.trim text))
  | blank {text : String} : Text.isBlank text = true → HoldsTrimmed (some text) .null
  | missing : HoldsTrimmed none .null

-- The statement adds an attempt on what the request asks for to the log, with this outcome.
def LogsAttempt (r : RevokeRequest) (outcome : String) (q : Statement) : Prop :=
  ∃ record, q.Inserts "revoke_permission_logs" record ∧ record "outcome" = .text outcome ∧
    HoldsTrimmed r.drive (record "drive_id") ∧ HoldsTrimmed r.item (record "item_id") ∧
    HoldsTrimmed r.permission (record "permission_id")

-- The statement adds the removal of the grant to the audit trail.
def AuditsRemoval (id : GrantId) (q : Statement) : Prop :=
  ∃ record, q.Inserts "audit_log_entries" record ∧
    record "action" = .text "permission_deleted" ∧
    record "entity_type" = .text "drive_item_permission" ∧
    record "entity_id" = .text (id.drive ++ ":" ++ id.item ++ ":" ++ id.permission)

-- The commands that remove the copy of a grant in one transaction, each with its parameters.
def copyRemoval (id : GrantId) : List (Command × List Param) :=
  [(.start, []),
   (.change (.delete "msgraph_drive_item_permission_grants"
      [.equals "drive_id" 1, .equals "item_id" 2, .equals "permission_id" 3]),
    [.text id.drive, .text id.item, .text id.permission]),
   (.change (.delete "msgraph_drive_item_permissions"
      [.equals "drive_id" 1, .equals "item_id" 2, .equals "permission_id" 3]),
    [.text id.drive, .text id.item, .text id.permission]),
   (.change (.update "msgraph_drive_items"
      [("permissions_last_synced_at", .now), ("permissions_last_error_at", .null),
        ("permissions_last_error", .null)]
      [.equals "drive_id" 1, .equals "id" 2]),
    [.text id.drive, .text id.item]),
   (.commit, [])]

def Spells (q : Statement) (command : Command × List Param) : Prop :=
  q.command? = some command.1 ∧ q.params = command.2

-- What is told of the statements of a transaction: all of them, or those up to the first that
-- fails. One that fails behind the first is followed by a rollback.
inductive Carried (db : Database) (plan : List Statement) : List Statement → Prop
  | whole (h : ∀ q ∈ plan, ¬db.Fails q) : Carried db plan plan
  | notBegun {q : Statement} {back : List Statement} (hsplit : plan = q :: back)
    (hq : db.Fails q) : Carried db plan [q]
  | rolledBack {front back : List Statement} {q rollback : Statement}
    (hsplit : plan = front ++ q :: back) (hbegun : front ≠ []) (h : ∀ p ∈ front, ¬db.Fails p)
    (hq : db.Fails q) (hrollback : Spells rollback (.rollback, [])) :
    Carried db plan (front ++ [q, rollback])

-- The copy of the grant is removed, as far as its transaction gets.
def ForgetsCopy (db : Database) (id : GrantId) (told : List Statement) : Prop :=
  ∃ plan, List.Forall₂ Spells plan (copyRemoval id) ∧ Carried db plan told

-- An attempt on what the request asks for, with this outcome.
structure Attempts (r : RevokeRequest) (outcome : Outcome) (a : Attempt) : Prop where
  outcome : a.outcome = outcome
  drive : a.drive = Text.present r.drive
  item : a.item = Text.present r.item
  permission : a.permission = Text.present r.permission

theorem holdsTrimmed_present (s : Option String) :
    HoldsTrimmed s (Param.ofText (Text.present s)).value := by
  cases s with
  | none => exact .missing
  | some text =>
    cases hblank : Text.isBlank text with
    | true =>
      rw [Text.present_of_isBlank hblank]
      exact .blank hblank
    | false =>
      rw [Text.present_of_not_isBlank hblank]
      exact .visible hblank

theorem isSome_param?_iff (params : List Param) (place : Nat) :
    (param? params place).isSome ↔ 0 < place ∧ place ≤ params.length := by
  cases place with
  | zero => simp [param?]
  | succ place =>
    rw [param?, isSome_getElem?]
    omega

theorem inserts_of_insertion? {q : Statement} {i : Insertion} {count : Nat}
    (h : q.insertion? = some i) (hcount : q.params.length = count)
    (hcolumns : i.columns.length = i.places.length)
    (hplaces : ∀ place ∈ i.places, 0 < place ∧ place ≤ count) :
    q.Inserts i.table (i.record q.params) := by
  refine ⟨i, h, rfl, hcolumns, fun place hplace => ?_, rfl⟩
  rw [isSome_param?_iff, hcount]
  exact hplaces place hplace

theorem inserts_insertAttempt (a : Attempt) : (insertAttempt a).Inserts "revoke_permission_logs"
    (logInsertion.record (insertAttempt a).params) := by
  have hcount : (insertAttempt a).params.length = 11 := rfl
  exact inserts_of_insertion? (insertion?_insertAttempt a) hcount rfl (by decide)

-- What is told of an attempt in two of the columns.
theorem outcome_logged (a : Attempt) :
    logInsertion.record (insertAttempt a).params "outcome" = .text a.outcome.code := rfl

theorem reason_logged (a : Attempt) :
    logInsertion.record (insertAttempt a).params "failure_reason" = (Param.ofText a.reason).value :=
  rfl

theorem logsAttempt_insertAttempt {r : RevokeRequest} {outcome : Outcome} {a : Attempt}
    (h : Attempts r outcome a) : LogsAttempt r outcome.code (insertAttempt a) := by
  refine ⟨_, inserts_insertAttempt a, ?_, ?_, ?_, ?_⟩
  · rw [outcome_logged, h.outcome]
  · have hdrive := holdsTrimmed_present r.drive
    rwa [← h.drive] at hdrive
  · have hitem := holdsTrimmed_present r.item
    rwa [← h.item] at hitem
  · have hpermission := holdsTrimmed_present r.permission
    rwa [← h.permission] at hpermission

theorem inserts_insertAudit (e : AuditEvent) : (insertAudit e).Inserts "audit_log_entries"
    (auditInsertion.record (insertAudit e).params) := by
  have hcount : (insertAudit e).params.length = 7 := rfl
  exact inserts_of_insertion? (insertion?_insertAudit e) hcount rfl (by decide)

theorem auditsRemoval_insertAudit (c : Revocation.Context) (g : Grant) (id : GrantId) :
    AuditsRemoval id (insertAudit (c.auditEvent g id)) :=
  ⟨_, inserts_insertAudit _, rfl, rfl, rfl⟩

theorem forgetsCopy_of_transacted {db : Database} {id : GrantId} {told : List Statement}
    (h : Transacted db (forgetStatements id) told) : ForgetsCopy db id told := by
  refine ⟨beginStatement :: forgetStatements id ++ [commitStatement], ?_, ?_⟩
  · refine .cons ⟨command?_begin, rfl⟩ (.cons ⟨command?_forgetGrants id, rfl⟩
      (.cons ⟨command?_forgetPermission id, rfl⟩ (.cons ⟨command?_refreshItem id, rfl⟩
        (.cons ⟨command?_commit, rfl⟩ .nil))))
  · cases h with
    | notBegun hbegin => exact .notBegun rfl hbegin
    | committed hbegin hbody hcommit =>
      refine .whole ?_
      rw [List.cons_append, List.forall_mem_cons, List.forall_mem_append, List.forall_mem_singleton]
      exact ⟨hbegin, hbody, hcommit⟩
    | @rolledBack front back q hbegin hsplit hfront hq =>
      exact .rolledBack (by rw [List.cons_append, hsplit, List.cons_append])
        (List.cons_ne_nil _ _) (List.forall_mem_cons.mpr ⟨hbegin, hfront⟩) hq
        ⟨command?_rollback, rfl⟩

end Unshare.Database
