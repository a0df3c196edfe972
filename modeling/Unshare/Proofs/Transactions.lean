import Unshare.Database.Stores
import Unshare.Policy

namespace Unshare.Database

-- The database is set to fail this statement.
def Fails (db : Database) (s : Statement) : Prop :=
  (db.failure? s).isSome = true

-- The database after it was told these statements.
def told (db : Database) (statements : List Statement) : Database :=
  { db with statements := db.statements ++ statements }

theorem told_nil (db : Database) : db.told [] = db := by
  rw [told, List.append_nil]

theorem told_told (db : Database) (a b : List Statement) : (db.told a).told b = db.told (a ++ b) := by
  simp only [told, List.append_assoc]

-- A transaction ends with its commit, with its beginning if that fails, or is rolled back behind the
-- first statement that fails.
inductive Transacted (db : Database) (statements : List Statement) : List Statement → Prop
  | notBegun (h : db.Fails beginStatement) : Transacted db statements [beginStatement]
  | committed (hbegin : ¬db.Fails beginStatement) (h : ∀ s ∈ statements, ¬db.Fails s)
    (hcommit : ¬db.Fails commitStatement) :
    Transacted db statements (beginStatement :: statements ++ [commitStatement])
  | rolledBack {front back : List Statement} {s : Statement} (hbegin : ¬db.Fails beginStatement)
    (hsplit : statements ++ [commitStatement] = front ++ s :: back) (h : ∀ q ∈ front, ¬db.Fails q)
    (hs : db.Fails s) :
    Transacted db statements (beginStatement :: front ++ [s, rollbackStatement])

section

variable {db : Database}

theorem issue_of_failure? (hopen : db.isOpen = true) {s : Statement} {message : String}
    (h : db.failure? s = some message) :
    issue s db = (.error (.refused message), db.told [s]) := by
  rw [issue, if_pos hopen, h]
  rfl

theorem issue_of_fails (hopen : db.isOpen = true) {s : Statement} (h : db.Fails s) :
    ∃ fault, issue s db = (.error fault, db.told [s]) := by
  obtain ⟨message, hmessage⟩ := Option.isSome_iff_exists.mp h
  exact ⟨.refused message, issue_of_failure? hopen hmessage⟩

theorem issue_of_not_fails (hopen : db.isOpen = true) {s : Statement} (h : ¬db.Fails s) :
    issue s db = (.ok (), db.told [s]) := by
  have hnone : db.failure? s = none := Option.not_isSome_iff_eq_none.mp h
  rw [issue, if_pos hopen, hnone]
  rfl

theorem issueAll_cons_of_error {s : Statement} {fault : Fault} {after : Database} (label : String)
    (rest : List (Statement × String)) (h : issue s db = (.error fault, after)) :
    issueAll ((s, label) :: rest) db = (.error (label ++ ": " ++ fault.message), after) := by
  simp only [issueAll, h]

theorem issueAll_cons_of_ok {s : Statement} {after : Database} (label : String)
    (rest : List (Statement × String)) (h : issue s db = (.ok (), after)) :
    issueAll ((s, label) :: rest) db = issueAll rest after := by
  simp only [issueAll, h]

-- Statements that pass are told, and those behind them are issued next.
theorem issueAll_append_of_passes (hopen : db.isOpen = true) {front : List (Statement × String)}
    (h : ∀ step ∈ front, ¬db.Fails step.1) (back : List (Statement × String)) :
    issueAll (front ++ back) db = issueAll back (db.told (front.map Prod.fst)) := by
  induction front generalizing db with
  | nil => rw [List.nil_append, List.map_nil, told_nil]
  | cons step rest ih =>
    obtain ⟨s, label⟩ := step
    obtain ⟨hs, hrest⟩ := List.forall_mem_cons.mp h
    -- What is set to fail does not depend on what was told before.
    have hopen' : (db.told [s]).isOpen = true := hopen
    rw [List.cons_append, issueAll_cons_of_ok label _ (issue_of_not_fails hopen hs),
      ih hopen' hrest, told_told]
    rfl

theorem issueAll_of_passes (hopen : db.isOpen = true) {steps : List (Statement × String)}
    (h : ∀ step ∈ steps, ¬db.Fails step.1) :
    issueAll steps db = (.ok (), db.told (steps.map Prod.fst)) := by
  rw [← List.append_nil steps, issueAll_append_of_passes hopen h, List.append_nil]
  rfl

theorem issueAll_of_failure? (hopen : db.isOpen = true) {front back : List (Statement × String)}
    {step : Statement × String} {message : String} (hfront : ∀ q ∈ front, ¬db.Fails q.1)
    (hstep : db.failure? step.1 = some message) :
    issueAll (front ++ step :: back) db =
      (.error (step.2 ++ ": " ++ (Fault.refused message).message),
        db.told (front.map Prod.fst ++ [step.1])) := by
  have hopen' : (db.told (front.map Prod.fst)).isOpen = true := hopen
  rw [issueAll_append_of_passes hopen hfront,
    issueAll_cons_of_error step.2 back (issue_of_failure? hopen' hstep), told_told]

-- Either all statements pass, or one of them is the first that fails.
theorem pass_or_first_fails (db : Database) (steps : List (Statement × String)) :
    (∀ step ∈ steps, ¬db.Fails step.1) ∨
      ∃ front step back message, steps = front ++ step :: back ∧
        (∀ q ∈ front, ¬db.Fails q.1) ∧ db.failure? step.1 = some message := by
  induction steps with
  | nil => exact .inl (by simp)
  | cons step rest ih =>
    by_cases hfails : db.Fails step.1
    · obtain ⟨message, hmessage⟩ := Option.isSome_iff_exists.mp hfails
      exact .inr ⟨[], step, rest, message, rfl, by simp, hmessage⟩
    · rcases ih with hpass | ⟨front, q, back, message, rfl, hfront, hq⟩
      · exact .inl (List.forall_mem_cons.mpr ⟨hfails, hpass⟩)
      · exact .inr ⟨step :: front, q, back, message, rfl,
          List.forall_mem_cons.mpr ⟨hfails, hfront⟩, hq⟩

-- The statements of a transaction with its ends.
def bracketed (steps : List (Statement × String)) : List (Statement × String) :=
  (beginStatement, beginLabel) :: steps ++ [(commitStatement, commitLabel)]

theorem transaction_of_begin (hopen : db.isOpen = true) (hbegin : ¬db.Fails beginStatement)
    (steps : List (Statement × String)) :
    transaction steps db = match issueAll (bracketed steps) db with
      | (.ok (), after) => (.ok (), after)
      | (.error message, after) => (.error message, after.note rollbackStatement) := by
  have hissue := issue_of_not_fails hopen hbegin
  rw [bracketed, List.cons_append, issueAll_cons_of_ok beginLabel _ hissue]
  simp only [transaction, issueAll_cons_of_ok beginLabel [] hissue]
  rfl

theorem transaction_of_passes (hopen : db.isOpen = true) {steps : List (Statement × String)}
    (h : ∀ step ∈ bracketed steps, ¬db.Fails step.1) :
    transaction steps db = (.ok (), db.told ((bracketed steps).map Prod.fst)) := by
  have hbegin : ¬db.Fails beginStatement := h (beginStatement, beginLabel) List.mem_cons_self
  rw [transaction_of_begin hopen hbegin, issueAll_of_passes hopen h]

-- The first statement that fails ends a transaction, which is rolled back if it was begun.
theorem transaction_of_failure? (hopen : db.isOpen = true)
    {steps front back : List (Statement × String)} {step : Statement × String} {message : String}
    (hsteps : bracketed steps = front ++ step :: back) (hfront : ∀ q ∈ front, ¬db.Fails q.1)
    (hstep : db.failure? step.1 = some message) :
    transaction steps db = (.error (step.2 ++ ": " ++ (Fault.refused message).message),
      db.told (front.map Prod.fst ++
        step.1 :: if front.isEmpty then [] else [rollbackStatement])) := by
  cases front with
  | nil =>
    obtain ⟨rfl, -⟩ := List.cons.inj hsteps
    have hissue := issue_of_failure? hopen hstep
    simp only [transaction, issueAll_cons_of_error beginLabel [] hissue]
    rfl
  | cons first rest =>
    obtain ⟨rfl, -⟩ := List.cons.inj hsteps
    have hbegin : ¬db.Fails beginStatement := hfront _ List.mem_cons_self
    rw [transaction_of_begin hopen hbegin, hsteps, issueAll_of_failure? hopen hfront hstep]
    show (_, (db.told _).told [rollbackStatement]) = _
    rw [told_told, List.append_assoc]
    rfl

theorem transaction_of_isOpen (hopen : db.isOpen = true) (steps : List (Statement × String)) :
    ∃ statements, (transaction steps db).2 = db.told statements ∧
      Transacted db (steps.map Prod.fst) statements := by
  rcases pass_or_first_fails db (bracketed steps) with
    hpass | ⟨front, step, back, message, hsteps, hfront, hstep⟩
  · refine ⟨_, congrArg Prod.snd (transaction_of_passes hopen hpass), ?_⟩
    obtain ⟨hbegin, hrest⟩ := List.forall_mem_cons.mp hpass
    obtain ⟨hbody, hcommit⟩ := List.forall_mem_append.mp hrest
    rw [bracketed, List.map_append, List.map_cons]
    exact .committed hbegin (List.forall_mem_map.mpr hbody)
      (hcommit (commitStatement, commitLabel) (List.mem_singleton_self _))
  · refine ⟨_, congrArg Prod.snd (transaction_of_failure? hopen hsteps hfront hstep), ?_⟩
    have hfails : db.Fails step.1 := Option.isSome_iff_exists.mpr ⟨message, hstep⟩
    cases front with
    | nil =>
      obtain ⟨rfl, -⟩ := List.cons.inj hsteps
      exact .notBegun hfails
    | cons first front =>
      obtain ⟨rfl, hrest⟩ := List.cons.inj hsteps
      have hrest : steps ++ [(commitStatement, commitLabel)] = front ++ step :: back := hrest
      obtain ⟨hbegin, hfront⟩ := List.forall_mem_cons.mp hfront
      have hsplit : steps.map Prod.fst ++ [commitStatement] =
          front.map Prod.fst ++ step.1 :: back.map Prod.fst := by
        simpa only [List.map_append, List.map_cons, List.map_nil] using
          congrArg (List.map Prod.fst) hrest
      exact .rolledBack hbegin hsplit (List.forall_mem_map.mpr hfront) hfails

-- A single statement is told whether it fails or not.
theorem issueAll_singleton_of_isOpen (hopen : db.isOpen = true) (s : Statement) (label : String) :
    (issueAll [(s, label)] db).2 = db.told [s] := by
  by_cases hfails : db.Fails s
  · obtain ⟨fault, hissue⟩ := issue_of_fails hopen hfails
    rw [issueAll_cons_of_error label [] hissue]
  · rw [issueAll_cons_of_ok label [] (issue_of_not_fails hopen hfails)]
    rfl

theorem asFailure_snd {α : Type} (outcome : Except String α × Database) :
    (asFailure outcome).2 = outcome.2 := by
  obtain ⟨_ | _, after⟩ := outcome <;> rfl

-- The statements that remove the copy of a grant.
def forgetStatements (id : GrantId) : List Statement :=
  [forgetGrants id, forgetPermission id, refreshItem id]

theorem forgetGrant_of_isOpen (hopen : db.isOpen = true) (id : GrantId) :
    ∃ statements, (forgetGrant id db).2 = db.told statements ∧
      Transacted db (forgetStatements id) statements := by
  obtain ⟨statements, htold, htransacted⟩ := transaction_of_isOpen hopen (forgetSteps id)
  exact ⟨statements, (asFailure_snd _).trans htold, htransacted⟩

theorem appendAudit_of_isOpen (hopen : db.isOpen = true) (e : AuditEvent) :
    (appendAudit e db).2 = db.told [insertAudit e] :=
  (asFailure_snd _).trans (issueAll_singleton_of_isOpen hopen _ _)

theorem appendAttempt_of_isOpen (hopen : db.isOpen = true) (a : Attempt) :
    (appendAttempt a db).2 = db.told [insertAttempt a] :=
  (asFailure_snd _).trans (issueAll_singleton_of_isOpen hopen _ _)

theorem listAttempts_of_isOpen (hopen : db.isOpen = true) (q : Attempt.Query) :
    (listAttempts q db).2 = db.told [selectAttempts q] := by
  have htold : (asFailure (issueAll [(selectAttempts q, listLabel)] db)).2 =
      db.told [selectAttempts q] :=
    (asFailure_snd _).trans (issueAll_singleton_of_isOpen hopen _ _)
  rw [listAttempts]
  generalize asFailure (issueAll [(selectAttempts q, listLabel)] db) = outcome at htold ⊢
  obtain ⟨_ | _, after⟩ := outcome <;> exact htold

theorem check_of_isOpen (hopen : db.isOpen = true) : (check db).2 = db.told [plain "SELECT 1"] := by
  rw [check]
  by_cases hfails : db.Fails (plain "SELECT 1")
  · obtain ⟨fault, hissue⟩ := issue_of_fails hopen hfails
    rw [hissue]
  · rw [issue_of_not_fails hopen hfails]

end

-- The name stands somewhere in the text of the statement.
def Mentions (s : Statement) (name : String) : Prop :=
  Policy.occursIn name.toList s.sql.toList = true

instance (s : Statement) (name : String) : Decidable (Mentions s name) :=
  inferInstanceAs (Decidable (_ = true))

-- The tables whose rows stay as they were written.
def recordTables : List String := ["audit_log_entries", "revoke_permission_logs"]

-- A statement that does no more to these tables than to add rows or to read them.
def Spares (s : Statement) : Prop :=
  ∀ table ∈ recordTables, Mentions s table →
    startsWith "INSERT INTO " s.sql = true ∨ startsWith "SELECT " s.sql = true

theorem startsWith_append {start a : String} (h : startsWith start a = true) (b : String) :
    startsWith start (a ++ b) = true := by
  simp only [startsWith, String.toList_append, List.isPrefixOf_iff_prefix] at h ⊢
  exact h.trans (List.prefix_append _ _)

theorem spares_insertAudit (e : AuditEvent) : Spares (insertAudit e) := by
  intro table _ _
  refine .inl (startsWith_append ?_ _)
  rw [startsWith, String.toList_ofList, String.toList_ofList]
  decide

theorem spares_insertAttempt (a : Attempt) : Spares (insertAttempt a) := by
  intro table _ _
  refine .inl (startsWith_append (startsWith_append ?_ _) _)
  rw [startsWith, String.toList_ofList, String.toList_ofList]
  decide

theorem spares_selectAttempts (q : Attempt.Query) : Spares (selectAttempts q) := by
  intro table _ _
  refine .inr ?_
  iterate 4 apply startsWith_append
  rw [startsWith, String.toList_ofList, String.toList_ofList]
  decide

theorem spares_check : Spares (plain "SELECT 1") := by
  intro table _ _
  refine .inr ?_
  decide

theorem not_mentions_ends : ∀ s ∈ [beginStatement, commitStatement, rollbackStatement],
    ∀ table ∈ recordTables, ¬Mentions s table := by
  simp only [List.forall_mem_cons]
  decide +kernel

theorem not_mentions_of_chars {s : Statement} {chars : List Char}
    (hsql : s.sql = String.ofList chars)
    (h : ∀ table ∈ recordTables, Policy.occursIn table.toList chars = false) :
    ∀ table ∈ recordTables, ¬Mentions s table := by
  intro table htable
  rw [Mentions, hsql, String.toList_ofList, h table htable]
  exact Bool.false_ne_true

theorem not_mentions_forget (id : GrantId) : ∀ s ∈ forgetStatements id,
    ∀ table ∈ recordTables, ¬Mentions s table := by
  simp only [forgetStatements, List.forall_mem_cons, List.not_mem_nil, false_implies, implies_true,
    and_true]
  refine ⟨?_, ?_, ?_⟩
  · exact not_mentions_of_chars String.ofList_append.symm (by decide +kernel)
  · exact not_mentions_of_chars String.ofList_append.symm (by decide +kernel)
  · exact not_mentions_of_chars
      ((congrArg (· ++ _) String.ofList_append.symm).trans String.ofList_append.symm)
      (by decide +kernel)

theorem mem_of_transacted {db : Database} {body statements : List Statement}
    (h : Transacted db body statements) {s : Statement} (hs : s ∈ statements) :
    s ∈ [beginStatement, commitStatement, rollbackStatement] ∨ s ∈ body := by
  cases h with
  | notBegun hbegin =>
    rw [List.mem_singleton.mp hs]
    exact .inl List.mem_cons_self
  | committed hbegin hbody hcommit =>
    simp only [List.mem_append, List.mem_cons, List.not_mem_nil, or_false] at hs ⊢
    grind
  | @rolledBack front back q hbegin hsplit hfront hfails =>
    have hmem : ∀ r, r ∈ front ++ q :: back ↔ r ∈ body ++ [commitStatement] := by
      rw [hsplit]
      exact fun _ => Iff.rfl
    have hissued := hmem s
    simp only [List.mem_append, List.mem_cons, List.not_mem_nil, or_false] at hs hissued ⊢
    grind

-- No transaction that removes a copy touches the records.
theorem spares_of_transacted {db : Database} {id : GrantId} {statements : List Statement}
    (h : Transacted db (forgetStatements id) statements) : ∀ s ∈ statements, Spares s := by
  intro s hs table htable hmentions
  rcases mem_of_transacted h hs with hend | hbody
  · exact absurd hmentions (not_mentions_ends s hend table htable)
  · exact absurd hmentions (not_mentions_forget id s hbody table htable)

end Unshare.Database
