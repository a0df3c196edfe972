import Unshare.Proofs.Tables

namespace Unshare.Database

def Record.has (record : Record) (column text : String) : Bool :=
  (record column).equals (.text text)

-- The row belongs to the permission.
def belongsTo (id : GrantId) (record : Record) : Bool :=
  record.has "drive_id" id.drive && record.has "item_id" id.item &&
    record.has "permission_id" id.permission

-- The row is the one of the item.
def isItemOf (id : GrantId) (record : Record) : Bool :=
  record.has "drive_id" id.drive && record.has "id" id.item

-- The item as it was brought up to date at this moment.
def refreshed (moment : Int) (record : Record) : Record := fun column =>
  if column = "permissions_last_synced_at" then .instant moment
  else if column = "permissions_last_error_at" ∨ column = "permissions_last_error" then .null
  else record column

def grantsTable : String := "msgraph_drive_item_permission_grants"
def permissionsTable : String := "msgraph_drive_item_permissions"
def itemsTable : String := "msgraph_drive_items"

-- The rows of the permission are gone, its item is brought up to date, and all else is as it was.
structure Forgotten (id : GrantId) (moment : Int) (before after : Tables) : Prop where
  grants : after grantsTable = (before grantsTable).filter fun r => !belongsTo id r
  permissions : after permissionsTable =
    (before permissionsTable).filter fun r => !belongsTo id r
  items : after itemsTable = (before itemsTable).map fun r =>
    if isItemOf id r then refreshed moment r else r
  others : ∀ table, table ∉ [grantsTable, permissionsTable, itemsTable] →
    after table = before table

-- Every grant row refers to a permission row.
def References (tables : Tables) : Prop :=
  ∀ g ∈ tables grantsTable, ∃ p ∈ tables permissionsTable,
    ∀ column ∈ ["drive_id", "item_id", "permission_id"], p column = g column

-- The statements of a removal in their order, each with what is said if it fails.
def removal (id : GrantId) : List (Statement × String) :=
  [(beginStatement, "failed to begin transaction"),
   (forgetGrants id, "failed to delete cached permission grants"),
   (forgetPermission id, "failed to delete cached permission"),
   (refreshItem id, "failed to update item permission sync state"),
   (commitStatement, "failed to commit transaction")]

-- How a removal ends, with what result, after which statements and with which tables. The database
-- is not reached, or all statements pass, or one of them is the first that fails.
inductive Ends (db : Database) (id : GrantId) (moment : Int) (tables : Tables) :
    Except Failure Unit → List Statement → Tables → Prop
  | unreached (hclosed : db.isOpen = false) :
    Ends db id moment tables (.error (.internal ("failed to begin transaction" ++ ": " ++
      "attempted to acquire a connection on a closed pool"))) [] tables
  | complete {after : Tables} (hopen : db.isOpen = true)
      (hpass : ∀ step ∈ removal id, ¬db.Fails step.1) (hafter : Forgotten id moment tables after) :
    Ends db id moment tables (.ok ()) ((removal id).map Prod.fst) after
  | broken {front back : List (Statement × String)} {step : Statement × String} {message : String}
      (hopen : db.isOpen = true) (hsteps : removal id = front ++ step :: back)
      (hfront : ∀ q ∈ front, ¬db.Fails q.1) (hstep : db.failure? step.1 = some message) :
    Ends db id moment tables
      (.error (.internal (step.2 ++ ": " ++ ("error returned from database: " ++ message))))
      (front.map Prod.fst ++ step.1 :: if front.isEmpty then [] else [rollbackStatement]) tables

section

variable {id : GrantId} {moment : Int} {tables : Tables}

theorem meetsAll_grantConditions (id : GrantId) (record : Record) :
    meetsAll (grantParams id) grantConditions record = belongsTo id record := by
  simp only [meetsAll, grantConditions, List.all_cons, List.all_nil, Bool.and_true, belongsTo,
    Bool.and_assoc]
  rfl

theorem effect_forgetGrants (tables : Tables) : effect moment tables (forgetGrants id) =
    tables.replace grantsTable ((tables grantsTable).filter fun r => !belongsTo id r) := by
  rw [effect, command?_forgetGrants]
  simp only [Change.act, ← meetsAll_grantConditions]
  rfl

theorem effect_forgetPermission (tables : Tables) : effect moment tables (forgetPermission id) =
    tables.replace permissionsTable
      ((tables permissionsTable).filter fun r => !belongsTo id r) := by
  rw [effect, command?_forgetPermission]
  simp only [Change.act, ← meetsAll_grantConditions]
  rfl

theorem effect_refreshItem (tables : Tables) : effect moment tables (refreshItem id) =
    tables.replace itemsTable ((tables itemsTable).map fun r =>
      if isItemOf id r then refreshed moment r else r) := by
  have hset : ∀ r : Record, [("permissions_last_synced_at", Setting.now),
      ("permissions_last_error_at", .null), ("permissions_last_error", .null)].foldl
        (fun r setting => r.set setting.1 (setting.2.value moment)) r = refreshed moment r := by
    intro r
    funext column
    simp only [List.foldl_cons, List.foldl_nil, Record.set, Setting.value, refreshed]
    grind
  have hmeets : ∀ r, meetsAll (refreshItem id).params [.equals "drive_id" 1, .equals "id" 2] r =
      isItemOf id r := by
    intro r
    simp only [meetsAll, List.all_cons, List.all_nil, Bool.and_true]
    rfl
  rw [effect, command?_refreshItem]
  simp only [Change.act, hset, hmeets]
  rfl

theorem isChange_of_mem_forgetStatements {q : Statement} (h : q ∈ forgetStatements id) :
    IsChange q := by
  simp only [forgetStatements, List.mem_cons, List.not_mem_nil, or_false] at h
  rcases h with rfl | rfl | rfl
  · exact ⟨_, command?_forgetGrants id⟩
  · exact ⟨_, command?_forgetPermission id⟩
  · exact ⟨_, command?_refreshItem id⟩

theorem forgotten_foldl_effect (tables : Tables) :
    Forgotten id moment tables ((forgetStatements id).foldl (effect moment) tables) := by
  rw [forgetStatements, List.foldl_cons, List.foldl_cons, List.foldl_cons, List.foldl_nil,
    effect_forgetGrants, effect_forgetPermission, effect_refreshItem]
  constructor
  · simp [Tables.replace, grantsTable, permissionsTable, itemsTable]
  · simp [Tables.replace, grantsTable, permissionsTable, itemsTable]
  · simp [Tables.replace, grantsTable, permissionsTable, itemsTable]
  · intro table htable
    simp only [List.mem_cons, List.not_mem_nil, or_false, not_or] at htable
    simp [Tables.replace, htable]

theorem belongsTo_congr {r r' : Record}
    (h : ∀ column ∈ ["drive_id", "item_id", "permission_id"], r column = r' column) :
    belongsTo id r = belongsTo id r' := by
  simp only [belongsTo, Record.has, h "drive_id" (by simp), h "item_id" (by simp),
    h "permission_id" (by simp)]

theorem references_forgetGrants (id : GrantId) (moment : Int) (h : References tables) :
    References (effect moment tables (forgetGrants id)) ∧
      ∀ g ∈ effect moment tables (forgetGrants id) grantsTable, belongsTo id g = false := by
  simp only [effect_forgetGrants, Tables.replace, if_true, References]
  refine ⟨?_, ?_⟩
  · intro g hg
    exact h g (List.mem_filter.mp hg).1
  · intro g hg
    simpa using (List.mem_filter.mp hg).2

-- The permission row can go once no grant row refers to it.
theorem references_forgetPermission (moment : Int) (h : References tables)
    (hgone : ∀ g ∈ tables grantsTable, belongsTo id g = false) :
    References (effect moment tables (forgetPermission id)) := by
  rw [effect_forgetPermission]
  intro g hg
  have hg : g ∈ tables grantsTable := hg
  obtain ⟨p, hp, hsame⟩ := h g hg
  refine ⟨p, ?_, hsame⟩
  have hkept : belongsTo id p = false := by rw [belongsTo_congr hsame, hgone g hg]
  exact List.mem_filter.mpr ⟨hp, by rw [hkept]; rfl⟩

theorem references_refreshItem (id : GrantId) (moment : Int) (h : References tables) :
    References (effect moment tables (refreshItem id)) := by
  rw [effect_refreshItem]
  exact h

theorem references_of_prefix (h : References tables) {done : List Statement}
    (hdone : done <+: forgetStatements id) : References (done.foldl (effect moment) tables) := by
  obtain ⟨hfirst, hgone⟩ := references_forgetGrants id moment h
  have hsecond := references_forgetPermission moment hfirst hgone
  have hthird := references_refreshItem id moment hsecond
  simp only [forgetStatements, List.prefix_cons_iff, List.prefix_nil] at hdone
  rcases hdone with rfl | ⟨_, rfl, rfl | ⟨_, rfl, rfl | ⟨_, rfl, rfl⟩⟩⟩
  · exact h
  · rw [List.foldl_cons, List.foldl_nil]
    exact hfirst
  · rw [List.foldl_cons, List.foldl_cons, List.foldl_nil]
    exact hsecond
  · rw [List.foldl_cons, List.foldl_cons, List.foldl_cons, List.foldl_nil]
    exact hthird

-- A session in which nothing is committed and the first few changes of the removal were made.
def IsMidway (id : GrantId) (moment : Int) (tables : Tables) (s : Session) : Prop :=
  s.kept = tables ∧
    ∃ done, done <+: forgetStatements id ∧ s.seen = done.foldl (effect moment) tables

variable {db : Database}

theorem isMidway_start : IsMidway id moment tables ⟨tables, none⟩ :=
  ⟨rfl, [], List.nil_prefix, rfl⟩

theorem isMidway_of_prefix {passed front : List Statement} (hbegin : ¬db.Fails beginStatement)
    (hpass : ∀ q ∈ passed, ¬db.Fails q) (hpassed : passed <+: forgetStatements id)
    (hfront : front <+: beginStatement :: passed) :
    IsMidway id moment tables (run db moment tables front) := by
  rcases List.prefix_cons_iff.mp hfront with rfl | ⟨done, rfl, hdone⟩
  · exact isMidway_start
  · have hchanges : ∀ q ∈ done, ¬db.Fails q ∧ IsChange q := fun q hq =>
      ⟨hpass q (hdone.subset hq),
        isChange_of_mem_forgetStatements ((hdone.trans hpassed).subset hq)⟩
    rw [run_of_changes tables hbegin hchanges]
    exact ⟨rfl, done, hdone.trans hpassed, rfl⟩

theorem take_rollback (db : Database) (moment : Int) (s : Session) :
    (s.take db moment rollbackStatement).kept = s.kept ∧
      ((s.take db moment rollbackStatement).seen = s.seen ∨
        (s.take db moment rollbackStatement).seen = s.kept) := by
  by_cases hfails : db.Fails rollbackStatement
  · rw [take_of_fails s hfails]
    exact ⟨rfl, .inl rfl⟩
  · rw [take_of_command? s hfails command?_rollback]
    exact ⟨rfl, .inr rfl⟩

theorem IsMidway.take_rollback {s : Session} (h : IsMidway id moment tables s) :
    IsMidway id moment tables (s.take db moment rollbackStatement) := by
  obtain ⟨hkept, hseen⟩ := Database.take_rollback db moment s
  refine ⟨hkept.trans h.1, ?_⟩
  rcases hseen with hseen | hseen
  · rw [hseen]
    exact h.2
  · exact ⟨[], List.nil_prefix, hseen.trans h.1⟩

-- A transaction that is broken off is midway all the time.
theorem isMidway_of_broken {passed front : List Statement} {q : Statement}
    (hbegin : ¬db.Fails beginStatement) (hpass : ∀ p ∈ passed, ¬db.Fails p)
    (hpassed : passed <+: forgetStatements id) (hq : db.Fails q)
    (hfront : front <+: beginStatement :: passed ++ [q] ++ [rollbackStatement]) :
    IsMidway id moment tables (run db moment tables front) := by
  have hfailed : IsMidway id moment tables
      (run db moment tables (beginStatement :: passed ++ [q])) := by
    rw [run_concat, take_of_fails _ hq]
    exact isMidway_of_prefix hbegin hpass hpassed (List.prefix_refl _)
  rcases List.prefix_concat_iff.mp hfront with rfl | hfront
  · rw [run_concat]
    exact hfailed.take_rollback
  · rcases List.prefix_concat_iff.mp hfront with rfl | hfront
    · exact hfailed
    · exact isMidway_of_prefix hbegin hpass hpassed hfront

theorem statements_removal (id : GrantId) : (removal id).map Prod.fst =
    beginStatement :: forgetStatements id ++ [commitStatement] := rfl

-- What a removal of which no statement fails comes to.
theorem run_removal (moment : Int) (tables : Tables)
    (hpass : ∀ step ∈ removal id, ¬db.Fails step.1) :
    run db moment tables ((removal id).map Prod.fst) =
        ⟨(forgetStatements id).foldl (effect moment) tables, none⟩ ∧
      ∀ front, front <+: beginStatement :: forgetStatements id →
        IsMidway id moment tables (run db moment tables front) := by
  have hall : ∀ q ∈ beginStatement :: forgetStatements id ++ [commitStatement], ¬db.Fails q := by
    rw [← statements_removal]
    exact List.forall_mem_map.mpr hpass
  obtain ⟨hbegin, hrest⟩ := List.forall_mem_cons.mp hall
  obtain ⟨hbody, hcommit⟩ := List.forall_mem_append.mp hrest
  refine ⟨?_, fun front => isMidway_of_prefix hbegin hbody (List.prefix_refl _)⟩
  rw [statements_removal, run_concat, run_of_changes tables hbegin
      (fun q hq => ⟨hbody q hq, isChange_of_mem_forgetStatements hq⟩),
    take_of_command? _ (hcommit _ (List.mem_singleton_self _)) command?_commit,
    Session.obey_commit, Session.seen_draft]

-- A removal whose first failing statement is this one is midway all the time.
theorem isMidway_of_first_failure (moment : Int) (tables : Tables)
    {front back : List (Statement × String)} {step : Statement × String}
    (hsteps : removal id = front ++ step :: back)
    (hfront : ∀ q ∈ front, ¬db.Fails q.1) (hstep : db.Fails step.1) :
    ∀ told, told <+: front.map Prod.fst ++
        step.1 :: (if front.isEmpty then [] else [rollbackStatement]) →
      IsMidway id moment tables (run db moment tables told) := by
  intro told htold
  cases front with
  | nil =>
    obtain ⟨rfl, -⟩ := List.cons.inj hsteps
    have hnothing : run db moment tables told = ⟨tables, none⟩ := by
      rcases List.prefix_cons_iff.mp htold with rfl | ⟨rest, rfl, hrest⟩
      · rfl
      · rw [List.prefix_nil.mp hrest]
        exact take_of_fails _ hstep
    rw [hnothing]
    exact isMidway_start
  | cons first passed =>
    obtain ⟨rfl, hrest⟩ := List.cons.inj hsteps
    have hrest : forgetSteps id ++ [(commitStatement, commitLabel)] = passed ++ step :: back := hrest
    obtain ⟨hbegin, hpass⟩ := List.forall_mem_cons.mp hfront
    -- The commit is the last step, so what passed before the failure are changes.
    have hpassed : passed.map Prod.fst <+: forgetStatements id := by
      have hshort : passed <+: forgetSteps id ++ [(commitStatement, commitLabel)] :=
        ⟨step :: back, hrest.symm⟩
      rcases List.prefix_concat_iff.mp hshort with rfl | hshort
      · have hlength := congrArg List.length hrest
        simp only [List.length_append, List.length_cons] at hlength
        omega
      · exact hshort.map Prod.fst
    refine isMidway_of_broken hbegin (List.forall_mem_map.mpr hpass) hpassed hstep ?_
    rw [List.append_assoc]
    exact htold

theorem IsMidway.references {s : Session} (h : IsMidway id moment tables s)
    (hreferences : References tables) : References s.seen := by
  obtain ⟨-, done, hdone, hseen⟩ := h
  rw [hseen]
  exact references_of_prefix hreferences hdone

theorem forgetGrant_of_closed (id : GrantId) (hclosed : db.isOpen = false) :
    forgetGrant id db = (.error (.internal ("failed to begin transaction" ++ ": " ++
      "attempted to acquire a connection on a closed pool")), db) := by
  have hissue : issue beginStatement db = (.error .closedPool, db) := by
    rw [issue, hclosed]
    rfl
  simp only [forgetGrant, transaction, issueAll_cons_of_error beginLabel [] hissue]
  rfl

theorem forgetGrant_of_passes (hopen : db.isOpen = true)
    (hpass : ∀ step ∈ removal id, ¬db.Fails step.1) :
    forgetGrant id db = (.ok (), db.told ((removal id).map Prod.fst)) := by
  have htransaction : transaction (forgetSteps id) db =
      (.ok (), db.told ((removal id).map Prod.fst)) := transaction_of_passes hopen hpass
  rw [forgetGrant, htransaction]
  rfl

theorem forgetGrant_of_failure? {front back : List (Statement × String)}
    {step : Statement × String} {message : String} (hopen : db.isOpen = true)
    (hsteps : removal id = front ++ step :: back) (hfront : ∀ q ∈ front, ¬db.Fails q.1)
    (hstep : db.failure? step.1 = some message) :
    forgetGrant id db =
      (.error (.internal (step.2 ++ ": " ++ ("error returned from database: " ++ message))),
        db.told (front.map Prod.fst ++
          step.1 :: if front.isEmpty then [] else [rollbackStatement])) := by
  have htransaction : transaction (forgetSteps id) db =
      (.error (step.2 ++ ": " ++ ("error returned from database: " ++ message)),
        db.told (front.map Prod.fst ++
          step.1 :: if front.isEmpty then [] else [rollbackStatement])) :=
    transaction_of_failure? hopen hsteps hfront hstep
  rw [forgetGrant, htransaction]
  rfl

-- Whichever statements fail, the removal of a copy is done as a whole or not at all: it stops at the
-- first failing statement and says which one that was, nobody else sees a part of it, and at no
-- point does a grant row refer to a permission row that is gone.
theorem forgetGrant_all_or_nothing (id : GrantId) (db : Database) (moment : Int)
    (tables : Tables) :
    ∃ told, (forgetGrant id db).2 = db.told told ∧
      Ends db id moment tables (forgetGrant id db).1 told (run db moment tables told).kept ∧
      ∀ front, front <+: told →
        ((run db moment tables front).kept = tables ∨ front = told) ∧
          (References tables → References (run db moment tables front).seen) := by
  cases hopen : db.isOpen with
  | false =>
    rw [forgetGrant_of_closed id hopen]
    refine ⟨[], (told_nil db).symm, .unreached hopen, ?_⟩
    intro front hfront
    rw [List.prefix_nil.mp hfront]
    exact ⟨.inl rfl, fun h => h⟩
  | true =>
    rcases pass_or_first_fails db (removal id) with
      hpass | ⟨front, step, back, message, hsteps, hfront, hstep⟩
    · obtain ⟨hrun, hmidway⟩ := run_removal moment tables hpass
      rw [forgetGrant_of_passes hopen hpass]
      refine ⟨_, rfl, ?_, ?_⟩
      · simp only [hrun]
        exact .complete hopen hpass (forgotten_foldl_effect tables)
      · intro front hfront
        rw [statements_removal] at hfront
        rcases List.prefix_concat_iff.mp hfront with rfl | hfront
        · refine ⟨.inr (statements_removal id).symm, fun h => ?_⟩
          rw [← statements_removal, hrun, Session.seen_kept]
          exact references_of_prefix h (List.prefix_refl _)
        · exact ⟨.inl (hmidway front hfront).1, (hmidway front hfront).references⟩
    · have hmidway := isMidway_of_first_failure moment tables hsteps hfront
        (Option.isSome_iff_exists.mpr ⟨message, hstep⟩)
      rw [forgetGrant_of_failure? hopen hsteps hfront hstep]
      refine ⟨_, rfl, ?_, ?_⟩
      · rw [(hmidway _ (List.prefix_refl _)).1]
        exact .broken hopen hsteps hfront hstep
      · intro start hstart
        exact ⟨.inl (hmidway start hstart).1, (hmidway start hstart).references⟩

end

end Unshare.Database
