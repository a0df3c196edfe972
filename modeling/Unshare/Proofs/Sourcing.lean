import Unshare.Proofs.FailClosed
import Unshare.Proofs.Readback
import Unshare.Proofs.Telling

namespace Unshare

theorem Report.isBlank_source {defaultSource : String} (h : Text.isBlank defaultSource = false)
    (r : Report) : Text.isBlank (r.toAttempt defaultSource).source = false := by
  show Text.isBlank ((Text.nonBlank r.source).getD defaultSource) = false
  cases hsource : Text.nonBlank r.source with
  | none => exact h
  | some source =>
    obtain ⟨-, hvisible⟩ := Option.filter_eq_some_iff.mp hsource
    simpa using hvisible

namespace Database

-- If the statement adds a record to the attempt log, the record has a visible source.
def NamesSource (q : Statement) : Prop :=
  ∀ insertion, q.insertion? = some insertion → insertion.table = "revoke_permission_logs" →
    ∃ source, insertion.record q.params "source" = .text source ∧ Text.isBlank source = false

section

variable {q : Statement}

theorem words_of_insertion? {insertion : Insertion} (h : q.insertion? = some insertion) :
    ∃ rest, q.words = "INSERT" :: rest := by
  rw [Statement.insertion?] at h
  generalize q.words = words at h
  rw [Insertion.ofWords?.eq_def] at h
  split at h
  · exact ⟨_, rfl⟩
  · cases h

theorem namesSource_of_command? {command : Command} (h : q.command? = some command) :
    NamesSource q := by
  intro insertion hinsertion
  obtain ⟨rest, hwords⟩ := words_of_insertion? hinsertion
  rw [Statement.command?, hwords] at h
  cases h

theorem namesSource_of_selection? {selection : Selection} (h : q.selection? = some selection) :
    NamesSource q := by
  intro insertion hinsertion
  obtain ⟨rest, hwords⟩ := words_of_insertion? hinsertion
  rw [Statement.selection?, hwords] at h
  cases h

end

theorem namesSource_insertAttempt {a : Attempt} (h : Text.isBlank a.source = false) :
    NamesSource (insertAttempt a) := by
  intro insertion hinsertion _
  rw [insertion?_insertAttempt] at hinsertion
  cases hinsertion
  exact ⟨a.source, rfl, h⟩

theorem namesSource_insertAudit (e : AuditEvent) : NamesSource (insertAudit e) := by
  intro insertion hinsertion htable
  rw [insertion?_insertAudit] at hinsertion
  cases hinsertion
  exact absurd htable (by decide)

theorem namesSource_check : NamesSource (plain "SELECT 1") := by
  intro insertion hinsertion
  have hnone : (plain "SELECT 1").insertion? = none := by decide +kernel
  rw [hnone] at hinsertion
  cases hinsertion

-- One database is the other after it was told nothing but statements of this kind.
def GrowsBy (P : Statement → Prop) (db after : Database) : Prop :=
  ∃ statements, after = db.told statements ∧ ∀ q ∈ statements, P q

section

variable {P : Statement → Prop} {db a b c : Database}

theorem GrowsBy.refl (P : Statement → Prop) (db : Database) : GrowsBy P db db :=
  ⟨[], (told_nil db).symm, by simp⟩

theorem GrowsBy.trans (h : GrowsBy P a b) (h' : GrowsBy P b c) : GrowsBy P a c := by
  obtain ⟨front, rfl, hfront⟩ := h
  obtain ⟨back, rfl, hback⟩ := h'
  exact ⟨front ++ back, told_told a front back, List.forall_mem_append.mpr ⟨hfront, hback⟩⟩

theorem growsBy_note {s : Statement} (h : P s) (db : Database) : GrowsBy P db (db.note s) :=
  ⟨[s], rfl, List.forall_mem_singleton.mpr h⟩

theorem growsBy_issue {s : Statement} (h : P s) (db : Database) : GrowsBy P db (issue s db).2 := by
  rw [issue]
  split
  · split
    · exact growsBy_note h db
    · exact growsBy_note h db
  · exact .refl P db

theorem growsBy_issueAll {steps : List (Statement × String)} (h : ∀ step ∈ steps, P step.1)
    (db : Database) : GrowsBy P db (issueAll steps db).2 := by
  induction steps generalizing db with
  | nil => exact .refl P db
  | cons step rest ih =>
    obtain ⟨hstep, hrest⟩ := List.forall_mem_cons.mp h
    have hfirst := growsBy_issue hstep db
    rw [issueAll]
    generalize issue step.1 db = issued at hfirst ⊢
    obtain ⟨_ | _, after⟩ := issued
    · exact hfirst
    · exact hfirst.trans (ih hrest after)

theorem growsBy_transaction (hbegin : P beginStatement) (hcommit : P commitStatement)
    (hrollback : P rollbackStatement) {steps : List (Statement × String)}
    (h : ∀ step ∈ steps, P step.1) (db : Database) :
    GrowsBy P db (transaction steps db).2 := by
  have hstart : GrowsBy P db (issueAll [(beginStatement, beginLabel)] db).2 :=
    growsBy_issueAll (List.forall_mem_singleton.mpr hbegin) db
  rw [transaction]
  generalize issueAll [(beginStatement, beginLabel)] db = begun at hstart ⊢
  obtain ⟨_ | _, started⟩ := begun
  · exact hstart
  · have hbody : ∀ step ∈ steps ++ [(commitStatement, commitLabel)], P step.1 :=
      List.forall_mem_append.mpr ⟨h, List.forall_mem_singleton.mpr hcommit⟩
    have hended := hstart.trans (growsBy_issueAll hbody started)
    simp only
    generalize issueAll (steps ++ [(commitStatement, commitLabel)]) started = ended at hended ⊢
    obtain ⟨_ | _, after⟩ := ended
    · exact hended.trans (growsBy_note hrollback after)
    · exact hended

theorem growsBy_single {s : Statement} (h : P s) (label : String) (db : Database) :
    GrowsBy P db (asFailure (issueAll [(s, label)] db)).2 := by
  rw [asFailure_snd]
  exact growsBy_issueAll (List.forall_mem_singleton.mpr h) db

theorem growsBy_forgetGrant (id : GrantId) (db : Database) :
    GrowsBy NamesSource db (forgetGrant id db).2 := by
  rw [forgetGrant, asFailure_snd]
  apply growsBy_transaction
  · exact namesSource_of_command? command?_begin
  · exact namesSource_of_command? command?_commit
  · exact namesSource_of_command? command?_rollback
  · simp only [forgetSteps, List.forall_mem_cons]
    exact ⟨namesSource_of_command? (command?_forgetGrants id),
      namesSource_of_command? (command?_forgetPermission id),
      namesSource_of_command? (command?_refreshItem id), by simp⟩

theorem growsBy_listAttempts (q : Attempt.Query) (db : Database) :
    GrowsBy NamesSource db (listAttempts q db).2 := by
  have hasked := growsBy_single (namesSource_of_selection? (selection?_selectAttempts q))
    listLabel db
  rw [listAttempts]
  generalize asFailure (issueAll [(selectAttempts q, listLabel)] db) = asked at hasked ⊢
  obtain ⟨_ | _, after⟩ := asked <;> exact hasked

theorem growsBy_check (db : Database) : GrowsBy NamesSource db (check db).2 := by
  have hasked := growsBy_issue namesSource_check db
  rw [check]
  generalize issue (plain "SELECT 1") db = asked at hasked ⊢
  obtain ⟨_ | _, after⟩ := asked <;> exact hasked

end

end Database

namespace Stack

open Database (GrowsBy NamesSource)

-- An action that tells the database of no record without a visible source.
def Sourced {α : Type} (act : Action α) : Prop :=
  ∀ s result t, Runs act s result t → GrowsBy NamesSource s.database t.database

section

variable {α β : Type}

theorem Outward.sourced {act : Action α} (h : Outward act) : Sourced act := by
  intro s result t hrun
  rw [(h s result t hrun).1]
  exact .refl _ _

theorem Sourced.pure (a : α) : Sourced (pure a : Action α) :=
  (Outward.pure a).sourced

theorem Sourced.bind {act : Action α} {next : α → Action β} (h : Sourced act)
    (hnext : ∀ a, Sourced (next a)) : Sourced (act >>= next) := by
  intro s result t hrun
  obtain ⟨a, mid, hact, hrest⟩ | ⟨c, hact, -⟩ := hrun.bind_inv
  · exact (h s _ mid hact).trans (hnext a mid result t hrest)
  · exact h s _ t hact

theorem Sourced.closed : Revocation.Closed @Sourced :=
  ⟨Sourced.pure, Sourced.bind⟩

theorem Sourced.onDatabase {act : Database → α × Database}
    (h : ∀ db, GrowsBy NamesSource db (act db).2) : Sourced (onDatabase act) := by
  rintro s _ _ ⟨⟩
  exact h s.database

theorem sourced_settle (outcome : Except Abort α) : Sourced (settle outcome) := by
  intro s result t hrun
  obtain ⟨rfl, -⟩ := settle_inv hrun
  exact .refl _ _

end

theorem sourced_revoke {g : Settings.Graph} {p : Token.Provider} {defaultSource : String}
    (hvisible : Text.isBlank defaultSource = false) (correlation : String) (r : RevokeRequest)
    (actor : Option Actor) :
    Sourced (Revocation.revoke (services (client g p)) defaultSource correlation r actor) := by
  apply Sourced.closed.revoke
  · intro report
    have hrecord := Database.namesSource_insertAttempt (report.isBlank_source hvisible)
    exact .onDatabase (Database.growsBy_single hrecord _)
  · exact fun id => .onDatabase (Database.growsBy_forgetGrant id)
  · intro event
    exact .onDatabase (Database.growsBy_single (Database.namesSource_insertAudit event) _)
  · exact fun id => (outward_fetch id).sourced.bind sourced_settle
  · exact fun id => (outward_remove id).sourced.bind sourced_settle

section

variable {settings : Settings.Service} {api : Api Action} (hbuild : build settings = .ok api)
  (hvisible : ∀ source, settings.logSource = some source → Text.isBlank source = false)

include hbuild hvisible

theorem sourced_answer (correlation : String) (r : Http.Request) :
    Sourced (api.answer correlation r) := by
  obtain ⟨p, origin, -, -, rfl⟩ := build_inv hbuild
  have hdefault : Text.isBlank (settings.logSource.getD Report.standardSource) = false := by
    cases hsource : settings.logSource with
    | none => decide
    | some source => exact hvisible source hsource
  apply Api.answer_of_parts
  · exact fun response => .pure response
  · exact fun asked actor => (sourced_revoke hdefault correlation asked actor).bind fun _ => .pure _
  · exact fun query => (Sourced.onDatabase (Database.growsBy_listAttempts _)).bind fun _ => .pure _
  · exact (Sourced.onDatabase Database.growsBy_check).bind fun _ => .pure _
  · exact fun act f h => h.bind fun _ => .pure _

theorem namesSource_visit (v : Visit) (s : Stack) :
    ∀ q ∈ (v.finish api s).database.statements, NamesSource q := by
  obtain ⟨statements, hdatabase, hnames⟩ := sourced_answer hbuild hvisible v.correlation v.request
    (v.start s) _ (v.finish api s) rfl
  have hstatements : (v.finish api s).database.statements = statements := by
    rw [hdatabase]
    rfl
  rw [hstatements]
  exact hnames

theorem steps_nameSources (visits : List Visit) (s : Stack) :
    ∀ step ∈ steps api visits s, ∀ q ∈ step.2.database.statements, NamesSource q := by
  induction visits generalizing s with
  | nil => simp [steps]
  | cons v rest ih =>
    intro step hstep
    rcases List.mem_cons.mp hstep with rfl | hrest
    · exact namesSource_visit hbuild hvisible v s
    · exact ih (v.finish api s) step hrest

end

end Stack

end Unshare
