import Unshare.Api.Basic
import Unshare.Proofs.Computations
import Unshare.Proofs.Ledger

namespace Unshare.Database

-- A record of the attempt log with what the table itself gives to it.
def Record.logged (record : Record) (number moment : Int) : Record :=
  (record.set "id" (.number number)).set "occurred_at" (.instant moment)

-- The columns of a record that a selection asks for.
def Selection.shown (s : Selection) (record : Record) : Record := fun column =>
  if column ∈ s.columns then record column else .null

def Value.text? : Value → Option String
  | .text s => some s
  | _ => none

def Value.number? : Value → Option Int
  | .number n => some n
  | _ => none

def Value.instant? : Value → Option Int
  | .instant micros => some micros
  | _ => none

def Value.toJson : Value → Json
  | .json j => j
  | _ => .null

-- The row in which a record of the attempt log is answered.
def Row.ofRecord (record : Record) : Row where
  id := (record "id").number?
  occurredAt := (record "occurred_at").instant?
  actorOid := (record "actor_oid").text?
  actorUpn := (record "actor_upn").text?
  actorName := (record "actor_name").text?
  drive := (record "drive_id").text?
  item := (record "item_id").text?
  permission := (record "permission_id").text?
  outcome := (record "outcome").text?
  reason := (record "failure_reason").text?
  warning := (record "warning").text?
  source := (record "source").text?
  details := (record "details").toJson

-- One statement adds a record to the log, the other is answered with this row for it.
def Finds (kept asked : Statement) (number moment : Int) (row : Row) : Prop :=
  ∃ insertion selection, kept.insertion? = some insertion ∧ asked.selection? = some selection ∧
    insertion.table = selection.table ∧
    row = Row.ofRecord (selection.shown ((insertion.record kept.params).logged number moment))

-- The entry says what the row holds.
structure Row.Reads (row : Row) (entry : LoggedAttempt) : Prop where
  number : row.id = some entry.number
  time : ∃ moment, row.occurredAt = some moment ∧ entry.occurredAt = Time.instantText moment
  actor : entry.actor = Actor.known (some (Actor.of row.actorOid row.actorUpn row.actorName))
  drive : entry.drive = row.drive
  item : entry.item = row.item
  permission : entry.permission = row.permission
  outcome : row.outcome = some entry.outcome.code
  reason : entry.reason = row.reason
  warning : entry.warning = row.warning
  source : row.source = some entry.source
  details : entry.details = row.details

-- The columns that are never null have values.
structure Row.IsComplete (row : Row) : Prop where
  id : row.id.isSome
  occurredAt : row.occurredAt.isSome
  outcome : row.outcome.isSome
  source : row.source.isSome

def Row.IsKnown (row : Row) : Prop :=
  row.outcome = some "success" ∨ row.outcome = some "failed"

-- Nobody, or somebody of whom nothing is known.
def IsUnknown (actor : Option Actor) : Prop :=
  ∀ a ∈ actor, a.oid = none ∧ a.upn = none ∧ a.name = none

-- The actor is found again, or none if nothing is known of it.
structure FindsActor (actor found : Option Actor) : Prop where
  unknown : IsUnknown actor → found = none
  known : ¬IsUnknown actor → found = actor

-- What is shown of an actor: nothing if nothing is known of it, else each part, null where missing.
inductive ShowsActor : Option Actor → Json → Prop
  | unknown {actor : Option Actor} : IsUnknown actor → ShowsActor actor .null
  | known {a : Actor} : ¬IsUnknown (some a) → ShowsActor (some a)
    (.object [("oid", .ofOption a.oid), ("upn", .ofOption a.upn), ("name", .ofOption a.name)])

-- What is shown of an entry says what was to be kept of the attempt.
structure Displays (shown : Json.Fields) (a : Attempt) : Prop where
  actor : ∃ j, shown.get? "actor" = some j ∧ ShowsActor a.actor j
  drive : shown.get? "drive_id" = some (.ofOption a.drive)
  item : shown.get? "item_id" = some (.ofOption a.item)
  permission : shown.get? "permission_id" = some (.ofOption a.permission)
  outcome : shown.get? "outcome" = some (.string a.outcome.code)
  reason : shown.get? "failure_reason" = some (.ofOption a.reason)
  warning : shown.get? "warning" = some (.ofOption a.warning)
  source : shown.get? "source" = some (.string a.source)
  details : shown.get? "details" = some a.details

-- Every part of the actor, if there is one, is as `Actor.of` leaves it.
def IsFormed (actor : Option Actor) : Prop :=
  ∀ a ∈ actor, ∃ oid upn name, a = Actor.of oid upn name

-- An attempt in the table of the log, with the number and the time it was given there.
structure Kept where
  attempt : Attempt
  number : Int
  moment : Int

namespace Kept

def record (k : Kept) : Record :=
  (logInsertion.record (insertAttempt k.attempt).params).logged k.number k.moment

-- The row in which it is answered.
def row (k : Kept) : Row where
  id := some k.number
  occurredAt := some k.moment
  actorOid := k.attempt.actor.bind Actor.oid
  actorUpn := k.attempt.actor.bind Actor.upn
  actorName := k.attempt.actor.bind Actor.name
  drive := k.attempt.drive
  item := k.attempt.item
  permission := k.attempt.permission
  outcome := some k.attempt.outcome.code
  reason := k.attempt.reason
  warning := k.attempt.warning
  source := some k.attempt.source
  details := k.attempt.details

-- The entry that is read from its row.
def entry (k : Kept) : LoggedAttempt where
  toAttempt := { k.attempt with
    actor := Actor.known (some (Actor.of k.row.actorOid k.row.actorUpn k.row.actorName)) }
  number := k.number
  occurredAt := Time.instantText k.moment

end Kept

theorem text?_value_ofText (s : Option String) : (Param.ofText s).value.text? = s := by
  cases s <;> rfl

theorem ofRecord_shown (k : Kept) : Row.ofRecord (logSelection.shown k.record) = k.row := by
  rw [Kept.row, ← text?_value_ofText (k.attempt.actor.bind Actor.oid),
    ← text?_value_ofText (k.attempt.actor.bind Actor.upn),
    ← text?_value_ofText (k.attempt.actor.bind Actor.name), ← text?_value_ofText k.attempt.drive,
    ← text?_value_ofText k.attempt.item, ← text?_value_ofText k.attempt.permission,
    ← text?_value_ofText k.attempt.reason, ← text?_value_ofText k.attempt.warning]
  rfl

theorem reads_row (k : Kept) : k.row.Reads k.entry where
  number := rfl
  time := ⟨k.moment, rfl, rfl⟩
  actor := rfl
  drive := rfl
  item := rfl
  permission := rfl
  outcome := rfl
  reason := rfl
  warning := rfl
  source := rfl
  details := rfl

-- An actor that was formed is formed again from its columns.
theorem toAttempt_entry {k : Kept} (h : IsFormed k.attempt.actor) :
    k.entry.toAttempt = { k.attempt with actor := Actor.known k.attempt.actor } := by
  have hknown : Actor.known (some (Actor.of k.row.actorOid k.row.actorUpn k.row.actorName)) =
      Actor.known k.attempt.actor := by
    rw [Kept.row]
    cases hactor : k.attempt.actor with
    | none => rfl
    | some a =>
      obtain ⟨oid, upn, name, rfl⟩ := h a hactor
      simp only [Option.bind_some, Actor.of, Text.present_idem]
  rw [Kept.entry, hknown]

theorem known_eq_none_iff_isUnknown (actor : Option Actor) :
    Actor.known actor = none ↔ IsUnknown actor := by
  rw [Actor.known_eq_none_iff]
  cases actor with
  | none => simp [IsUnknown]
  | some a =>
    obtain ⟨oid, upn, name⟩ := a
    simp [IsUnknown]

theorem findsActor_known (actor : Option Actor) : FindsActor actor (Actor.known actor) where
  unknown := (known_eq_none_iff_isUnknown actor).mpr
  known := by
    rw [← known_eq_none_iff_isUnknown, ← Ne, Option.ne_none_iff_exists]
    rintro ⟨a, ha⟩
    obtain ⟨rfl, -⟩ := Option.filter_eq_some_iff.mp ha.symm
    exact ha.symm

theorem showsActor_known (actor : Option Actor) :
    ShowsActor actor ((Actor.known actor).elim .null Actor.toFullJson) := by
  by_cases h : IsUnknown actor
  · rw [(findsActor_known actor).unknown h]
    exact .unknown h
  · rw [(findsActor_known actor).known h]
    cases actor with
    | none => exact absurd (by simp [IsUnknown]) h
    | some a => exact .known h

theorem displays_toJson {entry : LoggedAttempt} {a : Attempt}
    (h : entry.toAttempt = { a with actor := Actor.known a.actor }) :
    ∃ shown, entry.toJson = .object shown ∧ Displays shown a := by
  obtain ⟨_, number, time⟩ := entry
  subst h
  refine ⟨_, rfl, ⟨_, rfl, showsActor_known a.actor⟩, ?_, ?_, ?_, ?_, ?_, ?_, ?_, ?_⟩ <;> rfl

section

variable {row : Row} {entry : LoggedAttempt}

theorem need_eq_ok_iff {α : Type} {column : String} {value : Option α} {v : α} :
    need column value = .ok v ↔ value = some v := by
  cases value <;> simp [need]

theorem isKnown_iff : row.IsKnown ↔ ∃ o : Outcome, row.outcome = some o.code := by
  constructor
  · rintro (h | h)
    · exact ⟨.success, h⟩
    · exact ⟨.failed, h⟩
  · rintro ⟨o, h⟩
    cases o with
    | success => exact .inl h
    | failed => exact .inr h

theorem reads_iff : row.Reads entry ↔ ∃ full, row.full = .ok full ∧ full.attempt = .ok entry := by
  constructor
  · intro h
    obtain ⟨moment, hmoment, htime⟩ := h.time
    refine ⟨⟨row, entry.number, moment, entry.outcome.code, entry.source⟩, ?_, ?_⟩
    · rw [Row.full, h.number, hmoment, h.outcome, h.source]
      rfl
    · simp only [FullRow.attempt, Outcome.ofCode?_code, ← h.actor, ← h.drive, ← h.item,
        ← h.permission, ← h.reason, ← h.warning, ← h.details, ← htime]
  · rintro ⟨full, hfull, hentry⟩
    simp only [Row.full, bind_eq_ok_iff, need_eq_ok_iff] at hfull
    obtain ⟨id, hid, moment, hmoment, text, htext, source, hsource, hfull⟩ := hfull
    cases hfull
    rw [FullRow.attempt] at hentry
    cases ho : Outcome.ofCode? text with
    | none => simp [ho] at hentry
    | some outcome =>
      rw [Outcome.ofCode?_eq_some_iff.mp ho] at htext
      simp only [ho] at hentry
      cases hentry
      exact ⟨hid, ⟨moment, hmoment, rfl⟩, rfl, rfl, rfl, rfl, htext, rfl, rfl, hsource, rfl⟩

theorem forall₂_reads_iff {rows : List Row} {entries : List LoggedAttempt} :
    List.Forall₂ Row.Reads rows entries ↔
      ∃ full, List.Forall₂ (fun row f => row.full = .ok f) rows full ∧
        List.Forall₂ (fun f entry => FullRow.attempt f = .ok entry) full entries := by
  induction rows generalizing entries with
  | nil => simp only [List.forall₂_nil_left_iff, exists_eq_left]
  | cons row rows ih =>
    constructor
    · intro h
      obtain ⟨entry, rest, hentry, hrest, rfl⟩ := List.forall₂_cons_left_iff.mp h
      obtain ⟨f, hf, hattempt⟩ := reads_iff.mp hentry
      obtain ⟨full, hfull, hattempts⟩ := ih.mp hrest
      exact ⟨f :: full, .cons hf hfull, .cons hattempt hattempts⟩
    · rintro ⟨all, hall, hentries⟩
      obtain ⟨f, full, hf, hfull, rfl⟩ := List.forall₂_cons_left_iff.mp hall
      obtain ⟨entry, rest, hattempt, hattempts, rfl⟩ := List.forall₂_cons_left_iff.mp hentries
      exact .cons (reads_iff.mpr ⟨f, hf, hattempt⟩) (ih.mpr ⟨full, hfull, hattempts⟩)

theorem readRows_eq_ok_iff {rows : List Row} {entries : List LoggedAttempt} :
    readRows rows = .ok entries ↔ List.Forall₂ Row.Reads rows entries := by
  simp only [forall₂_reads_iff, ← mapM_eq_ok_iff, readRows]
  cases rows.mapM Row.full with
  | error fault => simp
  | ok full => simp

-- The values of a row, where it is complete.
def Row.filled (row : Row) : FullRow :=
  ⟨row, row.id.getD 0, row.occurredAt.getD 0, row.outcome.getD "", row.source.getD ""⟩

theorem full_of_isComplete (h : row.IsComplete) : row.full = .ok row.filled := by
  obtain ⟨id, hid⟩ := Option.isSome_iff_exists.mp h.id
  obtain ⟨moment, hmoment⟩ := Option.isSome_iff_exists.mp h.occurredAt
  obtain ⟨text, htext⟩ := Option.isSome_iff_exists.mp h.outcome
  obtain ⟨source, hsource⟩ := Option.isSome_iff_exists.mp h.source
  rw [Row.full, Row.filled, hid, hmoment, htext, hsource]
  rfl

theorem isKnown_of_reads (h : row.Reads entry) : row.IsKnown :=
  isKnown_iff.mpr ⟨_, h.outcome⟩

theorem exists_attempt_of_isKnown (h : row.IsKnown) : ∃ e, row.filled.attempt = .ok e := by
  obtain ⟨o, ho⟩ := isKnown_iff.mp h
  simp only [FullRow.attempt, Row.filled, ho, Option.getD_some, Outcome.ofCode?_code]
  exact ⟨_, rfl⟩

theorem exists_reads_of_isKnown (hcomplete : row.IsComplete) (h : row.IsKnown) :
    ∃ e, row.Reads e := by
  obtain ⟨e, he⟩ := exists_attempt_of_isKnown h
  exact ⟨e, reads_iff.mpr ⟨_, full_of_isComplete hcomplete, he⟩⟩

-- Rows that are each read to some entry are read to a list of entries.
theorem exists_forall₂_reads {rows : List Row} (h : ∀ r ∈ rows, ∃ e, Row.Reads r e) :
    ∃ entries, List.Forall₂ Row.Reads rows entries := by
  induction rows with
  | nil => exact ⟨[], .nil⟩
  | cons r rows ih =>
    obtain ⟨⟨e, he⟩, hrest⟩ := List.forall_mem_cons.mp h
    obtain ⟨entries, hentries⟩ := ih hrest
    exact ⟨e :: entries, .cons he hentries⟩

theorem isKnown_of_forall₂_reads {rows : List Row} {entries : List LoggedAttempt}
    (h : List.Forall₂ Row.Reads rows entries) : ∀ r ∈ rows, r.IsKnown := by
  induction h with
  | nil => exact List.forall_mem_nil _
  | cons he _ ih => exact List.forall_mem_cons.mpr ⟨isKnown_of_reads he, ih⟩

-- Reading complete rows ends at the first whose outcome is unknown.
theorem readRows_of_unknown {front back : List Row} {id : Int} {text : String}
    (hcomplete : ∀ r ∈ front ++ row :: back, r.IsComplete) (hfront : ∀ r ∈ front, r.IsKnown)
    (hid : row.id = some id) (htext : row.outcome = some text) (hrow : ¬row.IsKnown) :
    readRows (front ++ row :: back) = .error (unknownOutcome id text) := by
  have hunknown : Outcome.ofCode? text = none := by
    rw [Option.eq_none_iff_forall_ne_some]
    intro o ho
    exact hrow (isKnown_iff.mpr ⟨o, htext.trans (congrArg some (Outcome.ofCode?_eq_some_iff.mp ho))⟩)
  have hattempt : row.filled.attempt = .error (unknownOutcome id text) := by
    simp only [FullRow.attempt, Row.filled, hid, htext, Option.getD_some, hunknown]
  rw [readRows, mapM_of_forall_ok (fun r hr => full_of_isComplete (hcomplete r hr)),
    List.map_append, List.map_cons]
  exact mapM_of_first_error
    (List.forall_mem_map.mpr fun r hr => exists_attempt_of_isKnown (hfront r hr)) hattempt

end

section

variable {db : Database} {query : Attempt.Query}

theorem listAttempts_of_passes (hopen : db.isOpen = true) (hpass : ¬db.Fails (selectAttempts query)) :
    (listAttempts query db).1 = readRows db.rows := by
  have hsteps : ∀ step ∈ [(selectAttempts query, listLabel)], ¬db.Fails step.1 := by
    intro step hstep
    rw [List.mem_singleton.mp hstep]
    exact hpass
  rw [listAttempts, issueAll_of_passes hopen hsteps]
  rfl

-- A listing whose statement passes shows the entries that are read from its rows one by one.
theorem listAttempts_eq_ok_iff (hopen : db.isOpen = true)
    (hpass : ¬db.Fails (selectAttempts query)) (entries : List LoggedAttempt) :
    (listAttempts query db).1 = .ok entries ↔ List.Forall₂ Row.Reads db.rows entries := by
  rw [listAttempts_of_passes hopen hpass, readRows_eq_ok_iff]

end

-- An attempt that is kept is read back as it was, its actor only if anything is known of it; and a
-- listing shows all rows one by one, or names the first whose outcome is unknown.
theorem listAttempts_reads_back (query : Attempt.Query) :
    (∀ (a : Attempt) (number moment : Int), IsFormed a.actor →
      ∃ kept row, (∀ db : Database, db.isOpen = true → (appendAttempt a db).2 = db.told [kept]) ∧
        kept.params.length = 11 ∧ Finds kept (selectAttempts query) number moment row ∧
        ∀ db : Database, db.isOpen = true → ¬db.Fails (selectAttempts query) → db.rows = [row] →
          ∃ entry shown, (listAttempts query db).1 = .ok [entry] ∧
            entry.toAttempt = { a with actor := entry.actor } ∧ FindsActor a.actor entry.actor ∧
            entry.number = number ∧ entry.occurredAt = Time.instantText moment ∧
            entry.toJson = .object shown ∧ Displays shown a) ∧
    ∀ db : Database, db.isOpen = true → ¬db.Fails (selectAttempts query) →
      (∀ row ∈ db.rows, row.IsComplete) →
      ((∃ entries, (listAttempts query db).1 = .ok entries) ↔ ∀ row ∈ db.rows, row.IsKnown) ∧
      (∀ entries, (listAttempts query db).1 = .ok entries →
        List.Forall₂ Row.Reads db.rows entries) ∧
      ∀ front row back, db.rows = front ++ row :: back → (∀ r ∈ front, r.IsKnown) → ¬row.IsKnown →
        ∃ id text, row.id = some id ∧ row.outcome = some text ∧
          (listAttempts query db).1 = .error (.internal ("revoke log " ++
            String.ofList (Text.Decimal.signed id) ++ " has unknown outcome '" ++ text ++ "'")) := by
  constructor
  · intro a number moment hactor
    let k : Kept := ⟨a, number, moment⟩
    have hfinds : Finds (insertAttempt a) (selectAttempts query) number moment k.row :=
      ⟨_, _, insertion?_insertAttempt a, selection?_selectAttempts query, rfl,
        (ofRecord_shown k).symm⟩
    have hentry : k.entry.toAttempt = { a with actor := Actor.known a.actor } :=
      toAttempt_entry hactor
    have hread : k.entry.actor = Actor.known a.actor := congrArg Attempt.actor hentry
    obtain ⟨shown, hshown, hdisplays⟩ := displays_toJson hentry
    refine ⟨insertAttempt a, k.row, fun db hopen => appendAttempt_of_isOpen hopen a, rfl, hfinds, ?_⟩
    intro db hopen hpass hrows
    refine ⟨k.entry, shown, (listAttempts_eq_ok_iff hopen hpass _).mpr ?_, ?_, ?_, rfl, rfl, hshown,
      hdisplays⟩
    · rw [hrows]
      exact .cons (reads_row k) .nil
    · rw [hread]
      exact hentry
    · rw [hread]
      exact findsActor_known a.actor
  · intro db hopen hpass hcomplete
    have hiff := listAttempts_eq_ok_iff hopen hpass
    refine ⟨⟨?_, ?_⟩, fun entries => (hiff entries).mp, ?_⟩
    · rintro ⟨entries, hentries⟩
      exact isKnown_of_forall₂_reads ((hiff entries).mp hentries)
    · intro hknown
      obtain ⟨entries, hentries⟩ := exists_forall₂_reads fun r hr =>
        exists_reads_of_isKnown (hcomplete r hr) (hknown r hr)
      exact ⟨entries, (hiff entries).mpr hentries⟩
    · intro front row back hsplit hfront hrow
      rw [hsplit] at hcomplete
      have hcompleteRow := hcomplete row (List.mem_append_right _ List.mem_cons_self)
      obtain ⟨id, hid⟩ := Option.isSome_iff_exists.mp hcompleteRow.id
      obtain ⟨text, htext⟩ := Option.isSome_iff_exists.mp hcompleteRow.outcome
      refine ⟨id, text, hid, htext, ?_⟩
      rw [listAttempts_of_passes hopen hpass, hsplit,
        readRows_of_unknown hcomplete hfront hid htext hrow]
      rfl

-- An attempt of somebody with a padded name and a blank object id.
def paddedActor : Attempt :=
  ⟨some (Actor.of (some " ") (some " u ") none), some "d", none, some "p", .failed, some "r", none,
    "api", .object []⟩

def wholeLog : Attempt.Query := ⟨50, 0, none, none, none⟩

-- The second of these rows has an outcome that nobody writes.
def pendingSecond : List Row :=
  [Kept.row ⟨paddedActor, 1, 0⟩, { Kept.row ⟨paddedActor, 2, 0⟩ with outcome := some "pending" }]

theorem listAttempts_reads_back_pendingSecond :
    (∃ kept row entry,
      (appendAttempt paddedActor (prepared [] [])).2 = (prepared [] []).told [kept] ∧
        Finds kept (selectAttempts wholeLog) 1 0 row ∧
        (listAttempts wholeLog (prepared [] [row])).1 = .ok [entry] ∧
        entry.toAttempt = { paddedActor with actor := some ⟨none, some "u", none⟩ }) ∧
      (listAttempts wholeLog (prepared [] pendingSecond)).1 =
        .error (.internal "revoke log 2 has unknown outcome 'pending'") := by
  have hpass : ∀ rows, ¬(prepared [] rows).Fails (selectAttempts wholeLog) :=
    fun _ => Bool.false_ne_true
  obtain ⟨hkept, hrows⟩ := listAttempts_reads_back wholeLog
  constructor
  · have hformed : IsFormed paddedActor.actor := by
      rintro _ ⟨⟩
      exact ⟨_, _, _, rfl⟩
    obtain ⟨kept, row, htold, -, hfinds, hlist⟩ := hkept paddedActor 1 0 hformed
    obtain ⟨entry, -, hok, hentry, hactor, -⟩ := hlist (prepared [] [row]) rfl (hpass _) rfl
    refine ⟨kept, row, entry, htold _ rfl, hfinds, hok, hentry.trans ?_⟩
    have hpadded : paddedActor.actor = some ⟨none, some "u", none⟩ := by decide
    have hknown : ¬IsUnknown paddedActor.actor := by simp [IsUnknown, hpadded]
    rw [hactor.known hknown, hpadded]
  · have hcomplete : ∀ row ∈ (prepared [] pendingSecond).rows, row.IsComplete :=
      List.forall_mem_cons.mpr ⟨⟨rfl, rfl, rfl, rfl⟩,
        List.forall_mem_singleton.mpr ⟨rfl, rfl, rfl, rfl⟩⟩
    obtain ⟨-, -, hunknown⟩ := hrows (prepared [] pendingSecond) rfl (hpass _) hcomplete
    have hfront : ∀ r ∈ [Kept.row ⟨paddedActor, 1, 0⟩], r.IsKnown :=
      List.forall_mem_singleton.mpr (.inr rfl)
    obtain ⟨id, text, hid, htext, herror⟩ := hunknown [Kept.row ⟨paddedActor, 1, 0⟩]
      { Kept.row ⟨paddedActor, 2, 0⟩ with outcome := some "pending" } [] rfl hfront
      (by simp [Row.IsKnown])
    cases hid
    cases htext
    rw [herror]
    rfl

end Unshare.Database
