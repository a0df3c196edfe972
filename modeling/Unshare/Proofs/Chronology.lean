import Unshare.Proofs.Paging
import Unshare.Proofs.Timestamps

namespace Unshare.Database

open Time (HasFourDigitYear RoundsDown instantText instantText_lt_iff hasFourDigitYear_iff
  roundsDown_instantText)

-- Rows with which a selection from these tables may be answered.
def Tables.Answer (tables : Tables) (asked : Statement) (rows : List Row) : Prop :=
  ∃ selection answer, asked.selection? = some selection ∧
    selection.Answers asked.params (tables selection.table) answer ∧ rows = answer.map Row.ofRecord

-- The row has a moment in a year that is written with four digits.
def Row.IsDated (row : Row) : Prop :=
  ∃ moment, row.occurredAt = some moment ∧ HasFourDigitYear moment

-- The first row is as new as the second, or newer.
def Row.IsNoOlder (r s : Row) : Prop :=
  ∀ m n, r.occurredAt = some m → s.occurredAt = some n → n ≤ m

-- The entry shows the moment of the row.
def Row.Tells (row : Row) (entry : LoggedAttempt) : Prop :=
  ∃ moment, row.occurredAt = some moment ∧ RoundsDown entry.occurredAt moment

section

variable {r : FullRow} {e : LoggedAttempt}

theorem exists_attempt_iff :
    (∃ entry, r.attempt = .ok entry) ↔ ∃ o : Outcome, r.outcome = o.code := by
  simp only [← Outcome.ofCode?_eq_some_iff, ← Option.isSome_iff_exists, FullRow.attempt]
  cases Outcome.ofCode? r.outcome <;> simp

theorem occurredAt_of_attempt (h : r.attempt = .ok e) :
    e.occurredAt = instantText r.occurredAt := by
  rw [FullRow.attempt] at h
  cases ho : Outcome.ofCode? r.outcome with
  | none => simp [ho] at h
  | some outcome =>
    simp only [ho] at h
    cases h
    rfl

end

section

variable {r s : Row} {e f : LoggedAttempt}

theorem exists_moment (h : r.IsDated ∧ r.Reads e) : ∃ moment, r.occurredAt = some moment ∧
    HasFourDigitYear moment ∧ e.occurredAt = instantText moment := by
  obtain ⟨⟨moment, hmoment, hyear⟩, hreads⟩ := h
  obtain ⟨shown, hshown, htext⟩ := hreads.time
  obtain rfl := Option.some.inj (hmoment.symm.trans hshown)
  exact ⟨moment, hmoment, hyear, htext⟩

theorem tells_of_reads (h : r.IsDated ∧ r.Reads e) : r.Tells e := by
  obtain ⟨moment, hmoment, hyear, htext⟩ := exists_moment h
  exact ⟨moment, hmoment, htext ▸ roundsDown_instantText hyear⟩

theorem not_lt_of_isNoOlder (he : r.IsDated ∧ r.Reads e) (hf : s.IsDated ∧ s.Reads f)
    (horder : r.IsNoOlder s) : ¬e.occurredAt < f.occurredAt := by
  obtain ⟨m, hm, hmyear, htext⟩ := exists_moment he
  obtain ⟨n, hn, hnyear, htext'⟩ := exists_moment hf
  have hle := horder m n hm hn
  rw [htext, htext', instantText_lt_iff hmyear hnyear]
  omega

end

theorem instant?_eq_some_iff {value : Value} {micros : Int} :
    value.instant? = some micros ↔ value = .instant micros := by
  cases value <;> simp [Value.instant?]

theorem isNoOlder_of_inOrder {r s : Record} (h : InOrder logSelection.order r s) :
    (Row.ofRecord (logSelection.shown r)).IsNoOlder (Row.ofRecord (logSelection.shown s)) := by
  intro m n hm hn
  have hr : r "occurred_at" = .instant m := instant?_eq_some_iff.mp hm
  have hs : s "occurred_at" = .instant n := instant?_eq_some_iff.mp hn
  obtain hbefore | ⟨hnot, -⟩ := h
  · rw [hr, hs] at hbefore
    exact Int.le_of_lt hbefore
  · rw [hr, hs] at hnot
    exact Int.not_lt.mp hnot

-- A window of rows that are in order is in order.
theorem isNoOlder_of_answer {tables : Tables} {query : Attempt.Query} {rows : List Row}
    (h : tables.Answer (selectAttempts query) rows) : rows.Pairwise Row.IsNoOlder := by
  obtain ⟨selection, answer, hselection, ⟨ordered, offset, limit, -, horder, -, -, rfl⟩, rfl⟩ := h
  obtain rfl := Option.some.inj ((selection?_selectAttempts query).symm.trans hselection)
  have hwindow : ((ordered.drop offset).take limit).Pairwise (InOrder logSelection.order) :=
    horder.sublist ((List.take_sublist _ _).trans (List.drop_sublist _ _))
  rw [List.map_map, List.pairwise_map]
  exact hwindow.imp isNoOlder_of_inOrder

-- Where lists are related place by place, what holds of any two members of one, in their order, is
-- carried over to the other.
theorem pairwise_of_forall₂ {α β : Type} {R : α → β → Prop} {P : α → α → Prop} {Q : β → β → Prop}
    {as : List α} {bs : List β} (h : List.Forall₂ R as bs) (has : as.Pairwise P)
    (hcarry : ∀ {a a' b b'}, R a b → R a' b' → P a a' → Q b b') : bs.Pairwise Q := by
  rw [List.pairwise_iff_getElem] at has ⊢
  intro i j hi hj hlt
  have hlength := h.length_eq
  exact hcarry (h.get (hlength ▸ hi) hi) (h.get (hlength ▸ hj) hj) (has i j _ _ hlt)

-- The time of an entry tells the moment of its row, rounded down to the millisecond. As texts the
-- times of two entries are in order as these milliseconds are, so that they never increase in a
-- listing, which is answered newest first.
theorem listed_times_are_faithful :
    (∀ r : FullRow, ((∃ entry, r.attempt = .ok entry) ↔ ∃ o : Outcome, r.outcome = o.code) ∧
      ∀ entry, r.attempt = .ok entry → HasFourDigitYear r.occurredAt →
        RoundsDown entry.occurredAt r.occurredAt) ∧
    (∀ (r s : FullRow) (e f : LoggedAttempt), r.attempt = .ok e → s.attempt = .ok f →
      HasFourDigitYear r.occurredAt → HasFourDigitYear s.occurredAt →
        (e.occurredAt < f.occurredAt ↔ r.occurredAt / 1000 < s.occurredAt / 1000) ∧
        (r.occurredAt ≤ s.occurredAt → ¬f.occurredAt < e.occurredAt)) ∧
    ∀ (tables : Tables) (query : Attempt.Query) (db : Database), db.isOpen = true →
      ¬db.Fails (selectAttempts query) → tables.Answer (selectAttempts query) db.rows →
      (∀ row ∈ db.rows, row.IsDated) →
        ((∀ row ∈ db.rows, row.IsComplete ∧ row.IsKnown) →
          ∃ entries, (listAttempts query db).1 = .ok entries) ∧
        ∀ entries, (listAttempts query db).1 = .ok entries →
          List.Forall₂ Row.Tells db.rows entries ∧
          entries.Pairwise fun e f => ¬e.occurredAt < f.occurredAt := by
  refine ⟨fun r => ⟨exists_attempt_iff, ?_⟩, ?_, ?_⟩
  · intro entry hentry hyear
    rw [occurredAt_of_attempt hentry]
    exact roundsDown_instantText hyear
  · intro r s e f he hf hr hs
    rw [occurredAt_of_attempt he, occurredAt_of_attempt hf, instantText_lt_iff hr hs,
      instantText_lt_iff hs hr]
    omega
  · intro tables query db hopen hpass hanswer hdated
    have hiff := listAttempts_eq_ok_iff hopen hpass
    constructor
    · intro hfit
      obtain ⟨entries, hentries⟩ := exists_forall₂_reads fun row hrow =>
        exists_reads_of_isKnown (hfit row hrow).1 (hfit row hrow).2
      exact ⟨entries, (hiff entries).mpr hentries⟩
    · intro entries hentries
      have hreads := (List.forall₂_and_left _ _).mpr ⟨hdated, (hiff entries).mp hentries⟩
      exact ⟨hreads.imp fun _ _ => tells_of_reads,
        pairwise_of_forall₂ hreads (isNoOlder_of_answer hanswer) not_lt_of_isNoOlder⟩

def atEpoch : Kept := ⟨paddedActor, 2, 0⟩
def beforeEpoch : Kept := ⟨paddedActor, 1, -1⟩

def aroundEpoch : List Kept := [atEpoch, beforeEpoch]

theorem answer_aroundEpoch : Tables.Answer (fun _ => aroundEpoch.map Kept.record)
    (selectAttempts wholeLog) (aroundEpoch.map Kept.row) := by
  have hnewest : aroundEpoch.Pairwise Kept.IsNewer :=
    List.pairwise_pair.mpr (Prod.Lex.toLex_lt_toLex.mpr (.inl (by decide)))
  have hlog : LogAnswers aroundEpoch (selectAttempts wholeLog) (aroundEpoch.map Kept.row) :=
    (logAnswers_iff (by decide) (List.Perm.refl _) hnewest).mpr rfl
  obtain ⟨selection, answer, hselection, -, hanswers, hrows⟩ := hlog
  exact ⟨selection, answer, hselection, hanswers, hrows⟩

theorem listed_times_are_faithful_aroundEpoch :
    RoundsDown "1969-12-31T23:59:59.999Z" (-1) ∧
      ∃ e f, (listAttempts wholeLog (prepared [] (aroundEpoch.map Kept.row))).1 = .ok [e, f] ∧
        e.occurredAt = "1970-01-01T00:00:00.000Z" ∧ f.occurredAt < e.occurredAt ∧
        ¬e.occurredAt < f.occurredAt := by
  have hzero : HasFourDigitYear 0 := hasFourDigitYear_iff.mpr (by decide)
  have hminus : HasFourDigitYear (-1) := hasFourDigitYear_iff.mpr (by decide)
  have hdated : ∀ row ∈ aroundEpoch.map Kept.row, row.IsDated :=
    List.forall_mem_cons.mpr ⟨⟨0, rfl, hzero⟩, List.forall_mem_singleton.mpr ⟨-1, rfl, hminus⟩⟩
  have hentries : (listAttempts wholeLog (prepared [] (aroundEpoch.map Kept.row))).1 =
      .ok [atEpoch.entry, beforeEpoch.entry] := rfl
  obtain ⟨hrow, horder, hlist⟩ := listed_times_are_faithful
  constructor
  · have htext : beforeEpoch.entry.occurredAt = "1969-12-31T23:59:59.999Z" := by decide +kernel
    rw [← htext]
    exact (hrow beforeEpoch.row.filled).2 _ rfl hminus
  · obtain ⟨hlater, -⟩ := horder beforeEpoch.row.filled atEpoch.row.filled _ _ rfl rfl hminus hzero
    obtain ⟨-, hnever⟩ := (hlist _ wholeLog (prepared [] (aroundEpoch.map Kept.row)) rfl
      Bool.false_ne_true answer_aroundEpoch hdated).2 _ hentries
    exact ⟨_, _, hentries, by decide +kernel, hlater.mpr (by decide), List.pairwise_pair.mp hnever⟩

end Unshare.Database
