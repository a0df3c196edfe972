import Unshare.Proofs.Courses
import Unshare.Proofs.Reasons

namespace Unshare

namespace Text

-- What is cut off behind a trimmed text still begins with something that shows.
theorem not_isBlank_truncate_trim {count : Nat} {s : String} (h : truncate count (trim s) ≠ "") :
    isBlank (truncate count (trim s)) = false := by
  rw [ne_eq, truncate, String.ofList_eq_empty_iff, toList_trim] at h
  rw [isBlank, truncate, String.toList_ofList, toList_trim]
  cases hchars : trimChars s.toList with
  | nil =>
    rw [hchars, List.take_nil] at h
    exact absurd rfl h
  | cons c rest =>
    have hc : isBlankChar c = false := head_trimChars (by rw [hchars]; rfl)
    cases count with
    | zero => exact absurd rfl h
    | succ count => simp [hc]

end Text

namespace Json.Fields

theorem map_fst_insert (name : String) (value : Json) (fields : Fields) :
    (insert name value fields).map Prod.fst =
      if name ∈ fields.map Prod.fst then fields.map Prod.fst
      else fields.map Prod.fst ++ [name] := by
  induction fields with
  | nil => rfl
  | cons field rest ih =>
    obtain ⟨n, v⟩ := field
    rw [insert]
    by_cases hn : n = name
    · simp [hn]
    · rw [if_neg hn, List.map_cons, ih]
      have hne : name ≠ n := Ne.symm hn
      by_cases hmem : name ∈ rest.map Prod.fst <;> simp [hmem, hne]

-- A name that is given once at most is so still.
theorem nodup_insert {fields : Fields} (h : (fields.map Prod.fst).Nodup) (name : String)
    (value : Json) : ((insert name value fields).map Prod.fst).Nodup := by
  rw [map_fst_insert]
  split
  · exact h
  · rename_i hnew
    rw [List.nodup_append]
    refine ⟨h, List.pairwise_singleton _ name, ?_⟩
    intro other hother added hadded hsame
    rw [List.mem_singleton.mp hadded] at hsame
    exact hnew (hsame ▸ hother)

end Json.Fields

namespace Report

variable {r : Report} {text : String}

theorem nonEmpty_eq_some_iff {s : Option String} :
    nonEmpty s = some text ↔ s = some text ∧ text ≠ "" := by
  rw [nonEmpty, Option.filter_eq_some_iff]
  simp

theorem keptReason_eq_some_iff : r.keptReason = some text ↔
    r.outcome = .failed ∧ r.reason.map Attempt.sanitizeReason = some text ∧ text ≠ "" := by
  cases houtcome : r.outcome with
  | success => simp [keptReason, houtcome]
  | failed => simp only [keptReason, houtcome, nonEmpty_eq_some_iff, true_and]

theorem keptWarning_eq_some_iff : r.keptWarning = some text ↔
    r.outcome = .success ∧ r.warning.map Attempt.boundWarning = some text ∧ text ≠ "" := by
  cases houtcome : r.outcome with
  | success => simp only [keptWarning, houtcome, nonEmpty_eq_some_iff, true_and]
  | failed => simp [keptWarning, houtcome]

-- How a report is kept. A reason goes with a failure and a warning with a success, each as what is
-- left of the one reported if something is; an actor of whom nothing is known is left out, and so
-- is a source that does not show. All else is as it was reported, and the stage as its type has it.
structure IsKeptAs (defaultSource : String) (r : Report) (a : Attempt) : Prop where
  drive : a.drive = r.drive
  item : a.item = r.item
  permission : a.permission = r.permission
  outcome : a.outcome = r.outcome
  reason_of_success : r.outcome = .success → a.reason = none
  reason_form : ∀ text, a.reason = some text → Text.isBlank text = false ∧
    '<' ∉ text.toList ∧ '>' ∉ text.toList ∧ text.length ≤ 240
  reason_of_failed : r.outcome = .failed → ∀ said, r.reason = some said →
    ¬Attempt.IsMarkup said → a.reason = some (Attempt.sanitizeReason said)
  warning_of_failed : r.outcome = .failed → a.warning = none
  warning_form : ∀ text, a.warning = some text → Text.isBlank text = false ∧ text.length ≤ 500
  warning_of_success : r.outcome = .success → ∀ said, r.warning = some said →
    Text.isBlank said = false → a.warning = some (Attempt.boundWarning said)
  actor : ∀ actor, a.actor = some actor ↔
    r.actor = some actor ∧ (actor.oid.isSome ∨ actor.upn.isSome ∨ actor.name.isSome)
  source_of_given : ∀ source, r.source = some source → Text.isBlank source = false →
    a.source = source
  source_of_not_given : (∀ source, r.source = some source → Text.isBlank source = true) →
    a.source = defaultSource
  details : ∃ fields, a.details = .object fields ∧
    Json.Fields.get? "stage" fields = some (.string r.stage.code) ∧
    (∀ name, name ≠ "stage" → Json.Fields.get? name fields = Json.Fields.get? name r.details) ∧
    ((r.details.map Prod.fst).Nodup → (fields.map Prod.fst).Nodup)

theorem isKeptAs_toAttempt (defaultSource : String) (r : Report) :
    r.IsKeptAs defaultSource (r.toAttempt defaultSource) where
  drive := rfl
  item := rfl
  permission := rfl
  outcome := rfl
  reason_of_success := keptReason_of_success
  reason_form := by
    intro text htext
    obtain ⟨-, hsaid, hne⟩ := keptReason_eq_some_iff.mp htext
    obtain ⟨said, -, rfl⟩ := Option.map_eq_some_iff.mp hsaid
    obtain ⟨ho, hc⟩ := Attempt.sanitizeReason_bracket_free said
    exact ⟨Text.not_isBlank_truncate_trim hne, ho, hc, Attempt.length_sanitizeReason_le said⟩
  reason_of_failed := by
    intro hfailed said hsaid hvisible
    refine keptReason_eq_some_iff.mpr ⟨hfailed, by rw [hsaid]; rfl, ?_⟩
    rwa [ne_eq, Attempt.sanitizeReason_eq_empty_iff]
  warning_of_failed := keptWarning_of_failed
  warning_form := by
    intro text htext
    obtain ⟨-, hsaid, hne⟩ := keptWarning_eq_some_iff.mp htext
    obtain ⟨said, -, rfl⟩ := Option.map_eq_some_iff.mp hsaid
    exact ⟨Text.not_isBlank_truncate_trim hne, Attempt.length_boundWarning_le said⟩
  warning_of_success := by
    intro hsuccess said hsaid hvisible
    refine keptWarning_eq_some_iff.mpr ⟨hsuccess, by rw [hsaid]; rfl, ?_⟩
    rw [ne_eq, Attempt.boundWarning, Attempt.truncate_eq_empty_iff (by decide),
      Text.trim_eq_empty_iff, hvisible]
    exact Bool.false_ne_true
  actor := by
    intro actor
    rw [toAttempt, Actor.known, Option.filter_eq_some_iff]
    obtain ⟨oid, upn, name⟩ := actor
    cases oid <;> cases upn <;> cases name <;> simp [Actor.isEmpty]
  source_of_given := by
    intro source hsource hvisible
    have hkept : Text.nonBlank r.source = some source :=
      Option.filter_eq_some_iff.mpr ⟨hsource, by rw [hvisible]; rfl⟩
    rw [toAttempt, hkept]
    rfl
  source_of_not_given := by
    intro hblank
    have hnone : Text.nonBlank r.source = none := by
      rw [Text.nonBlank, Option.filter_eq_none_iff]
      intro source hsource
      simp [hblank source hsource]
    rw [toAttempt, hnone]
    rfl
  details := ⟨_, rfl, Json.Fields.get?_insert_self _ _ _,
    fun _ hname => Json.Fields.get?_insert_of_ne hname _ _,
    fun hnames => Json.Fields.nodup_insert hnames _ _⟩

end Report

namespace Revocation

-- Whatever the log answers, it is asked once, to take the record of the report, and nothing of its
-- answer is handed on.
theorem record_keeps_report {σ : Type} (s : Services (StateM σ)) (defaultSource : String)
    (r : Report) (x : σ) :
    ∃ kept answer y, r.IsKeptAs defaultSource kept ∧
      (s.appendAttempt kept).run x = (answer, y) ∧
      (record s defaultSource r).run x = ((), y) ∧
      (record s.watched defaultSource r).run (x, []) = ((), y, [.log kept answer]) := by
  let kept := r.toAttempt defaultSource
  exact ⟨kept, ((s.appendAttempt kept).run x).1, ((s.appendAttempt kept).run x).2,
    Report.isKeptAs_toAttempt defaultSource r, rfl, rfl, rfl⟩

end Revocation

end Unshare
