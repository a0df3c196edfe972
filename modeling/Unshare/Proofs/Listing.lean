import Unshare.Proofs.Finding

namespace Unshare.Memory

open Revocation

-- What a listing tells of one revocation.
structure Line where
  number : Int
  drive : Option String
  item : Option String
  permission : Option String
  outcome : Outcome
deriving DecidableEq, Repr

namespace Line

def ofEntry (a : LoggedAttempt) : Line :=
  ⟨a.number, a.drive, a.item, a.permission, a.outcome⟩

-- The line of a revocation that was answered like this.
def ofAnswer (number : Nat) (r : RevokeRequest) (result : Except Failure Revoked) : Line where
  number := number
  drive := Text.present r.drive
  item := Text.present r.item
  permission := Text.present r.permission
  outcome := match result with
    | .ok _ => .success
    | .error _ => .failed

-- Whether a filter for an identifier lets this one pass; a blank filter asks for nothing.
def passes (filter given : Option String) : Bool :=
  match filter with
  | none => true
  | some text => Text.isBlank text || given == some text

-- Whether a query asks for the line.
def meets (q : Attempt.Query) (line : Line) : Bool :=
  passes q.drive line.drive && passes q.item line.item && q.outcome.all (· == line.outcome)

end Line

-- The lines that the log gains by these steps, behind so many that it has.
def chronicle (kept : Nat) : List (Step × Answer) → List Line
  | [] => []
  | (.revoke r _ faults, .revoked result) :: rest =>
    if faults .log = none then .ofAnswer (kept + 1) r result :: chronicle (kept + 1) rest
    else chronicle kept rest
  | _ :: rest => chronicle kept rest

theorem chronicle_append (kept : Nat) (front back : List (Step × Answer)) :
    chronicle kept (front ++ back) =
      chronicle kept front ++ chronicle (kept + (chronicle kept front).length) back := by
  fun_induction chronicle kept front with
  | case1 => rfl
  | case2 kept r actor faults result rest hlog ih =>
    rw [List.cons_append, chronicle, if_pos hlog, ih, List.cons_append, List.length_cons,
      Nat.add_right_comm, Nat.add_assoc]
  | case3 kept r actor faults result rest hlog ih =>
    rw [List.cons_append, chronicle, if_neg hlog, ih]
  | case4 kept event rest hother ih =>
    rw [List.cons_append, chronicle, ih]
    exact hother

-- Every line is numbered one higher than the one before it.
theorem map_number_chronicle (kept : Nat) (events : List (Step × Answer)) :
    (chronicle kept events).map Line.number =
      (List.range' (kept + 1) (chronicle kept events).length).map Int.ofNat := by
  fun_induction chronicle kept events with
  | case1 => rfl
  | case2 kept r actor faults result rest hlog ih =>
    rw [List.map_cons, ih, List.length_cons, List.range'_succ, List.map_cons]
    rfl
  | case3 kept r actor faults result rest hlog ih => exact ih
  | case4 kept event rest hother ih => exact ih

theorem passes_nonBlank (filter given : Option String) :
    passes (Text.nonBlank filter) given = Line.passes filter given := by
  cases filter with
  | none => rfl
  | some text =>
    cases hblank : Text.isBlank text with
    | true => simp [Text.nonBlank, passes, Line.passes, hblank]
    | false =>
      have hkept : Text.nonBlank (some text) = some text := by simp [Text.nonBlank, hblank]
      rw [hkept]
      simp [passes, Line.passes, hblank, beq_eq_decide, eq_comm]

-- The filters as they are put to the log let the same records pass.
theorem matching_boundQuery (q : Attempt.Query) (a : LoggedAttempt) :
    matching (boundQuery q) a = Line.meets q (.ofEntry a) := by
  have houtcome : passes q.outcome (some a.outcome) = q.outcome.all (· == a.outcome) := by
    cases q.outcome <;> simp [passes, beq_eq_decide]
  simp only [matching, boundQuery, passes_nonBlank, houtcome, Line.meets, Line.ofEntry]

theorem map_ofEntry_window (q : Attempt.Query) (attempts : List LoggedAttempt) :
    (window (boundQuery q) attempts).map Line.ofEntry =
      ((((attempts.map Line.ofEntry).reverse.filter (Line.meets q)).drop q.offset).take
        (if q.limit = 0 then 50 else min q.limit 500)) := by
  have hmatching : matching (boundQuery q) = Line.meets q ∘ Line.ofEntry :=
    funext (matching_boundQuery q)
  rw [window, List.map_take, List.map_drop, hmatching, ← List.filter_map, List.map_reverse]
  rfl

theorem window_sublist (q : Attempt.Query) (attempts : List LoggedAttempt) :
    (window q attempts).Sublist attempts.reverse :=
  (List.take_sublist _ _).trans ((List.drop_sublist _ _).trans List.filter_sublist)

section

variable (defaultSource correlation : String)

theorem ofEntry_of_records {r : RevokeRequest} {course : Course} {result : Except Failure Revoked}
    {kept : Attempt} (h : Records r course result kept) (number : Nat) (occurredAt : String) :
    Line.ofEntry ⟨kept, number, occurredAt⟩ = .ofAnswer number r result := by
  have houtcome : kept.outcome = (Line.ofAnswer number r result).outcome := by
    cases result with
    | ok done => exact h.outcome.mpr ⟨done, rfl⟩
    | error f =>
      have hnot : kept.outcome ≠ .success := fun hsuccess => by
        obtain ⟨done, hdone⟩ := h.outcome.mp hsuccess
        cases hdone
      cases hkept : kept.outcome with
      | success => exact absurd hkept hnot
      | failed => rfl
  simp only [Line.ofEntry, h.drive, h.item, h.permission, houtcome]
  rfl

-- One step adds its own line to the log, if it has one.
theorem map_ofEntry_perform (step : Step) (m : Memory) :
    let taken := step.perform defaultSource correlation m
    taken.2.attempts.map Line.ofEntry =
      m.attempts.map Line.ofEntry ++ chronicle m.attempts.length [(step, taken.1)] := by
  intro taken
  cases step with
  | revoke r actor faults =>
    rcases hrun : (revoke services defaultSource correlation r actor).run (prepare faults m) with
      ⟨result, m'⟩
    have htaken : taken = (.revoked result, m') := by
      simp only [taken, Step.perform, Step.faults, hrun]
    obtain ⟨course, kept, hrecords, hattempts⟩ := (effect_of_revoke hrun).record
    rw [htaken, hattempts, List.map_append, chronicle, chronicle]
    by_cases hlog : faults .log = none
    · have hadded : (prepare faults m).added kept =
          [⟨kept, m.attempts.length + 1, timeOf (m.attempts.length + 1)⟩] := if_pos hlog
      rw [hadded, if_pos hlog, List.map_singleton]
      exact congrArg (_ ++ [·]) (ofEntry_of_records hrecords (m.attempts.length + 1) _)
    · have hadded : (prepare faults m).added kept = [] := if_neg hlog
      rw [hadded, if_neg hlog]
      rfl
  | list query faults =>
    have hsame : SameStore (prepare faults m) taken.2 :=
      sameStore_listAttempts (boundQuery query) (prepare faults m)
    rw [hsame.attempts]
    exact (List.append_nil _).symm

-- What the log has after a run is what the history of the run tells.
theorem map_ofEntry_after (steps : List Step) (m : Memory) :
    (after defaultSource correlation steps m).attempts.map Line.ofEntry =
      m.attempts.map Line.ofEntry ++
        chronicle m.attempts.length (history defaultSource correlation steps m) := by
  induction steps generalizing m with
  | nil => exact (List.append_nil _).symm
  | cons step rest ih =>
    have hstep := map_ofEntry_perform defaultSource correlation step m
    have hlength := congrArg List.length hstep
    rw [List.length_append, List.length_map, List.length_map] at hlength
    rw [after_cons, ih, hstep, history_cons, chronicle_append, List.append_assoc, hlength]

-- In any run, a listing that does not fail shows the revocations before it whose log did not fail,
-- each of them once and none that was not: of those that its query asks for, newest first, the
-- window that the query marks out.
theorem history_lists_chronicle (grants : List Grant) (front back : List Step)
    (query : Attempt.Query) {faults : Faults} (hlist : faults .list = none) :
    let before := after defaultSource correlation front (.ofGrants grants)
    let told := chronicle 0 (history defaultSource correlation front (.ofGrants grants))
    ∃ entries,
      (history defaultSource correlation (front ++ .list query faults :: back)
        (.ofGrants grants))[front.length]? =
          some (.list query faults, .listed (.ok entries)) ∧
      entries.map Line.ofEntry = ((told.reverse.filter (Line.meets query)).drop query.offset).take
        (if query.limit = 0 then 50 else min query.limit 500) ∧
      (entries.map LoggedAttempt.number).Pairwise (· > ·) ∧
      entries.Sublist before.attempts.reverse := by
  intro before told
  have htold : before.attempts.map Line.ofEntry = told :=
    map_ofEntry_after defaultSource correlation front (.ofGrants grants)
  refine ⟨window (boundQuery query) before.attempts, ?_, ?_, ?_, window_sublist _ _⟩
  · rw [getElem?_history, perform_list query hlist]
  · rw [map_ofEntry_window, htold]
  · have hnumbers : before.attempts.map LoggedAttempt.number =
        (List.range' 1 told.length).map Int.ofNat := by
      have hmap : before.attempts.map LoggedAttempt.number = told.map Line.number := by
        rw [← htold, List.map_map]
        rfl
      rw [hmap, map_number_chronicle]
    have hrising : (before.attempts.map LoggedAttempt.number).Pairwise (· < ·) := by
      rw [hnumbers, List.pairwise_map]
      exact (List.pairwise_lt_range' 1 Nat.one_pos).imp fun h => Int.ofNat_lt.mpr h
    have hfalling : (before.attempts.reverse.map LoggedAttempt.number).Pairwise (· > ·) := by
      rw [List.map_reverse, List.pairwise_reverse]
      exact hrising
    exact hfalling.sublist ((window_sublist _ _).map _)

end

-- The newest revocation that failed, whatever its drive.
def latestFailure : Attempt.Query := ⟨1, 0, some " ", none, some .failed⟩

theorem history_lists_chronicle_latestFailure :
    noFaults .list = none ∧ ∃ entries,
      (history "test" "c" (sharedItemSteps ++ [.list latestFailure noFaults]) sharedItem)[4]? =
        some (.list latestFailure noFaults, .listed (.ok entries)) ∧
      entries.map Line.ofEntry = [⟨2, some "d", some "i", some "w", .failed⟩] := by
  have htold : chronicle 0 (history "test" "c" sharedItemSteps sharedItem) =
      [⟨1, some "d", some "i", some "o", .failed⟩, ⟨2, some "d", some "i", some "w", .failed⟩] := by
    decide
  have hlist : noFaults .list = none := rfl
  obtain ⟨entries, hlisted, hlines, -, -⟩ := history_lists_chronicle "test" "c"
    [writersGrant, ownersGrant] sharedItemSteps [] latestFailure hlist
  rw [← sharedItem, htold] at hlines
  refine ⟨hlist, entries, hlisted, hlines.trans ?_⟩
  decide

end Unshare.Memory
