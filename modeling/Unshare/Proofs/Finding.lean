import Unshare.Proofs.History

namespace Unshare.Memory

open Revocation

-- The query asks, from the newest record on, for the drive, the item or both of the request as they
-- are written there.
structure Retraces (q : Attempt.Query) (r : RevokeRequest) : Prop where
  drive : q.drive = none ∨ q.drive = r.drive
  item : q.item = none ∨ q.item = r.item
  given : q.drive.isSome ∨ q.item.isSome
  outcome : q.outcome = none
  offset : q.offset = 0

-- A text without blanks at its ends, if there is one.
def IsTight (s : Option String) : Prop :=
  ∀ text ∈ s, Text.trim text = text

-- A filter as it is written passes what is kept of it exactly if nothing was trimmed off.
theorem passes_present_iff {filter given : Option String}
    (hgiven : ∃ text, given = some text ∧ Text.isBlank text = false)
    (hfilter : filter = none ∨ filter = given) :
    passes (Text.nonBlank filter) (Text.present given) = true ↔ IsTight filter := by
  obtain ⟨text, rfl, hblank⟩ := hgiven
  rcases hfilter with rfl | rfl
  · simp [passes, Text.nonBlank, IsTight]
  · have hkept : Text.nonBlank (some text) = some text := by simp [Text.nonBlank, hblank]
    rw [hkept, Text.present_of_not_isBlank hblank]
    simp [passes, IsTight, eq_comm]

theorem boundQuery_limit_pos (q : Attempt.Query) : 0 < (boundQuery q).limit := by
  simp only [boundQuery]
  split <;> omega

-- Where the newest record matches, a window that starts with the newest starts with it.
theorem head?_window_of_matching {q : Attempt.Query} {attempts : List LoggedAttempt}
    {newest : LoggedAttempt} (hlimit : 0 < q.limit) (hoffset : q.offset = 0)
    (h : matching q newest = true) : (window q (attempts ++ [newest])).head? = some newest := by
  obtain ⟨limit, hlimit⟩ := Nat.exists_eq_add_of_lt hlimit
  simp [window, hoffset, hlimit, h]

theorem matching_of_mem_window {q : Attempt.Query} {attempts : List LoggedAttempt}
    {a : LoggedAttempt} (h : a ∈ window q attempts) : matching q a = true :=
  (List.mem_filter.mp (List.mem_of_mem_drop (List.mem_of_mem_take h))).2

section

variable {defaultSource correlation : String}

theorem history_append (front back : List Step) (m : Memory) :
    history defaultSource correlation (front ++ back) m =
      history defaultSource correlation front m ++
        history defaultSource correlation back (after defaultSource correlation front m) := by
  induction front generalizing m with
  | nil => rfl
  | cons step rest ih => rw [List.cons_append, history_cons, history_cons, after_cons, ih,
      List.append_assoc]

theorem length_history (steps : List Step) (m : Memory) :
    (history defaultSource correlation steps m).length = steps.length := by
  induction steps generalizing m with
  | nil => rfl
  | cons step rest ih => rw [history_cons, List.length_append, ih, List.length_singleton,
      List.length_cons, Nat.add_comm]

theorem getElem?_history (front : List Step) (step : Step) (back : List Step) (m : Memory) :
    (history defaultSource correlation (front ++ step :: back) m)[front.length]? =
      some (step,
        (step.perform defaultSource correlation (after defaultSource correlation front m)).1) := by
  rw [history_append, history_cons, List.getElem?_append_right
    (Nat.le_of_eq (length_history front m)), length_history, Nat.sub_self]
  rfl

-- A revocation whose log does not fail leaves one more record, with what it was asked for.
theorem exists_record_of_revoke (defaultSource correlation : String) (r : RevokeRequest)
    (actor : Option Actor) {faults : Faults} (hlog : faults .log = none) (m : Memory) :
    ∃ entry : LoggedAttempt,
      (after defaultSource correlation [.revoke r actor faults] m).attempts =
        m.attempts ++ [entry] ∧
      entry.drive = Text.present r.drive ∧ entry.item = Text.present r.item := by
  rcases hrun : (revoke services defaultSource correlation r actor).run (prepare faults m) with
    ⟨result, m'⟩
  obtain ⟨course, kept, hrecords, hattempts⟩ := (effect_of_revoke hrun).record
  have hafter : after defaultSource correlation [.revoke r actor faults] m = m' := by
    rw [after_cons]
    simp only [after, run, Step.perform, Step.faults, hrun]
    rfl
  have hadded : (prepare faults m).added kept =
      [⟨kept, m.attempts.length + 1, timeOf (m.attempts.length + 1)⟩] := if_pos hlog
  rw [hadded] at hattempts
  exact ⟨_, hafter ▸ hattempts, hrecords.drive, hrecords.item⟩

-- What a listing whose log does not fail answers.
theorem perform_list (query : Attempt.Query) {faults : Faults} (hlist : faults .list = none)
    (m : Memory) : (Step.perform defaultSource correlation (.list query faults) m).1 =
      .listed (.ok (window (boundQuery query) m.attempts)) := by
  have hready : (prepare faults m).faults .list = none := hlist
  simp only [Step.perform, Step.faults, recent, run_listAttempts, hready]
  rfl

-- The record that holds what a request was asked for, against what it is looked for by.
theorem matching_boundQuery_iff {r : RevokeRequest} {query : Attempt.Query} {entry : LoggedAttempt}
    (hdrive : ∃ drive, r.drive = some drive ∧ Text.isBlank drive = false)
    (hitem : ∃ item, r.item = some item ∧ Text.isBlank item = false) (hquery : Retraces query r)
    (hentryDrive : entry.drive = Text.present r.drive)
    (hentryItem : entry.item = Text.present r.item) :
    matching (boundQuery query) entry = true ↔ IsTight query.drive ∧ IsTight query.item := by
  have houtcome : passes query.outcome (some entry.outcome) = true := by
    rw [hquery.outcome]
    rfl
  simp only [matching, boundQuery, houtcome, hentryDrive, hentryItem, Bool.and_true,
    Bool.and_eq_true, passes_present_iff hdrive hquery.drive,
    passes_present_iff hitem hquery.item]

-- In any run, the listing right behind a revocation finds the record of it by the identifiers that
-- the revocation was asked for, if and only if these have no blanks at their ends; it is then the
-- first one shown.
theorem history_finds_record (defaultSource correlation : String) (front back : List Step)
    (m : Memory) {r : RevokeRequest} (actor : Option Actor) (faults listFaults : Faults)
    {query : Attempt.Query}
    (hdrive : ∃ drive, r.drive = some drive ∧ Text.isBlank drive = false)
    (hitem : ∃ item, r.item = some item ∧ Text.isBlank item = false)
    (hlog : faults .log = none) (hlist : listFaults .list = none) (hquery : Retraces query r) :
    let steps := front ++ .revoke r actor faults :: .list query listFaults :: back
    let before := after defaultSource correlation front m
    let written := after defaultSource correlation (front ++ [.revoke r actor faults]) m
    ∃ entry entries, written.attempts = before.attempts ++ [entry] ∧
      (history defaultSource correlation steps m)[front.length + 1]? =
        some (.list query listFaults, .listed (.ok entries)) ∧
      (IsTight query.drive ∧ IsTight query.item → entries.head? = some entry) ∧
      (¬(IsTight query.drive ∧ IsTight query.item) → entry ∉ entries) := by
  intro steps before written
  obtain ⟨entry, hwritten, hentryDrive, hentryItem⟩ :=
    exists_record_of_revoke defaultSource correlation r actor hlog before
  rw [← after_append] at hwritten
  have hmatching := matching_boundQuery_iff hdrive hitem hquery hentryDrive hentryItem
  refine ⟨entry, window (boundQuery query) written.attempts, hwritten, ?_, ?_, ?_⟩
  · have hsteps : steps = (front ++ [.revoke r actor faults]) ++ .list query listFaults :: back := by
      rw [List.append_assoc, List.singleton_append]
    have hlength : (front ++ [Step.revoke r actor faults]).length = front.length + 1 :=
      List.length_append
    rw [hsteps, ← hlength, getElem?_history, perform_list query hlist]
  · intro htight
    rw [hwritten]
    exact head?_window_of_matching (boundQuery_limit_pos query) hquery.offset (hmatching.mpr htight)
  · intro hpadded hmem
    exact hpadded (hmatching.mp (matching_of_mem_window hmem))

end

-- A revocation whose item is padded, and a listing for its drive.
def paddedItem : RevokeRequest := ⟨some "d", some " i", some "o", none⟩

def driveQuery : Attempt.Query := ⟨0, 0, some "d", none, none⟩

theorem history_finds_record_driveQuery : Retraces driveQuery paddedItem ∧
    ∃ entry entries, (history "test" "c" (sharedItemSteps ++ [.revoke paddedItem none noFaults,
        .list driveQuery noFaults]) sharedItem)[5]? =
      some (.list driveQuery noFaults, .listed (.ok entries)) ∧ entries.head? = some entry := by
  have hquery : Retraces driveQuery paddedItem := ⟨.inr rfl, .inl rfl, .inl rfl, rfl, rfl⟩
  obtain ⟨entry, entries, -, hlisted, hfirst, -⟩ :=
    history_finds_record "test" "c" sharedItemSteps [] sharedItem none noFaults noFaults
      ⟨"d", rfl, by decide⟩ ⟨" i", rfl, by decide⟩ rfl rfl hquery
  have htight : IsTight driveQuery.drive ∧ IsTight driveQuery.item := by
    constructor
    · rintro _ ⟨⟩
      decide
    · rintro _ ⟨⟩
  exact ⟨hquery, entry, entries, hlisted, hfirst htight⟩

-- The drive as it was written, a blank in front, finds nothing of the attempt that was asked for it.
def paddedDrive : RevokeRequest := ⟨some " d", some "i", some "w", none⟩

def paddedQuery : Attempt.Query := ⟨0, 0, some " d", none, none⟩

theorem padded_drive_lists_nothing :
    Text.isBlank " d" = false ∧ Text.isBlank "i" = false ∧ Retraces paddedQuery paddedDrive ∧
      (history "test" "c" [.revoke paddedDrive none noFaults, .list paddedQuery noFaults]
        sharedItem)[1]? = some (.list paddedQuery noFaults, .listed (.ok [])) :=
  ⟨by decide, by decide, ⟨.inr rfl, .inl rfl, .inl rfl, rfl, rfl⟩, rfl⟩

end Unshare.Memory
