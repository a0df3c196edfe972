import Mathlib.Data.List.Sort
import Mathlib.Data.Prod.Lex
import Unshare.Proofs.Listing
import Unshare.Proofs.Readback
import Unshare.Stack

namespace Unshare.Database

open Revocation (boundQuery recent)
open Memory (Line matching window)

-- The first value is the smaller one. Only numbers and instants are put in order.
def Value.IsBelow : Value → Value → Prop
  | .number a, .number b => a < b
  | .instant a, .instant b => a < b
  | _, _ => False

def Direction.Precedes : Direction → Value → Value → Prop
  | .ascending, a, b => a.IsBelow b
  | .descending, a, b => b.IsBelow a

-- The first record may stand before the second: the first key in which they differ decides.
def InOrder : List (String × Direction) → Record → Record → Prop
  | [], _, _ => True
  | (column, direction) :: rest, r, s =>
    direction.Precedes (r column) (s column) ∨
      ¬direction.Precedes (s column) (r column) ∧ InOrder rest r s

-- What a selection may be answered with: of the rows that meet its conditions, put in its order, the
-- first few are left out and no more than its limit are given.
def Selection.Answers (s : Selection) (params : List Param) (rows answer : List Record) : Prop :=
  ∃ (ordered : List Record) (offset limit : Nat),
    ordered.Perm (rows.filter (meetsAll params s.conditions)) ∧
    ordered.Pairwise (InOrder s.order) ∧
    param? params s.offset = some (.number offset) ∧ param? params s.limit = some (.number limit) ∧
    answer = ((ordered.drop offset).take limit).map s.shown

-- Rows with which a log that holds these attempts may answer the statement.
def LogAnswers (log : List Kept) (asked : Statement) (rows : List Row) : Prop :=
  ∃ selection answer, asked.selection? = some selection ∧
    selection.table = logInsertion.table ∧
    selection.Answers asked.params (log.map Kept.record) answer ∧ rows = answer.map Row.ofRecord

-- Attempts are put in order by their moment and those of one moment by their number.
def Kept.key (k : Kept) : Int ×ₗ Int :=
  toLex (k.moment, k.number)

def Kept.IsNewer (k l : Kept) : Prop :=
  l.key < k.key

-- The entries that a query asks for, of attempts that stand newest first.
def foundIn (newest : List Kept) (filter : Attempt.Query) : List LoggedAttempt :=
  (newest.map Kept.entry).filter fun entry => Line.meets filter (.ofEntry entry)

-- The attempts that a listing shows.
def shownOf (newest : List Kept) (q : Attempt.Query) : List Kept :=
  ((newest.filter fun k => matching q k.entry).drop (Nat.min q.offset maxListOffset)).take
    (Nat.max 1 (Nat.min q.limit maxListLimit))

-- The query for one page of these many entries.
def pageQuery (filter : Attempt.Query) (n k : Nat) : Attempt.Query :=
  { filter with limit := n, offset := k * n }

-- How pages go through what was found. As long as they start where an offset can reach they follow
-- on one another; all later ones are the same.
structure Pages {α : Type} (found : List α) (n : Nat) (page : Nat → List α) : Prop where
  reached : ∀ k, k * n ≤ maxListOffset → page k = (found.drop (k * n)).take n
  beyond : ∀ k, maxListOffset ≤ k * n → page k = (found.drop maxListOffset).take n
  joined : ∀ m, (∀ k < m, k * n ≤ maxListOffset) → (List.range m).flatMap page = found.take (m * n)
  complete : found.length ≤ maxListOffset → ∀ m, found.length ≤ m * n →
    (List.range m).flatMap page = found ∧ page m = []
  endless : maxListOffset < found.length → ∀ k, page k ≠ []

section

variable {α : Type} {found : List α} {n : Nat} {page : Nat → List α}

theorem flatMap_range_of_windows {m : Nat}
    (h : ∀ k < m, page k = (found.drop (k * n)).take n) :
    (List.range m).flatMap page = found.take (m * n) := by
  induction m with
  | zero => simp
  | succ m ih =>
    rw [List.range_succ, List.flatMap_append, ih fun k hk => h k (Nat.lt_succ_of_lt hk),
      List.flatMap_singleton, h m (Nat.lt_succ_self m), Nat.succ_mul, List.take_add]

theorem pages_of_windows (hn : 0 < n)
    (h : ∀ k, page k = (found.drop (min (k * n) maxListOffset)).take n) : Pages found n page := by
  have hreached : ∀ k, k * n ≤ maxListOffset → page k = (found.drop (k * n)).take n := by
    intro k hk
    rw [h, Nat.min_eq_left hk]
  refine ⟨hreached, ?_, ?_, ?_, ?_⟩
  · intro k hk
    rw [h, Nat.min_eq_right hk]
  · intro m hm
    exact flatMap_range_of_windows fun k hk => hreached k (hm k hk)
  · intro hshort m hm
    -- A window that starts behind the last entry is empty wherever it starts.
    have hwindow : ∀ k, page k = (found.drop (k * n)).take n := by
      intro k
      rcases Nat.le_total (k * n) maxListOffset with hk | hk
      · exact hreached k hk
      · rw [h, Nat.min_eq_right hk, List.drop_eq_nil_of_le hshort,
          List.drop_eq_nil_of_le (hshort.trans hk)]
    constructor
    · rw [flatMap_range_of_windows fun k _ => hwindow k, List.take_of_length_le hm]
    · rw [hwindow, List.drop_eq_nil_of_le hm, List.take_nil]
  · intro hlong k hempty
    have hstart : min (k * n) maxListOffset < found.length :=
      Nat.lt_of_le_of_lt (Nat.min_le_right _ _) hlong
    have hlength := congrArg List.length hempty
    rw [h, List.length_take, List.length_drop, List.length_nil] at hlength
    omega

end

section

variable {log ordered : List Kept} {query : Attempt.Query} {rows : List Row}

theorem inOrder_record_iff (k l : Kept) :
    InOrder logSelection.order k.record l.record ↔ l.key ≤ k.key := by
  have horder : InOrder logSelection.order k.record l.record ↔
      l.moment < k.moment ∨ ¬k.moment < l.moment ∧
        (l.number < k.number ∨ ¬k.number < l.number ∧ True) := Iff.rfl
  rw [horder, Kept.key, Kept.key, Prod.Lex.toLex_le_toLex, and_true]
  omega

theorem outcome_code_inj {o p : Outcome} : o.code = p.code ↔ o = p := by
  constructor
  · intro h
    exact Option.some.inj ((Outcome.ofCode?_code o).symm.trans (h ▸ Outcome.ofCode?_code p))
  · rintro rfl
    rfl

theorem meets_equalsIfGiven {params : List Param} {column : String} {place : Nat}
    {filter value : Option String} {record : Record}
    (hparam : param? params place = some (.ofText filter))
    (hvalue : record column = (Param.ofText value).value) :
    Condition.Meets params record (.equalsIfGiven column place) = Memory.passes filter value := by
  rw [Condition.Meets, hparam, hvalue]
  cases filter with
  | none => rfl
  | some wanted =>
    cases value with
    | none => rfl
    | some text =>
      simp only [Param.ofText, Param.value, Value.equals, Memory.passes, Option.elim, beq_eq_decide,
        Option.isNone_some, Bool.false_or, Option.some.injEq, eq_comm]

-- The conditions of the listing are the filters of its query.
theorem meetsAll_selectAttempts (q : Attempt.Query) (k : Kept) :
    meetsAll (selectAttempts q).params logSelection.conditions k.record = matching q k.entry := by
  have houtcome : Memory.passes (q.outcome.map Outcome.code) (some k.attempt.outcome.code) =
      Memory.passes q.outcome (some k.attempt.outcome) := by
    cases q.outcome with
    | none => rfl
    | some o => simp [Memory.passes, outcome_code_inj]
  have hdrive : (Condition.equalsIfGiven "drive_id" 1).Meets (selectAttempts q).params k.record =
      Memory.passes q.drive k.attempt.drive := meets_equalsIfGiven rfl rfl
  have hitem : (Condition.equalsIfGiven "item_id" 2).Meets (selectAttempts q).params k.record =
      Memory.passes q.item k.attempt.item := meets_equalsIfGiven rfl rfl
  have hcode : (Condition.equalsIfGiven "outcome" 3).Meets (selectAttempts q).params k.record =
      Memory.passes (q.outcome.map Outcome.code) (some k.attempt.outcome.code) :=
    meets_equalsIfGiven rfl rfl
  simp only [meetsAll, logSelection, List.all_cons, List.all_nil, Bool.and_true, hdrive, hitem,
    hcode, houtcome, matching, Bool.and_assoc]
  rfl

theorem filter_records (log : List Kept) (q : Attempt.Query) :
    (log.map Kept.record).filter (meetsAll (selectAttempts q).params logSelection.conditions) =
      (log.filter fun k => matching q k.entry).map Kept.record := by
  rw [List.filter_map]
  congr 1
  exact List.filter_congr fun k _ => meetsAll_selectAttempts q k

-- Attempts with different numbers can be put newest first.
theorem exists_newest_first (hnumbers : (log.map Kept.number).Nodup) :
    ∃ newest : List Kept, newest.Perm log ∧ newest.Pairwise Kept.IsNewer := by
  let newest := log.mergeSort fun k l => decide (l.key ≤ k.key)
  have hperm : newest.Perm log := List.mergeSort_perm _ _
  have hsorted : newest.Pairwise fun k l => decide (l.key ≤ k.key) = true := by
    refine List.pairwise_mergeSort ?_ ?_ log
    · intro a b c hab hbc
      simp only [decide_eq_true_eq] at hab hbc ⊢
      exact hbc.trans hab
    · intro a b
      simpa using le_total b.key a.key
  have hdistinct : newest.Pairwise fun k l => k.number ≠ l.number :=
    List.pairwise_map.mp ((hperm.map Kept.number).nodup_iff.mpr hnumbers)
  refine ⟨newest, hperm, (hsorted.and hdistinct).imp ?_⟩
  rintro k l ⟨hle, hne⟩
  refine lt_of_le_of_ne (of_decide_eq_true hle) fun hkey => hne ?_
  exact (congrArg (fun key => (ofLex key).2) hkey).symm

theorem inOrder_of_newest (hnewest : ordered.Pairwise Kept.IsNewer) :
    (ordered.map Kept.record).Pairwise (InOrder logSelection.order) :=
  List.pairwise_map.mpr (hnewest.imp fun hnewer => (inOrder_record_iff _ _).mpr hnewer.le)

-- There is no other order in which a selection may put them.
theorem eq_map_record_of_perm {answer : List Record} (hnumbers : (ordered.map Kept.number).Nodup)
    (hnewest : ordered.Pairwise Kept.IsNewer) (hperm : answer.Perm (ordered.map Kept.record))
    (horder : answer.Pairwise (InOrder logSelection.order)) :
    answer = ordered.map Kept.record := by
  refine List.Perm.eq_of_pairwise ?_ horder (inOrder_of_newest hnewest) hperm
  intro r s hr hs hrs hsr
  obtain ⟨k, hk, rfl⟩ := List.mem_map.mp (hperm.subset hr)
  obtain ⟨l, hl, rfl⟩ := List.mem_map.mp hs
  have hkey : k.key = l.key :=
    le_antisymm ((inOrder_record_iff _ _).mp hsr) ((inOrder_record_iff _ _).mp hrs)
  have hnumber : k.number = l.number := congrArg (fun key => (ofLex key).2) hkey
  rw [List.inj_on_of_nodup_map hnumbers hk hl hnumber]

theorem map_ofRecord_shown (kept : List Kept) :
    ((kept.map Kept.record).map logSelection.shown).map Row.ofRecord = kept.map Kept.row := by
  simp only [List.map_map]
  exact List.map_congr_left fun k _ => ofRecord_shown k

theorem logAnswers_iff {newest : List Kept} (hnumbers : (log.map Kept.number).Nodup)
    (hperm : newest.Perm log) (hnewest : newest.Pairwise Kept.IsNewer) :
    LogAnswers log (selectAttempts query) rows ↔ rows = (shownOf newest query).map Kept.row := by
  let found := newest.filter fun k => matching query k.entry
  have hfound : (found.map Kept.record).Perm ((log.map Kept.record).filter
      (meetsAll (selectAttempts query).params logSelection.conditions)) := by
    rw [filter_records]
    exact (hperm.filter _).map _
  have hsublist : found.Sublist newest := List.filter_sublist
  constructor
  · rintro ⟨selection, answer, hselection, -, hanswer, rfl⟩
    obtain rfl := Option.some.inj ((selection?_selectAttempts query).symm.trans hselection)
    obtain ⟨ordered, offset, limit, hordered, hinOrder, hoffset, hlimit, rfl⟩ := hanswer
    have hdistinct : (found.map Kept.number).Nodup :=
      ((hperm.map Kept.number).nodup_iff.mpr hnumbers).sublist (hsublist.map _)
    rw [eq_map_record_of_perm hdistinct (hnewest.sublist hsublist) (hordered.trans hfound.symm)
      hinOrder]
    cases hoffset
    cases hlimit
    rw [← List.map_drop, ← List.map_take, map_ofRecord_shown]
    rfl
  · rintro rfl
    refine ⟨logSelection, _, selection?_selectAttempts query, rfl, ⟨found.map Kept.record, _, _,
      hfound, inOrder_of_newest (hnewest.sublist hsublist), rfl, rfl, rfl⟩, ?_⟩
    rw [← List.map_drop, ← List.map_take, map_ofRecord_shown]
    rfl

end

section

variable {newest : List Kept} {n : Nat}

theorem foundIn_eq (newest : List Kept) (filter : Attempt.Query) :
    foundIn newest filter = (newest.map Kept.entry).filter (matching (boundQuery filter)) :=
  List.filter_congr fun entry _ => (Memory.matching_boundQuery filter entry).symm

-- A listing shows the entries of the rows that it is answered with.
theorem recent_of_rows (client : Graph.Client Stack.Action) (query : Attempt.Query) {s : Stack}
    {kept : List Kept} (hopen : s.database.isOpen = true)
    (hpass : ¬s.database.Fails (selectAttempts (boundQuery query)))
    (hrows : s.database.rows = kept.map Kept.row) :
    (recent (Stack.services client) query).run.run s =
      (.ok (.ok (kept.map Kept.entry)),
        { s with database := s.database.told [selectAttempts (boundQuery query)] }) := by
  have hentries : (listAttempts (boundQuery query) s.database).1 = .ok (kept.map Kept.entry) := by
    rw [listAttempts_eq_ok_iff hopen hpass, hrows, List.forall₂_map_left_iff,
      List.forall₂_map_right_iff, List.forall₂_same]
    exact fun k _ => reads_row k
  rw [← hentries, ← listAttempts_of_isOpen hopen]
  rfl

theorem limit_boundQuery_pageQuery (hn : 0 < n) (hmax : n ≤ maxListLimit) (filter : Attempt.Query)
    (k : Nat) : (boundQuery (pageQuery filter n k)).limit = n := by
  show (if n = 0 then 50 else min n maxListLimit) = n
  rw [if_neg hn.ne', Nat.min_eq_left hmax]

theorem map_entry_shownOf (newest : List Kept) (hn : 0 < n) (hmax : n ≤ maxListLimit)
    (filter : Attempt.Query) (k : Nat) :
    (shownOf newest (boundQuery (pageQuery filter n k))).map Kept.entry =
      ((foundIn newest filter).drop (min (k * n) maxListOffset)).take n := by
  have hlimit : Nat.max 1 (Nat.min (boundQuery (pageQuery filter n k)).limit maxListLimit) = n := by
    rw [limit_boundQuery_pageQuery hn hmax]
    show max 1 (min n maxListLimit) = n
    rw [min_eq_left hmax, max_eq_right hn]
  rw [shownOf, hlimit, List.map_take, List.map_drop, foundIn_eq, List.filter_map]
  rfl

-- What the services held in memory show of the same attempts.
theorem window_entries (filter : Attempt.Query) (hn : 0 < n) (hmax : n ≤ maxListLimit) (k : Nat) :
    window (boundQuery (pageQuery filter n k)) (newest.reverse.map Kept.entry) =
      ((foundIn newest filter).drop (k * n)).take n := by
  rw [window, limit_boundQuery_pageQuery hn hmax, List.map_reverse, List.reverse_reverse, foundIn_eq]
  rfl

-- The pages of a log are windows of the matching attempts, newest first, in which each stands once.
-- They show all of them one after the other and then nothing more, as the services held in memory
-- do, if there are no more than an offset can reach. If there are more, every page that would start
-- further on shows the same ones again.
theorem recent_pages (client : Graph.Client Stack.Action) (filter : Attempt.Query)
    {log : List Kept} (hnumbers : (log.map Kept.number).Nodup) (hn : 0 < n)
    (hmax : n ≤ maxListLimit) :
    ∃ (newest : List Kept) (page : Nat → List LoggedAttempt),
      newest.Perm log ∧ newest.Pairwise Kept.IsNewer ∧
      Pages (foundIn newest filter) n page ∧
      ∀ k, let query := pageQuery filter n k
        let asked := selectAttempts (boundQuery query)
        (∃ rows, LogAnswers log asked rows) ∧
        (∀ s : Stack, s.database.isOpen = true → ¬s.database.Fails asked →
          LogAnswers log asked s.database.rows →
            (recent (Stack.services client) query).run.run s =
              (.ok (.ok (page k)), { s with database := s.database.told [asked] })) ∧
        (k * n ≤ maxListOffset →
          page k = window (boundQuery query) (newest.reverse.map Kept.entry)) := by
  obtain ⟨newest, hperm, hnewest⟩ := exists_newest_first hnumbers
  have hpages := pages_of_windows hn (map_entry_shownOf newest hn hmax filter)
  refine ⟨newest, _, hperm, hnewest, hpages, fun k => ⟨?_, ?_, ?_⟩⟩
  · exact ⟨_, (logAnswers_iff hnumbers hperm hnewest).mpr rfl⟩
  · intro s hopen hpass hanswers
    exact recent_of_rows client _ hopen hpass
      ((logAnswers_iff hnumbers hperm hnewest).mp hanswers)
  · intro hk
    rw [window_entries filter hn hmax]
    exact hpages.reached k hk

end

-- The directory plays no part in a listing.
def anyClient : Graph.Client Stack.Action :=
  ⟨⟨"https", "", none, none, none, false, .segments [], none, none⟩, return .ok "t", Stack.wire⟩

-- A service whose database answers with these rows.
def answering (rows : List Row) : Stack :=
  ⟨⟨fun _ => true, [], [], []⟩, none, .prepared [] rows, 0⟩

def countedLog (count : Nat) : List Kept :=
  (List.range count).map fun i : Nat => ⟨paddedActor, Int.ofNat i, 0⟩

theorem length_countedLog (count : Nat) : (countedLog count).length = count := by
  rw [countedLog, List.length_map, List.length_range]

theorem nodup_countedLog (count : Nat) : ((countedLog count).map Kept.number).Nodup := by
  rw [countedLog, List.map_map]
  exact List.nodup_range.map fun _ _ h => Int.ofNat.inj h

theorem length_foundIn_wholeLog (newest : List Kept) :
    (foundIn newest wholeLog).length = newest.length := by
  have hall : foundIn newest wholeLog = newest.map Kept.entry :=
    List.filter_eq_self.mpr fun _ _ => rfl
  rw [hall, List.length_map]

theorem recent_pages_countedLog : ((countedLog 3).map Kept.number).Nodup ∧
    ∃ page : Nat → List LoggedAttempt,
      ((page 0 ++ page 1).length = 3 ∧ page 2 = []) ∧
      ∀ k, ∃ rows, ((recent (Stack.services anyClient) (pageQuery wholeLog 2 k)).run.run
        (answering rows)).1 = .ok (.ok (page k)) := by
  have hnumbers := nodup_countedLog 3
  obtain ⟨newest, page, hperm, -, hpages, hlisted⟩ :=
    recent_pages (n := 2) anyClient wholeLog hnumbers (by decide) (by decide)
  refine ⟨hnumbers, page, ?_, fun k => ?_⟩
  · have hlength : (foundIn newest wholeLog).length = 3 := by
      rw [length_foundIn_wholeLog, hperm.length_eq, length_countedLog]
    obtain ⟨hall, hlast⟩ := hpages.complete (by rw [hlength]; decide) 2 (by rw [hlength]; decide)
    refine ⟨?_, hlast⟩
    rw [← hlength, ← hall]
    simp [List.range_succ]
  · obtain ⟨⟨rows, hrows⟩, hrun, -⟩ := hlisted k
    exact ⟨rows, congrArg Prod.fst (hrun (answering rows) rfl Bool.false_ne_true hrows)⟩

-- With one attempt more than an offset can reach, the page that would start behind all of them is
-- not empty.
theorem page_behind_countedLog :
    (countedLog (maxListOffset + 1)).length ≤ (pageQuery wholeLog 500 21).offset ∧
      ∃ rows entry entries, LogAnswers (countedLog (maxListOffset + 1))
          (selectAttempts (boundQuery (pageQuery wholeLog 500 21))) rows ∧
        ((recent (Stack.services anyClient) (pageQuery wholeLog 500 21)).run.run
          (answering rows)).1 = .ok (.ok (entry :: entries)) := by
  have hnumbers := nodup_countedLog (maxListOffset + 1)
  obtain ⟨newest, hperm, hnewest⟩ := exists_newest_first hnumbers
  let shown := shownOf newest (boundQuery (pageQuery wholeLog 500 21))
  have hshown : shown.map Kept.entry ≠ [] := by
    have hpages := pages_of_windows (by decide)
      (map_entry_shownOf newest (n := 500) (by decide) (by decide) wholeLog)
    refine hpages.endless ?_ 21
    rw [length_foundIn_wholeLog, hperm.length_eq, length_countedLog]
    exact Nat.lt_succ_self _
  obtain ⟨entry, entries, hcons⟩ := List.exists_cons_of_ne_nil hshown
  refine ⟨by rw [length_countedLog]; decide, shown.map Kept.row, entry, entries,
    (logAnswers_iff hnumbers hperm hnewest).mpr rfl, ?_⟩
  rw [recent_of_rows anyClient (pageQuery wholeLog 500 21) (s := answering (shown.map Kept.row))
    rfl Bool.false_ne_true rfl, hcons]

end Unshare.Database
