import Unshare.Proofs.Bounding
import Unshare.Proofs.History

namespace Unshare

namespace Revocation

open Services (Event)

-- How the account of a stale copy begins, and that of a lost audit event.
def staleMark : String :=
  "graph_delete_succeeded_local_sync_failed:"

def lostMark : String :=
  "audit_write_failed:"

-- What there is to tell of the calls after a removal, before it is bounded.
def account : Except Failure Unit → Except Failure Unit → String
  | .ok _, .ok _ => ""
  | .error f, .ok _ => staleMark ++ f.detail
  | .ok _, .error g => lostMark ++ g.detail
  | .error f, .error g => staleMark ++ f.detail ++ " | " ++ lostMark ++ g.detail

theorem isFramed_staleMark : Text.IsFramed staleMark.toList :=
  ⟨⟨'g', rfl, by decide⟩, ⟨':', rfl, by decide⟩⟩

theorem isFramed_lostMark : Text.IsFramed lostMark.toList :=
  ⟨⟨'a', rfl, by decide⟩, ⟨':', rfl, by decide⟩⟩

theorem account_cases (cached audited : Except Failure Unit) :
    cached = .ok () ∧ audited = .ok () ∨ ∃ front back, Text.IsFramed front ∧
      (account cached audited).toList = front ++ back := by
  cases cached with
  | error f =>
    refine Or.inr ⟨staleMark.toList, ?_⟩
    cases audited with
    | error g =>
      refine ⟨f.detail.toList ++ (" | " ++ lostMark ++ g.detail).toList, isFramed_staleMark, ?_⟩
      simp only [account, String.toList_append, List.append_assoc]
    | ok => exact ⟨f.detail.toList, isFramed_staleMark, String.toList_append⟩
  | ok =>
    cases audited with
    | error g =>
      exact Or.inr ⟨lostMark.toList, g.detail.toList, isFramed_lostMark, String.toList_append⟩
    | ok => exact Or.inl ⟨rfl, rfl⟩

-- The caller is told the bounded account, if there is one.
theorem joinWarnings_eq {cached audited : Except Failure Unit}
    (h : ¬(cached = .ok () ∧ audited = .ok ())) :
    joinWarnings cached audited = some (Attempt.boundWarning (account cached audited)) := by
  cases cached with
  | error f =>
    cases audited with
    | error g =>
      have hjoined : account (.error f) (.error g) =
          staleCopyWarning f.detail ++ " | " ++ lostAuditWarning g.detail :=
        String.append_assoc
      rw [hjoined, joinWarnings]
    | ok => rfl
  | ok =>
    cases audited with
    | error g => rfl
    | ok => exact absurd ⟨rfl, rfl⟩ h

theorem head_boundWarning {s : String} {front back : List Char} (h : Text.IsFramed front)
    (hs : s.toList = front ++ back) : ∃ c, (Attempt.boundWarning s).toList.head? = some c ∧
      Text.isBlankChar c = false := by
  obtain ⟨c, hc, hseen⟩ := h.head
  refine ⟨c, ?_, hseen⟩
  have hpositive : ¬Attempt.maxWarningLength = 0 := by decide
  rw [Attempt.toList_boundWarning, hs, Text.trimChars_append h, List.head?_take,
    if_neg hpositive, List.head?_append, hc, Option.some_or]

-- The warning that is kept is the one that is told, without the blanks at its end.
theorem keptWarning_joinWarnings (cached audited : Except Failure Unit) :
    Report.nonEmpty ((joinWarnings cached audited).map Attempt.boundWarning) =
      (joinWarnings cached audited).map Text.trim := by
  by_cases hfailed : cached = .ok () ∧ audited = .ok ()
  · obtain ⟨rfl, rfl⟩ := hfailed
    rfl
  · obtain hnone | ⟨front, back, hframed, haccount⟩ := account_cases cached audited
    · exact absurd hnone hfailed
    · obtain ⟨c, hc, hseen⟩ := head_boundWarning hframed haccount
      have hblank : Text.isBlank (Attempt.boundWarning (account cached audited)) = false := by
        rw [Text.isBlank, ← Bool.not_eq_true, List.all_eq_true]
        intro hall
        rw [hall c (List.mem_of_mem_head? hc)] at hseen
        cases hseen
      have htrim : Text.trim (Attempt.boundWarning (account cached audited)) ≠ "" := by
        rw [Ne, Text.trim_eq_empty_iff, hblank]
        exact Bool.false_ne_true
      rw [joinWarnings_eq hfailed, Option.map_some, Option.map_some,
        Attempt.boundWarning_boundWarning, Report.nonEmpty, Option.filter_some]
      simp [htrim]

theorem warning_successReport (c : Context) (warning : Option String) (facts : Json.Fields)
    (defaultSource : String) :
    ((c.successReport warning facts).toAttempt defaultSource).warning =
      Report.nonEmpty (warning.map Attempt.boundWarning) := rfl

-- The two are the same unless the cut left a blank at the end.
theorem keptWarning_joinWarnings_eq_iff (cached audited : Except Failure Unit) :
    Report.nonEmpty ((joinWarnings cached audited).map Attempt.boundWarning) =
        joinWarnings cached audited ↔
      ∀ c, (Text.trim (account cached audited)).toList[Attempt.maxWarningLength - 1]? = some c →
        Text.isBlankChar c = false := by
  rw [keptWarning_joinWarnings]
  by_cases hfailed : cached = .ok () ∧ audited = .ok ()
  · obtain ⟨rfl, rfl⟩ := hfailed
    simp [joinWarnings, account, Text.trim, Text.trimChars]
  · rw [joinWarnings_eq hfailed, Option.map_some, Option.some.injEq,
      ← Attempt.boundWarning_boundWarning, Attempt.boundWarning_idem_iff, Text.toList_trim]

theorem isInfix_iff_occursIn (word cs : List Char) :
    word <:+: cs ↔ Policy.occursIn word cs = true := by
  rw [Policy.occursIn_iff]
  constructor
  · rintro ⟨before, after, h⟩
    exact ⟨before, after, h.symm⟩
  · rintro ⟨before, after, h⟩
    exact ⟨before, after, h.symm⟩

-- The one colon of the lost mark is its last character, so it never begins in the stale mark.
theorem lostMark_infix_append_iff (cs : List Char) :
    lostMark.toList <:+: staleMark.toList ++ cs ↔ lostMark.toList <:+: cs := by
  have hlost : lostMark.toList = "audit_write_failed".toList ++ [':'] := rfl
  have hstale : staleMark.toList = "graph_delete_succeeded_local_sync_failed".toList ++ [':'] :=
    rfl
  have hcolon : ':' ∉ "audit_write_failed".toList := by decide
  have hno : ¬lostMark.toList <:+: staleMark.toList := by
    rw [isInfix_iff_occursIn]
    decide
  rw [hlost, hstale] at hno
  rw [hlost, hstale, List.append_assoc, List.singleton_append,
    Text.infix_append_sep_iff_of_last hcolon, or_iff_right hno]

-- A cut that reaches the lost mark in the account of a lost audit event destroys it.
theorem not_lostMark_infix_take {count : Nat} (h : count ≤ 20) (cs : List Char) :
    ¬lostMark.toList <:+: ("| ".toList ++ lostMark.toList ++ cs).take count := by
  intro hfound
  have hcolon : ':' ∈ ("| ".toList ++ lostMark.toList ++ cs).take count :=
    hfound.subset (by decide)
  have hlen : 20 ≤ ("| ".toList ++ lostMark.toList).length := by decide
  have hfront : ':' ∈ ("| ".toList ++ lostMark.toList).take 20 := by
    rw [← List.take_append_of_le_length hlen]
    exact (List.take_prefix_take_left h).subset hcolon
  revert hfront
  decide

-- Behind the account of a stale copy the mark of a lost audit event survives the cut only if that
-- account is short, unless the words stand in it already.
theorem lostMark_infix_take_iff (detail rest : List Char) :
    lostMark.toList <:+: (staleMark.toList ++
        (detail ++ (" | ".toList ++ lostMark.toList ++ rest))).take 500 ↔
      detail.length ≤ 437 ∨ lostMark.toList <:+: detail.take 459 := by
  have hstale : staleMark.toList.length = 41 := rfl
  have hmark : (" | ".toList ++ lostMark.toList).length = 22 := rfl
  have hsep : " | ".toList = ' ' :: "| ".toList := rfl
  have hblank : ' ' ∉ lostMark.toList := by decide
  have hfront : staleMark.toList.take 500 = staleMark.toList := List.take_of_length_le (by omega)
  have hcut : 500 - staleMark.toList.length = 459 := by omega
  rw [List.take_append, hfront, hcut, lostMark_infix_append_iff, List.take_append]
  by_cases hshort : detail.length ≤ 437
  · have hdetail : detail.take 459 = detail := List.take_of_length_le (by omega)
    have hwhole : (" | ".toList ++ lostMark.toList).take (459 - detail.length) =
        " | ".toList ++ lostMark.toList := List.take_of_length_le (by omega)
    rw [List.take_append, hdetail, hwhole]
    have hmarked := List.infix_append " | ".toList lostMark.toList
      (rest.take (459 - detail.length - (" | ".toList ++ lostMark.toList).length))
    exact iff_of_true (hmarked.trans (List.suffix_append detail _).isInfix) (Or.inl hshort)
  · rw [or_iff_right hshort]
    cases hleft : 459 - detail.length with
    | zero => rw [List.take_zero, List.append_nil]
    | succ left =>
      have hreached := not_lostMark_infix_take (show left ≤ 20 by omega) rest
      rw [hsep, List.cons_append, List.cons_append, List.take_succ_cons,
        Text.infix_append_sep_iff hblank, or_iff_left hreached]

-- A bounded warning begins as its account does, up to what can be seen last.
theorem prefix_boundWarning {s : String} {front back : List Char} (h : Text.IsFramed front)
    (hlen : front.length ≤ Attempt.maxWarningLength) (hs : s.toList = front ++ back) :
    front <+: (Attempt.boundWarning s).toList := by
  rw [Attempt.toList_boundWarning, hs, Text.trimChars_append h, List.take_append,
    List.take_of_length_le hlen]
  exact List.prefix_append front _

theorem joinWarnings_eq_none_iff (cached audited : Except Failure Unit) :
    joinWarnings cached audited = none ↔ cached = .ok () ∧ audited = .ok () := by
  constructor
  · intro h
    by_contra hfailed
    rw [joinWarnings_eq hfailed] at h
    cases h
  · rintro ⟨rfl, rfl⟩
    rfl

theorem staleMark_prefix_iff (cached audited : Except Failure Unit) :
    (∃ w, joinWarnings cached audited = some w ∧ staleMark.toList <+: w.toList) ↔
      ∃ f, cached = .error f := by
  cases cached with
  | error f =>
    have hfailed : ¬(Except.error f = .ok () ∧ audited = .ok ()) := fun h => nomatch h.1
    refine iff_of_true ⟨_, joinWarnings_eq hfailed, ?_⟩ ⟨f, rfl⟩
    have hlen : staleMark.toList.length ≤ Attempt.maxWarningLength := by decide
    cases audited with
    | error g =>
      have haccount : (account (.error f) (.error g)).toList = staleMark.toList ++
          (f.detail ++ " | " ++ lostMark ++ g.detail).toList := by
        simp only [account, String.toList_append, List.append_assoc]
      exact prefix_boundWarning isFramed_staleMark hlen haccount
    | ok => exact prefix_boundWarning isFramed_staleMark hlen String.toList_append
  | ok =>
    refine iff_of_false ?_ (fun h => nomatch h)
    rintro ⟨w, hw, hbegins⟩
    cases audited with
    | ok => cases hw
    | error g =>
      obtain rfl := Option.some.inj hw
      have hlost : lostMark.toList <+: (Attempt.boundWarning (lostMark ++ g.detail)).toList :=
        prefix_boundWarning isFramed_lostMark (by decide) String.toList_append
      have hboth := List.prefix_of_prefix_length_le hlost hbegins (by decide)
      revert hboth
      decide

theorem lostMark_infix_iff (f g : Failure) :
    lostMark.toList <:+: (Attempt.boundWarning (account (.error f) (.error g))).toList ↔
      f.detail.length ≤ 437 ∨ lostMark.toList <:+: f.detail.toList.take 459 := by
  have haccount : (account (.error f) (.error g)).toList =
      (staleMark.toList ++ (f.detail ++ " | ").toList ++ lostMark.toList) ++ g.detail.toList := by
    simp only [account, String.toList_append, List.append_assoc]
  have hframed := isFramed_staleMark.append isFramed_lostMark (f.detail ++ " | ").toList
  rw [← String.length_toList, ← lostMark_infix_take_iff f.detail.toList
    (g.detail.toList.rdropWhile Text.isBlankChar), Attempt.toList_boundWarning, haccount,
    Text.trimChars_append hframed]
  simp only [String.toList_append, List.append_assoc, Attempt.maxWarningLength]

section

variable {σ : Type} {s : Services (StateM σ)} {defaultSource correlation : String}
  {r : RevokeRequest} {actor : Option Actor} {x : σ} {events : List Event} {kept : Attempt}
  {result : Except Failure Revoked}

-- Only an attempt that removed the grant comes to a good end.
theorem removed_of_shows_ok {done : Revoked}
    (h : Shows s defaultSource correlation r actor x events kept (.ok done)) :
    ∃ id g, (Course.removed id g).Taken s r x := by
  obtain ⟨course, ht, hseen, -⟩ := h.exists_course
  cases course with
  | removed id g => exact ⟨id, g, ht⟩
  | _ => cases hseen.2

-- What an attempt that removed the grant shows.
theorem shows_of_taken_removed {id : GrantId} {g : Grant} (h : (Course.removed id g).Taken s r x) :
    ∃ told cached audited, Shows s defaultSource correlation r actor x
      [.fetch id (.ok g), .remove id (.ok ()), .forget id cached, .audit told audited]
      ((Context.successReport ⟨r.trimmed, actor, correlation⟩ (joinWarnings cached audited)
        g.details).toAttempt defaultSource)
      (.ok ⟨joinWarnings cached audited⟩) := by
  obtain ⟨ha, y, z, hfetch, hp, hremove⟩ := h
  exact ⟨_, _, _, shows_removed ha hfetch hp hremove rfl rfl⟩

-- The warning in the record is the one that the caller gets, but for blanks at its end; the two
-- are the same unless the account was cut right behind a blank.
theorem kept_warning_of_shows {done : Revoked}
    (h : Shows s defaultSource correlation r actor x events kept (.ok done)) :
    ∃ id g cached told audited,
      events =
        [.fetch id (.ok g), .remove id (.ok ()), .forget id cached, .audit told audited] ∧
      kept.warning = done.warning.map Text.trim ∧
      (kept.warning = done.warning ↔
        ∀ c, (Text.trim (account cached audited)).toList[499]? = some c →
          Text.isBlankChar c = false) := by
  obtain ⟨id, g, ht⟩ := removed_of_shows_ok h
  obtain ⟨told, cached, audited, hshows⟩ := shows_of_taken_removed ht
  obtain ⟨rfl, rfl, hresult⟩ := h.unique hshows
  obtain rfl := Except.ok.inj hresult
  exact ⟨id, g, cached, told, audited, rfl, keptWarning_joinWarnings cached audited,
    keptWarning_joinWarnings_eq_iff cached audited⟩

end

-- The writer's grant, asked for while the local copy and the audit trail answer like this.
def faultOf : Except Failure Unit → Option Failure
  | .ok _ => none
  | .error f => some f

def answering (cached audited : Except Failure Unit) : Memory :=
  { Memory.sharedItem with
    faults := fun service => match service with
      | .forget => faultOf cached
      | .audit => faultOf audited
      | _ => none }

def writersRequest : RevokeRequest :=
  ⟨some "d", some "i", some "w", none⟩

theorem taken_answering (cached audited : Except Failure Unit) :
    (Course.removed Memory.writersGrant.id Memory.writersGrant).Taken Memory.services
      writersRequest (answering cached audited) :=
  ⟨⟨rfl, rfl, rfl⟩, _, _, rfl, rfl, rfl⟩

theorem shows_answering (cached audited : Except Failure Unit) :
    ∃ told, Shows Memory.services "source" "c" writersRequest none (answering cached audited)
      [.fetch Memory.writersGrant.id (.ok Memory.writersGrant),
        .remove Memory.writersGrant.id (.ok ()), .forget Memory.writersGrant.id cached,
        .audit told audited]
      ((Context.successReport ⟨writersRequest.trimmed, none, "c"⟩ (joinWarnings cached audited)
        Memory.writersGrant.details).toAttempt "source")
      (.ok ⟨joinWarnings cached audited⟩) := by
  cases cached <;> cases audited <;>
    exact ⟨_, shows_removed ⟨rfl, rfl, rfl⟩ rfl rfl rfl rfl rfl⟩

theorem kept_warning_of_shows_deadlock :
    ∃ events kept done, Shows Memory.services "source" "c" writersRequest none
        (answering (.error (.internal "deadlock detected")) (.ok ())) events kept (.ok done) ∧
      ∃ id g cached told audited,
        events =
          [.fetch id (.ok g), .remove id (.ok ()), .forget id cached, .audit told audited] ∧
        kept.warning = done.warning.map Text.trim ∧
        (kept.warning = done.warning ↔
          ∀ c, (Text.trim (account cached audited)).toList[499]? = some c →
            Text.isBlankChar c = false) := by
  obtain ⟨told, hshows⟩ := shows_answering (.error (.internal "deadlock detected")) (.ok ())
  exact ⟨_, _, _, hshows, kept_warning_of_shows hshows⟩

-- The local copy fails for a reason that ends in a blank and one more character.
def spaced (words : List Char) : Except Failure Unit :=
  .error (.internal (String.ofList (words ++ [' ', 'y'])))

-- With the mark and so many characters before it, the blank is the last of the 500.
theorem keptWarning_spaced {words : List Char} (h : words.length = 458) :
    Report.nonEmpty ((joinWarnings (spaced words) (.ok ())).map Attempt.boundWarning) ≠
      joinWarnings (spaced words) (.ok ()) := by
  intro hsame
  have haccount : (account (spaced words) (.ok ())).toList =
      staleMark.toList ++ (words ++ [' ']) ++ ['y'] ++ [] := by
    simp [spaced, account, Failure.internal]
  have hseen : Text.IsFramed ['y'] := ⟨⟨'y', rfl, by decide⟩, ⟨'y', rfl, by decide⟩⟩
  have hframed := isFramed_staleMark.append hseen (words ++ [' '])
  have hstale : staleMark.toList.length = 41 := rfl
  have hcut : (Text.trim (account (spaced words) (.ok ()))).toList[499]? = some ' ' := by
    rw [Text.toList_trim, haccount, Text.trimChars_append hframed]
    simp [hstale, h]
  have hblank := (keptWarning_joinWarnings_eq_iff (spaced words) (.ok ())).mp hsame ' ' hcut
  revert hblank
  decide

-- The last character that the caller gets is a blank; the record does without it.
theorem kept_warning_differs :
    ∃ events kept warning, Shows Memory.services "source" "c" writersRequest none
        (answering (spaced (List.replicate 458 'x')) (.ok ())) events kept (.ok ⟨warning⟩) ∧
      kept.warning ≠ warning := by
  obtain ⟨told, hshows⟩ := shows_answering (spaced (List.replicate 458 'x')) (.ok ())
  refine ⟨_, _, _, hshows, ?_⟩
  rw [warning_successReport]
  exact keptWarning_spaced List.length_replicate

section

variable {σ : Type} {s : Services (StateM σ)} {defaultSource correlation : String}
  {r : RevokeRequest} {actor : Option Actor} {x : σ}

-- A removal that was not followed by all that should follow is never passed over in silence. A
-- stale copy is always told of. A lost audit event is told of behind a stale copy only if the
-- account of that has 437 characters or fewer besides its mark: the marks, the words between them
-- and those fill the 500 that are kept.
theorem warning_of_removal {id : GrantId} {g : Grant} (h : (Course.removed id g).Taken s r x) :
    ∃ told cached audited kept warning,
      Shows s defaultSource correlation r actor x
        [.fetch id (.ok g), .remove id (.ok ()), .forget id cached, .audit told audited] kept
        (.ok ⟨warning⟩) ∧
      (warning = none ↔ cached = .ok () ∧ audited = .ok ()) ∧
      ((∃ w, warning = some w ∧ staleMark.toList <+: w.toList) ↔ ∃ f, cached = .error f) ∧
      (∀ lost, audited = .error lost → ∃ w, warning = some w ∧
        (lostMark.toList <:+: w.toList ↔ ∀ stale, cached = .error stale →
          stale.detail.length ≤ 437 ∨ lostMark.toList <:+: stale.detail.toList.take 459)) ∧
      ∀ w, warning = some w → w.length ≤ 500 := by
  obtain ⟨told, cached, audited, hshows⟩ := shows_of_taken_removed h
  refine ⟨told, cached, audited, _, _, hshows, joinWarnings_eq_none_iff cached audited,
    staleMark_prefix_iff cached audited, ?_, ?_⟩
  · rintro lost rfl
    have hfailed : ¬(cached = .ok () ∧ Except.error lost = .ok ()) := fun h => nomatch h.2
    refine ⟨_, joinWarnings_eq hfailed, ?_⟩
    cases cached with
    | error stale =>
      rw [lostMark_infix_iff]
      constructor
      · rintro hlost _ ⟨⟩
        exact hlost
      · intro hlost
        exact hlost stale rfl
    | ok =>
      have hmarked : lostMark.toList <+: (Attempt.boundWarning (lostMark ++ lost.detail)).toList :=
        prefix_boundWarning isFramed_lostMark (by decide) String.toList_append
      exact iff_of_true hmarked.isInfix (fun _ hstale => nomatch hstale)
  · intro w hw
    by_cases hfailed : cached = .ok () ∧ audited = .ok ()
    · rw [(joinWarnings_eq_none_iff cached audited).mpr hfailed] at hw
      cases hw
    · rw [joinWarnings_eq hfailed] at hw
      obtain rfl := Option.some.inj hw
      exact Attempt.length_boundWarning_le _

end

theorem warning_of_removal_both :
    let x := answering (.error (.internal "deadlock detected")) (.error (.internal "table locked"))
    (Course.removed Memory.writersGrant.id Memory.writersGrant).Taken Memory.services
        writersRequest x ∧
      ∃ told cached audited kept warning,
        Shows Memory.services "source" "c" writersRequest none x
          [.fetch Memory.writersGrant.id (.ok Memory.writersGrant),
            .remove Memory.writersGrant.id (.ok ()), .forget Memory.writersGrant.id cached,
            .audit told audited] kept (.ok ⟨warning⟩) ∧
        (warning = none ↔ cached = .ok () ∧ audited = .ok ()) ∧
        ((∃ w, warning = some w ∧ staleMark.toList <+: w.toList) ↔ ∃ f, cached = .error f) ∧
        (∀ lost, audited = .error lost → ∃ w, warning = some w ∧
          (lostMark.toList <:+: w.toList ↔ ∀ stale, cached = .error stale →
            stale.detail.length ≤ 437 ∨ lostMark.toList <:+: stale.detail.toList.take 459)) ∧
        ∀ w, warning = some w → w.length ≤ 500 := by
  intro x
  have htaken := taken_answering (.error (.internal "deadlock detected"))
    (.error (.internal "table locked"))
  exact ⟨htaken, warning_of_removal htaken⟩

theorem not_lostMark_infix_of_long {words : List Char} (hlen : 437 < words.length)
    (hcolon : ':' ∉ words) (lost : Failure) :
    ¬lostMark.toList <:+: (Attempt.boundWarning
      (account (.error (.internal (String.ofList words))) (.error lost))).toList := by
  rw [lostMark_infix_iff, Failure.internal, String.length_ofList, String.toList_ofList]
  rintro (hshort | hfound)
  · omega
  · exact hcolon (List.mem_of_mem_take (hfound.subset (by decide : ':' ∈ lostMark.toList)))

-- Behind a long account of the stale copy nobody learns that the audit event was lost.
theorem lost_audit_untold :
    let cached := .error (.internal (String.ofList (List.replicate 438 'x')))
    let audited := .error (.internal "table locked")
    ∃ told kept w, Shows Memory.services "source" "c" writersRequest none
        (answering cached audited)
        [.fetch Memory.writersGrant.id (.ok Memory.writersGrant),
          .remove Memory.writersGrant.id (.ok ()), .forget Memory.writersGrant.id cached,
          .audit told audited] kept (.ok ⟨some w⟩) ∧
      ¬lostMark.toList <:+: w.toList := by
  intro cached audited
  obtain ⟨told, hshows⟩ := shows_answering cached audited
  have hfailed : ¬(cached = .ok () ∧ audited = .ok ()) := fun h => nomatch h.1
  rw [joinWarnings_eq hfailed] at hshows
  have hcolon : ':' ∉ List.replicate 438 'x' := by
    intro hmem
    exact absurd (List.eq_of_mem_replicate hmem) (by decide)
  have hlen : 437 < (List.replicate 438 'x').length := by
    rw [List.length_replicate]
    exact Nat.lt_succ_self 437
  exact ⟨told, _, _, hshows, not_lostMark_infix_of_long hlen hcolon _⟩

end Revocation

end Unshare
