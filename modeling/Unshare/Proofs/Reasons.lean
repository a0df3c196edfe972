import Unshare.Graph.Answer
import Unshare.Proofs.Trimming
import Unshare.Revocation.Report

namespace Unshare

namespace Attempt

-- A bracket has been opened before and not closed since.
def IsOpen (before : List Char) : Prop :=
  ∃ front inside, before = front ++ '<' :: inside ∧ '>' ∉ inside

-- The character stands where no bracket is open that is closed later.
def StandsOutside (c : Char) (cs : List Char) : Prop :=
  ∃ before after, cs = before ++ c :: after ∧ ¬(IsOpen before ∧ '>' ∈ after)

theorem not_isOpen_nil : ¬IsOpen [] := by
  rintro ⟨front, inside, hnil, -⟩
  simp at hnil

theorem isOpen_cons_iff (c : Char) (before : List Char) :
    IsOpen (c :: before) ↔ c = '<' ∧ '>' ∉ before ∨ IsOpen before := by
  constructor
  · rintro ⟨front, inside, hbefore, hinside⟩
    cases front with
    | nil =>
      obtain ⟨rfl, rfl⟩ := List.cons.inj hbefore
      exact .inl ⟨rfl, hinside⟩
    | cons d front =>
      obtain ⟨rfl, rfl⟩ := List.cons.inj hbefore
      exact .inr ⟨front, inside, rfl, hinside⟩
  · rintro (⟨rfl, hinside⟩ | ⟨front, inside, rfl, hinside⟩)
    · exact ⟨[], before, rfl, hinside⟩
    · exact ⟨c :: front, inside, rfl, hinside⟩

theorem isOpen_cons_of_ne {c : Char} (h : c ≠ '<') (before : List Char) :
    IsOpen (c :: before) ↔ IsOpen before := by
  simp only [isOpen_cons_iff, h, false_and, false_or]

-- A closing bracket closes whatever was open before it.
theorem isOpen_append_closing_iff (front before : List Char) :
    IsOpen (front ++ '>' :: before) ↔ IsOpen before := by
  induction front with
  | nil => exact isOpen_cons_of_ne (by decide) before
  | cons c front ih =>
    rw [List.cons_append, isOpen_cons_iff, ih]
    simp

theorem afterClosing?_of_some {cs rest : List Char} (h : afterClosing? cs = some rest) :
    ∃ inside, cs = inside ++ '>' :: rest ∧ '>' ∉ inside := by
  induction cs with
  | nil => cases h
  | cons c cs ih =>
    rw [afterClosing?] at h
    split at h
    · rename_i hc
      cases h
      exact ⟨[], by rw [hc, List.nil_append], List.not_mem_nil⟩
    · rename_i hc
      obtain ⟨inside, rfl, hinside⟩ := ih h
      refine ⟨c :: inside, rfl, ?_⟩
      rw [List.mem_cons, not_or]
      exact ⟨fun he => hc he.symm, hinside⟩

theorem not_mem_of_afterClosing?_none {cs : List Char} (h : afterClosing? cs = none) :
    '>' ∉ cs := by
  induction cs with
  | nil => exact List.not_mem_nil
  | cons c cs ih =>
    rw [afterClosing?] at h
    split at h
    · cases h
    · rename_i hc
      rw [List.mem_cons, not_or]
      exact ⟨fun he => hc he.symm, ih h⟩

section

variable {c : Char}

theorem not_standsOutside_nil : ¬StandsOutside c [] := by
  rintro ⟨before, after, hnil, -⟩
  simp at hnil

theorem standsOutside_cons_of_ne {d : Char} (h : d ≠ '<') (rest : List Char) :
    StandsOutside c (d :: rest) ↔ c = d ∨ StandsOutside c rest := by
  constructor
  · rintro ⟨before, after, hcs, hout⟩
    cases before with
    | nil => exact .inl (List.cons.inj hcs).1.symm
    | cons e before =>
      obtain ⟨rfl, rfl⟩ := List.cons.inj hcs
      rw [isOpen_cons_of_ne h] at hout
      exact .inr ⟨before, after, rfl, hout⟩
  · rintro (rfl | ⟨before, after, rfl, hout⟩)
    · exact ⟨[], rest, rfl, fun hin => not_isOpen_nil hin.1⟩
    · refine ⟨d :: before, after, rfl, ?_⟩
      rwa [isOpen_cons_of_ne h]

-- A bracket that is never closed encloses nothing.
theorem standsOutside_unclosed (ho : c ≠ '<') {rest : List Char} (h : '>' ∉ rest) :
    StandsOutside c ('<' :: rest) ↔ StandsOutside c rest := by
  constructor
  · rintro ⟨before, after, hcs, -⟩
    cases before with
    | nil => exact absurd (List.cons.inj hcs).1.symm ho
    | cons e before =>
      obtain ⟨rfl, rfl⟩ := List.cons.inj hcs
      refine ⟨before, after, rfl, fun hin => h ?_⟩
      exact List.mem_append_right _ (List.mem_cons_of_mem _ hin.2)
  · rintro ⟨before, after, rfl, -⟩
    refine ⟨'<' :: before, after, rfl, fun hin => h ?_⟩
    exact List.mem_append_right _ (List.mem_cons_of_mem _ hin.2)

-- Up to the first closing bracket everything is enclosed, and behind it everything is as before.
theorem standsOutside_closed (ho : c ≠ '<') (hc : c ≠ '>') {inside : List Char}
    (h : '>' ∉ inside) (tail : List Char) :
    StandsOutside c ('<' :: (inside ++ '>' :: tail)) ↔ StandsOutside c tail := by
  constructor
  · rintro ⟨before, after, hcs, hout⟩
    cases before with
    | nil => exact absurd (List.cons.inj hcs).1.symm ho
    | cons e before =>
      obtain ⟨rfl, hrest⟩ := List.cons.inj hcs
      rcases List.append_eq_append_iff.mp hrest with ⟨between, rfl, htail⟩ | ⟨between, rfl, hafter⟩
      · cases between with
        | nil => exact absurd (List.cons.inj htail).1.symm hc
        | cons e between =>
          obtain ⟨rfl, rfl⟩ := List.cons.inj htail
          refine ⟨between, after, rfl, ?_⟩
          rwa [← List.cons_append, isOpen_append_closing_iff] at hout
      · cases between with
        | nil => exact absurd (List.cons.inj hafter).1 hc
        | cons e between =>
          obtain ⟨rfl, rfl⟩ := List.cons.inj hafter
          have hopen : IsOpen ('<' :: before) :=
            (isOpen_cons_iff _ _).mpr (.inl ⟨rfl, fun hmem => h (List.mem_append_left _ hmem)⟩)
          exact absurd ⟨hopen, List.mem_append_right _ List.mem_cons_self⟩ hout
  · rintro ⟨before, after, rfl, hout⟩
    refine ⟨'<' :: (inside ++ '>' :: before), after, by simp, ?_⟩
    rwa [← List.cons_append, isOpen_append_closing_iff]

-- What is kept of a text without its markup.
theorem mem_stripMarkup_iff (ho : c ≠ '<') (hc : c ≠ '>') (cs : List Char) :
    c ∈ stripMarkup cs ↔ StandsOutside c cs := by
  fun_induction stripMarkup cs with
  | case1 => exact iff_of_false List.not_mem_nil not_standsOutside_nil
  | case2 rest tail h ih =>
    obtain ⟨inside, rfl, hinside⟩ := afterClosing?_of_some h
    rw [ih, standsOutside_closed ho hc hinside]
  | case3 rest h ih => rw [ih, standsOutside_unclosed ho (not_mem_of_afterClosing?_none h)]
  | case4 rest h ih =>
    rw [ih, standsOutside_cons_of_ne h]
    exact (or_iff_right hc).symm
  | case5 d rest hd hd' ih => rw [List.mem_cons, ih, standsOutside_cons_of_ne hd]

end

-- Whatever is visible is a bracket or enclosed in brackets.
def IsMarkup (s : String) : Prop :=
  ∀ c, Text.isBlankChar c = false → c ≠ '<' → c ≠ '>' → ¬StandsOutside c s.toList

theorem isBlank_stripMarkup_iff (cs : List Char) :
    (stripMarkup cs).all Text.isBlankChar = true ↔
      ∀ c, Text.isBlankChar c = false → c ≠ '<' → c ≠ '>' → ¬StandsOutside c cs := by
  rw [List.all_eq_true]
  constructor
  · intro hall c hc ho hc' hout
    have hblank := hall c ((mem_stripMarkup_iff ho hc' cs).mpr hout)
    rw [hc] at hblank
    cases hblank
  · intro hmarkup c hmem
    obtain ⟨hopening, hclosing⟩ := stripMarkup_bracket_free cs
    have ho : c ≠ '<' := fun he => hopening (he ▸ hmem)
    have hc : c ≠ '>' := fun he => hclosing (he ▸ hmem)
    rw [← Bool.not_eq_false]
    intro hvisible
    exact hmarkup c hvisible ho hc ((mem_stripMarkup_iff ho hc cs).mp hmem)

theorem truncate_eq_empty_iff {count : Nat} (h : count ≠ 0) (s : String) :
    Text.truncate count s = "" ↔ s = "" := by
  rw [Text.truncate, String.ofList_eq_empty_iff, List.take_eq_nil_iff, or_iff_right h,
    String.toList_eq_nil_iff]

theorem sanitizeReason_eq_empty_iff (reason : String) :
    sanitizeReason reason = "" ↔ IsMarkup reason := by
  rw [sanitizeReason, truncate_eq_empty_iff (by decide), Text.trim_eq_empty_iff, Text.isBlank,
    String.toList_ofList]
  exact isBlank_stripMarkup_iff reason.toList

theorem not_isMarkup_of_head {s : String} {c : Char} {rest : List Char} (h : s.toList = c :: rest)
    (hc : Text.isBlankChar c = false) (ho : c ≠ '<') (hc' : c ≠ '>') : ¬IsMarkup s := by
  intro hmarkup
  refine hmarkup c hc ho hc' ?_
  rw [h, standsOutside_cons_of_ne ho]
  exact .inl rfl

theorem keptReason_eq_none_iff (reason : String) :
    Report.nonEmpty (some (sanitizeReason reason)) = none ↔ IsMarkup reason := by
  rw [← sanitizeReason_eq_empty_iff]
  simp [Report.nonEmpty]

theorem keptReason_of_not_isMarkup {reason : String} (h : ¬IsMarkup reason) :
    Report.nonEmpty (some (sanitizeReason reason)) = some (sanitizeReason reason) := by
  rw [← sanitizeReason_eq_empty_iff] at h
  simp [Report.nonEmpty, Option.filter, h]

end Attempt

namespace Graph

-- What the error in this body says, if there is one that can be read.
def said? (body : String) : Option ErrorBody :=
  (Json.ofText? body).bind ErrorBody.ofEnvelope?

-- The texts that an answer without success can be told by.
theorem errorMessage_cases (status : Nat) (body : String) :
    (∃ code message, said? body = some ⟨some code, some message⟩ ∧
        errorMessage status body = code ++ ": " ++ message) ∨
      (∃ message, said? body = some ⟨none, some message⟩ ∧ errorMessage status body = message) ∨
      (∀ code message, said? body ≠ some ⟨code, some message⟩) ∧
        errorMessage status body = plainMessage status body := by
  have hread : (Json.ofText? body).bind ErrorBody.ofEnvelope? = said? body := rfl
  rw [errorMessage, hread]
  cases said? body with
  | none => exact .inr (.inr ⟨by simp, rfl⟩)
  | some error =>
    obtain ⟨code, message⟩ := error
    cases message with
    | none => cases code <;> exact .inr (.inr ⟨by simp, rfl⟩)
    | some message => cases code with
      | some code => exact .inl ⟨code, message, rfl, rfl⟩
      | none => exact .inr (.inl ⟨message, rfl, rfl⟩)

theorem plainMessage_head (status : Nat) (body : String) :
    ∃ rest, (plainMessage status body).toList = 'g' :: rest := by
  have hstart : "graph request failed with status ".toList =
      'g' :: "raph request failed with status ".toList := by decide
  rw [plainMessage]
  split
  · rw [String.toList_append, hstart]
    exact ⟨_, rfl⟩
  · rw [String.append_assoc, String.append_assoc, String.toList_append, hstart]
    exact ⟨_, rfl⟩

theorem not_isBlank_plainMessage (status : Nat) (body : String) :
    Text.isBlank (plainMessage status body) = false := by
  obtain ⟨rest, hhead⟩ := plainMessage_head status body
  rw [Text.isBlank, hhead]
  rfl

-- A detail shows nothing only where all that the directory says is a blank message.
theorem isBlank_errorMessage_iff (status : Nat) (body : String) :
    Text.isBlank (errorMessage status body) = true ↔
      ∃ message, said? body = some ⟨none, some message⟩ ∧ Text.isBlank message = true := by
  obtain ⟨code, message, hsaid, hdetail⟩ | ⟨message, hsaid, hdetail⟩ | ⟨hsaid, hdetail⟩ :=
    errorMessage_cases status body
  · -- The colon behind the code can be seen.
    have hcolon : ':' ∈ (code ++ ": " ++ message).toList := by simp
    have hseen : ¬Text.isBlank (code ++ ": " ++ message) = true := by
      rw [Text.isBlank, List.all_eq_true]
      exact fun hall => absurd (hall ':' hcolon) (by decide)
    rw [hdetail, hsaid]
    exact iff_of_false hseen (by simp)
  · rw [hdetail, hsaid]
    simp
  · rw [hdetail, not_isBlank_plainMessage]
    simp [hsaid]

theorem said_of_isMarkup {status : Nat} {body : String}
    (h : Attempt.IsMarkup (errorMessage status body)) :
    ∃ code message, said? body = some ⟨code, some message⟩ := by
  obtain ⟨code, message, hsaid, -⟩ | ⟨message, hsaid, -⟩ | ⟨-, hplain⟩ :=
    errorMessage_cases status body
  · exact ⟨some code, message, hsaid⟩
  · exact ⟨none, message, hsaid⟩
  · obtain ⟨rest, hhead⟩ := plainMessage_head status body
    rw [hplain] at h
    exact absurd h (Attempt.not_isMarkup_of_head hhead (by decide) (by decide) (by decide))

end Graph

end Unshare
