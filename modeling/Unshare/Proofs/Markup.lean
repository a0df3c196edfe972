import Unshare.Proofs.Reasons

namespace Unshare.Attempt

-- Before this place a bracket is opened and not closed again, and behind it one is closed.
def IsEnclosed (cs : List Char) (i : Nat) : Prop :=
  (∃ j < i, cs[j]? = some '<' ∧ ∀ k < i, j < k → cs[k]? ≠ some '>') ∧
    ∃ k < cs.length, i < k ∧ cs[k]? = some '>'

instance (cs : List Char) (i : Nat) : Decidable (IsEnclosed cs i) :=
  inferInstanceAs (Decidable (_ ∧ _))

-- Whether the character at this place of the text is kept.
def IsKept (cs : List Char) (place : Char × Nat) : Prop :=
  place.1 ≠ '<' ∧ place.1 ≠ '>' ∧ ¬IsEnclosed cs place.2

instance (cs : List Char) (place : Char × Nat) : Decidable (IsKept cs place) :=
  inferInstanceAs (Decidable (_ ∧ _))

-- The characters that are kept, in their order.
def keptChars (cs : List Char) : List Char :=
  (cs.zipIdx.filter fun place => IsKept cs place).map Prod.fst

-- What is kept of a text that stands behind another one.
def keptBehind (before rest : List Char) : List Char :=
  ((rest.zipIdx before.length).filter fun place => IsKept (before ++ rest) place).map Prod.fst

section

variable {before rest inside : List Char} {c : Char}

theorem opened_iff_isOpen (before after : List Char) :
    (∃ j < before.length, (before ++ after)[j]? = some '<' ∧
        ∀ k < before.length, j < k → (before ++ after)[k]? ≠ some '>') ↔ IsOpen before := by
  constructor
  · rintro ⟨j, hj, hopening, hclosing⟩
    rw [List.getElem?_append_left hj] at hopening
    refine ⟨before.take j, before.drop (j + 1), ?_, ?_⟩
    · rw [← List.getElem?_eq_some_iff.mp hopening |>.2, List.getElem_cons_drop,
        List.take_append_drop]
    · intro hmem
      obtain ⟨k, hk⟩ := List.mem_iff_getElem?.mp hmem
      rw [List.getElem?_drop] at hk
      obtain ⟨hlt, -⟩ := List.getElem?_eq_some_iff.mp hk
      apply hclosing (j + 1 + k) hlt (by omega)
      rw [List.getElem?_append_left hlt, hk]
  · rintro ⟨front, inside, rfl, hinside⟩
    refine ⟨front.length, by simp, by simp, ?_⟩
    intro k hk hbehind hclosing
    rw [List.getElem?_append_left hk, List.getElem?_append_right (Nat.le_of_lt hbehind)] at hclosing
    obtain ⟨i, hi⟩ := Nat.exists_eq_add_of_lt hbehind
    have hplace : k - front.length = i + 1 := by omega
    rw [hplace, List.getElem?_cons_succ] at hclosing
    exact hinside (List.mem_of_getElem? hclosing)

theorem closed_iff_mem (before after : List Char) (c : Char) :
    (∃ k < (before ++ c :: after).length, before.length < k ∧
        (before ++ c :: after)[k]? = some '>') ↔ '>' ∈ after := by
  constructor
  · rintro ⟨k, -, hbehind, hclosing⟩
    obtain ⟨i, hi⟩ := Nat.exists_eq_add_of_lt hbehind
    have hplace : k - before.length = i + 1 := by omega
    rw [List.getElem?_append_right (Nat.le_of_lt hbehind), hplace,
      List.getElem?_cons_succ] at hclosing
    exact List.mem_of_getElem? hclosing
  · intro hmem
    obtain ⟨i, hi⟩ := List.mem_iff_getElem?.mp hmem
    obtain ⟨hlt, -⟩ := List.getElem?_eq_some_iff.mp hi
    refine ⟨before.length + (i + 1), ?_, by omega, ?_⟩
    · rw [List.length_append, List.length_cons]
      omega
    · rw [List.getElem?_append_right (Nat.le_add_right _ _), Nat.add_sub_cancel_left,
        List.getElem?_cons_succ, hi]

-- Whether a place is enclosed is told by what stands before it and what stands behind it.
theorem isEnclosed_iff (before after : List Char) (c : Char) :
    IsEnclosed (before ++ c :: after) before.length ↔ IsOpen before ∧ '>' ∈ after := by
  rw [IsEnclosed, opened_iff_isOpen, closed_iff_mem]

theorem keptChars_eq (cs : List Char) : keptChars cs = keptBehind [] cs := rfl

theorem isKept_iff (before : List Char) (c : Char) (rest : List Char) :
    IsKept (before ++ c :: rest) (c, before.length) ↔
      c ≠ '<' ∧ c ≠ '>' ∧ ¬(IsOpen before ∧ '>' ∈ rest) := by
  rw [IsKept, isEnclosed_iff]

-- The first character is kept or left out, and the others then stand behind it as well.
theorem keptBehind_cons (before : List Char) (c : Char) (rest : List Char) :
    keptBehind before (c :: rest) =
      (if IsKept (before ++ c :: rest) (c, before.length) then [c] else []) ++
        keptBehind (before ++ [c]) rest := by
  have hplaces : (before ++ [c]).length = before.length + 1 := List.length_append
  rw [keptBehind, keptBehind, List.zipIdx_cons, List.filter_cons, hplaces, List.append_assoc,
    List.singleton_append]
  by_cases hkept : IsKept (before ++ c :: rest) (c, before.length) <;> simp [hkept]

theorem isOpen_concat_iff (before : List Char) (c : Char) :
    IsOpen (before ++ [c]) ↔ c = '<' ∨ c ≠ '>' ∧ IsOpen before := by
  induction before with
  | nil =>
    rw [List.nil_append, isOpen_cons_iff]
    simp [not_isOpen_nil]
  | cons d before ih =>
    rw [List.cons_append, isOpen_cons_iff, isOpen_cons_iff, ih, List.mem_append,
      List.mem_singleton]
    grind

-- Nothing is kept of what stands between a bracket that is open and the next one that closes.
theorem keptBehind_enclosed (hopen : IsOpen before) (hinside : '>' ∉ inside) (tail : List Char) :
    keptBehind before (inside ++ '>' :: tail) = keptBehind (before ++ inside ++ ['>']) tail := by
  induction inside generalizing before with
  | nil =>
    have hbracket : ¬IsKept (before ++ '>' :: tail) ('>', before.length) :=
      fun hkept => hkept.2.1 rfl
    rw [List.nil_append, keptBehind_cons, if_neg hbracket, List.nil_append, List.append_nil]
  | cons c inside ih =>
    rw [List.mem_cons, not_or] at hinside
    obtain ⟨hc, hinside⟩ := hinside
    have hclosed : '>' ∈ inside ++ '>' :: tail :=
      List.mem_append_right _ List.mem_cons_self
    have hleft : ¬IsKept (before ++ c :: (inside ++ '>' :: tail)) (c, before.length) := by
      rw [isKept_iff]
      exact fun hkept => hkept.2.2 ⟨hopen, hclosed⟩
    have hstill : IsOpen (before ++ [c]) :=
      (isOpen_concat_iff before c).mpr (.inr ⟨Ne.symm hc, hopen⟩)
    rw [List.cons_append, keptBehind_cons, if_neg hleft, List.nil_append, ih hstill hinside,
      List.append_assoc before, List.singleton_append]

-- Behind a text that opens no bracket which is closed in the rest, the rest is kept as if it stood
-- alone. This holds at the start, and again behind each span, each bracket and each character.
theorem keptBehind_eq_stripMarkup (h : IsOpen before → '>' ∉ rest) :
    keptBehind before rest = stripMarkup rest := by
  fun_induction stripMarkup rest generalizing before with
  | case1 => rfl
  | case2 rest tail hspan ih =>
    obtain ⟨inside, rfl, hinside⟩ := afterClosing?_of_some hspan
    have hopening : ¬IsKept (before ++ '<' :: (inside ++ '>' :: tail)) ('<', before.length) :=
      fun hkept => hkept.1 rfl
    have hopen : IsOpen (before ++ ['<']) := (isOpen_concat_iff before '<').mpr (.inl rfl)
    rw [keptBehind_cons, if_neg hopening, List.nil_append, keptBehind_enclosed hopen hinside]
    apply ih
    rw [isOpen_concat_iff]
    simp
  | case3 rest hspan ih =>
    have hopening : ¬IsKept (before ++ '<' :: rest) ('<', before.length) :=
      fun hkept => hkept.1 rfl
    rw [keptBehind_cons, if_neg hopening, List.nil_append]
    exact ih fun _ => not_mem_of_afterClosing?_none hspan
  | case4 rest hne ih =>
    have hclosing : ¬IsKept (before ++ '>' :: rest) ('>', before.length) :=
      fun hkept => hkept.2.1 rfl
    rw [keptBehind_cons, if_neg hclosing, List.nil_append]
    apply ih
    rw [isOpen_concat_iff]
    simp
  | case5 c rest ho hc ih =>
    have hfree : IsOpen before → '>' ∉ rest := fun hopen hmem =>
      h hopen (List.mem_cons_of_mem _ hmem)
    have hkept : IsKept (before ++ c :: rest) (c, before.length) := by
      rw [isKept_iff]
      exact ⟨ho, hc, fun hin => hfree hin.1 hin.2⟩
    rw [keptBehind_cons, if_pos hkept, List.singleton_append]
    congr 1
    apply ih
    rw [isOpen_concat_iff]
    exact fun hopen => hfree (hopen.resolve_left ho).2

-- A text without brackets stays as it is.
theorem stripMarkup_of_bracket_free {cs : List Char} (ho : '<' ∉ cs) (hc : '>' ∉ cs) :
    stripMarkup cs = cs := by
  induction cs with
  | nil => rw [stripMarkup]
  | cons c cs ih =>
    rw [List.mem_cons, not_or] at ho hc
    rw [stripMarkup, if_neg (Ne.symm ho.1), if_neg (Ne.symm hc.1), ih ho.2 hc.2]

theorem stripMarkup_eq_keptChars (cs : List Char) : stripMarkup cs = keptChars cs := by
  rw [keptChars_eq, keptBehind_eq_stripMarkup]
  exact fun hopen => absurd hopen not_isOpen_nil

end

-- Only the text that no bracket encloses is kept, without the brackets, trimmed and cut off; a text
-- without brackets is only trimmed and cut off.
theorem sanitizeReason_keeps_places (reason : String) :
    sanitizeReason reason =
        Text.truncate 240 (Text.trim (String.ofList (keptChars reason.toList))) ∧
      (sanitizeReason reason).length ≤ 240 ∧
      '<' ∉ (sanitizeReason reason).toList ∧ '>' ∉ (sanitizeReason reason).toList ∧
      ('<' ∉ reason.toList → '>' ∉ reason.toList →
        sanitizeReason reason = Text.truncate 240 (Text.trim reason)) := by
  obtain ⟨hopening, hclosing⟩ := sanitizeReason_bracket_free reason
  have hkept : sanitizeReason reason =
      Text.truncate 240 (Text.trim (String.ofList (keptChars reason.toList))) := by
    rw [sanitizeReason, stripMarkup_eq_keptChars]
    rfl
  refine ⟨hkept, length_sanitizeReason_le reason, hopening, hclosing, ?_⟩
  intro ho hc
  rw [sanitizeReason, stripMarkup_of_bracket_free ho hc, String.ofList_toList]
  rfl

theorem sanitizeReason_keeps_places_spaced :
    '<' ∉ " limit  reached ".toList ∧ '>' ∉ " limit  reached ".toList ∧
      sanitizeReason " limit  reached " = "limit  reached" := by
  have ho : '<' ∉ " limit  reached ".toList := by decide
  have hc : '>' ∉ " limit  reached ".toList := by decide
  obtain ⟨-, -, -, -, hplain⟩ := sanitizeReason_keeps_places " limit  reached "
  refine ⟨ho, hc, ?_⟩
  rw [hplain ho hc]
  decide

-- The first bracket is closed by the first that closes, and the last one never is.
example : sanitizeReason "a<b<c>d>e<f" = "adef" := by
  rw [sanitizeReason, stripMarkup_eq_keptChars]
  decide

end Unshare.Attempt
