import Unshare.Attempt
import Unshare.Proofs.Trimming

namespace Unshare

namespace Text

-- `List.rdropWhile_eq_self_iff`, for a last member that there may not be.
theorem rdropWhile_eq_self_iff_getLast? {α : Type} {p : α → Bool} {cs : List α} :
    cs.rdropWhile p = cs ↔ ∀ c, cs.getLast? = some c → p c = false := by
  rw [List.rdropWhile_eq_self_iff]
  constructor
  · intro h c hc
    have hne : cs ≠ [] := by
      rintro rfl
      cases hc
    rw [List.getLast?_eq_some_getLast hne, Option.some.injEq] at hc
    simpa [hc] using h hne
  · intro h hne
    rw [h _ (List.getLast?_eq_some_getLast hne)]
    exact Bool.false_ne_true

-- The first and the last character can be seen.
structure IsFramed (cs : List Char) : Prop where
  head : ∃ c, cs.head? = some c ∧ isBlankChar c = false
  last : ∃ c, cs.getLast? = some c ∧ isBlankChar c = false

theorem IsFramed.append {front back : List Char} (h : IsFramed front) (h' : IsFramed back)
    (between : List Char) : IsFramed (front ++ between ++ back) where
  head := by
    obtain ⟨c, hc, hseen⟩ := h.head
    exact ⟨c, by rw [List.append_assoc, List.head?_append, hc, Option.some_or], hseen⟩
  last := by
    obtain ⟨c, hc, hseen⟩ := h'.last
    exact ⟨c, by rw [List.getLast?_append, hc, Option.some_or], hseen⟩

-- What begins and ends visibly is left alone at the front of a text that is trimmed.
theorem trimChars_append {front : List Char} (h : IsFramed front) (back : List Char) :
    trimChars (front ++ back) = front ++ back.rdropWhile isBlankChar := by
  have hfront : (front ++ back).dropWhile isBlankChar = front ++ back := by
    obtain ⟨c, hc, hseen⟩ := h.head
    cases front with
    | nil => cases hc
    | cons d rest =>
      obtain rfl : d = c := Option.some.inj hc
      simp [hseen]
  have hback : front.reverse.dropWhile isBlankChar = front.reverse := by
    obtain ⟨c, hc, hseen⟩ := h.last
    have hkept : front.rdropWhile isBlankChar = front := by
      rw [rdropWhile_eq_self_iff_getLast?]
      intro d hd
      obtain rfl : c = d := Option.some.inj (hc.symm.trans hd)
      exact hseen
    rw [List.rdropWhile, List.reverse_eq_iff] at hkept
    exact hkept
  rw [trimChars_eq_rdropWhile, hfront, List.rdropWhile, List.reverse_append, List.dropWhile_append, hback]
  split
  · rename_i hblank
    rw [List.isEmpty_iff] at hblank
    simp [List.rdropWhile, hblank]
  · rw [List.reverse_append, List.reverse_reverse, List.rdropWhile]

-- The front of a trimmed text has nothing to trim but its end.
theorem trimChars_take_trimChars (count : Nat) (cs : List Char) :
    trimChars ((trimChars cs).take count) =
      ((trimChars cs).take count).rdropWhile isBlankChar := by
  have hhead : ((trimChars cs).take count).dropWhile isBlankChar = (trimChars cs).take count := by
    cases hfront : (trimChars cs).take count with
    | nil => rfl
    | cons c rest =>
      have hc : (trimChars cs).head? = some c := by
        have htake := congrArg List.head? hfront
        rw [List.head?_take] at htake
        split at htake
        · cases htake
        · exact htake
      simp [head_trimChars hc]
  rw [trimChars_eq_rdropWhile, hhead]

-- Where a word without `sep` stands in a text, it stands before or behind a `sep` of the text.
theorem before_or_behind {α : Type} {sep : α} {word front back left right : List α}
    (hword : sep ∉ word) (h : left ++ word ++ right = front ++ sep :: back) :
    (∃ gap, front = left ++ word ++ gap ∧ right = gap ++ sep :: back) ∨
      ∃ gap, back = gap ++ word ++ right := by
  rw [List.append_assoc] at h
  rcases List.append_eq_append_iff.mp h with ⟨extra, rfl, hrest⟩ | ⟨extra, rfl, hrest⟩
  · rcases List.append_eq_append_iff.mp hrest with ⟨gap, rfl, hright⟩ | ⟨cut, rfl, hright⟩
    · exact Or.inl ⟨gap, by rw [List.append_assoc], hright⟩
    · cases cut with
      | nil => exact Or.inl ⟨[], by simp, by simpa using hright.symm⟩
      | cons c cut =>
        obtain ⟨rfl, -⟩ := List.cons.inj hright
        exact absurd (List.mem_append_right extra List.mem_cons_self) hword
  · cases extra with
    | nil =>
      cases word with
      | nil => exact Or.inl ⟨[], by simp, by simpa using hrest.symm⟩
      | cons c word =>
        obtain ⟨rfl, -⟩ := List.cons.inj hrest
        exact absurd List.mem_cons_self hword
    | cons c gap =>
      obtain ⟨-, hback⟩ := List.cons.inj hrest
      exact Or.inr ⟨gap, by simpa using hback⟩

-- A word without `sep` never reaches over one.
theorem infix_append_sep_iff {α : Type} {sep : α} {word : List α} (hword : sep ∉ word)
    (front back : List α) : word <:+: front ++ sep :: back ↔ word <:+: front ∨ word <:+: back := by
  constructor
  · rintro ⟨left, right, h⟩
    rcases before_or_behind hword h with ⟨gap, rfl, -⟩ | ⟨gap, rfl⟩
    · exact Or.inl ⟨left, gap, rfl⟩
    · exact Or.inr ⟨gap, right, rfl⟩
  · rintro (h | h)
    · exact h.trans (List.prefix_append front _).isInfix
    · exact h.trans (List.suffix_append_of_suffix (List.suffix_cons sep back)).isInfix

-- Nor does a word that has its one `sep` at its end reach over one.
theorem infix_append_sep_iff_of_last {α : Type} {sep : α} {word : List α} (hword : sep ∉ word)
    (front back : List α) : word ++ [sep] <:+: front ++ sep :: back ↔
      word ++ [sep] <:+: front ++ [sep] ∨ word ++ [sep] <:+: back := by
  constructor
  · rintro ⟨left, right, h⟩
    have hsplit : left ++ word ++ (sep :: right) = front ++ sep :: back := by
      simpa using h
    rcases before_or_behind hword hsplit with ⟨gap, rfl, hright⟩ | ⟨gap, rfl⟩
    · cases gap with
      | nil => exact Or.inl ⟨left, [], by simp⟩
      | cons c gap =>
        obtain ⟨rfl, -⟩ := List.cons.inj hright
        exact Or.inl ⟨left, gap ++ [sep], by simp⟩
    · exact Or.inr ⟨gap, right, by simp⟩
  · rintro (h | h)
    · refine h.trans (List.IsPrefix.isInfix ⟨back, ?_⟩)
      simp
    · exact h.trans (List.suffix_append_of_suffix (List.suffix_cons sep back)).isInfix

end Text

namespace Attempt

theorem toList_boundWarning (s : String) :
    (boundWarning s).toList = (Text.trimChars s.toList).take maxWarningLength := by
  rw [boundWarning, Text.truncate, String.toList_ofList, Text.toList_trim]

-- Bounded once more, a warning loses the blanks at its end, and nothing else.
theorem boundWarning_boundWarning (s : String) :
    boundWarning (boundWarning s) = Text.trim (boundWarning s) := by
  apply String.toList_injective
  rw [toList_boundWarning (boundWarning s), Text.toList_trim, toList_boundWarning s,
    Text.trimChars_take_trimChars]
  apply List.take_of_length_le
  exact Nat.le_trans (List.rdropWhile_prefix _ _).length_le (List.length_take_le _ _)

-- It loses none exactly if the cut did not come behind a blank.
theorem boundWarning_idem_iff (s : String) :
    boundWarning (boundWarning s) = boundWarning s ↔
      ∀ c, (Text.trimChars s.toList)[maxWarningLength - 1]? = some c →
        Text.isBlankChar c = false := by
  rw [boundWarning_boundWarning, ← String.toList_inj, Text.toList_trim, toList_boundWarning,
    Text.trimChars_take_trimChars, Text.rdropWhile_eq_self_iff_getLast?, List.getLast?_take]
  have hpositive : ¬maxWarningLength = 0 := by decide
  simp only [if_neg hpositive]
  constructor
  · intro h c hc
    exact h c (by rw [hc, Option.some_or])
  · intro h c hc
    cases hat : (Text.trimChars s.toList)[maxWarningLength - 1]? with
    | some d =>
      rw [hat, Option.some_or] at hc
      exact Option.some.inj hc ▸ h d hat
    | none =>
      rw [hat, Option.none_or] at hc
      exact Text.getLast_trimChars hc

end Attempt

end Unshare
