import Unshare.Text.Decimal

namespace Unshare.Text.Decimal

-- The decimal digits, at least one, of this number. Zeros may stand in front.
def AreDigitsOf (digits : List Char) (n : Nat) : Prop :=
  digits ≠ [] ∧ (∀ c ∈ digits, c.isDigit = true) ∧ Nat.ofDigitChars 10 digits 0 = n

-- The text is a numeral of this number.
def Denotes (text : String) (n : Nat) : Prop :=
  AreDigitsOf text.toList n ∨ ∃ digits, text.toList = '+' :: digits ∧ AreDigitsOf digits n

variable {bound value n : Nat} {digits : List Char}

theorem digit?_eq_some_iff {c : Char} {d : Nat} :
    digit? c = some d ↔ c.isDigit = true ∧ c.toNat - '0'.toNat = d := by
  have hrange : c.isDigit = true ↔ '0' ≤ c ∧ c ≤ '9' := by
    simp [Char.isDigit, Char.le_def]
  rw [digit?, hrange]
  by_cases h : '0' ≤ c ∧ c ≤ '9'
  · rw [if_pos h, Option.some.injEq, and_iff_right h]
  · rw [if_neg h]
    exact iff_of_false nofun fun hdigit => h hdigit.1

-- More digits make no smaller number.
theorem le_ofDigitChars (digits : List Char) (value : Nat) :
    value ≤ Nat.ofDigitChars 10 digits value := by
  induction digits generalizing value with
  | nil => exact Nat.le_refl value
  | cons c digits ih =>
    rw [Nat.ofDigitChars_cons]
    have hstep := ih (10 * value + (c.toNat - '0'.toNat))
    omega

-- A number that has grown over the bound does not come back under it.
theorem readFrom_eq_ok_iff (h : value ≤ bound) : readFrom bound value digits = .ok n ↔
    (∀ c ∈ digits, c.isDigit = true) ∧ Nat.ofDigitChars 10 digits value = n ∧ n ≤ bound := by
  induction digits generalizing value with
  | nil =>
    rw [readFrom, Except.ok.injEq, Nat.ofDigitChars_nil]
    constructor
    · rintro rfl
      exact ⟨List.forall_mem_nil _, rfl, h⟩
    · rintro ⟨-, rfl, -⟩
      rfl
  | cons c digits ih =>
    rw [readFrom, List.forall_mem_cons, Nat.ofDigitChars_cons]
    cases hd : digit? c with
    | none =>
      refine iff_of_false nofun ?_
      rintro ⟨⟨hc, -⟩, -⟩
      rw [digit?_eq_some_iff.mpr ⟨hc, rfl⟩] at hd
      cases hd
    | some d =>
      obtain ⟨hc, rfl⟩ := digit?_eq_some_iff.mp hd
      rw [Nat.mul_comm 10 value, and_iff_right hc]
      by_cases hfits : value * 10 + (c.toNat - '0'.toNat) ≤ bound
      · simp only [if_pos hfits]
        exact ih hfits
      · simp only [if_neg hfits]
        refine iff_of_false nofun ?_
        rintro ⟨-, rfl, hbound⟩
        exact hfits (Nat.le_trans (le_ofDigitChars digits _) hbound)

theorem readFrom_zero_eq_ok_iff (h : digits ≠ []) :
    readFrom bound 0 digits = .ok n ↔ AreDigitsOf digits n ∧ n ≤ bound := by
  rw [readFrom_eq_ok_iff (Nat.zero_le bound), AreDigitsOf, and_iff_right h, and_assoc]

theorem not_areDigitsOf_plus : ¬AreDigitsOf ('+' :: digits) n := by
  rintro ⟨-, hdigits, -⟩
  exact absurd (hdigits '+' List.mem_cons_self) (by decide)

theorem read?_eq_some_iff {text : String} :
    read? bound text = some n ↔ Denotes text n ∧ n ≤ bound := by
  have hok : read? bound text = some n ↔ readChars bound text.toList = .ok n := by
    rw [read?, read]
    cases readChars bound text.toList <;> simp [Except.toOption]
  rw [hok, Denotes]
  generalize text.toList = chars
  rw [readChars.eq_def]
  split
  · refine iff_of_false nofun ?_
    rintro ⟨⟨hne, -⟩ | ⟨digits, ⟨⟩, -⟩, -⟩
    exact hne rfl
  · refine iff_of_false nofun ?_
    rintro ⟨hplus | ⟨digits, ⟨⟩, hne, -⟩, -⟩
    · exact not_areDigitsOf_plus hplus
    · exact hne rfl
  · rename_i digits hne
    rw [readFrom_zero_eq_ok_iff hne, or_iff_right not_areDigitsOf_plus]
    simp only [List.cons.injEq, true_and, exists_eq_left']
  · rename_i hne _ hplus
    rw [readFrom_zero_eq_ok_iff hne, or_iff_left]
    rintro ⟨digits, rfl, -⟩
    exact hplus digits rfl

end Unshare.Text.Decimal
