import Mathlib.Data.List.DropRight
import Unshare.Text.Blank

namespace Unshare.Text

theorem trimChars_eq_rdropWhile (cs : List Char) :
    trimChars cs = (cs.dropWhile isBlankChar).rdropWhile isBlankChar := rfl

-- The first character of a trimmed text is visible.
theorem head_trimChars {cs : List Char} {c : Char} (h : (trimChars cs).head? = some c) :
    isBlankChar c = false := by
  obtain ⟨tail, htail⟩ := List.rdropWhile_prefix isBlankChar (cs.dropWhile isBlankChar)
  have hhead : (cs.dropWhile isBlankChar).head? = some c := by
    rw [← htail, ← trimChars_eq_rdropWhile, List.head?_append, h, Option.some_or]
  have hvisible := List.head?_dropWhile_not isBlankChar cs
  rw [hhead] at hvisible
  exact hvisible

theorem getLast_trimChars {cs : List Char} {c : Char} (h : (trimChars cs).getLast? = some c) :
    isBlankChar c = false := by
  have hne : trimChars cs ≠ [] := by
    intro hnil
    rw [hnil] at h
    cases h
  have hlast : ¬isBlankChar ((trimChars cs).getLast hne) = true :=
    List.rdropWhile_last_not isBlankChar _ hne
  rw [List.getLast?_eq_some_getLast hne, Option.some.injEq] at h
  rwa [h, Bool.not_eq_true] at hlast

theorem trimChars_idem (cs : List Char) : trimChars (trimChars cs) = trimChars cs := by
  have hkept : (trimChars cs).dropWhile isBlankChar = trimChars cs := by
    rw [List.dropWhile_eq_self_iff]
    intro hpos
    have hhead : (trimChars cs).head? = some (trimChars cs)[0] := by
      rw [List.head?_eq_getElem?, List.getElem?_eq_getElem hpos]
    rw [head_trimChars hhead]
    exact Bool.false_ne_true
  rw [trimChars_eq_rdropWhile (trimChars cs), hkept, trimChars_eq_rdropWhile,
    List.rdropWhile_idempotent]

theorem trim_idem (s : String) : trim (trim s) = trim s := by
  rw [trim, toList_trim, trimChars_idem, trim]

-- Trimming leaves nothing exactly when nothing visible was there.
theorem trimChars_eq_nil_iff (cs : List Char) :
    trimChars cs = [] ↔ cs.all isBlankChar = true := by
  rw [trimChars_eq_rdropWhile, List.rdropWhile_eq_nil_iff, ← List.dropWhile_eq_nil_iff,
    List.dropWhile_idempotent, List.dropWhile_eq_nil_iff, List.all_eq_true]

theorem trim_eq_empty_iff (s : String) : trim s = "" ↔ isBlank s = true := by
  rw [isBlank, ← trimChars_eq_nil_iff, ← toList_trim]
  exact ⟨fun h => by simp [h], fun h => by rw [← String.ofList_toList (s := trim s), h]⟩

theorem isBlank_trim (s : String) : isBlank (trim s) = isBlank s := by
  rw [Bool.eq_iff_iff, ← trim_eq_empty_iff, ← trim_eq_empty_iff, trim_idem]

theorem present_of_not_isBlank {text : String} (h : isBlank text = false) :
    present (some text) = some (trim text) := by
  have hne : trim text ≠ "" := by
    rw [Ne, trim_eq_empty_iff, h]
    exact Bool.false_ne_true
  simp [present, hne]

theorem present_of_isBlank {text : String} (h : isBlank text = true) :
    present (some text) = none := by
  simp [present, (trim_eq_empty_iff text).mpr h]

theorem present_idem (s : Option String) : present (present s) = present s := by
  cases s with
  | none => rfl
  | some text =>
    cases h : isBlank text with
    | true => rw [present_of_isBlank h]; rfl
    | false => rw [present_of_not_isBlank h, present_of_not_isBlank ((isBlank_trim text).trans h),
        trim_idem]

theorem isBlank_of_present {s : Option String} {t : String} (h : present s = some t) :
    isBlank t = false := by
  obtain ⟨hm, ht⟩ := Option.filter_eq_some_iff.mp h
  obtain ⟨u, -, rfl⟩ := Option.map_eq_some_iff.mp hm
  rw [isBlank_trim, ← Bool.not_eq_true, ← trim_eq_empty_iff]
  intro he
  simp [he] at ht

end Unshare.Text
