import Mathlib.Data.List.Forall2
import Unshare.Proofs.Escapes
import Unshare.Text.Form

namespace Unshare.Text

section

variable {α : Type} [DecidableEq α] {sep : α}

theorem splitOn_of_not_mem {field : List α} (h : sep ∉ field) : splitOn sep field = [field] := by
  induction field with
  | nil => rfl
  | cons c rest ih =>
    rw [List.mem_cons, not_or] at h
    rw [splitOn, if_neg (Ne.symm h.1), ih h.2]

theorem splitOn_append_cons {field : List α} (h : sep ∉ field) (rest : List α) :
    splitOn sep (field ++ sep :: rest) = field :: splitOn sep rest := by
  induction field with
  | nil => rw [List.nil_append, splitOn, if_pos rfl]
  | cons c field ih =>
    rw [List.mem_cons, not_or] at h
    rw [List.cons_append, splitOn, if_neg (Ne.symm h.1), ih h.2]

theorem splitOn_joinWith {fields : List (List α)} (hne : fields ≠ [])
    (h : ∀ field ∈ fields, sep ∉ field) : splitOn sep (joinWith sep fields) = fields := by
  induction fields with
  | nil => exact absurd rfl hne
  | cons field rest ih =>
    obtain ⟨hfield, hrest⟩ := List.forall_mem_cons.mp h
    cases rest with
    | nil => exact splitOn_of_not_mem hfield
    | cons next more =>
      rw [joinWith, splitOn_append_cons hfield, ih (List.cons_ne_nil _ _) hrest]

theorem breakOn_append_cons {before : List α} (h : sep ∉ before) (rest : List α) :
    breakOn sep (before ++ sep :: rest) = (before, some rest) := by
  induction before with
  | nil => rw [List.nil_append, breakOn, if_pos rfl]
  | cons c before ih =>
    rw [List.mem_cons, not_or] at h
    rw [List.cons_append, breakOn, if_neg (Ne.symm h.1), ih h.2]

end

namespace Form

-- The bytes that mean something in a form: `%`, `&`, `+` and `=`.
def marks : List UInt8 := [0x25, 0x26, 0x2B, 0x3D]

inductive SpellsByte : List UInt8 → UInt8 → Prop
  | plain {b : UInt8} : b ∉ marks → SpellsByte [b] b
  | space : SpellsByte [0x2B] 0x20
  | escape {high low b : UInt8} : Percent.escaped? high low = some b →
      SpellsByte [0x25, high, low] b

def SpellsText (written : List UInt8) (text : String) : Prop :=
  ∃ parts, List.Forall₂ SpellsByte parts (Utf8.encode text) ∧ written = parts.flatten

def SpellsPair (written : List UInt8) (pair : String × String) : Prop :=
  ∃ name value, SpellsText name pair.1 ∧ SpellsText value pair.2 ∧ written = name ++ 0x3D :: value

def Spells (written : String) (pairs : Pairs) : Prop :=
  ∃ parts, List.Forall₂ SpellsPair parts pairs ∧ Utf8.encode written = joinWith 0x26 parts

-- A byte as it is read before escapes are.
def spaced (b : UInt8) : UInt8 :=
  if b == 0x2B then 0x20 else b

theorem spaced_of_ne {b : UInt8} (h : b ≠ 0x2B) : spaced b = b :=
  if_neg (by simpa using h)

theorem hexByte?_mark {b : UInt8} (h : b ∈ marks) : Percent.hexByte? b = none := by
  simp only [marks, List.mem_cons, List.not_mem_nil, or_false] at h
  rcases h with rfl | rfl | rfl | rfl <;> rfl

theorem digits_of_escaped? {high low b : UInt8} (h : Percent.escaped? high low = some b) :
    high ∉ marks ∧ low ∉ marks := by
  unfold Percent.escaped? at h
  split at h
  · rename_i hhigh hlow
    refine ⟨fun hmark => ?_, fun hmark => ?_⟩
    · cases (hexByte?_mark hmark).symm.trans hhigh
    · cases (hexByte?_mark hmark).symm.trans hlow
  · cases h

section

variable {written : List UInt8} {b sep : UInt8}

-- No separator is part of what is written between the separators.
theorem not_mem_of_spellsByte (hsep : sep = 0x26 ∨ sep = 0x3D) (h : SpellsByte written b) :
    sep ∉ written := by
  have hmark : sep ∈ marks ∧ sep ≠ 0x25 ∧ sep ≠ 0x2B := by
    rcases hsep with rfl | rfl <;> decide
  obtain ⟨hmark, hpercent, hplus⟩ := hmark
  cases h with
  | plain hplain =>
    rw [List.mem_singleton]
    exact fun h => hplain (h ▸ hmark)
  | space =>
    rw [List.mem_singleton]
    exact hplus
  | escape hescape =>
    obtain ⟨hhigh, hlow⟩ := digits_of_escaped? hescape
    simp only [List.mem_cons, List.not_mem_nil, or_false, not_or]
    exact ⟨hpercent, fun h => hhigh (h ▸ hmark), fun h => hlow (h ▸ hmark)⟩

theorem not_mem_of_spellsText {text : String} (hsep : sep = 0x26 ∨ sep = 0x3D)
    (h : SpellsText written text) : sep ∉ written := by
  obtain ⟨parts, hparts, rfl⟩ := h
  obtain ⟨hall, -⟩ := (List.forall₂_and_left parts _).mp
    (hparts.imp fun part b hpart => ⟨not_mem_of_spellsByte hsep hpart, hpart⟩)
  intro hmem
  obtain ⟨part, hpart, hin⟩ := List.mem_flatten.mp hmem
  exact hall part hpart hin

theorem decodeBytes_of_spellsByte (h : SpellsByte written b) (rest : List UInt8) :
    Percent.decodeBytes (written.map spaced ++ rest) = b :: Percent.decodeBytes rest := by
  cases h with
  | plain hplain =>
    have hplus : b ≠ 0x2B := fun hb => hplain (hb ▸ by decide)
    have hpercent : b ≠ 0x25 := fun hb => hplain (hb ▸ by decide)
    rw [List.map_singleton, spaced_of_ne hplus, List.singleton_append,
      Percent.decodeBytes_cons_of_ne hpercent]
  | space => exact Percent.decodeBytes_cons_of_ne (by decide) rest
  | @escape high low _ hescape =>
    obtain ⟨hhigh, hlow⟩ := digits_of_escaped? hescape
    have hmapped : [0x25, high, low].map spaced = [0x25, high, low] := by
      rw [List.map_cons, List.map_cons, List.map_singleton,
        spaced_of_ne (b := high) fun hb => hhigh (hb ▸ by decide),
        spaced_of_ne (b := low) fun hb => hlow (hb ▸ by decide)]
      rfl
    rw [hmapped]
    simp only [List.cons_append, List.nil_append, Percent.decodeBytes, hescape]

theorem decodeBytes_of_spells {parts : List (List UInt8)} {bytes : List UInt8}
    (h : List.Forall₂ SpellsByte parts bytes) :
    Percent.decodeBytes (parts.flatten.map spaced) = bytes := by
  induction h with
  | nil => rfl
  | cons hpart _ ih => rw [List.flatten_cons, List.map_append, decodeBytes_of_spellsByte hpart, ih]

theorem decodeText_of_spells {text : String} (h : SpellsText written text) :
    decodeText written = text := by
  obtain ⟨parts, hparts, rfl⟩ := h
  have htext : Utf8.decodeLossy (Percent.decodeBytes (parts.flatten.map spaced)) = text := by
    rw [decodeBytes_of_spells hparts, Utf8.decodeLossy_encode]
  exact htext

theorem decodePair_of_spells {pair : String × String} (h : SpellsPair written pair) :
    decodePair written = pair := by
  obtain ⟨name, value, hname, hvalue, rfl⟩ := h
  rw [decodePair, breakOn_append_cons (not_mem_of_spellsText (.inr rfl) hname)]
  simp only [Option.getD_some, decodeText_of_spells hname, decodeText_of_spells hvalue]

-- A pair is one field of the form, and not an empty one.
theorem field_of_spellsPair {pair : String × String} (h : SpellsPair written pair) :
    0x26 ∉ written ∧ written.isEmpty = false := by
  obtain ⟨name, value, hname, hvalue, rfl⟩ := h
  refine ⟨?_, by simp⟩
  rw [List.mem_append, List.mem_cons, not_or, not_or]
  exact ⟨not_mem_of_spellsText (.inl rfl) hname, by decide,
    not_mem_of_spellsText (.inl rfl) hvalue⟩

end

theorem decode_of_spells {written : String} {pairs : Pairs} (h : Spells written pairs) :
    decode written = pairs := by
  obtain ⟨parts, hparts, hwritten⟩ := h
  obtain ⟨hfields, -⟩ := (List.forall₂_and_left parts pairs).mp
    (hparts.imp fun part pair hpart => ⟨field_of_spellsPair hpart, hpart⟩)
  have hsplit : (splitOn 0x26 (joinWith 0x26 parts)).filter (fun field => !field.isEmpty) =
      parts := by
    by_cases hne : parts = []
    · subst hne
      rfl
    · rw [splitOn_joinWith hne fun part hpart => (hfields part hpart).1, List.filter_eq_self]
      intro part hpart
      rw [(hfields part hpart).2, Bool.not_false]
  have hpairs : List.Forall₂ (· = ·) (parts.map decodePair) pairs :=
    List.forall₂_map_left_iff.mpr (hparts.imp fun part pair hpart => decodePair_of_spells hpart)
  rw [List.forall₂_eq_eq_eq] at hpairs
  rw [decode, hwritten, decodeBytes, hsplit, hpairs]

theorem isPlain_mark {b : UInt8} (h : b ∈ marks) : isPlain b = false := by
  simp only [marks, List.mem_cons, List.not_mem_nil, or_false] at h
  rcases h with rfl | rfl | rfl | rfl <;> rfl

theorem isAscii_of_isPlain {b : UInt8} (h : isPlain b = true) : b.toNat < 0x80 := by
  simp only [isPlain, Bool.or_eq_true, Bool.and_eq_true, decide_eq_true_eq, beq_iff_eq,
    UInt8.le_iff_toNat_le] at h
  rcases h with (((((h | h) | h) | rfl) | rfl) | rfl) | rfl
  · exact Nat.lt_of_le_of_lt h.2 (by decide)
  · exact Nat.lt_of_le_of_lt h.2 (by decide)
  · exact Nat.lt_of_le_of_lt h.2 (by decide)
  all_goals decide

theorem spellsByte_encodeByte (b : UInt8) : SpellsByte (Utf8.encodeChars (encodeByte b)) b := by
  unfold encodeByte
  split
  · rename_i hspace
    obtain rfl : b = 0x20 := by simpa using hspace
    exact .space
  split
  · rename_i hplain
    rw [Percent.encodeChars_byteChar (isAscii_of_isPlain hplain)]
    refine .plain fun hmark => ?_
    rw [isPlain_mark hmark] at hplain
    cases hplain
  · obtain ⟨high, low, hbytes, hescaped⟩ := Percent.encodeChars_escape b
    rw [hbytes]
    exact .escape hescaped

theorem spellsText_encodeText (s : String) : SpellsText (Utf8.encodeChars (encodeText s)) s := by
  refine ⟨(Utf8.encode s).map fun b => Utf8.encodeChars (encodeByte b), ?_, ?_⟩
  · rw [List.forall₂_map_left_iff, List.forall₂_same]
    exact fun b _ => spellsByte_encodeByte b
  · rw [encodeText, Utf8.encodeChars, List.flatMap_assoc, List.flatMap_def]
    rfl

theorem spellsPair_encodePair (pair : String × String) :
    SpellsPair (Utf8.encodeChars (encodePair pair)) pair := by
  refine ⟨_, _, spellsText_encodeText pair.1, spellsText_encodeText pair.2, ?_⟩
  rw [encodePair, Utf8.encodeChars, List.flatMap_append]
  exact congrArg _ (Utf8.encodeChars_cons_of_ascii (by decide) _)

theorem encodeChars_joinWith (fields : List (List Char)) :
    Utf8.encodeChars (joinWith '&' fields) = joinWith 0x26 (fields.map Utf8.encodeChars) := by
  induction fields with
  | nil => rfl
  | cons field rest ih =>
    cases rest with
    | nil => rfl
    | cons next more =>
      rw [joinWith, Utf8.encodeChars, List.flatMap_append]
      refine congrArg _ ((Utf8.encodeChars_cons_of_ascii (by decide) _).trans ?_)
      rw [ih]
      rfl

-- The encoder's own way of writing a form is one of them.
theorem spells_encode (pairs : Pairs) : Spells (encode pairs) pairs := by
  refine ⟨pairs.map fun pair => Utf8.encodeChars (encodePair pair), ?_, ?_⟩
  · rw [List.forall₂_map_left_iff, List.forall₂_same]
    exact fun pair _ => spellsPair_encodePair pair
  · rw [encode, Utf8.encode, String.toList_ofList, encodeChars_joinWith, List.map_map]
    rfl

theorem decode_encode (pairs : Pairs) : decode (encode pairs) = pairs :=
  decode_of_spells (spells_encode pairs)

end Form

end Unshare.Text
