import Unshare.Json.Printer
import Unshare.Proofs.Writing

namespace Unshare.Json

theorem hexDigit?_lowerHex {n : Nat} (h : n < 16) :
    Text.hexDigit? (Text.lowerHex n) = some n := by
  have hall : ∀ n ∈ List.range 16, Text.hexDigit? (Text.lowerHex n) = some n := by decide
  exact hall n (List.mem_range.mpr h)

theorem spellsUnit_lowerHex {n : Nat} (h : n < 0x20) :
    SpellsUnit ['0', '0', Text.lowerHex (n / 16), Text.lowerHex (n % 16)] n := by
  have hzero : Text.hexDigit? '0' = some 0 := rfl
  have hvalue : (((0 * 16 + 0) * 16 + 0) * 16 + n / 16) * 16 + n % 16 = n := by omega
  refine ⟨rfl, ?_⟩
  simp only [hexValue?, List.foldlM_cons, List.foldlM_nil, hzero, Option.map_some,
    Option.bind_eq_bind, Option.bind_some, hexDigit?_lowerHex (n := n / 16) (by omega),
    hexDigit?_lowerHex (n := n % 16) (by omega), hvalue, Option.pure_def]

theorem spellsChar_escapeChar (c : Char) : SpellsChar (escapeChar c) c := by
  unfold escapeChar
  split
  all_goals try exact .short rfl
  rename_i hquote hslash _ _ _ _ _
  split
  · rename_i hcontrol
    have hunits : List.Forall₂ SpellsUnit
        [['0', '0', Text.lowerHex (c.toNat / 16), Text.lowerHex (c.toNat % 16)]] (utf16 c) := by
      rw [utf16, if_pos (Nat.lt_trans hcontrol (by decide))]
      exact .cons (spellsUnit_lowerHex hcontrol) .nil
    exact .units hunits
  · rename_i hplain
    exact .plain hquote hslash (Nat.le_of_not_lt hplain)

theorem quotes_quote (cs : List Char) : Quotes (quote cs) cs := by
  refine ⟨cs.map escapeChar, ?_, by rw [quote, List.flatMap_def]⟩
  rw [List.forall₂_map_left_iff, List.forall₂_same]
  exact fun c _ => spellsChar_escapeChar c

-- Whether there is a way to write the lexeme.
def Token.IsWritable : Token → Prop
  | .string none => False
  | .number numeral => IsNumeral numeral
  | _ => True

-- No text among them spells nothing, and every number is written as numbers are.
def AreWritable (read : List Token) : Prop :=
  ∀ token ∈ read, token.IsWritable

section

variable {written rest : List Char} {token : Token} {read tail : List Token}

theorem areWritable_cons :
    AreWritable (token :: tail) ↔ token.IsWritable ∧ AreWritable tail :=
  List.forall_mem_cons

theorem areWritable_append : AreWritable (read ++ tail) ↔ AreWritable read ∧ AreWritable tail :=
  List.forall_mem_append

-- No blanks are printed.
theorem Lays.push (hwrites : token.Writes written) (h : Lays rest tail) :
    Lays (written ++ rest) (token :: tail) :=
  @Lays.cons [] written rest token tail rfl hwrites h

theorem Lays.mark {c : Char} {t : Token} (hwrites : t.Writes [c]) (h : Lays rest tail) :
    Lays (c :: rest) (t :: tail) :=
  .push hwrites h

theorem Lays.pushNumeral {numeral : List Char} (hnumeral : IsNumeral numeral)
    (hends : EndsNumeral rest) (h : Lays rest tail) :
    Lays (numeral ++ rest) (.number numeral :: tail) :=
  @Lays.number [] numeral rest tail rfl hnumeral hends h

theorem Lays.pushName (name : String) (h : Lays rest tail) :
    Lays (quote name.toList ++ ':' :: rest) (.string (some name.toList) :: .colon :: tail) :=
  .push (quotes_quote name.toList) (.mark rfl h)

end

theorem areWritable_fieldTokens (fields : Fields)
    (h : ∀ field ∈ fields, AreWritable field.2.tokens) : AreWritable (fieldTokens fields) := by
  match fields with
  | [] => exact List.forall_mem_nil _
  | [(name, value)] =>
    rw [fieldTokens, areWritable_cons, areWritable_cons]
    exact ⟨trivial, trivial, h _ List.mem_cons_self⟩
  | (name, value) :: next :: more =>
    obtain ⟨hvalue, hmore⟩ := List.forall_mem_cons.mp h
    rw [fieldTokens, List.cons_append, List.cons_append, areWritable_cons, areWritable_cons,
      areWritable_append, areWritable_cons]
    exact ⟨trivial, trivial, hvalue, trivial, areWritable_fieldTokens (next :: more) hmore⟩

theorem areWritable_object {fields : Fields} (h : ∀ field ∈ fields, AreWritable field.2.tokens) :
    AreWritable (Json.object fields).tokens := by
  rw [tokens, List.cons_append, areWritable_cons, areWritable_append]
  exact ⟨trivial, areWritable_fieldTokens fields h, List.forall_mem_singleton.mpr trivial⟩

theorem areWritable_ofOption (s : Option String) : AreWritable (Json.ofOption s).tokens := by
  cases s with
  | none => exact List.forall_mem_singleton.mpr trivial
  | some text => exact List.forall_mem_singleton.mpr trivial

mutual

-- What follows a printed value is a comma, a bracket or the end, so that a numeral ends there.
theorem lays_print (j : Json) (h : AreWritable j.tokens) {rest : List Char} {tail : List Token}
    (hends : EndsNumeral rest) (hrest : Lays rest tail) :
    Lays (j.print ++ rest) (j.tokens ++ tail) := by
  cases j with
  | null => exact .push rfl hrest
  | bool value => cases value <;> exact .push rfl hrest
  | number numeral => exact .pushNumeral (h _ List.mem_cons_self) hends hrest
  | string text => exact .push (quotes_quote text.toList) hrest
  | array items =>
    rw [tokens, List.cons_append, areWritable_cons, areWritable_append] at h
    have hclose : Lays (']' :: rest) (.closeArray :: tail) := .mark rfl hrest
    have hitems := lays_printItems items h.2.1 (endsNumeral_cons rfl rest) hclose
    rw [print, tokens]
    simpa using Lays.mark (c := '[') (t := .openArray) rfl hitems
  | object fields =>
    rw [tokens, List.cons_append, areWritable_cons, areWritable_append] at h
    have hclose : Lays ('\x7d' :: rest) (.closeObject :: tail) := .mark rfl hrest
    have hfields := lays_printFields fields h.2.1 (endsNumeral_cons rfl rest) hclose
    rw [print, tokens]
    simpa using Lays.mark (c := '\x7b') (t := .openObject) rfl hfields
  | illFormed => exact (h _ List.mem_cons_self).elim

theorem lays_printItems (items : List Json) (h : AreWritable (itemTokens items))
    {rest : List Char} {tail : List Token}
    (hends : EndsNumeral rest) (hrest : Lays rest tail) :
    Lays (printItems items ++ rest) (itemTokens items ++ tail) := by
  match items with
  | [] => exact hrest
  | [item] => exact lays_print item h hends hrest
  | item :: next :: more =>
    rw [itemTokens, areWritable_append, areWritable_cons] at h
    have hmore := lays_printItems (next :: more) h.2.2 hends hrest
    have hcomma := Lays.mark (c := ',') (t := .comma) rfl hmore
    rw [printItems, itemTokens, List.append_assoc, List.append_assoc]
    exact lays_print item h.1 (endsNumeral_cons rfl _) hcomma

theorem lays_printFields (fields : List (String × Json)) (h : AreWritable (fieldTokens fields))
    {rest : List Char} {tail : List Token}
    (hends : EndsNumeral rest) (hrest : Lays rest tail) :
    Lays (printFields fields ++ rest) (fieldTokens fields ++ tail) := by
  match fields with
  | [] => exact hrest
  | [(name, value)] =>
    rw [fieldTokens, areWritable_cons, areWritable_cons] at h
    have hvalue := lays_print value h.2.2 hends hrest
    rw [printFields, List.append_assoc]
    exact .pushName name hvalue
  | (name, value) :: next :: more =>
    rw [fieldTokens, List.cons_append, List.cons_append, areWritable_cons, areWritable_cons,
      areWritable_append, areWritable_cons] at h
    have hmore := lays_printFields (next :: more) h.2.2.2.2 hends hrest
    have hcomma := Lays.mark (c := ',') (t := .comma) rfl hmore
    have hvalue := lays_print value h.2.2.1 (endsNumeral_cons rfl _) hcomma
    simpa [printFields, fieldTokens] using Lays.pushName name hvalue

end

theorem lays_print_self {j : Json} (h : AreWritable j.tokens) : Lays j.print j.tokens := by
  have hprinted := lays_print j h endsNumeral_nil (.nil rfl)
  rwa [List.append_nil, List.append_nil] at hprinted

theorem ofChars?_print {j : Json} (h : AreWritable j.tokens) : ofChars? j.print = some j :=
  ofChars?_of_lays (lays_print_self h)

end Unshare.Json
