import Mathlib.Data.List.Forall2
import Unshare.Json.Reader
import Unshare.Proofs.Characters

namespace Unshare.Json

-- The code units of a character in UTF-16.
def utf16 (c : Char) : List Nat :=
  if c.toNat < 0x10000 then [c.toNat]
  else [0xD800 + (c.toNat - 0x10000) / 0x400, 0xDC00 + (c.toNat - 0x10000) % 0x400]

-- The number that hexadecimal digits write after these.
def hexValue? (digits : List Char) (before : Nat) : Option Nat :=
  digits.foldlM (fun n d => (Text.hexDigit? d).map (n * 16 + ·)) before

def SpellsUnit (digits : List Char) (unit : Nat) : Prop :=
  digits.length = 4 ∧ hexValue? digits 0 = some unit

inductive SpellsChar : List Char → Char → Prop
  | plain {c : Char} : c ≠ '"' → c ≠ '\\' → 0x20 ≤ c.toNat → SpellsChar [c] c
  | short {letter c : Char} : Token.shortEscape? letter = some c → SpellsChar ['\\', letter] c
  | units {digits : List (List Char)} {c : Char} : List.Forall₂ SpellsUnit digits (utf16 c) →
      SpellsChar (digits.flatMap fun ds => '\\' :: 'u' :: ds) c

-- A text between its quotes.
def Quotes (written text : List Char) : Prop :=
  ∃ parts, List.Forall₂ SpellsChar parts text ∧ written = '"' :: parts.flatten ++ ['"']

def IsDigits (cs : List Char) : Prop :=
  cs ≠ [] ∧ ∀ c ∈ cs, Text.Decimal.isDigit c = true

-- A whole part without needless zeros, and what may stand before and after it.
def IsNumeral (cs : List Char) : Prop :=
  ∃ sign whole fraction exponent, cs = sign ++ whole ++ fraction ++ exponent ∧
    (sign = [] ∨ sign = ['-']) ∧ IsDigits whole ∧ (whole.head? = some '0' → whole = ['0']) ∧
    (fraction = [] ∨ ∃ digits, fraction = '.' :: digits ∧ IsDigits digits) ∧
    (exponent = [] ∨ ∃ mark sign digits, exponent = mark :: sign ++ digits ∧
      (mark = 'e' ∨ mark = 'E') ∧ (sign = [] ∨ sign = ['+'] ∨ sign = ['-']) ∧ IsDigits digits)

-- What could still belong to a numeral before it.
def continuesNumeral (c : Char) : Bool :=
  Text.Decimal.isDigit c || c == '.' || c == 'e' || c == 'E' || c == '+' || c == '-'

-- A numeral before this is at its end.
def EndsNumeral (rest : List Char) : Prop :=
  ∀ c ∈ rest.head?, continuesNumeral c = false

theorem endsNumeral_nil : EndsNumeral [] := by
  rintro _ ⟨⟩

theorem endsNumeral_cons {c : Char} (h : continuesNumeral c = false) (rest : List Char) :
    EndsNumeral (c :: rest) := by
  rintro _ ⟨⟩
  exact h

-- The written form of a lexeme that ends where its last character says so.
def Token.Writes (written : List Char) : Token → Prop
  | .openArray => written = ['[']
  | .closeArray => written = [']']
  | .openObject => written = ['\x7b']
  | .closeObject => written = ['\x7d']
  | .comma => written = [',']
  | .colon => written = [':']
  | .null => written = ['n', 'u', 'l', 'l']
  | .bool true => written = ['t', 'r', 'u', 'e']
  | .bool false => written = ['f', 'a', 'l', 's', 'e']
  | .string (some text) => Quotes written text
  | .string none | .number _ => False

def isBlank (c : Char) : Bool :=
  c == ' ' || c == '\t' || c == '\n' || c == '\r'

-- The lexemes one after another, with blanks anywhere between them. A numeral ends where something
-- follows that is no part of one.
inductive Lays : List Char → List Token → Prop
  | nil {blanks : List Char} : blanks.all isBlank = true → Lays blanks []
  | cons {blanks written rest : List Char} {token : Token} {tokens : List Token} :
      blanks.all isBlank = true → token.Writes written → Lays rest tokens →
      Lays (blanks ++ written ++ rest) (token :: tokens)
  | number {blanks numeral rest : List Char} {tokens : List Token} :
      blanks.all isBlank = true → IsNumeral numeral → EndsNumeral rest → Lays rest tokens →
      Lays (blanks ++ numeral ++ rest) (.number numeral :: tokens)

mutual

-- The lexemes of a value.
def tokens : Json → List Token
  | .null => [.null]
  | .bool value => [.bool value]
  | .number numeral => [.number numeral.toList]
  | .string text => [.string (some text.toList)]
  | .array items => .openArray :: itemTokens items ++ [.closeArray]
  | .object fields => .openObject :: fieldTokens fields ++ [.closeObject]
  | .illFormed => [.string none]

def itemTokens : List Json → List Token
  | [] => []
  | [item] => tokens item
  | item :: next :: rest => tokens item ++ .comma :: itemTokens (next :: rest)

def fieldTokens : List (String × Json) → List Token
  | [] => []
  | [(name, value)] => .string (some name.toList) :: .colon :: tokens value
  | (name, value) :: next :: rest =>
    .string (some name.toList) :: .colon :: tokens value ++ .comma :: fieldTokens (next :: rest)

end

namespace Token

-- The lexer over characters all of which can be read.
def steps? (l : Lexing) (cs : List Char) : Option Lexing :=
  (cs.map some).foldlM step? l

theorem steps?_nil (l : Lexing) : steps? l [] = some l :=
  rfl

theorem steps?_cons (l : Lexing) (c : Char) (cs : List Char) :
    steps? l (c :: cs) = (step? l (some c)).bind (steps? · cs) :=
  rfl

theorem steps?_append (l : Lexing) (cs ds : List Char) :
    steps? l (cs ++ ds) = (steps? l cs).bind (steps? · ds) := by
  rw [steps?, List.map_append, List.foldlM_append]
  rfl

theorem Spelling.pushUnit_high {unit : Nat} (h : 0xD800 ≤ unit ∧ unit ≤ 0xDBFF)
    (reversed : Option (List Char)) :
    pushUnit ⟨reversed, none⟩ unit = ⟨reversed, some unit⟩ :=
  if_pos h

theorem Spelling.pushUnit_low {high unit : Nat} (h : 0xDC00 ≤ unit ∧ unit ≤ 0xDFFF)
    (reversed : Option (List Char)) :
    pushUnit ⟨reversed, some high⟩ unit = ⟨reversed.map
      (Char.ofNat (0x10000 + (high - 0xD800) * 0x400 + (unit - 0xDC00)) :: ·), none⟩ := by
  rw [pushUnit, if_neg (by omega), if_pos h]

section

variable {tokens : List Token} {written text : List Char}

-- The last digit of a code unit ends it.
theorem steps?_digits {digits : List Char} {spelling : Spelling} {before unit : Nat}
    (hne : digits ≠ []) (h : hexValue? digits before = some unit) :
    steps? ⟨tokens, .unit spelling digits.length before⟩ digits =
      some ⟨tokens, .text (spelling.pushUnit unit)⟩ := by
  induction digits generalizing before with
  | nil => exact absurd rfl hne
  | cons d rest ih =>
    rw [hexValue?, List.foldlM_cons, Option.bind_eq_bind, Option.bind_eq_some_iff] at h
    obtain ⟨value, hd, hrest⟩ := h
    obtain ⟨n, hn, rfl⟩ := Option.map_eq_some_iff.mp hd
    rw [steps?_cons]
    cases rest with
    | nil =>
      obtain rfl := Option.some.inj hrest
      simp [step?, hn, steps?_nil]
    | cons next more =>
      rw [← ih (List.cons_ne_nil _ _) hrest]
      simp [step?, hn]

theorem steps?_unit {digits : List Char} {unit : Nat} (h : SpellsUnit digits unit)
    (spelling : Spelling) : steps? ⟨tokens, .text spelling⟩ ('\\' :: 'u' :: digits) =
      some ⟨tokens, .text (spelling.pushUnit unit)⟩ := by
  obtain ⟨hlength, hvalue⟩ := h
  have hne : digits ≠ [] := List.ne_nil_of_length_pos (by omega)
  rw [← steps?_digits hne hvalue, hlength]
  rfl

-- The code units of a character in a row are that character, in one unit or in a pair.
theorem steps?_units {digits : List (List Char)} {c : Char}
    (h : List.Forall₂ SpellsUnit digits (utf16 c)) (read : List Char) :
    steps? ⟨tokens, .text ⟨some read, none⟩⟩ (digits.flatMap fun ds => '\\' :: 'u' :: ds) =
      some ⟨tokens, .text ⟨some (c :: read), none⟩⟩ := by
  have hvalid : c.toNat < 0xD800 ∨ 0xDFFF < c.toNat ∧ c.toNat < 0x110000 := c.valid
  unfold utf16 at h
  split at h
  · obtain ⟨ds, _, hunit, hnil, rfl⟩ := List.forall₂_cons_right_iff.mp h
    obtain rfl := List.forall₂_nil_right_iff.mp hnil
    have hpush : Spelling.pushUnit ⟨some read, none⟩ c.toNat = ⟨some (c :: read), none⟩ := by
      rw [Spelling.pushUnit, if_neg (by omega), if_neg (by omega), Char.ofNat_toNat]
      rfl
    rw [List.flatMap_singleton, steps?_unit hunit, hpush]
  · obtain ⟨high, _, hhigh, hrest, rfl⟩ := List.forall₂_cons_right_iff.mp h
    obtain ⟨low, _, hlow, hnil, rfl⟩ := List.forall₂_cons_right_iff.mp hrest
    obtain rfl := List.forall₂_nil_right_iff.mp hnil
    have hpair : 0x10000 + (0xD800 + (c.toNat - 0x10000) / 0x400 - 0xD800) * 0x400 +
        (0xDC00 + (c.toNat - 0x10000) % 0x400 - 0xDC00) = c.toNat := by
      omega
    have hpush : Spelling.pushUnit (Spelling.pushUnit ⟨some read, none⟩
        (0xD800 + (c.toNat - 0x10000) / 0x400)) (0xDC00 + (c.toNat - 0x10000) % 0x400) =
          ⟨some (c :: read), none⟩ := by
      rw [Spelling.pushUnit_high (by omega), Spelling.pushUnit_low (by omega), hpair,
        Char.ofNat_toNat]
      rfl
    rw [List.flatMap_cons, List.flatMap_singleton, steps?_append, steps?_unit hhigh,
      Option.bind_some, steps?_unit hlow, hpush]

theorem steps?_char {c : Char} (h : SpellsChar written c) (read : List Char) :
    steps? ⟨tokens, .text ⟨some read, none⟩⟩ written =
      some ⟨tokens, .text ⟨some (c :: read), none⟩⟩ := by
  cases h with
  | plain hquote hslash hcontrol =>
    simp [steps?_cons, steps?_nil, step?, continueText?, hquote, hslash,
      Nat.not_lt_of_le hcontrol, Spelling.push]
  | @short letter _ hshort =>
    have hletter : letter ≠ 'u' := by
      rintro rfl
      cases hshort
    simp [steps?_cons, steps?_nil, step?, continueText?, hletter, hshort, Spelling.push]
  | units hunits => exact steps?_units hunits read

theorem steps?_chars {parts : List (List Char)} (h : List.Forall₂ SpellsChar parts text)
    (read : List Char) : steps? ⟨tokens, .text ⟨some read, none⟩⟩ parts.flatten =
      some ⟨tokens, .text ⟨some (text.reverse ++ read), none⟩⟩ := by
  induction h generalizing read with
  | nil => rfl
  | @cons part c parts text hpart _ ih =>
    rw [List.flatten_cons, steps?_append, steps?_char hpart, Option.bind_some, ih,
      List.reverse_cons, List.append_assoc, List.singleton_append]

theorem steps?_quotes (h : Quotes written text) :
    steps? ⟨tokens, .between⟩ written = some ⟨.string (some text) :: tokens, .between⟩ := by
  obtain ⟨parts, hparts, rfl⟩ := h
  have hopen : step? ⟨tokens, .between⟩ (some '"') = some ⟨tokens, .text ⟨some [], none⟩⟩ := rfl
  have hclose : steps? ⟨tokens, .text ⟨some text.reverse, none⟩⟩ ['"'] =
      some ⟨.string (some text.reverse.reverse) :: tokens, .between⟩ := rfl
  rw [List.cons_append, steps?_cons, hopen, Option.bind_some, steps?_append, steps?_chars hparts,
    Option.bind_some, List.append_nil, hclose, List.reverse_reverse]

theorem steps?_writes {token : Token} (h : token.Writes written) :
    steps? ⟨tokens, .between⟩ written = some ⟨token :: tokens, .between⟩ := by
  cases token with
  | string text =>
    cases text with
    | none => exact h.elim
    | some text => exact steps?_quotes h
  | bool value => cases value <;> (obtain rfl := h; rfl)
  | number numeral => exact h.elim
  | _ =>
    obtain rfl := h
    rfl

theorem steps?_blanks {blanks : List Char} (h : blanks.all isBlank = true) :
    steps? ⟨tokens, .between⟩ blanks = some ⟨tokens, .between⟩ := by
  induction blanks with
  | nil => rfl
  | cons c rest ih =>
    obtain ⟨hc, hrest⟩ := Bool.and_eq_true_iff.mp h
    have hstep : step? ⟨tokens, .between⟩ (some c) = some ⟨tokens, .between⟩ := by
      simp only [isBlank, Bool.or_eq_true, beq_iff_eq] at hc
      rcases hc with ((rfl | rfl) | rfl) | rfl <;> rfl
    rw [steps?_cons, hstep, Option.bind_some, ih hrest]

-- The numeral so far takes these characters too.
theorem steps?_numeral {phase phase' : NumeralPhase} {cs : List Char}
    (h : cs.foldlM NumeralPhase.next? phase = some phase') (reversed : List Char) :
    steps? ⟨tokens, .numeral phase reversed⟩ cs =
      some ⟨tokens, .numeral phase' (cs.reverse ++ reversed)⟩ := by
  induction cs generalizing phase reversed with
  | nil =>
    obtain rfl := Option.some.inj h
    rfl
  | cons c rest ih =>
    rw [List.foldlM_cons, Option.bind_eq_bind, Option.bind_eq_some_iff] at h
    obtain ⟨next, hnext, hrest⟩ := h
    have hstep : step? ⟨tokens, .numeral phase reversed⟩ (some c) =
        some ⟨tokens, .numeral next (c :: reversed)⟩ := by
      simp only [step?, hnext]
    rw [steps?_cons, hstep, Option.bind_some, ih hrest, List.reverse_cons, List.append_assoc,
      List.singleton_append]

end

section

variable {digits whole cs : List Char}

theorem foldlM_next?_of_digits {phase : NumeralPhase}
    (hstay : ∀ c, Text.Decimal.isDigit c = true → phase.next? c = some phase)
    (h : ∀ c ∈ digits, Text.Decimal.isDigit c = true) :
    digits.foldlM NumeralPhase.next? phase = some phase := by
  induction digits with
  | nil => rfl
  | cons c rest ih =>
    obtain ⟨hc, hrest⟩ := List.forall_mem_cons.mp h
    rw [List.foldlM_cons, hstay c hc, Option.bind_eq_bind, Option.bind_some, ih hrest]

-- The first digit of a part brings the numeral into it, and further ones leave it there.
theorem foldlM_next?_of_isDigits {phase next : NumeralPhase}
    (hfirst : ∀ c, Text.Decimal.isDigit c = true → phase.next? c = some next)
    (hstay : ∀ c, Text.Decimal.isDigit c = true → next.next? c = some next)
    (h : IsDigits digits) : digits.foldlM NumeralPhase.next? phase = some next := by
  obtain ⟨hne, hdigits⟩ := h
  cases digits with
  | nil => exact absurd rfl hne
  | cons c rest =>
    obtain ⟨hc, hrest⟩ := List.forall_mem_cons.mp hdigits
    rw [List.foldlM_cons, hfirst c hc, Option.bind_eq_bind, Option.bind_some,
      foldlM_next?_of_digits hstay hrest]

theorem foldlM_next?_whole (h : IsDigits whole) (hzero : whole.head? = some '0' → whole = ['0']) :
    ∃ phase, whole.foldlM NumeralPhase.next? .minus = some phase ∧
      (phase = .zero ∨ phase = .whole) := by
  by_cases hhead : whole.head? = some '0'
  · rw [hzero hhead]
    exact ⟨.zero, rfl, .inl rfl⟩
  · obtain ⟨hne, hdigits⟩ := h
    cases whole with
    | nil => exact absurd rfl hne
    | cons c rest =>
      obtain ⟨hc, hrest⟩ := List.forall_mem_cons.mp hdigits
      have hother : c ≠ '0' := fun h => hhead (congrArg some h)
      have hfirst : NumeralPhase.minus.next? c = some .whole := by
        simp [NumeralPhase.next?, hother, hc]
      refine ⟨.whole, ?_, .inr rfl⟩
      rw [List.foldlM_cons, hfirst, Option.bind_eq_bind, Option.bind_some]
      refine foldlM_next?_of_digits ?_ hrest
      intro d hd
      simp [NumeralPhase.next?, hd]

theorem foldlM_next?_fraction {phase : NumeralPhase} (hphase : phase = .zero ∨ phase = .whole)
    {fraction : List Char}
    (h : fraction = [] ∨ ∃ digits, fraction = '.' :: digits ∧ IsDigits digits) :
    ∃ phase', fraction.foldlM NumeralPhase.next? phase = some phase' ∧
      (phase' = .zero ∨ phase' = .whole ∨ phase' = .fraction) := by
  obtain rfl | ⟨digits, rfl, hdigits⟩ := h
  · exact ⟨phase, rfl, hphase.imp_right .inl⟩
  · have hpoint : phase.next? '.' = some .point := by
      rcases hphase with rfl | rfl <;> rfl
    refine ⟨.fraction, ?_, .inr (.inr rfl)⟩
    rw [List.foldlM_cons, hpoint, Option.bind_eq_bind, Option.bind_some]
    refine foldlM_next?_of_isDigits ?_ ?_ hdigits
    · intro c hc
      simp [NumeralPhase.next?, hc]
    · intro c hc
      simp [NumeralPhase.next?, hc]

theorem foldlM_next?_exponent {phase : NumeralPhase}
    (hphase : phase = .zero ∨ phase = .whole ∨ phase = .fraction) {exponent : List Char}
    (h : exponent = [] ∨ ∃ mark sign digits, exponent = mark :: sign ++ digits ∧
      (mark = 'e' ∨ mark = 'E') ∧ (sign = [] ∨ sign = ['+'] ∨ sign = ['-']) ∧ IsDigits digits) :
    ∃ phase', exponent.foldlM NumeralPhase.next? phase = some phase' ∧
      phase'.isComplete = true := by
  obtain rfl | ⟨mark, sign, digits, rfl, hmark, hsign, hdigits⟩ := h
  · refine ⟨phase, rfl, ?_⟩
    rcases hphase with rfl | rfl | rfl <;> rfl
  · have hmark : phase.next? mark = some .exponent := by
      rcases hphase with rfl | rfl | rfl <;> rcases hmark with rfl | rfl <;> rfl
    have hstay : ∀ c, Text.Decimal.isDigit c = true →
        NumeralPhase.exponentDigits.next? c = some .exponentDigits := by
      intro c hc
      simp [NumeralPhase.next?, hc]
    refine ⟨.exponentDigits, ?_, rfl⟩
    rw [List.cons_append, List.foldlM_cons, hmark, Option.bind_eq_bind, Option.bind_some,
      List.foldlM_append]
    rcases hsign with rfl | rfl | rfl
    · refine foldlM_next?_of_isDigits ?_ hstay hdigits
      intro c hc
      simp [NumeralPhase.next?, hc]
    · exact foldlM_next?_of_isDigits hstay hstay hdigits
    · exact foldlM_next?_of_isDigits hstay hstay hdigits

-- A digit starts a numeral as it goes on after a minus.
theorem start?_of_isDigit {c : Char} (h : Text.Decimal.isDigit c = true) (tokens : List Token) :
    ∃ phase, NumeralPhase.minus.next? c = some phase ∧
      start? tokens c = some ⟨tokens, .numeral phase [c]⟩ := by
  by_cases hzero : c = '0'
  · subst hzero
    exact ⟨.zero, rfl, rfl⟩
  · refine ⟨.whole, by simp [NumeralPhase.next?, hzero, h], ?_⟩
    unfold start?
    split
    all_goals try cases h
    · exact absurd rfl hzero
    · rw [if_pos h]

theorem steps?_of_isNumeral (h : IsNumeral cs) (tokens : List Token) :
    ∃ phase, steps? ⟨tokens, .between⟩ cs = some ⟨tokens, .numeral phase cs.reverse⟩ ∧
      phase.isComplete = true := by
  obtain ⟨sign, whole, fraction, exponent, rfl, hsign, hwhole, hzero, hfraction, hexponent⟩ := h
  obtain ⟨first, hfirst, hphase⟩ := foldlM_next?_whole hwhole hzero
  obtain ⟨middle, hmiddle, hphase⟩ := foldlM_next?_fraction hphase hfraction
  obtain ⟨last, hlast, hcomplete⟩ := foldlM_next?_exponent hphase hexponent
  have hall : (whole ++ fraction ++ exponent).foldlM NumeralPhase.next? .minus = some last := by
    rw [List.foldlM_append, List.foldlM_append, hfirst, Option.bind_eq_bind, Option.bind_some,
      hmiddle, Option.bind_some, hlast]
  refine ⟨last, ?_, hcomplete⟩
  rcases hsign with rfl | rfl
  · cases whole with
    | nil => exact absurd rfl hwhole.1
    | cons c more =>
      obtain ⟨phase, hnext, hstart⟩ := start?_of_isDigit (hwhole.2 c List.mem_cons_self) tokens
      have hrest : (more ++ fraction ++ exponent).foldlM NumeralPhase.next? phase = some last := by
        rwa [List.cons_append, List.cons_append, List.foldlM_cons, hnext] at hall
      have hstep : step? ⟨tokens, .between⟩ (some c) = some ⟨tokens, .numeral phase [c]⟩ := hstart
      rw [List.nil_append, List.cons_append, List.cons_append, steps?_cons, hstep,
        Option.bind_some, steps?_numeral hrest, List.reverse_cons]
  · have hstep : step? ⟨tokens, .between⟩ (some '-') = some ⟨tokens, .numeral .minus ['-']⟩ := rfl
    rw [List.singleton_append, List.cons_append, List.cons_append, steps?_cons, hstep,
      Option.bind_some, steps?_numeral hall, List.reverse_cons]

end

-- What the lexer comes to where the input ends after these characters.
def lexed? (l : Lexing) (cs : List Char) : Option (List Token) :=
  (steps? l cs).bind finish?

theorem lexed?_append {l l' : Lexing} {cs : List Char} (h : steps? l cs = some l')
    (ds : List Char) : lexed? l (cs ++ ds) = lexed? l' ds := by
  rw [lexed?, steps?_append, h, Option.bind_some]
  rfl

theorem next?_of_not_continues {c : Char} (h : continuesNumeral c = false) (phase : NumeralPhase) :
    phase.next? c = none := by
  simp only [continuesNumeral, Bool.or_eq_false_iff, beq_eq_false_iff_ne] at h
  obtain ⟨⟨⟨⟨⟨hdigit, hpoint⟩, he⟩, hE⟩, hplus⟩, hminus⟩ := h
  have hzero : c ≠ '0' := by
    rintro rfl
    cases hdigit
  cases phase <;> simp [NumeralPhase.next?, hdigit, hzero, hpoint, he, hE, hplus, hminus]

-- Where a numeral can go on no further it is a lexeme.
theorem lexed?_numeral {tokens : List Token} {phase : NumeralPhase} {reversed rest : List Char}
    (hcomplete : phase.isComplete = true) (hrest : EndsNumeral rest) :
    lexed? ⟨tokens, .numeral phase reversed⟩ rest =
      lexed? ⟨.number reversed.reverse :: tokens, .between⟩ rest := by
  cases rest with
  | nil => simp [lexed?, steps?_nil, finish?, hcomplete]
  | cons c rest =>
    have hnone := next?_of_not_continues (hrest c rfl) phase
    have hstep : step? ⟨tokens, .numeral phase reversed⟩ (some c) =
        step? ⟨.number reversed.reverse :: tokens, .between⟩ (some c) := by
      simp only [step?, hnone, hcomplete, if_true]
    rw [lexed?, lexed?, steps?_cons, steps?_cons, hstep]

theorem lexed?_of_lays {written : List Char} {read : List Token} (h : Lays written read)
    (tokens : List Token) :
    lexed? ⟨tokens, .between⟩ written = some (tokens.reverse ++ read) := by
  induction h generalizing tokens with
  | nil hblanks =>
    rw [lexed?, steps?_blanks hblanks, Option.bind_some, finish?, List.append_nil]
  | cons hblanks hwrites _ ih =>
    rw [List.append_assoc, lexed?_append (steps?_blanks hblanks),
      lexed?_append (steps?_writes hwrites), ih, List.reverse_cons, List.append_assoc,
      List.singleton_append]
  | number hblanks hnumeral hends _ ih =>
    obtain ⟨phase, hsteps, hcomplete⟩ := steps?_of_isNumeral hnumeral tokens
    rw [List.append_assoc, lexed?_append (steps?_blanks hblanks), lexed?_append hsteps,
      lexed?_numeral hcomplete hends, ih, List.reverse_reverse, List.reverse_cons,
      List.append_assoc, List.singleton_append]

theorem ofPlaces?_of_lays {written : List Char} {read : List Token} (h : Lays written read) :
    ofPlaces? (written.map some) = some read :=
  lexed?_of_lays h []

end Token

namespace Reading

-- The reader over a row of lexemes.
def steps? (r : Reading) (read : List Token) : Option Reading :=
  read.foldlM step? r

theorem steps?_cons (r : Reading) (token : Token) (read : List Token) :
    steps? r (token :: read) = (step? r token).bind (steps? · read) :=
  rfl

theorem steps?_append (r : Reading) (read more : List Token) :
    steps? r (read ++ more) = (steps? r read).bind (steps? · more) :=
  List.foldlM_append

mutual

-- Where a value is waited for, its lexemes put it where it belongs. What is opened inside it is
-- closed again above this stack.
theorem steps?_tokens (j : Json) (mayClose : Bool) (stack : List Frame) :
    steps? (.awaitValue mayClose stack) (tokens j) = some (give j stack) := by
  cases j with
  | array items =>
    by_cases hempty : items = []
    · subst hempty
      rfl
    · rw [tokens, List.cons_append, steps?_cons, step?, Option.bind_some, steps?_append,
        steps?_itemTokens items hempty]
      simp [steps?, step?, close]
  | object fields =>
    by_cases hempty : fields = []
    · subst hempty
      rfl
    · rw [tokens, List.cons_append, steps?_cons, step?, Option.bind_some, steps?_append,
        steps?_fieldTokens fields hempty]
      simp [steps?, step?, close]
  | number numeral => simp [tokens, steps?, step?]
  | string text => simp [tokens, steps?, step?]
  | _ => rfl

theorem steps?_itemTokens (items : List Json) (h : items ≠ []) (mayClose : Bool)
    (reversed : List Json) (stack : List Frame) :
    steps? (.awaitValue mayClose (.array reversed :: stack)) (itemTokens items) =
      some (.awaitSeparator (.array (items.reverse ++ reversed)) stack) := by
  match items with
  | [item] => exact steps?_tokens item _ _
  | item :: next :: rest =>
    rw [itemTokens, steps?_append, steps?_tokens item, Option.bind_some, give, steps?_cons, step?,
      Option.bind_some, steps?_itemTokens (next :: rest) (List.cons_ne_nil _ _)]
    simp

theorem steps?_fieldTokens (fields : List (String × Json)) (h : fields ≠ []) (mayClose : Bool)
    (reversed : List (String × Json)) (stack : List Frame) :
    steps? (.awaitName mayClose (some reversed) stack) (fieldTokens fields) =
      some (.awaitSeparator (.object (some (fields.reverse ++ reversed)) none) stack) := by
  match fields with
  | [(name, value)] =>
    rw [fieldTokens, steps?_cons, step?, Option.bind_some, steps?_cons, step?, Option.bind_some,
      steps?_tokens value]
    simp [give]
  | (name, value) :: next :: rest =>
    rw [fieldTokens, List.cons_append, steps?_cons, step?, Option.bind_some, List.cons_append,
      steps?_cons, step?, Option.bind_some, steps?_append, steps?_tokens value, Option.bind_some,
      give, steps?_cons]
    simp [step?, steps?_fieldTokens (next :: rest) (List.cons_ne_nil _ _)]

end

end Reading

theorem ofTokens?_tokens (j : Json) : ofTokens? (tokens j) = some j := by
  have hsteps : (tokens j).foldlM Reading.step? (.awaitValue false []) = some (.done j) :=
    Reading.steps?_tokens j false []
  rw [ofTokens?, hsteps]
  rfl

-- A value is read from every text that writes it.
theorem ofChars?_of_lays {written : List Char} {j : Json} (h : Lays written j.tokens) :
    ofChars? written = some j := by
  rw [ofChars?, ofPlaces?, Token.ofPlaces?_of_lays h, Option.bind_some, ofTokens?_tokens]

end Unshare.Json
