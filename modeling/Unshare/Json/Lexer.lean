import Unshare.Json.Basic
import Unshare.Text.Percent

namespace Unshare.Json

inductive Token
  | openArray
  | closeArray
  | openObject
  | closeObject
  | comma
  | colon
  | null
  | bool (value : Bool)
  | number (numeral : List Char)
  -- a literal with an unpaired surrogate or an unreadable place spells nothing
  | string (text : Option (List Char))
deriving DecidableEq, Repr

namespace Token

-- How far a numeral has come.
inductive NumeralPhase
  | minus
  | zero
  | whole
  | point
  | fraction
  | exponent
  | exponentSign
  | exponentDigits
deriving DecidableEq, Repr

-- A numeral may end only where a digit it needs is not missing.
def NumeralPhase.isComplete : NumeralPhase → Bool
  | .zero | .whole | .fraction | .exponentDigits => true
  | .minus | .point | .exponent | .exponentSign => false

-- The phase after one more character, if the character belongs to the numeral.
def NumeralPhase.next? (phase : NumeralPhase) (c : Char) : Option NumeralPhase :=
  let isDigit := Text.Decimal.isDigit c
  match phase with
  | .minus => if c = '0' then some .zero else if isDigit then some .whole else none
  | .zero => if c = '.' then some .point else if c = 'e' ∨ c = 'E' then some .exponent else none
  | .whole =>
    if isDigit then some .whole
    else if c = '.' then some .point
    else if c = 'e' ∨ c = 'E' then some .exponent
    else none
  | .point => if isDigit then some .fraction else none
  | .fraction =>
    if isDigit then some .fraction else if c = 'e' ∨ c = 'E' then some .exponent else none
  | .exponent =>
    if isDigit then some .exponentDigits
    else if c = '+' ∨ c = '-' then some .exponentSign
    else none
  | .exponentSign | .exponentDigits => if isDigit then some .exponentDigits else none

-- What has been read of a text literal: its characters, the last one first, unless it already
-- spells nothing; and a high surrogate that waits for its low one.
structure Spelling where
  reversed : Option (List Char)
  high : Option Nat
deriving DecidableEq, Repr

namespace Spelling

def empty : Spelling :=
  ⟨some [], none⟩

def lost : Spelling :=
  ⟨none, none⟩

-- Adds a character; an unpaired high surrogate before it leaves the text without a spelling.
def push (s : Spelling) (c : Option Char) : Spelling :=
  match s.high, s.reversed, c with
  | none, some cs, some c => ⟨some (c :: cs), none⟩
  | _, _, _ => lost

-- Adds a UTF-16 code unit.
def pushUnit (s : Spelling) (unit : Nat) : Spelling :=
  if 0xD800 ≤ unit ∧ unit ≤ 0xDBFF then
    match s.high with
    | none => ⟨s.reversed, some unit⟩
    | some _ => lost
  else if 0xDC00 ≤ unit ∧ unit ≤ 0xDFFF then
    match s.high with
    | none => lost
    | some high =>
      ⟨s.reversed.map (Char.ofNat (0x10000 + (high - 0xD800) * 0x400 + (unit - 0xDC00)) :: ·), none⟩
  else s.push (some (Char.ofNat unit))

def text (s : Spelling) : Option (List Char) :=
  match s.high with
  | none => s.reversed.map List.reverse
  | some _ => none

end Spelling

-- Where the lexer stands.
inductive Mode
  | between
  | word (rest : List Char) (token : Token)
  | numeral (phase : NumeralPhase) (reversed : List Char)
  | text (spelling : Spelling)
  | escape (spelling : Spelling)
  | unit (spelling : Spelling) (missing : Nat) (value : Nat)
deriving DecidableEq, Repr

-- The lexemes read so far, the last one first.
structure Lexing where
  reversed : List Token
  mode : Mode
deriving DecidableEq, Repr

-- The character a short escape stands for.
def shortEscape? (c : Char) : Option Char :=
  match c with
  | '"' => some '"'
  | '\\' => some '\\'
  | '/' => some '/'
  | 'b' => some '\x08'
  | 'f' => some '\x0c'
  | 'n' => some '\n'
  | 'r' => some '\r'
  | 't' => some '\t'
  | _ => none

-- One character between lexemes.
def start? (tokens : List Token) (c : Char) : Option Lexing :=
  match c with
  | ' ' | '\t' | '\n' | '\r' => some ⟨tokens, .between⟩
  | '[' => some ⟨.openArray :: tokens, .between⟩
  | ']' => some ⟨.closeArray :: tokens, .between⟩
  | '\x7b' => some ⟨.openObject :: tokens, .between⟩
  | '\x7d' => some ⟨.closeObject :: tokens, .between⟩
  | ',' => some ⟨.comma :: tokens, .between⟩
  | ':' => some ⟨.colon :: tokens, .between⟩
  | '"' => some ⟨tokens, .text .empty⟩
  | 'n' => some ⟨tokens, .word ['u', 'l', 'l'] .null⟩
  | 't' => some ⟨tokens, .word ['r', 'u', 'e'] (.bool true)⟩
  | 'f' => some ⟨tokens, .word ['a', 'l', 's', 'e'] (.bool false)⟩
  | '-' => some ⟨tokens, .numeral .minus ['-']⟩
  | '0' => some ⟨tokens, .numeral .zero ['0']⟩
  | _ => if Text.Decimal.isDigit c then some ⟨tokens, .numeral .whole [c]⟩ else none

-- One character inside a text literal.
def continueText? (tokens : List Token) (spelling : Spelling) (c : Char) : Option Lexing :=
  if c = '"' then some ⟨.string spelling.text :: tokens, .between⟩
  else if c = '\\' then some ⟨tokens, .escape spelling⟩
  else if c.toNat < 0x20 then none
  else some ⟨tokens, .text (spelling.push (some c))⟩

-- One more place of the input.
def step? (l : Lexing) (place : Option Char) : Option Lexing :=
  match l.mode, place with
  | .text spelling, none => some ⟨l.reversed, .text (spelling.push none)⟩
  | _, none => none
  | .between, some c => start? l.reversed c
  | .word [] _, some _ => none
  | .word (expected :: rest) token, some c =>
    if c = expected then
      match rest with
      | [] => some ⟨token :: l.reversed, .between⟩
      | _ => some ⟨l.reversed, .word rest token⟩
    else none
  | .numeral phase reversed, some c =>
    match phase.next? c with
    | some next => some ⟨l.reversed, .numeral next (c :: reversed)⟩
    | none =>
      if phase.isComplete then start? (.number reversed.reverse :: l.reversed) c else none
  | .text spelling, some c => continueText? l.reversed spelling c
  | .escape spelling, some c =>
    if c = 'u' then some ⟨l.reversed, .unit spelling 4 0⟩
    else (shortEscape? c).map fun e => ⟨l.reversed, .text (spelling.push (some e))⟩
  | .unit spelling missing value, some c =>
    (Text.hexDigit? c).map fun d =>
      match missing with
      | 0 | 1 => ⟨l.reversed, .text (spelling.pushUnit (value * 16 + d))⟩
      | more + 2 => ⟨l.reversed, .unit spelling (more + 1) (value * 16 + d)⟩

-- The lexemes, if the input may end where the lexer stands.
def finish? (l : Lexing) : Option (List Token) :=
  match l.mode with
  | .between => some l.reversed.reverse
  | .numeral phase reversed =>
    if phase.isComplete then some (.number reversed.reverse :: l.reversed).reverse else none
  | _ => none

def ofPlaces? (places : List (Option Char)) : Option (List Token) :=
  (places.foldlM step? ⟨[], .between⟩).bind finish?

end Token

end Unshare.Json
