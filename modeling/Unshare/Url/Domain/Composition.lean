import Unshare.Url.Domain.Combining
import Unshare.Url.Domain.Entry

namespace Unshare.Url.Domain

def ranks : List (Span × Nat) :=
  (Entry.all Table.ranks).map fun entry =>
    let (reach, rank) := Entry.parts '=' entry
    (Entry.span reach, Entry.number rank)

-- Each composed character with its base and its mark.
def composites : List (Nat × Nat × Nat) :=
  (Entry.all Table.composed).filterMap fun entry =>
    let (n, text) := Entry.parts '=' entry
    match Entry.numbers text with
    | [base, mark] => some (Entry.number n, base, mark)
    | _ => none

-- Characters that are no marks have rank zero.
def rank (n : Nat) : Nat :=
  ((ranks.find? fun (reach, _) => reach.holds n).map (·.2)).getD 0

-- Syllables are numbered by their leading consonant, vowel and trailing consonant.
namespace Syllable

def base : Nat := 0xAC00
def leading : Nat := 0x1100
def vowel : Nat := 0x1161
def trailing : Nat := 0x11A7
def vowels : Nat := 21
def trailings : Nat := 28
def leadings : Nat := 19

def parts? (n : Nat) : Option (List Nat) :=
  if base ≤ n ∧ n < base + leadings * vowels * trailings then
    let index := n - base
    let front := [leading + index / (vowels * trailings), vowel + index / trailings % vowels]
    some (if index % trailings = 0 then front else front ++ [trailing + index % trailings])
  else none

def join? (left right : Nat) : Option Nat :=
  if leading ≤ left ∧ left < leading + leadings ∧ vowel ≤ right ∧ right < vowel + vowels then
    some (base + ((left - leading) * vowels + (right - vowel)) * trailings)
  else if base ≤ left ∧ left < base + leadings * vowels * trailings ∧ (left - base) % trailings = 0
      ∧ trailing < right ∧ right < trailing + trailings then
    some (left + (right - trailing))
  else none

end Syllable

-- Takes a character apart. A base can be composed itself, at most `depth` times.
def decompose : Nat → Nat → List Nat
  | 0, n => [n]
  | depth + 1, n =>
    match Syllable.parts? n, composites.lookup n with
    | some parts, _ => parts
    | none, some (base, mark) => decompose depth base ++ [mark]
    | none, none => [n]

def join? (left right : Nat) : Option Nat :=
  (Syllable.join? left right).or
    ((composites.find? fun (_, base, mark) => base == left && mark == right).map (·.1))

-- Puts a character behind those that are settled, the last of which comes first.
def settle (n : Nat) : List Nat → List Nat
  | [] => [n]
  | last :: rest =>
    if 0 < rank n ∧ rank n < rank last then last :: settle n rest else n :: last :: rest

def settleAll (text : List Nat) : List Nat :=
  (text.foldl (fun settled n => settle n settled) []).reverse

theorem settle_perm (n : Nat) (settled : List Nat) : (settle n settled).Perm (n :: settled) := by
  induction settled with
  | nil => exact .refl _
  | cons last rest ih =>
    simp only [settle]
    split
    · exact (ih.cons last).trans (.swap n last rest)
    · exact .refl _

theorem foldl_settle_perm (text settled : List Nat) :
    (text.foldl (fun settled n => settle n settled) settled).Perm (text ++ settled) := by
  induction text generalizing settled with
  | nil => exact .refl _
  | cons n rest ih =>
    exact (ih (settle n settled)).trans
      (((settle_perm n settled).append_left rest).trans List.perm_middle)

theorem settleAll_perm (text : List Nat) : (settleAll text).Perm text := by
  have h := foldl_settle_perm text []
  rw [List.append_nil] at h
  exact (List.reverse_perm _).trans h

-- A text that is being put together: what is finished, the character that can still take marks,
-- and the marks behind it that it did not take. The two lists have their last character first.
structure Joining where
  finished : List Nat
  open? : Option Nat
  waiting : List Nat

-- A mark reaches the open character if all marks between them have a lower rank.
def Joining.reaches (joining : Joining) (n : Nat) : Bool :=
  match joining.waiting with
  | [] => true
  | last :: _ => rank last < rank n

def Joining.step (joining : Joining) (n : Nat) : Joining :=
  match joining.open? with
  | none =>
    if rank n = 0 then { joining with open? := some n }
    else { joining with finished := n :: joining.finished }
  | some base =>
    match if joining.reaches n then join? base n else none with
    | some whole => { joining with open? := some whole }
    | none =>
      if rank n = 0 then ⟨joining.waiting ++ base :: joining.finished, some n, []⟩
      else { joining with waiting := n :: joining.waiting }

def Joining.text (joining : Joining) : List Nat :=
  joining.finished.reverse ++ joining.open?.toList ++ joining.waiting.reverse

def joinAll (text : List Nat) : List Nat :=
  (text.foldl Joining.step ⟨[], none, []⟩).text

-- Four is more than any character needs.
def compose (cs : List Char) : List Char :=
  (joinAll (settleAll (cs.flatMap fun c => decompose 4 c.toNat))).map Char.ofNat

end Unshare.Url.Domain
