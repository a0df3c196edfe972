import Unshare.Url.Domain.Characters
import Unshare.Url.Domain.Entry
import Unshare.Url.Domain.Replacements

namespace Unshare.Url.Domain

-- The code points in `reach`, every one or every second one, move by `distance`.
structure Move where
  reach : Span
  step : Nat
  distance : Int

def Move.ofEntry (entry : List Char) : Move :=
  let (range, distance) := Entry.parts ':' entry
  let (reach, step) := Entry.parts '/' range
  ⟨Entry.span reach, if step = ['2'] then 2 else 1, Entry.integer distance⟩

def Move.target? (move : Move) (n : Nat) : Option Nat :=
  if move.reach.holds n && (n - move.reach.first) % move.step == 0 then
    some (n + move.distance).toNat
  else none

def dropped : List Span := spans Table.dropped

def moves : List Move := (Entry.all Table.moved).map Move.ofEntry

def spellings : List (Nat × List Nat) :=
  (Entry.all Table.spelled).map fun entry =>
    let (n, text) := Entry.parts '=' entry
    (Entry.number n, Entry.numbers text)

def lower (c : Char) : Char :=
  if 'A' ≤ c ∧ c ≤ 'Z' then Char.ofNat (c.toNat + 32) else c

-- What a character is replaced by.
def replaced (c : Char) : List Char :=
  let n := c.toNat
  if n < 0x80 then [lower c]
  else if dropped.any (·.holds n) then []
  else
    match moves.findSome? (·.target? n) with
    | some target => [Char.ofNat target]
    | none =>
      match spellings.lookup n with
      | some text => text.map Char.ofNat
      | none => [c]

def permitted : List Span := spans Table.permitted

def marks : List Span := spans Table.marks

-- Characters beyond ASCII that a label may hold.
def isPermitted (c : Char) : Bool :=
  c.toNat < 0x80 || permitted.any (·.holds c.toNat)

-- Characters that no label starts with.
def isMark (c : Char) : Bool :=
  marks.any (·.holds c.toNat)

end Unshare.Url.Domain
