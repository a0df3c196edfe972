import Unshare.Text.Utf8

namespace Unshare.Text.Utf16

-- Which of the two bytes of a unit comes first.
inductive Order
  | lowFirst
  | highFirst
deriving DecidableEq, Repr

def Order.unit (order : Order) (first second : UInt8) : Nat :=
  match order with
  | .lowFirst => second.toNat * 256 + first.toNat
  | .highFirst => first.toNat * 256 + second.toNat

-- The units of the bytes, and whether a byte is left over.
def units (order : Order) : List UInt8 → List Nat × Bool
  | [] => ([], false)
  | [_] => ([], true)
  | first :: second :: rest =>
    (order.unit first second :: (units order rest).1, (units order rest).2)

def isHigh (unit : Nat) : Bool :=
  0xD800 ≤ unit && unit ≤ 0xDBFF

def isLow (unit : Nat) : Bool :=
  0xDC00 ≤ unit && unit ≤ 0xDFFF

-- The character that two surrogates stand for.
def paired (high low : Nat) : Char :=
  Char.ofNat (0x10000 + (high - 0xD800) * 0x400 + (low - 0xDC00))

-- The characters that the units spell, behind a high surrogate if one waits for its low one. A
-- surrogate without the other spells nothing. What breaks off at the end is one place, be it a
-- surrogate, a byte or both.
def decodeUnits (isOdd : Bool) : Option Nat → List Nat → List (Option Char)
  | high, [] => if high.isSome || isOdd then [none] else []
  | none, unit :: rest =>
    if isHigh unit then decodeUnits isOdd (some unit) rest
    else (if isLow unit then none else some (Char.ofNat unit)) :: decodeUnits isOdd none rest
  | some high, unit :: rest =>
    if isLow unit then some (paired high unit) :: decodeUnits isOdd none rest
    else if isHigh unit then none :: decodeUnits isOdd (some unit) rest
    else none :: some (Char.ofNat unit) :: decodeUnits isOdd none rest

def decode (order : Order) (bytes : List UInt8) : List (Option Char) :=
  decodeUnits (units order bytes).2 none (units order bytes).1

def decodeLossy (order : Order) (bytes : List UInt8) : String :=
  ofPlaces (decode order bytes)

end Unshare.Text.Utf16
