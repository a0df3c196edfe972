namespace Unshare.Text

-- Why a text is no unsigned numeral within a bound.
inductive Decimal.Fault
  | empty
  | invalidDigit
  | tooLarge
deriving DecidableEq, Repr

def Decimal.Fault.message : Decimal.Fault → String
  | .empty => "cannot parse integer from empty string"
  | .invalidDigit => "invalid digit found in string"
  | .tooLarge => "number too large to fit in target type"

namespace Decimal

-- The digit a character stands for; only the ten ASCII digits count.
def digit? (c : Char) : Option Nat :=
  if '0' ≤ c ∧ c ≤ '9' then some (c.toNat - '0'.toNat) else none

def isDigit (c : Char) : Bool :=
  (digit? c).isSome

-- Reads on from the number `value` of the digits read so far.
def readFrom (bound value : Nat) : List Char → Except Fault Nat
  | [] => .ok value
  | c :: rest =>
    match digit? c with
    | none => .error .invalidDigit
    | some d =>
      if value * 10 + d ≤ bound then readFrom bound (value * 10 + d) rest else .error .tooLarge

def readChars (bound : Nat) : List Char → Except Fault Nat
  | [] => .error .empty
  | ['+'] => .error .invalidDigit
  | '+' :: digits => readFrom bound 0 digits
  | digits => readFrom bound 0 digits

def read (bound : Nat) (s : String) : Except Fault Nat :=
  readChars bound s.toList

def read? (bound : Nat) (s : String) : Option Nat :=
  (read bound s).toOption

-- The decimal digits of `n`, the highest first.
def digits (n : Nat) : List Char :=
  Nat.toDigits 10 n

-- The digits of `n`, with a sign in front of a negative number.
def signed : Int → List Char
  | .ofNat n => digits n
  | .negSucc n => '-' :: digits (n + 1)

-- The digits of `n`, with zeros put in front up to `width` places.
def padded (width n : Nat) : List Char :=
  List.replicate (width - (digits n).length) '0' ++ digits n

end Decimal

-- The largest values of unsigned words.
def maxWord16 : Nat := 0xFFFF
def maxWord32 : Nat := 0xFFFFFFFF
def maxWord64 : Nat := 0xFFFFFFFFFFFFFFFF

end Unshare.Text
