import Unshare.Text.Percent
import Unshare.Text.Split
import Unshare.Text.Decimal

namespace Unshare.Net

-- The four bytes of a version 4 address.
structure V4 where
  a : Nat
  b : Nat
  c : Nat
  d : Nat
deriving DecidableEq, Repr

-- The eight pieces of a version 6 address.
structure V6 where
  pieces : List Nat
deriving DecidableEq, Repr

inductive Address
  | v4 (address : V4)
  | v6 (address : V6)
deriving DecidableEq, Repr

namespace V4

-- The bytes of a number of 32 bits.
def ofNat (n : Nat) : V4 :=
  ⟨n / 0x1000000, n / 0x10000 % 256, n / 0x100 % 256, n % 256⟩

-- One byte: up to three digits, and no zero in front of another digit.
def readByte? (cs : List Char) : Option Nat :=
  if cs.length ≤ 3 ∧ (cs.head? ≠ some '0' ∨ cs.length = 1) ∧ cs.all Text.Decimal.isDigit then
    (Text.Decimal.readChars 255 cs).toOption
  else none

def read? (cs : List Char) : Option V4 :=
  match Text.splitOn '.' cs with
  | [a, b, c, d] => do
    return ⟨← readByte? a, ← readByte? b, ← readByte? c, ← readByte? d⟩
  | _ => none

def print (v : V4) : List Char :=
  Text.joinWith '.' (([v.a, v.b, v.c, v.d]).map Text.Decimal.digits)

end V4

namespace V6

def hexFrom (value : Nat) : List Char → Option Nat
  | [] => some value
  | c :: rest => (Text.hexDigit? c).bind fun d => hexFrom (value * 16 + d) rest

-- One piece: one to four hexadecimal digits.
def readPiece? (cs : List Char) : Option Nat :=
  if cs = [] ∨ cs.length > 4 then none else hexFrom 0 cs

-- Pieces between colons; where `mayEndInV4`, the last two may be written as a version 4 address.
def readFields? (mayEndInV4 : Bool) : List (List Char) → Option (List Nat)
  | [] => some []
  | [last] =>
    match readPiece? last with
    | some piece => some [piece]
    | none =>
      if mayEndInV4 then
        (V4.read? last).map fun v => [v.a * 256 + v.b, v.c * 256 + v.d]
      else none
  | field :: rest => do
    return (← readPiece? field) :: (← readFields? mayEndInV4 rest)

def readPieces? (mayEndInV4 : Bool) (cs : List Char) : Option (List Nat) :=
  if cs = [] then some [] else readFields? mayEndInV4 (Text.splitOn ':' cs)

-- What stands before the first `::`, and what stands after it if there is one.
def breakAtGap : List Char → List Char × Option (List Char)
  | [] => ([], none)
  | ':' :: ':' :: rest => ([], some rest)
  | c :: rest => (c :: (breakAtGap rest).1, (breakAtGap rest).2)

def read? (cs : List Char) : Option V6 :=
  match breakAtGap cs with
  | (whole, none) => do
    let pieces ← readPieces? true whole
    if pieces.length = 8 then return ⟨pieces⟩ else none
  | (front, some back) => do
    let head ← readPieces? false front
    let tail ← readPieces? true back
    if head.length + tail.length < 8 then
      return ⟨head ++ List.replicate (8 - (head.length + tail.length)) 0 ++ tail⟩
    else none

def pieceDigits (n : Nat) : List Char :=
  Nat.toDigits 16 n

def printPieces (pieces : List Nat) : List Char :=
  Text.joinWith ':' (pieces.map pieceDigits)

-- How many zero pieces stand at the front.
def zerosAt (pieces : List Nat) : Nat :=
  (pieces.takeWhile (· == 0)).length

-- The first of the longest runs of zeros, as its place and its length.
def longestRun (place : Nat) : List Nat → Nat × Nat
  | [] => (place, 0)
  | piece :: rest =>
    let here := zerosAt (piece :: rest)
    let later := longestRun (place + 1) rest
    if here ≥ later.2 then (place, here) else later

-- `::` stands for the first of the longest runs of zero pieces.
def print (v : V6) : List Char :=
  let (place, length) := longestRun 0 v.pieces
  if length ≥ 2 then
    printPieces (v.pieces.take place) ++ ':' :: ':' :: printPieces (v.pieces.drop (place + length))
  else printPieces v.pieces

-- The version 4 address that a version 6 address stands for.
def mapped? (v : V6) : Option V4 :=
  match v.pieces with
  | [0, 0, 0, 0, 0, 0xFFFF, high, low] => some ⟨high / 256, high % 256, low / 256, low % 256⟩
  | _ => none

-- As `print`, but a mapped address ends in the version 4 address it stands for.
def printMixed (v : V6) : List Char :=
  match v.mapped? with
  | some four => [':', ':', 'f', 'f', 'f', 'f', ':'] ++ four.print
  | none => v.print

end V6

namespace Address

def read? (s : String) : Option Address :=
  match V4.read? s.toList with
  | some four => some (.v4 four)
  | none => (V6.read? s.toList).map .v6

-- The address with a number behind it, as a socket is named.
def socketName (address : Address) (number : Nat) : String :=
  let host := match address with
    | .v4 four => four.print
    | .v6 six => '[' :: six.printMixed ++ [']']
  String.ofList (host ++ ':' :: Text.Decimal.digits number)

end Address

end Unshare.Net
