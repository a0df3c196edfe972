import Unshare.Text.Utf8

namespace Unshare.Text

-- The value of a hexadecimal digit in either case.
def hexDigit? (c : Char) : Option Nat :=
  if '0' ≤ c ∧ c ≤ '9' then some (c.toNat - '0'.toNat)
  else if 'a' ≤ c ∧ c ≤ 'f' then some (c.toNat - 'a'.toNat + 10)
  else if 'A' ≤ c ∧ c ≤ 'F' then some (c.toNat - 'A'.toNat + 10)
  else none

def upperHex (n : Nat) : Char :=
  if n < 10 then Char.ofNat (n + '0'.toNat) else Char.ofNat (n - 10 + 'A'.toNat)

def lowerHex (n : Nat) : Char :=
  if n < 10 then Char.ofNat (n + '0'.toNat) else Char.ofNat (n - 10 + 'a'.toNat)

namespace Percent

def byteChar (b : UInt8) : Char :=
  Char.ofNat b.toNat

def escape (b : UInt8) : List Char :=
  ['%', upperHex (b.toNat / 16), upperHex (b.toNat % 16)]

-- Writes each byte plainly where `plain` says so and escaped elsewhere.
def encodeBytes (plain : UInt8 → Bool) (bytes : List UInt8) : List Char :=
  bytes.flatMap fun b => if plain b then [byteChar b] else escape b

def encodeChars (plain : UInt8 → Bool) (cs : List Char) : List Char :=
  encodeBytes plain (Utf8.encodeChars cs)

-- The value of a byte read as a hexadecimal digit.
def hexByte? (b : UInt8) : Option Nat :=
  hexDigit? (byteChar b)

-- The byte an escape with these two digits stands for.
def escaped? (high low : UInt8) : Option UInt8 :=
  match hexByte? high, hexByte? low with
  | some h, some l => some (UInt8.ofNat (h * 16 + l))
  | _, _ => none

-- Replaces each complete escape by its byte; any other `%` stands for itself.
def decodeBytes : List UInt8 → List UInt8
  | 0x25 :: high :: low :: rest =>
    match escaped? high low with
    | some b => b :: decodeBytes rest
    | none => 0x25 :: decodeBytes (high :: low :: rest)
  | b :: rest => b :: decodeBytes rest
  | [] => []

def decodeChars (cs : List Char) : List UInt8 :=
  decodeBytes (Utf8.encodeChars cs)

end Percent

end Unshare.Text
