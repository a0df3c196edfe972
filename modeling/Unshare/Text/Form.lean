import Unshare.Text.Percent
import Unshare.Text.Split

namespace Unshare.Text.Form

-- A form: its pairs in the order written.
abbrev Pairs := List (String × String)

def isPlain (b : UInt8) : Bool :=
  (0x30 ≤ b && b ≤ 0x39) || (0x41 ≤ b && b ≤ 0x5A) || (0x61 ≤ b && b ≤ 0x7A) ||
    b == 0x2A || b == 0x2D || b == 0x2E || b == 0x5F

def encodeByte (b : UInt8) : List Char :=
  if b == 0x20 then ['+'] else if isPlain b then [Percent.byteChar b] else Percent.escape b

def encodeText (s : String) : List Char :=
  (Utf8.encode s).flatMap encodeByte

def encodePair (pair : String × String) : List Char :=
  encodeText pair.1 ++ '=' :: encodeText pair.2

def encode (pairs : Pairs) : String :=
  String.ofList (joinWith '&' (pairs.map encodePair))

-- Reads one name or value: `+` is a space, escapes are bytes, broken UTF-8 becomes U+FFFD.
def decodeText (bytes : List UInt8) : String :=
  Utf8.decodeLossy (Percent.decodeBytes (bytes.map fun b => if b == 0x2B then 0x20 else b))

def decodePair (bytes : List UInt8) : String × String :=
  let (name, value) := breakOn 0x3D bytes
  (decodeText name, decodeText (value.getD []))

def decodeBytes (bytes : List UInt8) : Pairs :=
  ((splitOn 0x26 bytes).filter fun field => !field.isEmpty).map decodePair

def decode (s : String) : Pairs :=
  decodeBytes (Utf8.encode s)

end Unshare.Text.Form
