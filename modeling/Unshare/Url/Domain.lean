import Unshare.Text.Split
import Unshare.Text.Utf8
import Unshare.Url.Domain.Direction
import Unshare.Url.Domain.Joiner
import Unshare.Url.Domain.Mapping
import Unshare.Url.Domain.Punycode

namespace Unshare.Url.Domain

-- The visible ASCII characters that no domain name holds.
def forbidden : List Char :=
  ['%', '#', '/', ':', '<', '>', '?', '@', '[', '\\', ']', '^', '|']

def isAllowed (c : Char) : Bool :=
  0x20 < c.toNat && c.toNat < 0x7F && !forbidden.contains c

-- The longest label beyond ASCII, and the longest text behind `xn--` that stands for one.
def maxWideLength : Nat := 1000
def maxWrittenLength : Nat := 2000

-- A label that is not ASCII as a whole.
def isWideLabel (label : List Char) : Bool :=
  label.length ≤ maxWideLength && label.all isPermitted && !(label.head?.any isMark)
    && joinersFit label

def isAscii (cs : List Char) : Bool :=
  cs.all (·.toNat < 0x80)

-- The label that a label in ASCII behind `xn--` stands for, if it is one that would be written so;
-- any other label stands for itself.
def labelMeant? (label : List Char) : Option (List Char) :=
  match label with
  | 'x' :: 'n' :: '-' :: '-' :: written =>
    if written.length ≤ maxWrittenLength then
      (Punycode.decode? written).filter fun wide =>
        !isAscii wide && isWideLabel wide && compose (wide.flatMap replaced) == wide
    else none
  | _ => if isAscii label || isWideLabel label then some label else none

def labelToAscii (label : List Char) : List Char :=
  if isAscii label then label else "xn--".toList ++ Punycode.encode label

-- The name in the form in which it is looked up.
def toAscii? (bytes : List UInt8) : Option (List Char) := do
  let name ← Text.Utf8.decode? bytes
  let labels := Text.splitOn '.' (compose (name.toList.flatMap replaced))
  let meant ← labels.mapM labelMeant?
  let ascii := Text.joinWith '.' (labels.map labelToAscii)
  if directionsFit meant && ascii.all isAllowed then some ascii else none

end Unshare.Url.Domain
