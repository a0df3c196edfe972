import Unshare.Url.Basic
import Unshare.Url.Domain
import Unshare.Url.Escape

namespace Unshare.Url.Host

-- A number in an address: hexadecimal after `0x`, octal after `0`, else decimal. The inner result is
-- missing where the number has more than 32 bits.
def readNumber? (cs : List Char) : Option (Option Nat) :=
  let bounded (value : Nat) : Option Nat := if value ≤ Text.maxWord32 then some value else none
  let inBase (base : Nat) (digits : List Char) : Option (Option Nat) :=
    (digits.mapM fun c => (Text.hexDigit? c).filter (· < base)).map fun ds =>
      bounded (ds.foldl (fun value d => value * base + d) 0)
  match cs with
  | [] => none
  | '0' :: 'x' :: rest | '0' :: 'X' :: rest => inBase 16 rest
  | '0' :: digit :: rest => inBase 8 (digit :: rest)
  | _ => inBase 10 cs

-- The labels of a name, without an empty one at its end.
def labels (name : List Char) : List (List Char) :=
  let fields := Text.splitOn '.' name
  if fields.length ≥ 2 ∧ fields.getLast? = some [] then fields.dropLast else fields

-- A name that ends in a number is read as an address.
def endsInNumber (name : List Char) : Bool :=
  match (labels name).getLast? with
  | some last =>
    (last ≠ [] ∧ last.all Text.Decimal.isDigit) || (readNumber? last).isSome
  | none => false

-- Up to four numbers; the last one fills all the bytes that are left.
def readV4? (name : List Char) : Option Net.V4 := do
  let numbers ← (labels name).mapM fun label => (readNumber? label).join
  let last ← numbers.getLast?
  let front := numbers.dropLast
  let room := Nat.pow 256 (4 - front.length)
  if front.length ≤ 3 ∧ front.all (· < 256) ∧ last < room then
    return Net.V4.ofNat (front.foldl (fun value byte => value * 256 + byte) 0 * room + last)
  else none

-- An address between brackets.
def readBracketed (cs : List Char) : Except Fault Host :=
  if cs.getLast? = some ']' then
    match Net.V6.read? cs.dropLast with
    | some six => .ok (.v6 six)
    | none => .error .badV6
  else .error .badV6

-- The host of a web-like URL.
def readWeb (cs : List Char) : Except Fault Host :=
  match cs with
  | [] => .error .emptyHost
  | '[' :: rest => readBracketed rest
  | _ =>
    match Domain.toAscii? (Text.Percent.decodeChars cs) with
    | none => .error .badName
    | some [] => .error .emptyHost
    | some domain =>
      if endsInNumber domain then
        match readV4? domain with
        | some four => .ok (.v4 four)
        | none => .error .badV4
      else .ok (.name (String.ofList domain))

def plainForbidden : List Char :=
  ['\x00', '\t', '\n', '\r', ' ', '#', '/', ':', '<', '>', '?', '@', '[', '\\', ']', '^', '|']

-- The host of any other URL.
def readPlain (cs : List Char) : Except Fault Host :=
  match cs with
  | '[' :: rest => readBracketed rest
  | _ =>
    if cs.any plainForbidden.contains then .error .badHostCharacter
    else .ok (.name (escape [] cs))

end Unshare.Url.Host
