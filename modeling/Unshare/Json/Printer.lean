import Unshare.Json.Basic
import Unshare.Text.Percent

namespace Unshare.Json

-- A control character other than the five with a short escape is written as `\u` and four digits.
def escapeChar (c : Char) : List Char :=
  match c with
  | '"' => ['\\', '"']
  | '\\' => ['\\', '\\']
  | '\x08' => ['\\', 'b']
  | '\x0c' => ['\\', 'f']
  | '\n' => ['\\', 'n']
  | '\r' => ['\\', 'r']
  | '\t' => ['\\', 't']
  | _ =>
    if c.toNat < 0x20 then
      ['\\', 'u', '0', '0', Text.lowerHex (c.toNat / 16), Text.lowerHex (c.toNat % 16)]
    else [c]

def quote (cs : List Char) : List Char :=
  '"' :: cs.flatMap escapeChar ++ ['"']

mutual

def print : Json → List Char
  | .null => ['n', 'u', 'l', 'l']
  | .bool true => ['t', 'r', 'u', 'e']
  | .bool false => ['f', 'a', 'l', 's', 'e']
  | .number numeral => numeral.toList
  | .string text => quote text.toList
  | .array items => '[' :: printItems items ++ [']']
  | .object fields => '\x7b' :: printFields fields ++ ['\x7d']
  | .illFormed => ['n', 'u', 'l', 'l']

def printItems : List Json → List Char
  | [] => []
  | [item] => print item
  | item :: next :: rest => print item ++ ',' :: printItems (next :: rest)

def printFields : List (String × Json) → List Char
  | [] => []
  | [(name, value)] => quote name.toList ++ ':' :: print value
  | (name, value) :: next :: rest =>
    quote name.toList ++ ':' :: print value ++ ',' :: printFields (next :: rest)

end

def render (j : Json) : String :=
  String.ofList j.print

end Unshare.Json
