import Unshare.Json.Lexer
import Unshare.Text.Utf8

namespace Unshare.Json

-- An open bracket: its parts so far, the last one first. A name that spells nothing makes the
-- whole object ill-formed.
inductive Frame
  | array (reversed : List Json)
  | object (reversed : Option (List (String × Json))) (name : Option String)
deriving Inhabited

-- What the reader waits for.
inductive Reading
  -- a value; `mayClose` right after an opening bracket
  | awaitValue (mayClose : Bool) (stack : List Frame)
  -- a name in an object; `mayClose` right after the opening bracket
  | awaitName (mayClose : Bool) (reversed : Option (List (String × Json))) (stack : List Frame)
  -- the colon after a name
  | awaitColon (reversed : Option (List (String × Json))) (name : Option String) (stack : List Frame)
  -- a comma or the closing bracket of the topmost frame
  | awaitSeparator (frame : Frame) (stack : List Frame)
  -- nothing more
  | done (value : Json)
deriving Inhabited

namespace Reading

-- Puts a finished value where it belongs.
def give (value : Json) : List Frame → Reading
  | [] => .done value
  | .array reversed :: stack => .awaitSeparator (.array (value :: reversed)) stack
  | .object reversed name :: stack =>
    .awaitSeparator (.object ((name.bind fun n => reversed.map ((n, value) :: ·))) none) stack

-- The value a closed bracket makes.
def close : Frame → Json
  | .array reversed => .array reversed.reverse
  | .object (some reversed) _ => .object reversed.reverse
  | .object none _ => .illFormed

def step? : Reading → Token → Option Reading
  | .awaitValue _ stack, .null => some (give .null stack)
  | .awaitValue _ stack, .bool b => some (give (.bool b) stack)
  | .awaitValue _ stack, .number numeral => some (give (.number (String.ofList numeral)) stack)
  | .awaitValue _ stack, .string text =>
    some (give (text.elim .illFormed fun cs => .string (String.ofList cs)) stack)
  | .awaitValue _ stack, .openArray => some (.awaitValue true (.array [] :: stack))
  | .awaitValue _ stack, .openObject => some (.awaitName true (some []) stack)
  | .awaitValue true (frame :: stack), .closeArray => some (give (close frame) stack)
  | .awaitName _ reversed stack, .string text =>
    some (.awaitColon reversed (text.map String.ofList) stack)
  | .awaitName true reversed stack, .closeObject => some (give (close (.object reversed none)) stack)
  | .awaitColon reversed name stack, .colon =>
    some (.awaitValue false (.object reversed name :: stack))
  | .awaitSeparator (.array reversed) stack, .comma =>
    some (.awaitValue false (.array reversed :: stack))
  | .awaitSeparator (.array reversed) stack, .closeArray =>
    some (give (close (.array reversed)) stack)
  | .awaitSeparator (.object reversed _) stack, .comma => some (.awaitName false reversed stack)
  | .awaitSeparator (.object reversed name) stack, .closeObject =>
    some (give (close (.object reversed name)) stack)
  | _, _ => none

def value? : Reading → Option Json
  | .done value => some value
  | _ => none

end Reading

def ofTokens? (tokens : List Token) : Option Json :=
  (tokens.foldlM Reading.step? (.awaitValue false [])).bind Reading.value?

def ofPlaces? (places : List (Option Char)) : Option Json :=
  (Token.ofPlaces? places).bind ofTokens?

def ofChars? (cs : List Char) : Option Json :=
  ofPlaces? (cs.map some)

def ofText? (s : String) : Option Json :=
  ofChars? s.toList

def ofBytes? (bytes : List UInt8) : Option Json :=
  ofPlaces? (Text.Utf8.decode bytes)

-- Reads a text as a value of some type.
def readText? {α : Type} (read? : Json → Option α) (s : String) : Option α :=
  (ofText? s).bind read?

end Unshare.Json
