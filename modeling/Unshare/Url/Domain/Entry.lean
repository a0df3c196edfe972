import Unshare.Text.Percent
import Unshare.Text.Split

namespace Unshare.Url.Domain

-- A closed range of code points.
structure Span where
  first : Nat
  last : Nat

def Span.holds (span : Span) (n : Nat) : Bool :=
  span.first ≤ n && n ≤ span.last

namespace Entry

def number (cs : List Char) : Nat :=
  cs.foldl (fun n c => n * 16 + (Text.hexDigit? c).getD 0) 0

def integer : List Char → Int
  | '-' :: digits => -number digits
  | digits => number digits

def span (cs : List Char) : Span :=
  match Text.breakOn '-' cs with
  | (first, some last) => ⟨number first, number last⟩
  | (only, none) => ⟨number only, number only⟩

def numbers (cs : List Char) : List Nat :=
  (Text.splitOn '.' cs).map number

-- The entries of a table, whose lines are divided by blanks.
def all (lines : List String) : List (List Char) :=
  lines.flatMap fun line => Text.splitOn ' ' line.toList

-- An entry in its two parts.
def parts (mark : Char) (entry : List Char) : List Char × List Char :=
  let (left, right) := Text.breakOn mark entry
  (left, right.getD [])

end Entry

def spans (lines : List String) : List Span :=
  (Entry.all lines).map Entry.span

end Unshare.Url.Domain
