import Unshare.Url.Domain.Directions
import Unshare.Url.Domain.Entry

namespace Unshare.Url.Domain

inductive Direction
  | rightward
  | leftward
  | digit
  | arabicDigit
  | neutral
  | attached
deriving DecidableEq, Repr

namespace Direction

-- The characters of each direction but the rightward one, to which all others belong.
def spans : List (Direction × List Span) :=
  [(.leftward, Domain.spans Table.leftward), (.arabicDigit, Domain.spans Table.arabicDigits),
   (.digit, Domain.spans Table.digits), (.neutral, Domain.spans Table.neutral),
   (.attached, Domain.spans Table.attached)]

def ofChar (c : Char) : Direction :=
  ((spans.find? fun (_, list) => list.any (·.holds c.toNat)).map (·.1)).getD .rightward

-- Whether a character makes the name one that goes from right to left.
def turnsName : Direction → Bool
  | .leftward | .arabicDigit => true
  | _ => false

-- The last direction that is not that of an attached mark.
def last? (directions : List Direction) : Option Direction :=
  (directions.reverse.dropWhile (· == .attached)).head?

def fits (directions : List Direction) : Bool :=
  match directions.head? with
  | none => true
  | some .leftward =>
    !directions.contains .rightward
      && !(directions.contains .digit && directions.contains .arabicDigit)
      && (last? directions).any fun d => d == .leftward || d == .digit || d == .arabicDigit
  | some .rightward =>
    !directions.contains .leftward && !directions.contains .arabicDigit
      && (last? directions).any fun d => d == .rightward || d == .digit
  | some _ => false

end Direction

-- Whether the labels of a name fit together.
def directionsFit (labels : List (List Char)) : Bool :=
  let directions := labels.map fun label => label.map Direction.ofChar
  !directions.any (·.any Direction.turnsName) || directions.all Direction.fits

end Unshare.Url.Domain
