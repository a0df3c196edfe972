import Unshare.Url.Domain.Composition
import Unshare.Url.Domain.Connections

namespace Unshare.Url.Domain

-- How a letter is joined to the letters beside it.
inductive Connection
  | both
  | before
  | behind
  | passing
  | apart
deriving DecidableEq, Repr

namespace Connection

-- The characters of each connection but the last, to which all others belong.
def spans : List (Connection × List Span) :=
  [(.both, Domain.spans Table.joinedOnBoth), (.before, Domain.spans Table.joinedBefore),
   (.behind, Domain.spans Table.joinedBehind), (.passing, Domain.spans Table.passedThrough)]

def ofChar (c : Char) : Connection :=
  ((spans.find? fun (_, list) => list.any (·.holds c.toNat)).map (·.1)).getD .apart

def joinsBefore : Connection → Bool
  | .both | .before => true
  | _ => false

def joinsBehind : Connection → Bool
  | .both | .behind => true
  | _ => false

-- Whether the nearest letter joins, seen from the front of the text.
def nearest (joins : Connection → Bool) (cs : List Char) : Bool :=
  ((cs.map ofChar).dropWhile (· == .passing)).head?.any joins

end Connection

namespace Joiner

-- The joiner that keeps letters apart.
def separator : Char := '\u200c'

-- The joiner that brings letters together.
def connector : Char := '\u200d'

def isJoiner (c : Char) : Bool :=
  c == separator || c == connector

-- The rank of the marks that ask for a join of the consonants around them.
def markRank : Nat := 9

-- Whether a joiner may stand between what is before it, the last character first, and what is
-- behind it.
def fits (before : List Char) (joiner : Char) (behind : List Char) : Bool :=
  match before with
  | [] => false
  | last :: _ =>
    rank last.toNat == markRank ||
      (joiner == separator && Connection.nearest Connection.joinsBehind before
        && Connection.nearest Connection.joinsBefore behind)

def allFit (before : List Char) : List Char → Bool
  | [] => true
  | c :: behind => (!isJoiner c || fits before c behind) && allFit (c :: before) behind

end Joiner

-- Whether all joiners of a label are where a label may hold them.
def joinersFit (label : List Char) : Bool :=
  Joiner.allFit [] label

theorem Joiner.allFit_of_forall {label : List Char} (h : ∀ c ∈ label, isJoiner c = false)
    (before : List Char) : allFit before label = true := by
  induction label generalizing before with
  | nil => rfl
  | cons c behind ih =>
    simp only [allFit, h c List.mem_cons_self, Bool.not_false, Bool.true_or, Bool.true_and]
    exact ih (fun d hd => h d (List.mem_cons_of_mem c hd)) (c :: before)

theorem joinersFit_of_forall {label : List Char} (h : ∀ c ∈ label, Joiner.isJoiner c = false) :
    joinersFit label = true :=
  Joiner.allFit_of_forall h []

theorem joinersFit_cons_joiner {c : Char} (h : Joiner.isJoiner c = true) (label : List Char) :
    joinersFit (c :: label) = false := by
  simp [joinersFit, Joiner.allFit, Joiner.fits, h]

end Unshare.Url.Domain
