import Unshare.Url.Basic
import Unshare.Url.Escape

namespace Unshare.Url

-- The names of the schemes whose URLs always have a host and take `\` for `/`.
def webLikeSchemes : List (String × Option Nat) :=
  [("http", some 80), ("https", some 443), ("ws", some 80), ("wss", some 443), ("ftp", some 21),
   ("file", none)]

def isWebLike (scheme : String) : Bool :=
  (webLikeSchemes.lookup scheme).isSome

def standardNumber (scheme : String) : Option Nat :=
  (webLikeSchemes.lookup scheme).join

-- The characters that are dropped wherever they stand in a URL.
def isDropped (c : Char) : Bool :=
  c = '\t' || c = '\n' || c = '\r'

def isAsciiLetter (c : Char) : Bool :=
  ('a' ≤ c && c ≤ 'z') || ('A' ≤ c && c ≤ 'Z')

def isDrive (segment : String) : Bool :=
  match segment.toList with
  | [letter, mark] => isAsciiLetter letter && (mark = ':' || mark = '|')
  | _ => false

-- Whether a segment is a drive or goes on with `\` behind one.
def isOnDrive (segment : String) : Bool :=
  let cs := segment.toList
  isDrive (String.ofList (cs.take 2)) && (cs.drop 2).head?.all (· = '\\')

-- The segments without the last one, which is kept if it is on a drive.
def leaveLast (segments : List String) : List String :=
  match segments.getLast? with
  | some last => if isOnDrive last then segments else segments.dropLast
  | none => []

-- The segments with a drive at their front, if there is one, spelt with a colon.
def spellDrive : List String → List String
  | first :: rest =>
    if isDrive first then String.ofList (first.toList.take 1 ++ [':']) :: rest else first :: rest
  | [] => []

-- What a segment means by its spelling.
inductive SegmentKind
  | here
  | parent
  | plain
deriving DecidableEq, Repr

-- In a path as a whole, a dot may be escaped.
def segmentKind (segment : String) : SegmentKind :=
  let lowered := segment.toList.map fun c => if c = 'E' then 'e' else c
  if lowered = ['.'] ∨ lowered = ['%', '2', 'e'] then .here
  else if lowered = ['.', '.'] ∨ lowered = ['.', '%', '2', 'e'] ∨ lowered = ['%', '2', 'e', '.'] ∨
      lowered = ['%', '2', 'e', '%', '2', 'e'] then .parent
  else .plain

-- Takes a segment in; the last one of a path leaves an open end behind if it is a dot segment.
def takeSegment (segments : List String) (isLast : Bool) (segment : String) : List String :=
  match segmentKind segment with
  | .here => if isLast then segments ++ [""] else segments
  | .parent => if isLast then leaveLast segments ++ [""] else leaveLast segments
  | .plain => segments ++ [segment]

-- Takes the segments of a path in order.
def takeSegments (segments : List String) : List String → List String
  | [] => segments
  | [last] => takeSegment segments true last
  | segment :: rest => takeSegments (takeSegment segments false segment) rest

-- The segments to which another one can be added.
def openEnd (segments : List String) : List String :=
  if segments = [""] then [] else segments

-- Adds one segment given as text. A text that is just a dot segment adds nothing.
def addSegment (scheme : String) (segments : List String) (text : String) : List String :=
  if text = "." ∨ text = ".." then segments
  else
    let forbidden := if isWebLike scheme then webSegmentForbidden else segmentForbidden
    let front := openEnd segments
    let taken := takeSegment front true
      (escape forbidden (text.toList.filter fun c => !isDropped c))
    if scheme = "file" ∧ front = [] then spellDrive taken else taken

-- The segments without an empty one at the end, unless it is the only one.
def closeEnd (segments : List String) : List String :=
  if segments.length ≥ 2 ∧ segments.getLast? = some "" then segments.dropLast else segments

-- The URL with these texts added to its path, if its path has segments.
def extend? (u : Url) (texts : List String) : Option Url :=
  match u.path with
  | .flat _ => none
  | .segments segments =>
    some { u with path := .segments (texts.foldl (addSegment u.scheme) (closeEnd segments)) }

theorem extend?_isSome {u : Url} (h : u.hasSegments = true) (texts : List String) :
    (u.extend? texts).isSome = true := by
  unfold extend?
  unfold hasSegments at h
  split <;> simp_all

end Unshare.Url
