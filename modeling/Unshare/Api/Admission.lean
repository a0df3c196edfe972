import Unshare.Actor
import Unshare.Http.Message
import Unshare.Text.Blank

namespace Unshare.Api

def actorOidHeader : String := "x-ms-client-principal-id"
def actorUpnHeader : String := "x-ms-client-principal-name"
def actorNameHeader : String := "x-actor-name"

-- The rest of a text that starts with `start`.
def dropStart? (start : List Char) (cs : List Char) : Option (List Char) :=
  if start.isPrefixOf cs then some (cs.drop start.length) else none

def bearerMark : List Char :=
  ['B', 'e', 'a', 'r', 'e', 'r', ' ']

-- The token a request presents, without the blanks around it.
def bearerToken? (r : Http.Request) : Option String :=
  (r.headerText? "authorization").bind fun value =>
    (dropStart? bearerMark value.toList).bind fun rest =>
      Text.present (some (String.ofList rest))

-- The union of all differences between bytes at the same place.
def difference (a b : List UInt8) : UInt8 :=
  (a.zip b).foldl (fun sum (x, y) => sum ||| (x ^^^ y)) 0

-- Looks at every byte, so that the time taken does not tell where two tokens part.
def sameBytes (a b : List UInt8) : Bool :=
  a.length == b.length && difference a b == 0

def sameToken (presented expected : String) : Bool :=
  sameBytes (Text.Utf8.encode presented) (Text.Utf8.encode expected)

def actorOf (r : Http.Request) : Actor :=
  Actor.of (r.headerText? actorOidHeader) (r.headerText? actorUpnHeader)
    (r.headerText? actorNameHeader)

-- The actor of a request that carries the admin token.
def checkAdmission (adminToken : String) (r : Http.Request) : Except Failure Actor :=
  match bearerToken? r with
  | none => .error (.unauthorized "authentication required")
  | some token =>
    if sameToken token adminToken then .ok (actorOf r)
    else .error (.unauthorized "invalid admin token")

private theorem foldl_difference_eq_zero_iff (pairs : List (UInt8 × UInt8)) (sum : UInt8) :
    pairs.foldl (fun sum (x, y) => sum ||| (x ^^^ y)) sum = 0 ↔
      sum = 0 ∧ ∀ pair ∈ pairs, pair.1 = pair.2 := by
  induction pairs generalizing sum with
  | nil => simp
  | cons pair rest ih =>
    obtain ⟨x, y⟩ := pair
    simp only [List.foldl_cons, ih, UInt8.or_eq_zero_iff, UInt8.xor_eq_zero_iff, List.forall_mem_cons,
      and_assoc]

private theorem eq_of_zip_eq {a b : List UInt8} (hl : a.length = b.length)
    (h : ∀ pair ∈ a.zip b, pair.1 = pair.2) : a = b := by
  induction a generalizing b with
  | nil => cases b <;> simp_all
  | cons x a ih =>
    cases b with
    | nil => simp at hl
    | cons y b =>
      simp only [List.zip_cons_cons, List.forall_mem_cons] at h
      have hr : a = b := ih (by simpa using hl) h.2
      have hx : x = y := h.1
      rw [hx, hr]

private theorem zip_self_eq {a : List UInt8} : ∀ pair ∈ a.zip a, pair.1 = pair.2 := by
  induction a with
  | nil => simp
  | cons x a ih => simpa using ih

theorem sameBytes_iff (a b : List UInt8) : sameBytes a b = true ↔ a = b := by
  simp only [sameBytes, difference, Bool.and_eq_true, beq_iff_eq, foldl_difference_eq_zero_iff]
  constructor
  · rintro ⟨hl, _, h⟩
    exact eq_of_zip_eq hl h
  · rintro rfl
    exact ⟨rfl, trivial, zip_self_eq⟩

end Unshare.Api
