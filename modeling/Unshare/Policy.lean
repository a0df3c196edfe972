import Unshare.Grant

namespace Unshare.Policy

inductive Refusal
  | inherited
  | owner
deriving DecidableEq, Repr

inductive Decision
  | allow
  | deny (reason : Refusal)
deriving DecidableEq, Repr

def Refusal.code : Refusal → String
  | .inherited => "inherited_permission_delete_blocked"
  | .owner => "owner_permission_delete_blocked"

-- The fact that led to the refusal.
def Refusal.evidence (r : Refusal) (g : Grant) : Json.Fields :=
  match r with
  | .inherited => [("inheritedFrom", g.inheritedJson)]
  | .owner => [("roles", .ofStrings g.roles)]

-- Lower case for the ASCII letters; every other character stays.
def lowerAscii (c : Char) : Char :=
  if 'A' ≤ c ∧ c ≤ 'Z' then Char.ofNat (c.toNat + 32) else c

-- Whether `word` stands somewhere in `cs`.
def occursIn (word : List Char) : List Char → Bool
  | [] => word.isEmpty
  | c :: rest => word.isPrefixOf (c :: rest) || occursIn word rest

def ownerWord : List Char :=
  ['o', 'w', 'n', 'e', 'r']

-- A role is an owner's where `owner` stands somewhere in its name, in any ASCII case.
def isOwnerRole (role : String) : Bool :=
  occursIn ownerWord (role.toList.map lowerAscii)

def evaluate (g : Grant) : Decision :=
  if g.inheritedFrom.isSome then .deny .inherited
  else if g.roles.any isOwnerRole then .deny .owner
  else .allow

-- The decision is made from the roles and the inheritance alone.
theorem evaluate_congr {g h : Grant} (hr : g.roles = h.roles)
    (hi : g.inheritedFrom = h.inheritedFrom) : evaluate g = evaluate h := by
  simp [evaluate, hr, hi]

theorem occursIn_iff (word cs : List Char) :
    occursIn word cs = true ↔ ∃ before after, cs = before ++ word ++ after := by
  induction cs with
  | nil =>
    simp only [occursIn, List.isEmpty_iff]
    constructor
    · rintro rfl
      exact ⟨[], [], rfl⟩
    · rintro ⟨before, after, h⟩
      cases before with
      | nil => cases word <;> simp_all
      | cons => simp at h
  | cons c rest ih =>
    simp only [occursIn, Bool.or_eq_true, List.isPrefixOf_iff_prefix, ih]
    constructor
    · rintro (⟨after, h⟩ | ⟨before, after, h⟩)
      · exact ⟨[], after, by simp [h]⟩
      · exact ⟨c :: before, after, by simp [h]⟩
    · rintro ⟨before, after, h⟩
      cases before with
      | nil => exact Or.inl ⟨after, by simpa using h.symm⟩
      | cons d before =>
        simp only [List.cons_append, List.cons.injEq] at h
        exact Or.inr ⟨before, after, h.2⟩

end Unshare.Policy
