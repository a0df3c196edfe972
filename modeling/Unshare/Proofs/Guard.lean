import Mathlib.Data.List.Forall2
import Unshare.Policy
import Unshare.Proofs.Characters

namespace Unshare.Policy

-- The small and the capital form of each letter of the word that marks an owner's role.
def ownerLetters : List (Char × Char) :=
  [('o', 'O'), ('w', 'W'), ('n', 'N'), ('e', 'E'), ('r', 'R')]

def IsLetter (c : Char) (letter : Char × Char) : Prop :=
  c = letter.1 ∨ c = letter.2

-- Somewhere in the role stand the letters of `owner`, each small or capital.
def SpellsOwner (role : String) : Prop :=
  ∃ before word after, role.toList = before ++ word ++ after ∧
    List.Forall₂ IsLetter word ownerLetters

def IsProtected (g : Grant) : Prop :=
  g.inheritedFrom.isSome = true ∨ ∃ role ∈ g.roles, SpellsOwner role

theorem lowerAscii_eq_iff {c small capital : Char} (hs : 'a' ≤ small) (hz : small ≤ 'z')
    (hc : capital.toNat + 32 = small.toNat) :
    lowerAscii c = small ↔ c = small ∨ c = capital := by
  have h₁ : 97 ≤ small.toNat := hs
  have h₂ : small.toNat ≤ 122 := hz
  simp only [← Char.toNat_inj]
  unfold lowerAscii
  split
  · rename_i h
    have h₃ : 65 ≤ c.toNat := h.1
    have h₄ : c.toNat ≤ 90 := h.2
    rw [Text.toNat_ofNat (by omega)]
    omega
  · rename_i h
    have h₃ : ¬(65 ≤ c.toNat ∧ c.toNat ≤ 90) := h
    omega

theorem lowerAscii_eq_iff_isLetter {letter : Char × Char} (h : letter ∈ ownerLetters) (c : Char) :
    lowerAscii c = letter.1 ↔ IsLetter c letter := by
  simp only [ownerLetters, List.mem_cons, List.not_mem_nil, or_false] at h
  rcases h with rfl | rfl | rfl | rfl | rfl <;>
    exact lowerAscii_eq_iff (by decide) (by decide) (by decide)

theorem map_lowerAscii_eq_iff {letters : List (Char × Char)} (h : letters ⊆ ownerLetters)
    (word : List Char) :
    word.map lowerAscii = letters.map Prod.fst ↔ List.Forall₂ IsLetter word letters := by
  induction letters generalizing word with
  | nil => simp
  | cons letter rest ih =>
    cases word with
    | nil => simp
    | cons c word =>
      have hc := lowerAscii_eq_iff_isLetter (h List.mem_cons_self) c
      have hr := ih (fun _ hl => h (List.mem_cons_of_mem _ hl)) word
      simp only [List.map_cons, List.cons.injEq, List.forall₂_cons, hc, hr]

theorem isOwnerRole_iff (role : String) : isOwnerRole role = true ↔ SpellsOwner role := by
  have hword : ownerWord = ownerLetters.map Prod.fst := rfl
  unfold isOwnerRole SpellsOwner
  rw [occursIn_iff]
  constructor
  · rintro ⟨before, after, h⟩
    obtain ⟨front, after', hrole, hfront, rfl⟩ := List.map_eq_append_iff.mp h
    obtain ⟨before', word, rfl, rfl, hw⟩ := List.map_eq_append_iff.mp hfront
    rw [hword, map_lowerAscii_eq_iff (List.Subset.refl _)] at hw
    exact ⟨before', word, after', hrole, hw⟩
  · rintro ⟨before, word, after, hrole, hw⟩
    rw [← map_lowerAscii_eq_iff (List.Subset.refl _), ← hword] at hw
    exact ⟨before.map lowerAscii, after.map lowerAscii, by simp [hrole, hw]⟩

theorem any_isOwnerRole_iff (roles : List String) :
    roles.any isOwnerRole = true ↔ ∃ role ∈ roles, SpellsOwner role := by
  simp only [List.any_eq_true, isOwnerRole_iff]

theorem evaluate_eq_allow_iff (g : Grant) : evaluate g = .allow ↔ ¬IsProtected g := by
  unfold evaluate IsProtected
  rw [← any_isOwnerRole_iff]
  cases g.inheritedFrom.isSome <;> cases g.roles.any isOwnerRole <;> simp

end Unshare.Policy
