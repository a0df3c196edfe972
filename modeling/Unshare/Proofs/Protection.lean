import Unshare.Proofs.Bounding
import Unshare.Proofs.Guard

namespace Unshare.Policy

-- The five characters from this place on are the letters of `owner`, each small or capital.
def SpellsOwnerAt (role : String) (i : Nat) : Prop :=
  List.Forall₂ IsLetter ((role.toList.drop i).take 5) ownerLetters

theorem spellsOwner_iff_exists_at (role : String) :
    SpellsOwner role ↔ ∃ i, SpellsOwnerAt role i := by
  constructor
  · rintro ⟨before, word, after, hrole, hword⟩
    have hlength : word.length = 5 := hword.length_eq
    refine ⟨before.length, ?_⟩
    rwa [SpellsOwnerAt, hrole, List.append_assoc, List.drop_left, List.take_left' hlength]
  · rintro ⟨i, hword⟩
    refine ⟨role.toList.take i, _, (role.toList.drop i).drop 5, ?_, hword⟩
    rw [List.append_assoc, List.take_append_drop, List.take_append_drop]

theorem spellsOwner_iff_word (role : String) :
    SpellsOwner role ↔ ∃ word, word <:+: role.toList ∧ List.Forall₂ IsLetter word ownerLetters := by
  constructor
  · rintro ⟨before, word, after, hrole, hword⟩
    exact ⟨word, ⟨before, after, hrole.symm⟩, hword⟩
  · rintro ⟨word, ⟨before, after, hrole⟩, hword⟩
    exact ⟨before, word, after, hrole.symm, hword⟩

theorem isAscii_of_isLetter {c : Char} {letter : Char × Char} (h : letter ∈ ownerLetters)
    (hc : IsLetter c letter) : c.toNat < 128 := by
  have hletters : ∀ letter ∈ ownerLetters, letter.1.toNat < 128 ∧ letter.2.toNat < 128 := by decide
  rcases hc with rfl | rfl
  · exact (hletters letter h).1
  · exact (hletters letter h).2

theorem isAscii_of_word {word : List Char} (h : List.Forall₂ IsLetter word ownerLetters) :
    ∀ c ∈ word, c.toNat < 128 := by
  intro c hc
  obtain ⟨i, hi, rfl⟩ := List.getElem_of_mem hc
  have hletter : i < ownerLetters.length := h.length_eq ▸ hi
  exact isAscii_of_isLetter (List.getElem_mem hletter) (h.get hi hletter)

-- A character beyond ASCII is no part of the word, so it parts a role in two.
theorem spellsOwner_append_iff {c : Char} (h : 128 ≤ c.toNat) (front back : List Char) :
    SpellsOwner (String.ofList (front ++ c :: back)) ↔
      SpellsOwner (String.ofList front) ∨ SpellsOwner (String.ofList back) := by
  simp only [spellsOwner_iff_word, String.toList_ofList]
  rw [← exists_or]
  apply exists_congr
  intro word
  rw [← or_and_right]
  apply and_congr_left
  intro hword
  have hfree : c ∉ word := fun hc => absurd (isAscii_of_word hword c hc) (Nat.not_lt.mpr h)
  exact Text.infix_append_sep_iff hfree front back

theorem evaluate_eq_deny_inherited_iff (g : Grant) :
    evaluate g = .deny .inherited ↔ ∃ item, g.inheritedFrom = some item := by
  rw [← Option.isSome_iff_exists, evaluate]
  cases g.inheritedFrom.isSome <;> cases g.roles.any isOwnerRole <;> simp

theorem evaluate_eq_deny_owner_iff (g : Grant) : evaluate g = .deny .owner ↔
    g.inheritedFrom = none ∧ ∃ role ∈ g.roles, SpellsOwner role := by
  rw [← any_isOwnerRole_iff, ← Option.not_isSome_iff_eq_none, evaluate]
  cases g.inheritedFrom.isSome <;> cases g.roles.any isOwnerRole <;> simp

-- Of the roles it only matters whether one of them is an owner's.
theorem evaluate_eq_of_roles {g : Grant} {roles : List String}
    (h : (∃ role ∈ roles, SpellsOwner role) ↔ ∃ role ∈ g.roles, SpellsOwner role) :
    evaluate { g with roles := roles } = evaluate g := by
  rw [← any_isOwnerRole_iff, ← any_isOwnerRole_iff, ← Bool.eq_iff_iff] at h
  rw [evaluate, evaluate, h]

theorem IsProtected.mono {g h : Grant} (hg : IsProtected g) (hroles : g.roles ⊆ h.roles)
    (hitem : g.inheritedFrom.isSome = true → h.inheritedFrom.isSome = true) : IsProtected h := by
  rcases hg with hinherited | ⟨role, hmem, hspells⟩
  · exact .inl (hitem hinherited)
  · exact .inr ⟨role, hroles hmem, hspells⟩

-- The guard refuses what is inherited, then what has an owner's role, and nothing else. Neither the
-- address nor the link matters, nor the order of the roles and how often each is given. More roles
-- or an item that it is inherited from release no grant, and a letter beyond ASCII is never one of
-- the word.
theorem evaluate_guards_grants (g : Grant) :
    (evaluate g = .deny .inherited ↔ ∃ item, g.inheritedFrom = some item) ∧
      (evaluate g = .deny .owner ↔
        g.inheritedFrom = none ∧ ∃ role ∈ g.roles, ∃ i, SpellsOwnerAt role i) ∧
      (evaluate g = .allow ↔
        g.inheritedFrom = none ∧ ∀ role ∈ g.roles, ∀ i, ¬SpellsOwnerAt role i) ∧
      (∀ id link, evaluate { g with id := id, link := link } = evaluate g) ∧
      (∀ roles : List String, (∀ role, role ∈ roles ↔ role ∈ g.roles) →
        evaluate { g with roles := roles } = evaluate g) ∧
      (∀ h : Grant, g.roles ⊆ h.roles →
        (g.inheritedFrom.isSome = true → h.inheritedFrom.isSome = true) →
        evaluate g ≠ .allow → evaluate h ≠ .allow) ∧
      ∀ (front back : List Char) (c : Char), 128 ≤ c.toNat →
        evaluate { g with roles := String.ofList (front ++ c :: back) :: g.roles } =
          evaluate { g with roles := String.ofList front :: String.ofList back :: g.roles } := by
  refine ⟨evaluate_eq_deny_inherited_iff g, ?_, ?_, ?_, ?_, ?_, ?_⟩
  · simp only [evaluate_eq_deny_owner_iff, spellsOwner_iff_exists_at]
  · rw [evaluate_eq_allow_iff, IsProtected, not_or, Option.not_isSome_iff_eq_none]
    simp only [spellsOwner_iff_exists_at, not_exists, not_and]
  · intro id link
    exact evaluate_congr rfl rfl
  · intro roles hsame
    apply evaluate_eq_of_roles
    simp only [hsame]
  · intro h hroles hitem hdenied
    rw [ne_eq, evaluate_eq_allow_iff, not_not] at hdenied ⊢
    exact hdenied.mono hroles hitem
  · intro front back c hc
    let parted : Grant := { g with roles := String.ofList front :: String.ofList back :: g.roles }
    apply evaluate_eq_of_roles (g := parted)
    simp only [parted, List.exists_mem_cons_iff, spellsOwner_append_iff hc, or_assoc]

def teamGrant : Grant :=
  ⟨⟨"d", "i", "t", .refl false, .refl false, .refl false⟩, ["read", "coOWNERs"], none, none⟩

-- The last role starts with a small letter of the Cyrillic script.
theorem evaluate_guards_grants_team :
    evaluate teamGrant = .deny .owner ∧
      evaluate { teamGrant with roles := ["coOWNERs", "read", "coOWNERs"] } = .deny .owner ∧
      evaluate { teamGrant with
        roles := "write" :: teamGrant.roles, inheritedFrom := some ⟨none, none⟩ } ≠ .allow ∧
      evaluate { teamGrant with roles := [String.ofList ('о' :: "wner".toList)] } = .allow := by
  have howner : evaluate teamGrant = .deny .owner := by decide
  obtain ⟨-, -, -, -, hsame, hmore, -⟩ := evaluate_guards_grants teamGrant
  obtain ⟨-, -, -, -, -, -, hparted⟩ := evaluate_guards_grants { teamGrant with roles := [] }
  have hmembers : ∀ role, role ∈ ["coOWNERs", "read", "coOWNERs"] ↔ role ∈ teamGrant.roles := by
    intro role
    simp only [teamGrant, List.mem_cons, List.not_mem_nil, or_false]
    tauto
  refine ⟨howner, (hsame _ hmembers).trans howner, ?_, ?_⟩
  · apply hmore
    · exact List.subset_cons_self _ _
    · decide
    · rw [howner]
      decide
  · rw [← List.nil_append ('о' :: "wner".toList), hparted [] _ 'о' (by decide)]
    decide

end Unshare.Policy
