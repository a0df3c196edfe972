import Unshare.Proofs.Trimming
import Unshare.Revocation.Request

namespace Unshare.RevokeRequest

-- The parts of the request are those of the grant, blanks at their ends aside.
def Addresses (r : RevokeRequest) (id : GrantId) : Prop :=
  Text.present r.drive = some id.drive ∧ Text.present r.item = some id.item ∧
    Text.present r.permission = some id.permission

-- Some part is missing or shows nothing.
def IsIncomplete (r : RevokeRequest) : Prop :=
  ∃ part ∈ [r.drive, r.item, r.permission], ∀ text ∈ part, Text.isBlank text = true

theorem present_eq_none_iff (s : Option String) :
    Text.present s = none ↔ ∀ text ∈ s, Text.isBlank text = true := by
  cases s with
  | none => simp [Text.present]
  | some text =>
    have h := Text.trim_eq_empty_iff text
    simp [Text.present, Option.filter_eq_none_iff, h]

theorem isIncomplete_iff (r : RevokeRequest) :
    r.IsIncomplete ↔ Text.present r.drive = none ∨ Text.present r.item = none ∨
      Text.present r.permission = none := by
  simp only [IsIncomplete, present_eq_none_iff, List.mem_cons, List.not_mem_nil, or_false,
    exists_eq_or_imp, exists_eq_left]

theorem grantId?_eq_some_iff (r : RevokeRequest) (id : GrantId) :
    r.trimmed.grantId? = some id ↔ r.Addresses id := by
  unfold grantId? Addresses
  simp only [trimmed]
  cases hd : Text.present r.drive with
  | none => simp
  | some drive =>
    cases hi : Text.present r.item with
    | none => simp
    | some item =>
      cases hp : Text.present r.permission with
      | none => simp
      | some permission =>
        have hof : GrantId.of? drive item permission =
            .ok ⟨drive, item, permission, Text.isBlank_of_present hd, Text.isBlank_of_present hi,
              Text.isBlank_of_present hp⟩ := by
          simp [GrantId.of?, Text.isBlank_of_present hd, Text.isBlank_of_present hi,
            Text.isBlank_of_present hp]
        simp only [hof, Except.toOption, Option.some.injEq]
        constructor
        · rintro rfl
          exact ⟨rfl, rfl, rfl⟩
        · rintro ⟨h₁, h₂, h₃⟩
          exact GrantId.eq_of_parts h₁ h₂ h₃

theorem Addresses.unique {r : RevokeRequest} {a b : GrantId} (ha : r.Addresses a)
    (hb : r.Addresses b) : a = b := by
  rw [← grantId?_eq_some_iff] at ha hb
  exact Option.some.inj (ha.symm.trans hb)

theorem isSome_grantId?_trimmed (r : RevokeRequest) :
    r.trimmed.grantId?.isSome ↔ r.trimmed.missing = [] := by
  rw [missing_eq_nil_iff]
  unfold grantId?
  cases hd : r.trimmed.drive with
  | none => simp
  | some drive =>
    cases hi : r.trimmed.item with
    | none => simp
    | some item =>
      cases hp : r.trimmed.permission with
      | none => simp
      | some permission =>
        simp [GrantId.of?, Text.isBlank_of_present hd, Text.isBlank_of_present hi,
          Text.isBlank_of_present hp, Except.toOption]

theorem grantId?_eq_none_iff (r : RevokeRequest) :
    r.trimmed.grantId? = none ↔ r.IsIncomplete := by
  rw [isIncomplete_iff]
  constructor
  · intro h
    have hs : ¬r.trimmed.missing = [] := by
      rw [← r.isSome_grantId?_trimmed, h]
      simp
    rw [missing_eq_nil_iff] at hs
    cases hd : Text.present r.drive with
    | none => exact Or.inl rfl
    | some drive =>
      cases hi : Text.present r.item with
      | none => exact Or.inr (Or.inl rfl)
      | some item =>
        refine Or.inr (Or.inr ?_)
        simpa [trimmed, hd, hi] using hs
  · intro h
    cases hid : r.trimmed.grantId? with
    | none => rfl
    | some id =>
      obtain ⟨hd, hi, hp⟩ := (r.grantId?_eq_some_iff id).mp hid
      simp [hd, hi, hp] at h

theorem not_isIncomplete_of_addresses {r : RevokeRequest} {id : GrantId} (h : r.Addresses id) :
    ¬r.IsIncomplete := by
  rw [← r.grantId?_eq_none_iff, (r.grantId?_eq_some_iff id).mpr h]
  exact Option.some_ne_none id

-- A request either lacks a part or addresses a grant.
theorem isIncomplete_or_addresses (r : RevokeRequest) : r.IsIncomplete ∨ ∃ id, r.Addresses id := by
  cases h : r.trimmed.grantId? with
  | none => exact Or.inl (r.grantId?_eq_none_iff.mp h)
  | some id => exact Or.inr ⟨id, (r.grantId?_eq_some_iff id).mp h⟩

end Unshare.RevokeRequest
