import Mathlib.Data.List.TakeWhile
import Unshare.Proofs.BodyFirst
import Unshare.Proofs.Construction

namespace Unshare

namespace Text

-- What is left of a text without the blanks at its ends.
def IsCore (given kept : String) : Prop :=
  ∃ front back, given.toList = front ++ kept.toList ++ back ∧
    (∀ c ∈ front ++ back, isBlankChar c = true) ∧ IsFramed kept.toList

theorem exists_trimChars_between (cs : List Char) :
    ∃ front back, cs = front ++ trimChars cs ++ back ∧
      ∀ c ∈ front ++ back, isBlankChar c = true := by
  refine ⟨cs.takeWhile isBlankChar, (cs.dropWhile isBlankChar).rtakeWhile isBlankChar, ?_, ?_⟩
  · rw [List.append_assoc, trimChars_eq_rdropWhile, List.rdropWhile_append_rtakeWhile,
      List.takeWhile_append_dropWhile]
  · intro c hc
    rcases List.mem_append.mp hc with hfront | hend
    · exact List.mem_takeWhile_imp hfront
    · exact List.mem_rtakeWhile_imp hend

theorem isCore_of_present {given kept : String} (h : present (some given) = some kept) :
    IsCore given kept := by
  have hframed := isFramed_of_present h
  obtain ⟨text, htext, hseen⟩ := (present_isSome_iff (some given)).mp (by rw [h]; rfl)
  obtain rfl := Option.some.inj htext
  rw [present_of_not_isBlank hseen] at h
  obtain ⟨front, back, hgiven, hblank⟩ := exists_trimChars_between given.toList
  refine ⟨front, back, ?_, hblank, hframed⟩
  rwa [← Option.some.inj h, toList_trim]

end Text

namespace RevokeRequest

variable (r : RevokeRequest)

-- The part was not given, or nothing but blanks was.
def Part.IsMissing (part : Part) : Prop :=
  ∀ text, part.ofRequest r = some text → ∀ c ∈ text.toList, Text.isBlankChar c = true

-- The trimmed parts, as they stand, make this grant, and they are the cores of what was given.
structure Makes (id : GrantId) : Prop where
  trimmed : r.trimmed.drive = some id.drive ∧ r.trimmed.item = some id.item ∧
    r.trimmed.permission = some id.permission
  made : GrantId.of? id.drive id.item id.permission = .ok id
  cores : ∀ part : Part, ∃ given, part.ofRequest r = some given ∧ Text.IsCore given (part.ofId id)

theorem Part.isMissing_iff (part : Part) :
    part.IsMissing r ↔ Text.present (part.ofRequest r) = none := by
  simp only [IsMissing, present_eq_none_iff, Text.isBlank, List.all_eq_true, Option.mem_def]

theorem grantId?_eq_none_iff_missing : r.trimmed.grantId? = none ↔ r.trimmed.missing ≠ [] := by
  rw [ne_eq, ← r.isSome_grantId?_trimmed, Option.not_isSome_iff_eq_none]

theorem missing_sublist : r.missing.Sublist ["driveId", "itemId", "permissionId"] := by
  rw [missing]
  cases r.drive <;> cases r.item <;> cases r.permission <;> simp

theorem label_mem_missing_iff (part : Part) :
    part.label ∈ r.trimmed.missing ↔ part.IsMissing r := by
  rw [Part.isMissing_iff]
  cases part <;> simp [missing, trimmed, Part.label, Part.ofRequest]

theorem makes_of_addresses {id : GrantId} (h : r.Addresses id) : r.Makes id where
  trimmed := h
  made := by
    rw [GrantId.of?, dif_pos id.drive_visible, dif_pos id.item_visible, dif_pos id.permission_visible]
  cores := by
    intro part
    have hpresent := part.present_of_addresses h
    obtain ⟨given, hgiven, -⟩ := (Text.present_isSome_iff _).mp (by rw [hpresent]; rfl)
    rw [hgiven] at hpresent
    exact ⟨given, hgiven, Text.isCore_of_present hpresent⟩

theorem missing_eq_nil_iff_makes :
    r.trimmed.missing = [] ↔ ∃ id, r.trimmed.grantId? = some id ∧ r.Makes id := by
  rw [← r.isSome_grantId?_trimmed, Option.isSome_iff_exists]
  constructor
  · rintro ⟨id, hid⟩
    exact ⟨id, hid, r.makes_of_addresses ((r.grantId?_eq_some_iff id).mp hid)⟩
  · rintro ⟨id, hid, -⟩
    exact ⟨id, hid⟩

end RevokeRequest

namespace Revocation

open Services (Event)

section

variable {σ : Type} {s : Services (StateM σ)} {r : RevokeRequest} {x : σ}

-- An attempt fails as invalid only where it never comes to a call.
theorem invalid_iff_isIncomplete {course : Course} {events : List Event}
    {result : Except Failure Revoked} (ht : course.Taken s r x) (hseen : course.Seen events result) :
    (∃ f, result = .error f ∧ f.kind = .validation) ↔ r.IsIncomplete := by
  have hother : ∀ {id : GrantId} {f : Failure}, r.Addresses id → result = .error f →
      f.kind ≠ .validation →
      ((∃ f, result = .error f ∧ f.kind = .validation) ↔ r.IsIncomplete) := by
    intro id f ha hfailed hne
    refine iff_of_false ?_ (RevokeRequest.not_isIncomplete_of_addresses ha)
    rintro ⟨g, hresult, hkind⟩
    cases hfailed.symm.trans hresult
    exact hne hkind
  cases course with
  | incomplete => exact iff_of_true ⟨_, hseen.2, rfl⟩ ht
  | fetchFailed id f => exact hother ht.1 hseen.2 (by simp [Failure.dependency])
  | refused id g reason => exact hother ht.1 hseen.2 (by simp [Failure.forbidden])
  | removeFailed id g f => exact hother ht.1 hseen.2 (by simp [Failure.dependency])
  | removed id g =>
    obtain ⟨cached, told, audited, done, -, -, hdone⟩ := hseen
    refine iff_of_false ?_ (RevokeRequest.not_isIncomplete_of_addresses ht.1)
    rintro ⟨f, hresult, -⟩
    cases hdone.symm.trans hresult

end

-- A request addresses no grant exactly where parts are listed as missing. The list has the names of
-- the parts that were not given or are blank, in their order and each once; if it is empty, the grant
-- is made of the trimmed parts without fail. An attempt fails as invalid exactly where the list is not
-- empty, and its record tells this list then and none otherwise.
theorem validation_agrees_with_missing (r : RevokeRequest) {σ : Type} (s : Services (StateM σ))
    (defaultSource correlation : String) (actor : Option Actor) (x : σ) :
    (r.trimmed.grantId? = none ↔ r.trimmed.missing ≠ []) ∧
    (r.trimmed.missing.Sublist ["driveId", "itemId", "permissionId"] ∧ r.trimmed.missing.Nodup ∧
      ∀ part : RevokeRequest.Part, part.label ∈ r.trimmed.missing ↔ part.IsMissing r) ∧
    (r.trimmed.missing = [] ↔ ∃ id, r.trimmed.grantId? = some id ∧ r.Makes id) ∧
    ∃ events kept result fields,
      Shows s defaultSource correlation r actor x events kept result ∧
      ((∃ f, result = .error f ∧ f.kind = .validation) ↔ r.trimmed.missing ≠ []) ∧
      kept.details = .object fields ∧
      ∀ value, Json.Fields.get? "missing" fields = some value ↔
        r.trimmed.missing ≠ [] ∧ value = .ofStrings r.trimmed.missing := by
  have hsublist := r.trimmed.missing_sublist
  have hmissing : r.IsIncomplete ↔ r.trimmed.missing ≠ [] := by
    rw [← r.grantId?_eq_none_iff, r.grantId?_eq_none_iff_missing]
  obtain ⟨course, ht⟩ := exists_taken s r x
  obtain ⟨events, kept, result, hshows, hseen, -⟩ :=
    (fits_of_taken ht : Fits s defaultSource correlation r actor x course)
  obtain ⟨fields, hfields, htells⟩ := tellsMissing_of_shows hshows
  refine ⟨r.grantId?_eq_none_iff_missing,
    ⟨hsublist, hsublist.nodup (by decide), r.label_mem_missing_iff⟩,
    r.missing_eq_nil_iff_makes, events, kept, result, fields, hshows, ?_, hfields, ?_⟩
  · rw [← hmissing]
    exact invalid_iff_isIncomplete ht hseen
  · rw [← hmissing]
    exact htells

end Revocation

end Unshare
