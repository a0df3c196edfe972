import Unshare.Proofs.Bounding
import Unshare.Proofs.RoundTrips

namespace Unshare

namespace Text

-- What construction leaves as it is begins and ends visibly.
theorem present_some_eq_self_iff (text : String) :
    present (some text) = some text ↔ IsFramed text.toList := by
  constructor
  · intro h
    have hseen : isBlank text = false := isBlank_of_present h
    rw [present_of_not_isBlank hseen, Option.some.injEq] at h
    have htrimmed : trimChars text.toList = text.toList := by rw [← toList_trim, h]
    have hne : text.toList ≠ [] := by
      intro hnil
      rw [isBlank, hnil] at hseen
      cases hseen
    refine ⟨⟨text.toList.head hne, List.head?_eq_some_head hne, ?_⟩,
      ⟨text.toList.getLast hne, List.getLast?_eq_some_getLast hne, ?_⟩⟩
    · exact head_trimChars (by rw [htrimmed, List.head?_eq_some_head hne])
    · exact getLast_trimChars (by rw [htrimmed, List.getLast?_eq_some_getLast hne])
  · intro h
    have htrimmed : trim text = text := by
      have hkept := trimChars_append h []
      rw [List.append_nil] at hkept
      rw [trim, hkept, List.rdropWhile_nil, List.append_nil, String.ofList_toList]
    have hseen : isBlank text = false := by
      obtain ⟨c, hc, hvisible⟩ := h.head
      rw [isBlank, List.all_eq_false]
      exact ⟨c, List.mem_of_head? hc, by simp [hvisible]⟩
    rw [present_of_not_isBlank hseen, htrimmed]

theorem present_eq_self_iff (part : Option String) :
    present part = part ↔ ∀ text, part = some text → IsFramed text.toList := by
  cases part with
  | none => simp [present]
  | some text => simp [present_some_eq_self_iff]

theorem isFramed_of_present {part : Option String} {text : String} (h : present part = some text) :
    IsFramed text.toList := by
  rw [← present_some_eq_self_iff, ← h, present_idem]

theorem present_isSome_iff (part : Option String) :
    (present part).isSome = true ↔ ∃ text, part = some text ∧ isBlank text = false := by
  cases part with
  | none => simp [present]
  | some text =>
    cases hseen : isBlank text with
    | true => simp [present_of_isBlank hseen, hseen]
    | false => simp [present_of_not_isBlank hseen, hseen]

end Text

theorem RequiredText.of?_eq_ok_iff (text : String) (t : RequiredText) :
    of? text = .ok t ↔ t = ⟨text⟩ ∧ ∃ c ∈ text.toList, Text.isBlankChar c = false := by
  rw [of?]
  cases hblank : Text.isBlank text with
  | true =>
    rw [Text.isBlank, List.all_eq_true] at hblank
    refine iff_of_false (by simp) ?_
    rintro ⟨-, c, hc, hseen⟩
    rw [hblank c hc] at hseen
    cases hseen
  | false =>
    rw [Text.isBlank, List.all_eq_false] at hblank
    rw [if_neg Bool.false_ne_true]
    constructor
    · rintro ⟨⟩
      exact ⟨rfl, by simpa using hblank⟩
    · rintro ⟨rfl, -⟩
      rfl

namespace Actor

-- This text is one of the parts.
def Has (a : Actor) (text : String) : Prop :=
  a.oid = some text ∨ a.upn = some text ∨ a.name = some text

-- The actor that is constructed from the same parts.
def reconstructed (a : Actor) : Actor :=
  of a.oid a.upn a.name

theorem reconstructed_eq_self_iff (a : Actor) :
    a.reconstructed = a ↔ ∀ text, a.Has text → Text.IsFramed text.toList := by
  obtain ⟨oid, upn, name⟩ := a
  simp only [reconstructed, of, Actor.mk.injEq, Text.present_eq_self_iff, Has]
  constructor
  · rintro ⟨hoid, hupn, hname⟩ text (h | h | h)
    · exact hoid text h
    · exact hupn text h
    · exact hname text h
  · intro h
    exact ⟨fun text ht => h text (.inl ht), fun text ht => h text (.inr (.inl ht)),
      fun text ht => h text (.inr (.inr ht))⟩

-- Construction makes no other actors than those it leaves as they are.
theorem exists_of_iff (a : Actor) : (∃ oid upn name, of oid upn name = a) ↔ a.reconstructed = a := by
  constructor
  · rintro ⟨oid, upn, name, rfl⟩
    simp only [reconstructed, of, Text.present_idem]
  · intro h
    exact ⟨_, _, _, h⟩

theorem isEmpty_reconstructed_iff (a : Actor) : a.reconstructed.isEmpty = a.isEmpty ↔
    a.isEmpty = true ∨ ∃ text, a.Has text ∧ Text.isBlank text = false := by
  have hshown : a.reconstructed.isEmpty = false ↔
      ∃ text, a.Has text ∧ Text.isBlank text = false := by
    simp only [isEmpty, reconstructed, of, Bool.and_eq_false_iff, Option.isNone_eq_false_iff,
      Text.present_isSome_iff, Has, or_and_right, exists_or, or_assoc]
  cases hempty : a.isEmpty with
  | true =>
    obtain rfl := (isEmpty_iff a).mp hempty
    exact iff_of_true rfl (.inl rfl)
  | false =>
    rw [hshown]
    exact (or_iff_right Bool.false_ne_true).symm

theorem subject_eq_some_iff (a : Actor) (text : String) : a.subject = some text ↔
    a.upn = some text ∨ a.upn = none ∧ (a.oid = some text ∨ a.oid = none ∧ a.name = some text) := by
  simp only [subject, Option.orElse_eq_orElse, Option.orElse_eq_or, Option.or_eq_some_iff]

theorem isFramed_of_subject {a : Actor} {text : String} (h : a.reconstructed.subject = some text) :
    Text.IsFramed text.toList := by
  obtain h | ⟨-, h | ⟨-, h⟩⟩ := (subject_eq_some_iff _ text).mp h
  all_goals exact Text.isFramed_of_present h

theorem subject_reconstructed_iff (a : Actor) : a.reconstructed.subject = a.subject ↔
    ∀ text, a.subject = some text → Text.IsFramed text.toList := by
  constructor
  · intro h text htext
    rw [htext] at h
    exact isFramed_of_subject h
  · intro h
    cases hsubject : a.subject with
    | none =>
      simp only [subject, Option.orElse_eq_orElse, Option.orElse_eq_or,
        Option.or_eq_none_iff] at hsubject
      simp [subject, reconstructed, of, hsubject, Text.present]
    | some text =>
      have hkept : Text.present (some text) = some text :=
        (Text.present_some_eq_self_iff text).mpr (h text hsubject)
      rw [subject_eq_some_iff] at hsubject ⊢
      simp only [reconstructed, of]
      obtain hupn | ⟨hupn, hoid | ⟨hoid, hname⟩⟩ := hsubject
      · exact .inl (by rw [hupn, hkept])
      · exact .inr ⟨by rw [hupn]; rfl, .inl (by rw [hoid, hkept])⟩
      · exact .inr ⟨by rw [hupn]; rfl, .inr ⟨by rw [hoid]; rfl, by rw [hname, hkept]⟩⟩

end Actor

-- What is read stands in the JSON as it is. Construction would have come to the same value exactly if
-- the texts in it are such as construction makes them.
theorem reading_respects_construction_iff (s : String) :
    (∀ t, RequiredText.format.read? s = some t →
      Json.ofText? s = some (.string t.text) ∧
      ((∃ text, RequiredText.of? text = .ok t) ↔
        ∃ c ∈ t.text.toList, Text.isBlankChar c = false)) ∧
    ∀ a, Actor.format.read? s = some a →
      (∃ j, Json.ofText? s = some j ∧
        j.Records ["oid", "upn", "name"] [a.oid, a.upn, a.name]) ∧
      (Actor.of a.oid a.upn a.name = a ↔ ∀ text, a.Has text → Text.IsFramed text.toList) ∧
      ((∃ oid upn name, Actor.of oid upn name = a) ↔ Actor.of a.oid a.upn a.name = a) ∧
      ((Actor.of a.oid a.upn a.name).isEmpty = a.isEmpty ↔
        a.isEmpty = true ∨ ∃ text, a.Has text ∧ Text.isBlank text = false) ∧
      ((Actor.of a.oid a.upn a.name).subject = a.subject ↔
        ∀ text, a.subject = some text → Text.IsFramed text.toList) := by
  constructor
  · intro t ht
    obtain ⟨j, hj, rfl⟩ := (RequiredText.isFaithful_format.read?_iff s t).mp ht
    refine ⟨hj, ?_⟩
    simp only [RequiredText.of?_eq_ok_iff]
    constructor
    · rintro ⟨text, rfl, hseen⟩
      exact hseen
    · intro hseen
      exact ⟨t.text, rfl, hseen⟩
  · intro a ha
    exact ⟨(Actor.isFaithful_format.read?_iff s a).mp ha, a.reconstructed_eq_self_iff,
      a.exists_of_iff, a.isEmpty_reconstructed_iff, a.subject_reconstructed_iff⟩

-- A name with a blank behind it and one that is blank: construction trims the first and drops the
-- second.
def looseActor : Actor :=
  ⟨none, some "ada ", some " "⟩

theorem reading_respects_construction_iff_looseActor :
    (RequiredText.format.read? "\" x\"" = some ⟨" x"⟩ ∧ ∃ text, RequiredText.of? text = .ok ⟨" x"⟩) ∧
      Actor.format.read? "[null,\"ada \",\" \"]" = some looseActor ∧
      (¬∃ oid upn name, Actor.of oid upn name = looseActor) ∧
      (Actor.of none (some "ada ") (some " ")).isEmpty = looseActor.isEmpty ∧
      (Actor.of none (some "ada ") (some " ")).subject ≠ looseActor.subject := by
  have htext : RequiredText.format.read? "\" x\"" = some ⟨" x"⟩ := by decide +kernel
  have hmadeText := ((reading_respects_construction_iff _).1 _ htext).2.mpr ⟨'x', by decide, by decide⟩
  have hread : Actor.format.read? "[null,\"ada \",\" \"]" = some looseActor := by decide +kernel
  obtain ⟨-, hself, hmade, hempty, hsubject⟩ :=
    (reading_respects_construction_iff _).2 looseActor hread
  have hloose : ¬Text.IsFramed "ada ".toList := by
    rintro ⟨-, c, hc, hseen⟩
    obtain rfl : ' ' = c := Option.some.inj hc
    cases hseen
  refine ⟨⟨htext, hmadeText⟩, hread, ?_, hempty.mpr (.inr ⟨"ada ", .inr (.inl rfl), rfl⟩), ?_⟩
  · rw [hmade, hself]
    exact fun hall => hloose (hall "ada " (.inr (.inl rfl)))
  · exact fun hsame => hloose (hsubject.mp hsame "ada " rfl)

-- Blank texts are read where construction refuses or drops them.
theorem blank_values_are_read :
    (RequiredText.format.read? "\" \"" = some ⟨" "⟩ ∧
      ¬∃ text, RequiredText.of? text = .ok ⟨" "⟩) ∧
    ∃ a, Actor.format.read? "\x7b\"upn\":\" \"\x7d" = some a ∧
      Actor.of a.oid a.upn a.name ≠ a ∧ a.isEmpty = false ∧
      (Actor.of a.oid a.upn a.name).isEmpty = true ∧
      a.subject = some " " ∧ (Actor.of a.oid a.upn a.name).subject = none := by
  refine ⟨⟨by decide +kernel, ?_⟩, ⟨none, some " ", none⟩, by decide +kernel, by decide, rfl,
    by decide, rfl, by decide⟩
  rintro ⟨text, htext⟩
  obtain ⟨htext, c, hc, hseen⟩ := (RequiredText.of?_eq_ok_iff text _).mp htext
  obtain rfl := RequiredText.mk.inj htext
  obtain rfl := List.mem_singleton.mp hc
  cases hseen

end Unshare
