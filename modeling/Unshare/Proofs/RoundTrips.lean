import Unshare.Proofs.Printing
import Unshare.Proofs.TextRecords

namespace Unshare

namespace Json

-- How the values of a type are written as JSON and what they are read from.
structure Format (α : Type) where
  toJson : α → Json
  ofJson? : Json → Option α

-- One of several names, as itself or as the only field of an object, with null.
def IsVariant (name : String) (j : Json) : Prop :=
  j = .string name ∨ j = .object [(name, .null)]

theorem variantName?_eq_some_iff (j : Json) (name : String) :
    j.variantName? = some name ↔ j.IsVariant name := by
  rw [IsVariant]
  constructor
  · intro h
    unfold variantName? at h
    split at h
    · cases h
      exact .inl rfl
    · cases h
      exact .inr rfl
    · cases h
  · rintro (rfl | rfl) <;> rfl

theorem ofText?_render {j : Json} (h : AreWritable j.tokens) : ofText? j.render = some j := by
  rw [ofText?, render, String.toList_ofList, ofChars?_print h]

theorem ofText?_of_lays {written : List Char} {j : Json} (h : Lays written j.tokens) :
    ofText? (String.ofList written) = some j := by
  rw [ofText?, String.toList_ofList, ofChars?_of_lays h]

namespace Format

variable {α : Type}

def write (f : Format α) (v : α) : String :=
  (f.toJson v).render

def read? (f : Format α) (s : String) : Option α :=
  readText? f.ofJson? s

-- A text in the form in which its value is written.
def rewrite? (f : Format α) (s : String) : Option String :=
  (f.read? s).map f.write

theorem read?_eq_some_iff (f : Format α) (s : String) (v : α) :
    f.read? s = some v ↔ ∃ j, ofText? s = some j ∧ f.ofJson? j = some v :=
  Option.bind_eq_some_iff

-- What is written is read back, so that every text that is read has one written form and keeps its
-- value in it. `Denotes` says which JSON stands for a value, however it is written.
structure IsFaithful (f : Format α) (Denotes : Json → α → Prop) : Prop where
  read?_write : ∀ v, f.read? (f.write v) = some v
  read?_iff : ∀ s v, f.read? s = some v ↔ ∃ j, ofText? s = some j ∧ Denotes j v
  read?_of_lays : ∀ written j v, Lays written j.tokens → Denotes j v →
    f.read? (String.ofList written) = some v
  rewrite?_rewrite : ∀ s form, f.rewrite? s = some form →
    f.read? form = f.read? s ∧ f.rewrite? form = some form
  rewrite?_eq_iff : ∀ s s', f.rewrite? s = f.rewrite? s' ↔ f.read? s = f.read? s'

theorem write_injective {f : Format α} (h : ∀ v, f.read? (f.write v) = some v) :
    Function.Injective f.write := by
  intro v w hwritten
  have hread := h v
  rw [hwritten, h w] at hread
  exact (Option.some.inj hread).symm

theorem read?_write_of {f : Format α} (hread : ∀ v, f.ofJson? (f.toJson v) = some v)
    (hwritable : ∀ v, AreWritable (f.toJson v).tokens) (v : α) :
    f.read? (f.write v) = some v :=
  (f.read?_eq_some_iff _ v).mpr ⟨_, ofText?_render (hwritable v), hread v⟩

theorem IsFaithful.of_shapes {f : Format α} {Denotes : Json → α → Prop}
    (hdenotes : ∀ j v, f.ofJson? j = some v ↔ Denotes j v)
    (hread : ∀ v, f.ofJson? (f.toJson v) = some v)
    (hwritable : ∀ v, AreWritable (f.toJson v).tokens) : f.IsFaithful Denotes where
  read?_write := read?_write_of hread hwritable
  read?_iff := by
    intro s v
    simp only [read?_eq_some_iff, hdenotes]
  read?_of_lays := by
    intro written j v hlays hj
    exact (f.read?_eq_some_iff _ v).mpr ⟨j, ofText?_of_lays hlays, (hdenotes j v).mpr hj⟩
  rewrite?_rewrite := by
    intro s form hform
    obtain ⟨v, hv, rfl⟩ := Option.map_eq_some_iff.mp hform
    have hback := read?_write_of hread hwritable v
    exact ⟨hback.trans hv.symm, by rw [rewrite?, hback, Option.map_some]⟩
  rewrite?_eq_iff := by
    intro s s'
    exact Option.map_inj_right fun _ _ h => write_injective (read?_write_of hread hwritable) h

-- A type whose values are names.
theorem isFaithful_of_code {code : α → String} {ofCode? : String → Option α}
    (h : ∀ name v, ofCode? name = some v ↔ name = code v) :
    IsFaithful ⟨fun v => .string (code v), fun j => j.variantName?.bind ofCode?⟩
      fun j v => j.IsVariant (code v) := by
  have hdenotes : ∀ (j : Json) v, (j.variantName?.bind ofCode?) = some v ↔ j.IsVariant (code v) := by
    intro j v
    simp only [Option.bind_eq_some_iff, h, variantName?_eq_some_iff, exists_eq_right]
  refine .of_shapes hdenotes (fun v => (hdenotes _ v).mpr (.inl rfl)) ?_
  exact fun v => List.forall_mem_singleton.mpr trivial

end Format

end Json

namespace Actor

def format : Json.Format Actor :=
  ⟨toJson, ofJson?⟩

theorem areWritable_field (name : String) (value : Option String) :
    ∀ f ∈ field name value, Json.AreWritable f.2.tokens := by
  cases value with
  | none => exact List.forall_mem_nil _
  | some text => exact List.forall_mem_singleton.mpr (Json.areWritable_ofOption (some text))

theorem areWritable_toJson (a : Actor) : Json.AreWritable a.toJson.tokens := by
  refine Json.areWritable_object ?_
  simp only [List.forall_mem_append]
  exact ⟨⟨areWritable_field _ _, areWritable_field _ _⟩, areWritable_field _ _⟩

theorem ofJson?_toJson (a : Actor) : ofJson? a.toJson = some a := by
  obtain ⟨oid, upn, name⟩ := a
  cases oid <;> cases upn <;> cases name <;> rfl

theorem isFaithful_format : format.IsFaithful
    fun j a => j.Records ["oid", "upn", "name"] [a.oid, a.upn, a.name] :=
  .of_shapes ofJson?_eq_some_iff ofJson?_toJson areWritable_toJson

end Actor

namespace RequiredText

def format : Json.Format RequiredText :=
  ⟨toJson, ofJson?⟩

theorem ofJson?_eq_some_iff (j : Json) (t : RequiredText) :
    ofJson? j = some t ↔ j = .string t.text := by
  obtain ⟨text⟩ := t
  cases j <;> simp [ofJson?, Json.string?]

theorem isFaithful_format : format.IsFaithful fun j t => j = .string t.text := by
  refine .of_shapes ofJson?_eq_some_iff (fun t => rfl) ?_
  exact fun t => List.forall_mem_singleton.mpr trivial

end RequiredText

namespace SharingLink

def format : Json.Format SharingLink :=
  ⟨toJson, ofJson?⟩

theorem areWritable_toJson (l : SharingLink) : Json.AreWritable l.toJson.tokens := by
  refine Json.areWritable_object ?_
  simp [Json.areWritable_ofOption]

theorem ofJson?_toJson (l : SharingLink) : ofJson? l.toJson = some l := by
  obtain ⟨scope, kind, webUrl, expiration⟩ := l
  cases scope <;> cases kind <;> cases webUrl <;> cases expiration <;> rfl

theorem isFaithful_format : format.IsFaithful fun j l =>
    j.Records ["scope", "type", "webUrl", "expiration"]
      [l.scope, l.kind, l.webUrl, l.expiration] :=
  .of_shapes ofJson?_eq_some_iff ofJson?_toJson areWritable_toJson

end SharingLink

namespace ItemRef

def format : Json.Format ItemRef :=
  ⟨toJson, ofJson?⟩

theorem areWritable_toJson (r : ItemRef) : Json.AreWritable r.toJson.tokens := by
  refine Json.areWritable_object ?_
  simp [Json.areWritable_ofOption]

theorem ofJson?_toJson (r : ItemRef) : ofJson? r.toJson = some r := by
  obtain ⟨drive, item⟩ := r
  cases drive <;> cases item <;> rfl

theorem isFaithful_format :
    format.IsFaithful fun j r => j.Records ["driveId", "itemId"] [r.drive, r.item] :=
  .of_shapes ofJson?_eq_some_iff ofJson?_toJson areWritable_toJson

end ItemRef

namespace Stage

def format : Json.Format Stage :=
  ⟨toJson, ofJson?⟩

theorem ofCode?_eq_some_iff (code : String) (s : Stage) : ofCode? code = some s ↔ code = s.code := by
  constructor
  · intro h
    have hfound := List.find?_some h
    exact (beq_iff_eq.mp hfound).symm
  · rintro rfl
    cases s <;> rfl

end Stage

def Outcome.format : Json.Format Outcome :=
  ⟨toJson, ofJson?⟩

namespace AuditAction

def format : Json.Format AuditAction :=
  ⟨toJson, ofJson?⟩

theorem ofCode?_eq_some_iff (code : String) (a : AuditAction) :
    ofCode? code = some a ↔ code = a.code := by
  cases a
  unfold ofCode?
  split <;> simp_all [AuditAction.code]

end AuditAction

-- Every value is read back from what is written of it, and every text that is read keeps its value
-- in the one form in which it is written.
theorem formats_are_faithful :
    Actor.format.IsFaithful
        (fun j a => j.Records ["oid", "upn", "name"] [a.oid, a.upn, a.name]) ∧
      RequiredText.format.IsFaithful (fun j t => j = .string t.text) ∧
      SharingLink.format.IsFaithful (fun j l => j.Records ["scope", "type", "webUrl", "expiration"]
        [l.scope, l.kind, l.webUrl, l.expiration]) ∧
      ItemRef.format.IsFaithful (fun j r => j.Records ["driveId", "itemId"] [r.drive, r.item]) ∧
      Stage.format.IsFaithful (fun j s => j.IsVariant s.code) ∧
      Outcome.format.IsFaithful (fun j o => j.IsVariant o.code) ∧
      AuditAction.format.IsFaithful (fun j a => j.IsVariant a.code) :=
  ⟨Actor.isFaithful_format, RequiredText.isFaithful_format, SharingLink.isFaithful_format,
    ItemRef.isFaithful_format, Json.Format.isFaithful_of_code Stage.ofCode?_eq_some_iff,
    Json.Format.isFaithful_of_code fun _ _ => Outcome.ofCode?_eq_some_iff,
    Json.Format.isFaithful_of_code AuditAction.ofCode?_eq_some_iff⟩

-- An actor given by places, with an escape, in the form in which it is written.
example : Actor.format.rewrite? "[null, \"\\u0041da\", null]" =
    some "\x7b\"upn\":\"Ada\"\x7d" := by
  decide +kernel

end Unshare
