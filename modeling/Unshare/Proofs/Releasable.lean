import Unshare.Graph.Answer
import Unshare.Proofs.Guard
import Unshare.Proofs.Layouts

namespace Unshare.Graph

open Json (Gives)

-- A text, null or nothing.
def IsTextAtMost (given : Option Json) : Prop :=
  given = none ∨ given = some .null ∨ ∃ text, given = some (.string text)

def IsLink (j : Json) : Prop :=
  ∃ scope kind webUrl, j.Gives ["scope", "type", "webUrl"] [scope, kind, webUrl] ∧
    IsTextAtMost scope ∧ IsTextAtMost kind ∧ IsTextAtMost webUrl

def permissionNames : List String :=
  ["roles", "link", "inheritedFrom", "expirationDateTime"]

-- A permission on the item itself, with no role of an owner. Nothing that the reader looks at is
-- given twice or has another type, and roles that are not given are none.
def Releasable (j : Json) : Prop :=
  ∃ roles link inheritedFrom expiration,
    j.Gives permissionNames [roles, link, inheritedFrom, expiration] ∧
    (roles = none ∨ ∃ spelt : List String, roles = some (.array (spelt.map .string)) ∧
      ∀ role ∈ spelt, ¬Policy.SpellsOwner role) ∧
    (link = none ∨ link = some .null ∨ ∃ v, link = some v ∧ IsLink v) ∧
    (inheritedFrom = none ∨ inheritedFrom = some .null) ∧
    IsTextAtMost expiration

theorem optionalString?_isSome_iff (given : Option Json) :
    (Json.optionalString? given).isSome = true ↔ IsTextAtMost given := by
  rw [Json.optionalString?, Json.optional?_isSome_iff, IsTextAtMost]
  refine or_congr_right (or_congr_right ?_)
  constructor
  · rintro ⟨v, rfl, hv⟩
    cases v with
    | string text => exact ⟨text, rfl⟩
    | _ => cases hv
  · rintro ⟨text, rfl⟩
    exact ⟨.string text, rfl, rfl⟩

namespace Permission

theorem linkOfJson?_isSome_iff (j : Json) : (linkOfJson? j).isSome = true ↔ IsLink j := by
  have hlayout : linkLayout.IsLenient ["scope", "type", "webUrl"] :=
    ⟨rfl, by decide, ⟨_, rfl, rfl⟩⟩
  simp only [IsLink, ← Json.Layout.read?_eq_some_iff hlayout, ← optionalString?_isSome_iff,
    Option.isSome_iff_exists]
  rw [linkOfJson?]
  split
  · rename_i scope kind webUrl hread
    simp [hread, Option.bind_eq_some_iff]
  · rename_i hread
    simp only [reduceCtorEq, exists_false, false_iff]
    rintro ⟨scope, kind, webUrl, h, -⟩
    exact hread scope kind webUrl h

theorem ofJson?_eq_some_iff (j : Json) (p : Permission) : ofJson? j = some p ↔
    ∃ roles link inheritedFrom expiration,
      j.Gives permissionNames [roles, link, inheritedFrom, expiration] ∧
      rolesOfJson? roles = some p.roles ∧ Json.optional? linkOfJson? link = some p.link ∧
      Json.optional? itemOfJson? inheritedFrom = some p.inheritedFrom ∧
      Json.optionalString? expiration = some p.expiration := by
  have hlayout : layout.IsLenient permissionNames :=
    ⟨rfl, by decide, ⟨_, rfl, rfl⟩⟩
  simp only [← Json.Layout.read?_eq_some_iff hlayout]
  rw [ofJson?]
  split
  · rename_i roles link inheritedFrom expiration hread
    simp only [hread, Option.bind_eq_bind, Option.bind_eq_some_iff, Option.pure_def,
      Option.some.injEq, List.cons.injEq, and_true]
    constructor
    · rintro ⟨roles', hroles, link', hlink, inherited', hinherited, expiration', hexpiration, rfl⟩
      exact ⟨roles, link, inheritedFrom, expiration, ⟨rfl, rfl, rfl, rfl⟩, hroles, hlink,
        hinherited, hexpiration⟩
    · rintro ⟨_, _, _, _, ⟨rfl, rfl, rfl, rfl⟩, hroles, hlink, hinherited, hexpiration⟩
      exact ⟨_, hroles, _, hlink, _, hinherited, _, hexpiration, rfl⟩
  · rename_i hread
    simp only [reduceCtorEq, false_iff]
    rintro ⟨roles, link, inheritedFrom, expiration, h, -⟩
    exact hread roles link inheritedFrom expiration h

theorem rolesOfJson?_eq_some_iff (given : Option Json) (roles : List String) :
    rolesOfJson? given = some roles ↔
      (given = none ∧ roles = []) ∨ given = some (.array (roles.map .string)) := by
  cases given with
  | none => simp [rolesOfJson?, eq_comm]
  | some j => simp [rolesOfJson?, Json.strings?_eq_some_iff]

end Permission

theorem releasable_iff (j : Json) : Releasable j ↔ ∃ p, Permission.ofJson? j = some p ∧
    p.inheritedFrom = none ∧ ∀ role ∈ p.roles, ¬Policy.SpellsOwner role := by
  constructor
  · rintro ⟨roles, link, inheritedFrom, expiration, hgives, hroles, hlink, hinherited, hexpiration⟩
    obtain ⟨spelt, hspelt, hfree⟩ : ∃ spelt, Permission.rolesOfJson? roles = some spelt ∧
        ∀ role ∈ spelt, ¬Policy.SpellsOwner role := by
      rcases hroles with rfl | ⟨spelt, rfl, hfree⟩
      · exact ⟨[], rfl, by simp⟩
      · exact ⟨spelt, (Permission.rolesOfJson?_eq_some_iff _ _).mpr (.inr rfl), hfree⟩
    obtain ⟨link', hlink⟩ : ∃ link', Json.optional? Permission.linkOfJson? link = some link' := by
      rw [← Option.isSome_iff_exists, Json.optional?_isSome_iff]
      simpa only [Permission.linkOfJson?_isSome_iff] using hlink
    obtain ⟨expiration', hexpiration⟩ : ∃ expiration',
        Json.optionalString? expiration = some expiration' := by
      rwa [← Option.isSome_iff_exists, optionalString?_isSome_iff]
    have hnone := (Json.optional?_eq_some_none_iff Permission.itemOfJson? _).mpr hinherited
    exact ⟨⟨spelt, link', none, expiration'⟩, (Permission.ofJson?_eq_some_iff j _).mpr
      ⟨roles, link, inheritedFrom, expiration, hgives, hspelt, hlink, hnone, hexpiration⟩, rfl,
      hfree⟩
  · rintro ⟨p, hread, hinherited, hfree⟩
    obtain ⟨roles, link, inheritedFrom, expiration, hgives, hroles, hlink, hitem, hexpiration⟩ :=
      (Permission.ofJson?_eq_some_iff j p).mp hread
    refine ⟨roles, link, inheritedFrom, expiration, hgives, ?_, ?_, ?_, ?_⟩
    · rcases (Permission.rolesOfJson?_eq_some_iff _ _).mp hroles with ⟨rfl, -⟩ | rfl
      · exact .inl rfl
      · exact .inr ⟨p.roles, rfl, hfree⟩
    · have hsome := (Json.optional?_isSome_iff Permission.linkOfJson? link).mp (by rw [hlink]; rfl)
      simpa only [Permission.linkOfJson?_isSome_iff] using hsome
    · rw [hinherited] at hitem
      exact (Json.optional?_eq_some_none_iff _ _).mp hitem
    · exact (optionalString?_isSome_iff _).mp (by rw [hexpiration]; rfl)

-- A value of a type that its name does not have.
inductive Mistyped : String → Json → Prop
  | roles {v : Json} : (∀ spelt : List String, v ≠ .array (spelt.map .string)) → Mistyped "roles" v
  | link {v : Json} : v ≠ .null → ¬IsLink v → Mistyped "link" v
  | inheritedFrom {v : Json} : v ≠ .null → Mistyped "inheritedFrom" v
  | expiration {v : Json} : v ≠ .null → (∀ text, v ≠ .string text) → Mistyped "expirationDateTime" v

-- An answer that failed, that cannot be read, or that gives a name twice or a value that is not of
-- its type. An item that the permission is inherited from counts as such a value, whatever it is.
inductive Unusable : Remote.Reply → Prop
  | timedOut : Unusable .timedOut
  | unreachable : Unusable .unreachable
  | failed {status : Nat} {body : Remote.Body} :
    Http.Status.isSuccess status = false → Unusable (.answered status body)
  | undecodable {status : Nat} {body : Remote.Body} :
    Json.ofBytes? body.bytes = none → Unusable (.answered status body)
  | shapeless {status : Nat} {body : Remote.Body} {j : Json} : Json.ofBytes? body.bytes = some j →
    (∀ fields, j ≠ .object fields) → (∀ items, j ≠ .array items) → Unusable (.answered status body)
  | miscounted {status : Nat} {body : Remote.Body} {items : List Json} :
    Json.ofBytes? body.bytes = some (.array items) → items.length ≠ 4 → Unusable (.answered status body)
  | repeated {status : Nat} {body : Remote.Body} {fields : Json.Fields} {name : String} :
    Json.ofBytes? body.bytes = some (.object fields) → name ∈ permissionNames →
    2 ≤ (Json.Fields.named name fields).length → Unusable (.answered status body)
  | mistyped {status : Nat} {body : Remote.Body} {j : Json} {name : String} {v : Json} :
    Json.ofBytes? body.bytes = some j → j.Has permissionNames name v → Mistyped name v →
    Unusable (.answered status body)

theorem Mistyped.mem_permissionNames {name : String} {v : Json} (h : Mistyped name v) :
    name ∈ permissionNames := by
  cases h <;> decide

theorem length_named_le_of_releasable {fields : Json.Fields} (h : Releasable (.object fields))
    {name : String} (hname : name ∈ permissionNames) :
    (Json.Fields.named name fields).length ≤ 1 := by
  obtain ⟨roles, link, inheritedFrom, expiration, hgives, -⟩ := h
  have hlen : ∀ v : Option Json, v.toList.length ≤ 1 := by
    intro v
    cases v <;> simp
  simp only [Gives, permissionNames, List.forall₂_cons] at hgives
  obtain ⟨hroles, hlink, hinherited, hexpiration, -⟩ := hgives
  simp only [permissionNames, List.mem_cons, List.not_mem_nil, or_false] at hname
  rcases hname with rfl | rfl | rfl | rfl
  · rw [hroles]
    exact hlen _
  · rw [hlink]
    exact hlen _
  · rw [hinherited]
    exact hlen _
  · rw [hexpiration]
    exact hlen _

theorem not_mistyped_of_releasable {j v : Json} {name : String} (h : Releasable j)
    (hv : j.Has permissionNames name v) : ¬Mistyped name v := by
  obtain ⟨roles, link, inheritedFrom, expiration, hgives, hroles, hlink, hinherited,
    hexpiration⟩ := h
  intro hmistyped
  have hzip := Json.mem_zip_of_has hgives hmistyped.mem_permissionNames hv
  simp only [permissionNames, List.zip_cons_cons, List.zip_nil_right, List.mem_cons,
    List.not_mem_nil, Prod.mk.injEq, or_false] at hzip
  cases hmistyped with
  | roles hother =>
    have hgiven : some v = roles := by simpa using hzip
    subst hgiven
    rcases hroles with hroles | ⟨spelt, hroles, -⟩
    · cases hroles
    · exact hother spelt (Option.some.inj hroles)
  | link hnull hother =>
    have hgiven : some v = link := by simpa using hzip
    subst hgiven
    rcases hlink with hlink | hlink | ⟨w, hlink, hw⟩
    · cases hlink
    · exact hnull (Option.some.inj hlink)
    · rw [← Option.some.inj hlink] at hw
      exact hother hw
  | inheritedFrom hnull =>
    have hgiven : some v = inheritedFrom := by simpa using hzip
    subst hgiven
    rcases hinherited with hinherited | hinherited
    · cases hinherited
    · exact hnull (Option.some.inj hinherited)
  | expiration hnull hother =>
    have hgiven : some v = expiration := by simpa using hzip
    subst hgiven
    rcases hexpiration with hexpiration | hexpiration | ⟨text, hexpiration⟩
    · cases hexpiration
    · exact hnull (Option.some.inj hexpiration)
    · exact hother text (Option.some.inj hexpiration)

theorem not_releasable_of_unusable {status : Nat} {body : Remote.Body} {j : Json}
    (h : Unusable (.answered status body)) (hstatus : Http.Status.isSuccess status = true)
    (hbody : Json.ofBytes? body.bytes = some j) : ¬Releasable j := by
  intro hj
  cases h with
  | failed hfailed =>
    rw [hstatus] at hfailed
    cases hfailed
  | undecodable hnone =>
    rw [hbody] at hnone
    cases hnone
  | shapeless hsome hobject harray =>
    rw [hbody] at hsome
    cases hsome
    obtain ⟨_, _, _, _, hgives, -⟩ := hj
    cases j with
    | object fields => exact hobject fields rfl
    | array items => exact harray items rfl
    | _ => exact hgives
  | miscounted hsome hcount =>
    rw [hbody] at hsome
    cases hsome
    obtain ⟨_, _, _, _, ⟨hlen, -⟩, -⟩ := hj
    exact hcount hlen
  | repeated hsome hname htwice =>
    rw [hbody] at hsome
    cases hsome
    have hle := length_named_le_of_releasable hj hname
    omega
  | mistyped hsome hv hmistyped =>
    rw [hbody] at hsome
    cases hsome
    exact not_mistyped_of_releasable hj hv hmistyped

end Unshare.Graph
