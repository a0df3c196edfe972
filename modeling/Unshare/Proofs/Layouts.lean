import Mathlib.Data.List.Forall2
import Unshare.Json.Layout

namespace Unshare.Json

theorem mapM_eq_some_iff {α β : Type} (f : α → Option β) (xs : List α) (ys : List β) :
    xs.mapM f = some ys ↔ List.Forall₂ (fun x y => f x = some y) xs ys := by
  induction xs generalizing ys with
  | nil => cases ys <;> simp
  | cons x xs ih =>
    rw [List.mapM_cons]
    cases hx : f x with
    | none => cases ys <;> simp [hx]
    | some y =>
      cases hxs : xs.mapM f with
      | none => cases ys <;> simp [← ih, hxs]
      | some rest => cases ys <;> simp [← ih, hxs, hx]

theorem strings?_eq_some_iff {j : Json} {texts : List String} :
    j.strings? = some texts ↔ j = .array (texts.map .string) := by
  have hitems : ∀ items : List Json, items.mapM string? = some texts ↔
      items = texts.map .string := by
    intro items
    rw [mapM_eq_some_iff]
    induction items generalizing texts with
    | nil => cases texts <;> simp
    | cons item items ih =>
      cases texts with
      | nil => simp
      | cons text texts =>
        have hitem : item.string? = some text ↔ item = .string text := by
          cases item <;> simp [string?]
        simp only [List.forall₂_cons, List.map_cons, List.cons.injEq, ih, hitem]
  cases j with
  | array items => simp only [strings?, hitems, Json.array.injEq]
  | _ => simp [strings?]

theorem ofStrings_injective {ss ts : List String} (h : ofStrings ss = ofStrings ts) : ss = ts :=
  List.map_injective_iff.mpr (fun _ _ hs => Json.string.inj hs) (Json.array.inj h)

theorem optional?_isSome_iff {α : Type} (read? : Json → Option α) (given : Option Json) :
    (optional? read? given).isSome = true ↔
      given = none ∨ given = some .null ∨ ∃ v, given = some v ∧ (read? v).isSome = true := by
  cases given with
  | none => simp [optional?]
  | some v => cases v <;> simp [optional?]

theorem optional?_eq_some_none_iff {α : Type} (read? : Json → Option α) (given : Option Json) :
    optional? read? given = some none ↔ given = none ∨ given = some .null := by
  cases given with
  | none => simp [optional?]
  | some v => cases v <;> simp [optional?]

-- The values an object gives a name.
def Fields.named (name : String) (fields : Fields) : List Json :=
  (fields.filter fun f => f.1 = name).map Prod.snd

-- What a record gives the fields with these names.
def Gives (names : List String) (values : List (Option Json)) : Json → Prop
  | .object fields => List.Forall₂ (fun name v => Fields.named name fields = v.toList) names values
  | .array items => items.length = names.length ∧ values = items.map some
  | _ => False

-- Whether a record gives the field of this name a value, be it one of several.
def Has (names : List String) (name : String) (j v : Json) : Prop :=
  match j with
  | .object fields => (name, v) ∈ fields
  | .array items => (name, v) ∈ names.zip items
  | _ => False

theorem mem_named {fields : Fields} {name : String} {v : Json} (h : (name, v) ∈ fields) :
    v ∈ Fields.named name fields :=
  List.mem_map.mpr ⟨(name, v), List.mem_filter.mpr ⟨h, by simp⟩, rfl⟩

theorem mem_zip_of_has {names : List String} {values : List (Option Json)} {name : String}
    {v j : Json} (hgives : j.Gives names values) (hname : name ∈ names)
    (hhas : j.Has names name v) : (name, some v) ∈ names.zip values := by
  cases j with
  | object fields =>
    have hv : (name, v) ∈ fields := hhas
    clear hhas
    simp only [Gives] at hgives
    induction hgives with
    | nil => cases hname
    | @cons first given names values hfirst _ ih =>
      rw [List.zip_cons_cons]
      rcases List.mem_cons.mp hname with rfl | hrest
      · have hmem := mem_named hv
        rw [hfirst, Option.mem_toList] at hmem
        rw [hmem]
        exact List.mem_cons_self
      · exact List.mem_cons_of_mem _ (ih hrest)
  | array items =>
    obtain ⟨-, rfl⟩ := hgives
    rw [List.zip_map_right]
    exact List.mem_map.mpr ⟨(name, v), hhas, rfl⟩
  | _ => cases hhas

section

variable {α : Type} (names : List String) (fields : List (String × α))

theorem values_eq_nil_iff : (fields.filter fun (name, _) => names.contains name).map Prod.snd = [] ↔
    ∀ field ∈ fields, field.1 ∉ names := by
  simp only [List.map_eq_nil_iff, List.filter_eq_nil_iff, List.contains_iff_mem]

theorem values_eq_singleton_iff (value : α) :
    (fields.filter fun (name, _) => names.contains name).map Prod.snd = [value] ↔
      ∃ before name after, fields = before ++ (name, value) :: after ∧ name ∈ names ∧
        ∀ field ∈ before ++ after, field.1 ∉ names := by
  simp only [List.map_eq_singleton_iff, List.filter_eq_cons_iff, List.filter_eq_nil_iff,
    List.contains_iff_mem, List.forall_mem_append]
  constructor
  · rintro ⟨⟨name, _⟩, ⟨before, after, rfl, hbefore, hname, hafter⟩, rfl⟩
    exact ⟨before, name, after, rfl, hname, hbefore, hafter⟩
  · rintro ⟨before, name, after, rfl, hname, hbefore, hafter⟩
    exact ⟨(name, value), ⟨before, after, rfl, hbefore, hname, hafter⟩, rfl⟩

end

-- Of all fields with one of these names there is one, with this value.
def Fields.GivesOnce (names : List String) (value : Json) (fields : Fields) : Prop :=
  ∃ before name after, fields = before ++ (name, value) :: after ∧ name ∈ names ∧
    ∀ field ∈ before ++ after, field.1 ∉ names

-- What an object says of a part that has these names: a text once, or null once, or nothing.
def Fields.Tells (names : List String) (fields : Fields) : Option String → Prop
  | some text => fields.GivesOnce names (.string text)
  | none => (∀ field ∈ fields, field.1 ∉ names) ∨ fields.GivesOnce names .null

namespace Layout

theorem valuesNamed_eq_nil_iff (names : List String) (fields : Fields) :
    valuesNamed names fields = [] ↔ ∀ field ∈ fields, field.1 ∉ names :=
  values_eq_nil_iff names fields

theorem valuesNamed_eq_singleton_iff (names : List String) (fields : Fields) (value : Json) :
    valuesNamed names fields = [value] ↔ fields.GivesOnce names value :=
  values_eq_singleton_iff names fields value

theorem tells_iff (names : List String) (fields : Fields) (text : Option String) :
    fields.Tells names text ↔
      ((⟨names, .defaulted⟩ : Field).find? fields).bind optionalString? = some text := by
  have hmay : (⟨names, .defaulted⟩ : Field).mayLack = true := rfl
  have htells : fields.Tells names text ↔
      (∃ t, text = some t ∧ valuesNamed names fields = [.string t]) ∨
        text = none ∧ (valuesNamed names fields = [] ∨ valuesNamed names fields = [.null]) := by
    cases text <;>
      simp [Fields.Tells, valuesNamed_eq_nil_iff, valuesNamed_eq_singleton_iff]
  rw [htells, Field.find?]
  split
  · rename_i hnone
    simp [hnone, hmay, optionalString?, optional?, eq_comm]
  · rename_i value hone
    cases value <;> simp [hone, optionalString?, optional?, string?, eq_comm]
  · rename_i hnone hmore
    have hnone : valuesNamed names fields ≠ [] := hnone
    have hmore : ∀ value, valuesNamed names fields ≠ [value] := hmore
    simp [hnone, hmore]

-- A layout with one name for each field, none of which must stand in an object. The last one must
-- stand in an array, so all of them must.
structure IsLenient (layout : Layout) (names : List String) : Prop where
  names : layout.map Field.names = names.map fun name => [name]
  mayLack : ∀ f ∈ layout, f.absence ≠ .required
  last : ∃ f, layout.getLast? = some f ∧ f.absence = .optional

-- A layout with one name for each field, all of which must stand wherever it is read from.
structure IsStrict (layout : Layout) (names : List String) : Prop where
  names : layout.map Field.names = names.map fun name => [name]
  required : ∀ f ∈ layout, f.absence = .required
  isSome : layout.getLast?.isSome

theorem find?_eq_some_iff {f : Field} {name : String} {v : Option Json} (hname : f.names = [name])
    (hlack : f.absence ≠ .required ∨ v ≠ none) (fields : Fields) :
    f.find? fields = some v ↔ fields.named name = v.toList := by
  have hvalues : valuesNamed f.names fields = fields.named name := by
    simp [valuesNamed, Fields.named, hname]
  have hmay : v = none → f.mayLack = true := by
    rintro rfl
    simpa [Field.mayLack] using hlack
  rw [Field.find?, hvalues]
  split
  · rename_i hnone
    cases v with
    | none => simp [hnone, hmay rfl]
    | some value => simp [hnone]
  · rename_i value hone
    cases v <;> simp [hone]
  · rename_i hnone hone
    cases v with
    | none => simpa using hnone
    | some value => simpa using hone value

theorem ofFields?_eq_some_iff {layout : Layout} {names : List String}
    (hnames : layout.map Field.names = names.map fun name => [name])
    {values : List (Option Json)}
    (hlack : (∀ f ∈ layout, f.absence ≠ .required) ∨ ∀ v ∈ values, v ≠ none) (fields : Fields) :
    ofFields? layout fields = some values ↔
      List.Forall₂ (fun name v => fields.named name = v.toList) names values := by
  rw [ofFields?, mapM_eq_some_iff]
  induction layout generalizing names values with
  | nil =>
    cases names with
    | nil => simp
    | cons name names => simp at hnames
  | cons f rest ih =>
    cases names with
    | nil => simp at hnames
    | cons name names =>
      simp only [List.map_cons, List.cons.injEq] at hnames
      cases values with
      | nil => simp
      | cons v values =>
        have hfirst : f.absence ≠ .required ∨ v ≠ none :=
          hlack.imp (fun h => h f List.mem_cons_self) (fun h => h v List.mem_cons_self)
        have hothers : (∀ q ∈ rest, q.absence ≠ .required) ∨ ∀ w ∈ values, w ≠ none :=
          hlack.imp (fun h q hq => h q (List.mem_cons_of_mem f hq))
            (fun h w hw => h w (List.mem_cons_of_mem v hw))
        rw [List.forall₂_cons, List.forall₂_cons, find?_eq_some_iff hnames.1 hfirst fields,
          ih hnames.2 hothers]

theorem ofItems?_nil_of_last {layout : Layout} {f : Field} (hlast : layout.getLast? = some f)
    (hf : f.absence ≠ .defaulted) : ofItems? layout [] = none := by
  induction layout with
  | nil => cases hlast
  | cons first rest ih =>
    rw [ofItems?]
    cases rest with
    | nil =>
      obtain rfl : first = f := by simpa using hlast
      rw [if_neg hf]
    | cons second rest =>
      rw [List.getLast?_cons_cons] at hlast
      rw [ih hlast]
      split <;> rfl

theorem ofItems?_eq_some_iff {layout : Layout}
    (hlast : ∃ f, layout.getLast? = some f ∧ f.absence ≠ .defaulted) (items : List Json)
    (values : List (Option Json)) : ofItems? layout items = some values ↔
      items.length = layout.length ∧ values = items.map some := by
  obtain ⟨f, hlast, hf⟩ := hlast
  induction layout generalizing items values with
  | nil => cases hlast
  | cons first rest ih =>
    cases items with
    | nil =>
      rw [ofItems?_nil_of_last hlast hf]
      simp
    | cons item items =>
      rw [ofItems?]
      cases rest with
      | nil =>
        cases items with
        | nil => simp [ofItems?, eq_comm]
        | cons second items => simp [ofItems?]
      | cons second rest =>
        rw [List.getLast?_cons_cons] at hlast
        cases values with
        | nil => simp
        | cons v values =>
          have hrest := ih items values hlast
          simp only [Option.map_eq_some_iff, List.cons.injEq, List.length_cons, List.map_cons]
          constructor
          · rintro ⟨_, hread, rfl, rfl⟩
            obtain ⟨hlen, hvalues⟩ := hrest.mp hread
            exact ⟨congrArg Nat.succ hlen, rfl, hvalues⟩
          · rintro ⟨hlen, rfl, hvalues⟩
            exact ⟨values, hrest.mpr ⟨Nat.succ.inj hlen, hvalues⟩, rfl, rfl⟩

section

variable {layout : Layout} {names : List String} {values : List (Option Json)}

theorem read?_eq_some_iff_of_last (hnames : layout.map Field.names = names.map fun name => [name])
    (hlack : (∀ f ∈ layout, f.absence ≠ .required) ∨ ∀ v ∈ values, v ≠ none)
    (hlast : ∃ f, layout.getLast? = some f ∧ f.absence ≠ .defaulted) (j : Json) :
    layout.read? j = some values ↔ j.Gives names values := by
  cases j with
  | object fields => exact ofFields?_eq_some_iff hnames hlack fields
  | array items =>
    have hlen : layout.length = names.length := by
      simpa using congrArg List.length hnames
    rw [read?, ofItems?_eq_some_iff hlast, hlen]
    rfl
  | _ => simp [read?, Gives]

theorem read?_eq_some_iff (h : layout.IsLenient names) (j : Json) (values : List (Option Json)) :
    layout.read? j = some values ↔ j.Gives names values := by
  obtain ⟨f, hlast, hf⟩ := h.last
  exact read?_eq_some_iff_of_last h.names (.inl h.mayLack) ⟨f, hlast, by simp [hf]⟩ j

theorem IsStrict.read?_eq_some_iff (h : layout.IsStrict names) (j : Json) (values : List Json) :
    layout.read? j = some (values.map some) ↔ j.Gives names (values.map some) := by
  obtain ⟨f, hlast⟩ := Option.isSome_iff_exists.mp h.isSome
  have hf : f.absence = .required := h.required f (List.mem_of_getLast? hlast)
  exact read?_eq_some_iff_of_last h.names (.inr (by simp)) ⟨f, hlast, by simp [hf]⟩ j

end

end Layout

end Unshare.Json
