import Unshare.Text.Decimal

namespace Unshare

inductive Json
  | null
  | bool (value : Bool)
  -- the numeral as it is written
  | number (numeral : String)
  | string (text : String)
  | array (items : List Json)
  | object (fields : List (String × Json))
  -- its brackets and literals are sound, but some text of it cannot be spelt
  | illFormed
deriving Repr, Inhabited

namespace Json

-- The members of an object in the order written.
abbrev Fields := List (String × Json)

def ofNat (n : Nat) : Json :=
  .number (String.ofList (Text.Decimal.digits n))

def ofInt (n : Int) : Json :=
  .number (String.ofList (Text.Decimal.signed n))

def ofOption (s : Option String) : Json :=
  s.elim .null .string

def ofStrings (ss : List String) : Json :=
  .array (ss.map .string)

namespace Fields

def get? (name : String) (fields : Fields) : Option Json :=
  fields.lookup name

-- Gives `name` this value: in place where the name is there already, else at the end.
def insert (name : String) (value : Json) : Fields → Fields
  | [] => [(name, value)]
  | (n, v) :: rest => if n = name then (name, value) :: rest else (n, v) :: insert name value rest

theorem get?_insert_self (name : String) (value : Json) (fields : Fields) :
    get? name (insert name value fields) = some value := by
  induction fields with
  | nil => simp [insert, get?]
  | cons field rest ih =>
    obtain ⟨n, v⟩ := field
    simp only [insert]
    split
    · simp [get?]
    · rename_i h
      have : (name == n) = false := by simpa using fun e => h e.symm
      simpa [get?, List.lookup_cons, this] using ih

theorem get?_insert_of_ne {name other : String} (h : other ≠ name) (value : Json)
    (fields : Fields) : get? other (insert name value fields) = get? other fields := by
  induction fields with
  | nil => simp [insert, get?, h]
  | cons field rest ih =>
    obtain ⟨n, v⟩ := field
    simp only [insert]
    split
    · rename_i e
      subst e
      have : (other == n) = false := by simpa using h
      simp [get?, List.lookup_cons, this]
    · simp only [get?, List.lookup_cons] at ih ⊢
      split <;> simp_all

theorem insert_insert_self (name : String) (value old : Json) (fields : Fields) :
    insert name value (insert name old fields) = insert name value fields := by
  induction fields with
  | nil => simp [insert]
  | cons field rest ih =>
    obtain ⟨n, v⟩ := field
    by_cases h : n = name
    · simp [insert, h]
    · simp [insert, h, ih]

-- A member that is there already is replaced in place, so what was put in after it stays behind it.
theorem insert_insert_of_ne {name other : String} (h : other ≠ name) (value old added : Json)
    (fields : Fields) : insert name value (insert other added (insert name old fields)) =
      insert other added (insert name value fields) := by
  induction fields with
  | nil => simp [insert, h.symm]
  | cons field rest ih =>
    obtain ⟨n, v⟩ := field
    by_cases hname : n = name
    · subst hname
      simp [insert, h.symm]
    · by_cases hother : n = other
      · subst hother
        simp [insert, hname, insert_insert_self]
      · simp [insert, hname, hother, ih]

end Fields

end Json

end Unshare
