namespace Unshare.Text

variable {α : Type} [DecidableEq α]

-- The fields between the separators; there is always one more field than there are separators.
def splitOn (sep : α) : List α → List (List α)
  | [] => [[]]
  | c :: rest =>
    if c = sep then [] :: splitOn sep rest
    else
      match splitOn sep rest with
      | [] => [[c]]
      | field :: fields => (c :: field) :: fields

-- What stands before the first separator, and what stands after it if there is one.
def breakOn (sep : α) : List α → List α × Option (List α)
  | [] => ([], none)
  | c :: rest =>
    if c = sep then ([], some rest)
    else ((c :: (breakOn sep rest).1), (breakOn sep rest).2)

-- The fields with one separator between neighbours.
def joinWith (sep : α) : List (List α) → List α
  | [] => []
  | [field] => field
  | field :: next :: rest => field ++ sep :: joinWith sep (next :: rest)

theorem splitOn_ne_nil (sep : α) (cs : List α) : splitOn sep cs ≠ [] := by
  cases cs with
  | nil => simp [splitOn]
  | cons c rest =>
    simp only [splitOn]
    split
    · simp
    · split <;> simp

theorem joinWith_splitOn (sep : α) (cs : List α) : joinWith sep (splitOn sep cs) = cs := by
  induction cs with
  | nil => rfl
  | cons c rest ih =>
    cases hs : splitOn sep rest with
    | nil => exact absurd hs (splitOn_ne_nil sep rest)
    | cons field fields =>
      rw [hs] at ih
      by_cases hc : c = sep
      · simp [splitOn, hc, hs, joinWith, ih]
      · cases fields with
        | nil => simp_all [splitOn, joinWith]
        | cons next more => simp_all [splitOn, joinWith]

theorem not_mem_of_mem_splitOn {sep : α} {cs field : List α} (h : field ∈ splitOn sep cs) :
    sep ∉ field := by
  induction cs generalizing field with
  | nil => simp_all [splitOn]
  | cons c rest ih =>
    simp only [splitOn] at h
    by_cases hc : c = sep
    · simp only [hc, if_true, List.mem_cons] at h
      cases h with
      | inl h => simp [h]
      | inr h => exact ih h
    · simp only [hc, if_false] at h
      cases hs : splitOn sep rest with
      | nil => exact absurd hs (splitOn_ne_nil sep rest)
      | cons first fields =>
        simp only [hs, List.mem_cons] at h ih
        cases h with
        | inl h =>
          subst h
          simpa [Ne.symm hc] using ih (Or.inl rfl)
        | inr h => exact ih (Or.inr h)

end Unshare.Text
