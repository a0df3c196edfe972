import Unshare.Proofs.Escapes
import Unshare.Text.Blank
import Unshare.Url.Path

namespace Unshare.Url

open Text

-- The bytes a segment stands for.
def said (segment : String) : List UInt8 :=
  Percent.decodeChars segment.toList

-- The characters of a text that reach the path.
def kept (text : String) : List Char :=
  text.toList.filter fun c => !isDropped c

-- The segment made of these characters.
def webSegment (cs : List Char) : String :=
  escape webSegmentForbidden cs

-- A text that a path holds as it is.
def IsHeld (text : String) : Prop :=
  text ≠ "." ∧ text ≠ ".." ∧ ∀ c ∈ text.toList, isDropped c = false

instance (text : String) : Decidable (IsHeld text) :=
  decidable_of_iff (text ≠ "." ∧ text ≠ ".." ∧ text.toList.all (fun c => !isDropped c) = true)
    (by simp [IsHeld])

-- A byte that stands for itself in a segment starts no escape.
theorem toNat_lt_of_isPlainByte {b : UInt8} (h : isPlainByte webSegmentForbidden b = true) :
    b.toNat < 0x80 ∧ b ≠ 0x25 := by
  simp only [isPlainByte, Bool.and_eq_true, decide_eq_true_eq, Bool.not_eq_true'] at h
  obtain ⟨⟨_, hlt⟩, hfree⟩ := h
  constructor
  · have hb : b.toNat < 0x7F := hlt
    omega
  · intro hb
    subst hb
    revert hfree
    decide

theorem said_webSegment (cs : List Char) : said (webSegment cs) = Utf8.encodeChars cs := by
  rw [said, webSegment, escape, String.toList_ofList]
  exact Percent.decodeChars_encodeChars (fun _ => toNat_lt_of_isPlainByte) cs

theorem webSegment_injective {cs ds : List Char} (h : webSegment cs = webSegment ds) : cs = ds := by
  apply Utf8.encodeChars_injective
  rw [← said_webSegment, ← said_webSegment, h]

-- The letter of an escaped dot may have either case.
private theorem lowered_eq_iff (c : Char) :
    ((if c = 'E' then 'e' else c) = '.' ↔ c = '.') ∧
      ((if c = 'E' then 'e' else c) = '%' ↔ c = '%') ∧
      ((if c = 'E' then 'e' else c) = '2' ↔ c = '2') ∧
      ((if c = 'E' then 'e' else c) = 'e' ↔ c = 'e' ∨ c = 'E') := by
  by_cases hc : c = 'E'
  · subst hc
    decide
  · simp [hc]

theorem said_of_here {segment : String} (h : segmentKind segment = .here) :
    said segment = [0x2E] := by
  simp only [segmentKind] at h
  split at h
  · rename_i hl
    simp only [List.map_eq_cons_iff, List.map_eq_nil_iff, lowered_eq_iff] at hl
    rw [said]
    rcases hl with ⟨_, _, hs, rfl, rfl⟩ | ⟨_, _, hs, rfl, _, _, rfl, rfl, _, _, rfl, rfl | rfl, rfl⟩
    all_goals
      rw [hs]
      decide
  · split at h <;> cases h

theorem said_of_parent {segment : String} (h : segmentKind segment = .parent) :
    said segment = [0x2E, 0x2E] := by
  simp only [segmentKind] at h
  split at h
  · cases h
  · split at h
    · rename_i hl
      simp only [List.map_eq_cons_iff, List.map_eq_nil_iff, lowered_eq_iff] at hl
      rw [said]
      rcases hl with ⟨_, _, hs, rfl, _, _, rfl, rfl, rfl⟩ |
        ⟨_, _, hs, rfl, _, _, rfl, rfl, _, _, rfl, rfl, _, _, rfl, rfl | rfl, rfl⟩ |
        ⟨_, _, hs, rfl, _, _, rfl, rfl, _, _, rfl, rfl | rfl, _, _, rfl, rfl, rfl⟩ |
        ⟨_, _, hs, rfl, _, _, rfl, rfl, _, _, rfl, rfl | rfl, _, _, rfl, rfl, _, _, rfl, rfl, _, _,
          rfl, rfl | rfl, rfl⟩
      all_goals
        rw [hs]
        decide
    · cases h

-- A segment made of characters is a dot segment only if these are the dots themselves.
theorem segmentKind_webSegment (cs : List Char) : segmentKind (webSegment cs) =
    if cs = ['.'] then .here else if cs = ['.', '.'] then .parent else .plain := by
  cases hk : segmentKind (webSegment cs) with
  | here =>
    have hs : Utf8.encodeChars cs = Utf8.encodeChars ['.'] := by
      rw [← said_webSegment, said_of_here hk]
      decide
    rw [Utf8.encodeChars_injective hs, if_pos rfl]
  | parent =>
    have hs : Utf8.encodeChars cs = Utf8.encodeChars ['.', '.'] := by
      rw [← said_webSegment, said_of_parent hk]
      decide
    rw [Utf8.encodeChars_injective hs, if_neg (by decide), if_pos rfl]
  | plain =>
    have hhere : cs ≠ ['.'] := by
      rintro rfl
      exact absurd hk (by decide)
    have hparent : cs ≠ ['.', '.'] := by
      rintro rfl
      exact absurd hk (by decide)
    rw [if_neg hhere, if_neg hparent]

theorem kept_eq_iff (text : String) :
    kept text = text.toList ↔ ∀ c ∈ text.toList, isDropped c = false := by
  simp only [kept, List.filter_eq_self, Bool.not_eq_true']

-- A name that stands for itself in a path and is never left with it.
def IsName (name : String) : Prop :=
  IsHeld name ∧ webSegment name.toList = name ∧ isOnDrive name = false ∧ name ≠ ""

instance (name : String) : Decidable (IsName name) :=
  inferInstanceAs (Decidable (_ ∧ _ ∧ _ ∧ _))

-- What the name of a collection and a text behind it add to a path.
def landing (name text : String) : List String :=
  if text = "." ∨ text = ".." then [name]
  else if kept text = ['.'] then [name, ""]
  else if kept text = ['.', '.'] then [""]
  else [name, webSegment (kept text)]

theorem length_landing_le (name text : String) : (landing name text).length ≤ 2 := by
  simp only [landing]
  split
  · exact Nat.le_succ 1
  · split
    · exact Nat.le_refl 2
    · split
      · exact Nat.le_succ 1
      · exact Nat.le_refl 2

theorem landing_of_isHeld {text : String} (h : IsHeld text) (name : String) :
    landing name text = [name, webSegment text.toList] := by
  obtain ⟨hhere, hparent, hdropped⟩ := h
  have hkept : kept text = text.toList := (kept_eq_iff text).mpr hdropped
  rw [landing, hkept, if_neg (by simp [hhere, hparent]), if_neg, if_neg]
  · exact fun h => hparent (String.toList_injective h)
  · exact fun h => hhere (String.toList_injective h)

theorem said_landing_iff {name : String} (hname : said name = Utf8.encode name) (text : String) :
    (landing name text).map said = [Utf8.encode name, Utf8.encode text] ↔ IsHeld text := by
  constructor
  · intro h
    rw [landing] at h
    by_cases hdot : text = "." ∨ text = ".."
    · simp [hdot] at h
    · rw [if_neg hdot] at h
      by_cases hhere : kept text = ['.']
      · -- An empty segment stands for the empty text only, and that has no dot.
        have hempty : Utf8.encode "" = Utf8.encode text := by
          simp only [if_pos hhere, List.map_cons, List.map_nil, List.cons.injEq] at h
          exact h.2.1
        have htext : "" = text := Utf8.encode_injective hempty
        rw [← htext] at hhere
        exact absurd hhere (by decide)
      · by_cases hparent : kept text = ['.', '.']
        · simp [hparent] at h
        · have hsaid : Utf8.encodeChars (kept text) = Utf8.encodeChars text.toList := by
            simp only [if_neg hhere, if_neg hparent, List.map_cons, List.map_nil, List.cons.injEq,
              said_webSegment] at h
            exact h.2.1
          have hkept : kept text = text.toList := Utf8.encodeChars_injective hsaid
          exact ⟨fun h => hdot (.inl h), fun h => hdot (.inr h), (kept_eq_iff text).mp hkept⟩
  · intro h
    rw [landing_of_isHeld h, List.map_cons, List.map_cons, List.map_nil, said_webSegment, hname]
    rfl

theorem length_openEnd_le (segments : List String) :
    (openEnd segments).length ≤ segments.length := by
  rw [openEnd]
  split
  · exact Nat.zero_le _
  · exact Nat.le_refl _

theorem openEnd_of_length_le {segments : List String}
    (h : segments.length ≤ (openEnd segments).length) : openEnd segments = segments := by
  rw [openEnd] at h ⊢
  split
  · rename_i hroot
    simp [hroot] at h
  · rfl

theorem landing_eq_iff {name text : String} (htext : IsHeld text) (hvisible : isBlank text = false)
    (other : String) :
    landing name other = landing name text ↔ kept other = text.toList := by
  have hne : text ≠ "" := by
    rintro rfl
    exact absurd hvisible (by decide)
  rw [landing_of_isHeld htext]
  obtain ⟨hhere, hparent, -⟩ := htext
  constructor
  · intro h
    rw [landing] at h
    by_cases hdot : other = "." ∨ other = ".."
    · simp [hdot] at h
    · rw [if_neg hdot] at h
      by_cases hone : kept other = ['.']
      · have hempty : webSegment [] = webSegment text.toList := by
          simp only [if_pos hone, List.cons.injEq, true_and, and_true] at h
          exact h
        exact absurd (String.toList_injective (webSegment_injective hempty).symm) hne
      · by_cases htwo : kept other = ['.', '.']
        · simp [htwo] at h
        · simp only [if_neg hone, if_neg htwo, List.cons.injEq, true_and, and_true] at h
          exact webSegment_injective h
  · intro h
    have hone : text.toList ≠ ['.'] := fun hc => hhere (String.toList_injective hc)
    have htwo : text.toList ≠ ['.', '.'] := fun hc => hparent (String.toList_injective hc)
    have hdot : ¬(other = "." ∨ other = "..") := by
      rintro (rfl | rfl)
      · exact hone h.symm
      · exact htwo h.symm
    rw [landing, if_neg hdot, h, if_neg hone, if_neg htwo]

-- The schemes of the web have no drives.
theorem isWebLike_of_isWeb {u : Url} (h : u.isWeb = true) :
    isWebLike u.scheme = true ∧ u.scheme ≠ "file" := by
  simp only [isWeb, Bool.or_eq_true, decide_eq_true_eq] at h
  rcases h with h | h
  all_goals
    rw [h]
    decide

variable {scheme : String} (hlike : isWebLike scheme = true) (hfile : scheme ≠ "file")

include hlike hfile

theorem addSegment_eq {text : String} (hdot : ¬(text = "." ∨ text = ".."))
    (segments : List String) : addSegment scheme segments text =
      takeSegment (openEnd segments) true (webSegment (kept text)) := by
  simp only [addSegment, if_neg hdot, hlike, if_true, hfile, false_and, if_false]
  rfl

theorem addSegment_name {name : String} (hname : IsName name) (segments : List String) :
    addSegment scheme segments name = openEnd segments ++ [name] := by
  obtain ⟨⟨hhere, hparent, hheld⟩, hself, -, -⟩ := hname
  have hkept : kept name = name.toList := (kept_eq_iff name).mpr hheld
  have hkind : segmentKind (webSegment name.toList) = .plain := by
    rw [segmentKind_webSegment, if_neg, if_neg]
    · exact fun h => hparent (String.toList_injective h)
    · exact fun h => hhere (String.toList_injective h)
  rw [addSegment_eq hlike hfile (by simp [hhere, hparent]), hkept]
  simp only [takeSegment, hkind]
  rw [hself]

theorem addSegment_addSegment {name : String} (hname : IsName name) (segments : List String)
    (text : String) : addSegment scheme (addSegment scheme segments name) text =
      openEnd segments ++ landing name text := by
  have hdrive : isOnDrive name = false := hname.2.2.1
  have hopen : openEnd (openEnd segments ++ [name]) = openEnd segments ++ [name] := by
    rw [openEnd, if_neg]
    intro h
    have hlast := congrArg List.getLast? h
    simp only [List.getLast?_append, List.getLast?_singleton, Option.some_or, Option.some.injEq]
      at hlast
    exact hname.2.2.2 hlast
  have hleft : leaveLast (openEnd segments ++ [name]) = openEnd segments := by
    simp [leaveLast, hdrive]
  rw [addSegment_name hlike hfile hname]
  by_cases hdot : text = "." ∨ text = ".."
  · rw [landing, if_pos hdot, addSegment, if_pos hdot]
  · rw [addSegment_eq hlike hfile hdot, hopen, takeSegment, segmentKind_webSegment, landing,
      if_neg hdot]
    by_cases hhere : kept text = ['.']
    · simp [hhere]
    · by_cases hparent : kept text = ['.', '.']
      · simp [hparent, hleft]
      · simp [hhere, hparent]

end Unshare.Url
