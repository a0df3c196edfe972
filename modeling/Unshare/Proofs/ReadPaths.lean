import Unshare.Proofs.Computations
import Unshare.Proofs.Landing
import Unshare.Url.Parser

namespace Unshare

open Text

-- A byte of ASCII is a character of its own wherever it stands.
theorem Text.toNat_of_mem_utf8EncodeChar {c : Char} {b : UInt8}
    (h : b ∈ String.utf8EncodeChar c) (hb : b.toNat < 0x80) : c.toNat = b.toNat := by
  have hc : c.toNat = c.val.toNat := rfl
  simp only [String.utf8EncodeChar] at h
  split at h
  · rw [List.mem_singleton] at h
    subst h
    simp only [UInt8.toNat_ofNat'] at hb ⊢
    omega
  · -- Every other byte is 0x80 or more.
    split at h
    · simp only [List.mem_cons, List.not_mem_nil, or_false] at h
      rcases h with rfl | rfl <;> simp only [UInt8.toNat_ofNat'] at hb <;> omega
    · split at h
      · simp only [List.mem_cons, List.not_mem_nil, or_false] at h
        rcases h with rfl | rfl | rfl <;> simp only [UInt8.toNat_ofNat'] at hb <;> omega
      · simp only [List.mem_cons, List.not_mem_nil, or_false] at h
        rcases h with rfl | rfl | rfl | rfl <;> simp only [UInt8.toNat_ofNat'] at hb <;> omega

namespace Url

-- What is written is a character of the text that may stand plainly, or belongs to an escape.
theorem mem_escape {forbidden cs : List Char} {c : Char} (h : c ∈ (escape forbidden cs).toList) :
    (c ∈ cs ∧ c ∉ forbidden ∧ 0x20 ≤ c.toNat ∧ c.toNat < 0x7F) ∨
      c = '%' ∨ ∃ n ∈ List.range 16, c = upperHex n := by
  rw [escape, String.toList_ofList, Percent.encodeChars, Percent.encodeBytes] at h
  obtain ⟨b, hb, hc⟩ := List.mem_flatMap.mp h
  cases hplain : isPlainByte forbidden b with
  | true =>
    rw [hplain, if_pos rfl, List.mem_singleton] at hc
    simp only [isPlainByte, Bool.and_eq_true, decide_eq_true_eq, Bool.not_eq_true',
      UInt8.le_iff_toNat_le, UInt8.lt_iff_toNat_lt] at hplain
    obtain ⟨⟨hlow, hhigh⟩, hfree⟩ := hplain
    have hlow : 0x20 ≤ b.toNat := hlow
    have hhigh : b.toNat < 0x7F := hhigh
    obtain ⟨d, hd, hbyte⟩ := List.mem_flatMap.mp hb
    have hchar : (Percent.byteChar b).toNat = b.toNat := toNat_ofNat (by omega)
    have hsame : d.toNat = b.toNat := toNat_of_mem_utf8EncodeChar hbyte (by omega)
    have hcd : c = d := by
      rw [hc, ← Char.toNat_inj, hchar, hsame]
    have hmem : c ∉ forbidden := by
      rw [hc, ← List.contains_iff_mem, hfree]
      exact Bool.false_ne_true
    exact .inl ⟨hcd ▸ hd, hmem, by rw [hcd, hsame]; exact hlow, by rw [hcd, hsame]; exact hhigh⟩
  | false =>
    have hb : b.toNat < 256 := b.toNat_lt
    have hhigh : b.toNat / 16 ∈ List.range 16 := List.mem_range.mpr (by omega)
    have hlow : b.toNat % 16 ∈ List.range 16 := List.mem_range.mpr (by omega)
    simp only [hplain, Bool.false_eq_true, if_false, Percent.escape, List.mem_cons,
      List.not_mem_nil, or_false] at hc
    rcases hc with rfl | rfl | rfl
    · exact .inr (.inl rfl)
    · exact .inr (.inr ⟨_, hhigh, rfl⟩)
    · exact .inr (.inr ⟨_, hlow, rfl⟩)

-- Segments that a written path shows one by one.
def IsSpelt (segments : List String) : Prop :=
  segments ≠ [] ∧ ∀ segment ∈ segments, '/' ∉ segment.toList

theorem mem_leaveLast {segments : List String} {segment : String}
    (h : segment ∈ leaveLast segments) : segment ∈ segments := by
  rw [leaveLast] at h
  split at h
  · split at h
    · exact h
    · exact (List.dropLast_sublist segments).subset h
  · exact (List.not_mem_nil h).elim

theorem mem_takeSegment {segments : List String} {isLast : Bool} {taken segment : String}
    (h : segment ∈ takeSegment segments isLast taken) :
    segment ∈ segments ∨ segment = taken ∨ segment = "" := by
  rw [takeSegment] at h
  split at h
  · cases isLast with
    | true =>
      rcases List.mem_append.mp h with h | h
      · exact .inl h
      · exact .inr (.inr (List.mem_singleton.mp h))
    | false => exact .inl h
  · cases isLast with
    | true =>
      rcases List.mem_append.mp h with h | h
      · exact .inl (mem_leaveLast h)
      · exact .inr (.inr (List.mem_singleton.mp h))
    | false => exact .inl (mem_leaveLast h)
  · rcases List.mem_append.mp h with h | h
    · exact .inl h
    · exact .inr (.inl (List.mem_singleton.mp h))

-- The last segment of a path leaves something behind, if only an open end.
theorem takeSegment_last_ne_nil (segments : List String) (last : String) :
    takeSegment segments true last ≠ [] := by
  rw [takeSegment]
  split <;> simp

theorem slashFree_takeSegment {segments : List String} {taken : String} (isLast : Bool)
    (h : ∀ segment ∈ segments, '/' ∉ segment.toList) (htaken : '/' ∉ taken.toList) :
    ∀ segment ∈ takeSegment segments isLast taken, '/' ∉ segment.toList := by
  intro segment hsegment
  rcases mem_takeSegment hsegment with hold | rfl | rfl
  · exact h segment hold
  · exact htaken
  · decide

theorem isSpelt_takeSegments {segments taken : List String} (htaken : IsSpelt taken)
    (h : ∀ segment ∈ segments, '/' ∉ segment.toList) : IsSpelt (takeSegments segments taken) := by
  obtain ⟨hne, hfree⟩ := htaken
  induction taken generalizing segments with
  | nil => exact absurd rfl hne
  | cons first rest ih =>
    obtain ⟨hfirst, hrest⟩ := List.forall_mem_cons.mp hfree
    cases rest with
    | nil => exact ⟨takeSegment_last_ne_nil segments first, slashFree_takeSegment true h hfirst⟩
    | cons next more =>
      exact ih (slashFree_takeSegment false h hfirst) (List.cons_ne_nil next more) hrest

theorem isSpelt_readSegments (webLike : Bool) (cs : List Char) :
    IsSpelt (readSegments webLike cs) := by
  rw [readSegments]
  generalize (cs.map fun c => if isSlash webLike c then '/' else c) = slashed
  refine isSpelt_takeSegments ⟨?_, ?_⟩ (fun _ h => (List.not_mem_nil h).elim)
  · rw [ne_eq, List.map_eq_nil_iff]
    exact splitOn_ne_nil '/' slashed
  · intro segment hsegment hslash
    obtain ⟨field, hfield, rfl⟩ := List.mem_map.mp hsegment
    have hdigits : ∀ n ∈ List.range 16, '/' ≠ upperHex n := by
      decide
    rcases mem_escape hslash with ⟨hmem, -, -, -⟩ | hmark | ⟨n, hn, hdigit⟩
    · exact not_mem_of_mem_splitOn hfield hmem
    · exact absurd hmark (by decide)
    · exact hdigits n hn hdigit

theorem readPath_eq (cs : List Char) :
    ∃ segments, readPath true cs = .segments segments ∧ IsSpelt segments := by
  cases cs with
  | nil => exact ⟨[""], rfl, by decide, by decide⟩
  | cons c rest => exact ⟨_, rfl, isSpelt_readSegments true _⟩

theorem path_of_readWithAuthority {scheme : String} {cs : List Char} {u : Url}
    (h : readWithAuthority scheme cs = .ok u) : u.scheme = scheme ∧ (isWebLike scheme = true →
      ∃ segments, u.path = .segments segments ∧ IsSpelt segments) := by
  simp only [readWithAuthority] at h
  split at h
  · cases h
  · obtain ⟨authority, -, hu⟩ := bind_eq_ok_iff.mp h
    cases hu
    refine ⟨rfl, ?_⟩
    intro hlike
    rw [hlike]
    exact readPath_eq _

theorem scheme_of_readFile {cs : List Char} {u : Url} (h : readFile cs = .ok u) :
    u.scheme = "file" := by
  cases cs with
  | nil =>
    cases h
    rfl
  | cons first more =>
    cases more with
    | nil =>
      cases h
      rfl
    | cons second rest =>
      rw [readFile] at h
      split at h
      · simp only at h
        split at h
        · cases h
          rfl
        · obtain ⟨host, -, hu⟩ := bind_eq_ok_iff.mp h
          cases hu
          rfl
      · cases h
        rfl

theorem path_of_read {text : String} {u : Url} (h : read text = .ok u) (hweb : u.isWeb = true) :
    ∃ segments, u.path = .segments segments ∧ IsSpelt segments := by
  obtain ⟨hlike, hfile⟩ := isWebLike_of_isWeb hweb
  rw [read, readChars] at h
  split at h
  · cases h
  · rename_i scheme rest hscheme
    split at h
    · exact absurd (scheme_of_readFile h) hfile
    · split at h
      · rename_i hlike'
        exact (path_of_readWithAuthority h).2 hlike'
      · -- No other scheme is one of the web.
        rename_i hother
        split at h
        · rw [(path_of_readWithAuthority h).1] at hlike
          exact absurd hlike hother
        · cases h
          exact absurd hlike hother

theorem print_cons (first : String) (rest : List String) :
    (Path.segments (first :: rest)).print = '/' :: (first.toList ++ (Path.segments rest).print) :=
  rfl

theorem print_append (front back : List String) : (Path.segments (front ++ back)).print =
    (Path.segments front).print ++ (Path.segments back).print :=
  List.flatMap_append

theorem print_eq_nil_or_slash (segments : List String) :
    (Path.segments segments).print = [] ∨ ∃ rest, (Path.segments segments).print = '/' :: rest := by
  cases segments with
  | nil => exact .inl rfl
  | cons first rest => exact .inr ⟨_, print_cons first rest⟩

-- A written path is cut at its slashes in one way only.
theorem print_injective {a b : List String} (ha : ∀ segment ∈ a, '/' ∉ segment.toList)
    (hb : ∀ segment ∈ b, '/' ∉ segment.toList)
    (h : (Path.segments a).print = (Path.segments b).print) : a = b := by
  induction a generalizing b with
  | nil =>
    cases b with
    | nil => rfl
    | cons y ys => cases h
  | cons x xs ih =>
    cases b with
    | nil => cases h
    | cons y ys =>
      obtain ⟨hx, hxs⟩ := List.forall_mem_cons.mp ha
      obtain ⟨hy, hys⟩ := List.forall_mem_cons.mp hb
      -- The first segment is what stands before the next slash.
      have hfirst : ∀ (z : String) (zs : List String), '/' ∉ z.toList →
          (z.toList ++ (Path.segments zs).print).takeWhile (· != '/') = z.toList := by
        intro z zs hz
        have hall : ∀ c ∈ z.toList, (c != '/') = true :=
          fun c hc => bne_iff_ne.mpr (fun heq => hz (heq ▸ hc))
        rw [List.takeWhile_append_of_pos hall]
        rcases print_eq_nil_or_slash zs with hnil | ⟨rest, hslash⟩
        · rw [hnil, List.takeWhile_nil, List.append_nil]
        · rw [hslash, List.takeWhile_cons_of_neg (by decide), List.append_nil]
      rw [print_cons, print_cons, List.cons.injEq] at h
      have hxy : x.toList = y.toList := by
        rw [← hfirst x xs hx, h.2, hfirst y ys hy]
      have hrest : (Path.segments xs).print = (Path.segments ys).print := by
        have hboth := h.2
        rw [hxy] at hboth
        exact List.append_cancel_left hboth
      rw [String.toList_inj.mp hxy, ih hxs hys hrest]

end Url

end Unshare
