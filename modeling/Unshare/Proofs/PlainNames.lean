import Mathlib.Data.List.Basic
import Mathlib.Data.List.TakeWhile
import Unshare.Proofs.Computations
import Unshare.Proofs.Encodings
import Unshare.Url.Parser

namespace Unshare.Url

namespace Domain

-- The entries of a table that was looked through line by line.
theorem forall_mem_all {lines : List String} {p : List Char → Bool}
    (h : ∀ line ∈ lines, (Text.splitOn ' ' line.toList).all p = true) :
    ∀ entry ∈ Entry.all lines, p entry = true := by
  intro entry hentry
  obtain ⟨line, hline, hmem⟩ := List.mem_flatMap.mp hentry
  exact List.all_eq_true.mp (h line hline) entry hmem

def isRankBeyond (entry : List Char) : Bool :=
  0x80 ≤ (Entry.span (Entry.parts '=' entry).1).first

def isCompositeBeyond (entry : List Char) : Bool :=
  0x80 ≤ Entry.number (Entry.parts '=' entry).1 &&
    (Entry.numbers (Entry.parts '=' entry).2).getLast?.all (0x80 ≤ ·)

def isSpanBeyond (entry : List Char) : Bool :=
  0x80 ≤ (Entry.span entry).first

-- A line is taken as its characters, which the kernel reads faster than the text.
set_option maxRecDepth 4000 in
theorem isRankBeyond_of_mem : ∀ entry ∈ Entry.all Table.ranks, isRankBeyond entry = true := by
  apply forall_mem_all
  simp only [Table.ranks, List.forall_mem_cons, List.not_mem_nil, false_implies, implies_true,
    and_true]
  and_intros
  all_goals
    rw [String.toList_ofList]
    decide +kernel

set_option maxRecDepth 4000 in
theorem isCompositeBeyond_of_mem :
    ∀ entry ∈ Entry.all Table.composed, isCompositeBeyond entry = true := by
  apply forall_mem_all
  simp only [Table.composed, List.forall_mem_cons, List.not_mem_nil, false_implies, implies_true,
    and_true]
  and_intros
  all_goals
    rw [String.toList_ofList]
    decide +kernel

set_option maxRecDepth 4000 in
theorem isSpanBeyond_of_mem :
    ∀ entry ∈ Entry.all (Table.leftward ++ Table.arabicDigits), isSpanBeyond entry = true := by
  apply forall_mem_all
  simp only [Table.leftward, Table.arabicDigits, List.cons_append, List.nil_append,
    List.forall_mem_cons, List.not_mem_nil, false_implies, implies_true, and_true]
  and_intros
  all_goals
    rw [String.toList_ofList]
    decide +kernel

theorem not_holds_of_ascii {n : Nat} (h : n < 0x80) {span : Span}
    (hspan : span ∈ spans Table.leftward ++ spans Table.arabicDigits) : span.holds n = false := by
  rw [spans, spans, ← List.map_append, Entry.all, Entry.all, ← List.flatMap_append] at hspan
  obtain ⟨entry, hentry, rfl⟩ := List.mem_map.mp hspan
  have hbeyond := of_decide_eq_true (isSpanBeyond_of_mem entry hentry)
  have hlow : ¬(Entry.span entry).first ≤ n := by omega
  rw [Span.holds, decide_eq_false hlow, Bool.false_and]

theorem rank_of_ascii {n : Nat} (h : n < 0x80) : rank n = 0 := by
  rw [rank, List.find?_eq_none.mpr]
  · rfl
  · intro entry hentry
    obtain ⟨text, htext, rfl⟩ := List.mem_map.mp hentry
    have hbeyond := of_decide_eq_true (isRankBeyond_of_mem text htext)
    simp only [Span.holds, Bool.and_eq_true, decide_eq_true_eq]
    omega

theorem beyond_of_mem_composites {n base mark : Nat} (h : (n, base, mark) ∈ composites) :
    0x80 ≤ n ∧ 0x80 ≤ mark := by
  obtain ⟨text, htext, hread⟩ := List.mem_filterMap.mp h
  have hbeyond := isCompositeBeyond_of_mem text htext
  simp only [isCompositeBeyond, Bool.and_eq_true, decide_eq_true_eq] at hbeyond
  simp only at hread
  split at hread
  · rename_i hnumbers
    cases hread
    rw [hnumbers] at hbeyond
    exact ⟨hbeyond.1, of_decide_eq_true hbeyond.2⟩
  · cases hread

theorem decompose_of_ascii {n : Nat} (h : n < 0x80) (depth : Nat) : decompose depth n = [n] := by
  cases depth with
  | zero => rfl
  | succ depth =>
    have hlow : ¬Syllable.base ≤ n := by
      rw [Syllable.base]
      omega
    have hparts : Syllable.parts? n = none := by
      rw [Syllable.parts?, if_neg fun hwithin => hlow hwithin.1]
    have hnone : composites.lookup n = none := by
      rw [List.lookup_eq_none_iff]
      intro entry hentry
      have hbeyond := beyond_of_mem_composites hentry
      simp only [bne_iff_ne]
      omega
    unfold decompose
    rw [hparts, hnone]

theorem join?_of_ascii {left right : Nat} (hleft : left < 0x80) (hright : right < 0x80) :
    join? left right = none := by
  have hsyllable : Syllable.join? left right = none := by
    have hleading : ¬Syllable.leading ≤ left := by
      rw [Syllable.leading]
      omega
    have hbase : ¬Syllable.base ≤ left := by
      rw [Syllable.base]
      omega
    rw [Syllable.join?, if_neg fun hwithin => hleading hwithin.1,
      if_neg fun hwithin => hbase hwithin.1]
  rw [join?, hsyllable, List.find?_eq_none.mpr]
  · rfl
  · intro entry hentry
    have hbeyond := beyond_of_mem_composites hentry
    simp only [Bool.and_eq_true, beq_iff_eq]
    omega

-- Characters of ASCII are not reordered.
theorem settleAll_of_ascii {text : List Nat} (h : ∀ n ∈ text, n < 0x80) : settleAll text = text := by
  have hfold : ∀ settled, text.foldl (fun settled n => settle n settled) settled =
      text.reverse ++ settled := by
    induction text with
    | nil => exact fun _ => rfl
    | cons n rest ih =>
      obtain ⟨hn, hrest⟩ := List.forall_mem_cons.mp h
      intro settled
      have hsettle : settle n settled = n :: settled := by
        cases settled with
        | nil => rfl
        | cons last more => rw [settle, rank_of_ascii hn, if_neg fun hranked => by omega]
      rw [List.foldl_cons, hsettle, ih hrest, List.reverse_cons, List.append_assoc]
      rfl
  rw [settleAll, hfold, List.append_nil, List.reverse_reverse]

-- Nothing is put together: the character before each one is left as it is.
theorem foldl_step_of_ascii {text : List Nat} (h : ∀ n ∈ text, n < 0x80) (finished : List Nat)
    {base : Nat} (hbase : base < 0x80) :
    (text.foldl Joining.step ⟨finished, some base, []⟩).text =
      finished.reverse ++ base :: text := by
  induction text generalizing finished base with
  | nil => simp [Joining.text]
  | cons n rest ih =>
    obtain ⟨hn, hrest⟩ := List.forall_mem_cons.mp h
    have hstep : Joining.step ⟨finished, some base, []⟩ n = ⟨base :: finished, some n, []⟩ := by
      simp [Joining.step, Joining.reaches, join?_of_ascii hbase hn, rank_of_ascii hn]
    rw [List.foldl_cons, hstep, ih hrest _ hn, List.reverse_cons, List.append_assoc]
    rfl

theorem joinAll_of_ascii {text : List Nat} (h : ∀ n ∈ text, n < 0x80) : joinAll text = text := by
  cases text with
  | nil => rfl
  | cons n rest =>
    obtain ⟨hn, hrest⟩ := List.forall_mem_cons.mp h
    have hstep : Joining.step ⟨[], none, []⟩ n = ⟨[], some n, []⟩ := by
      simp [Joining.step, rank_of_ascii hn]
    rw [joinAll, List.foldl_cons, hstep, foldl_step_of_ascii hrest [] hn]
    rfl

theorem compose_of_ascii {cs : List Char} (h : ∀ c ∈ cs, c.toNat < 0x80) : compose cs = cs := by
  have hparts : (cs.flatMap fun c => decompose 4 c.toNat) = cs.map Char.toNat := by
    rw [List.map_eq_flatMap]
    exact List.flatMap_congr fun c hc => decompose_of_ascii (h c hc) 4
  have hnumbers : ∀ n ∈ cs.map Char.toNat, n < 0x80 := List.forall_mem_map.mpr h
  rw [compose, hparts, settleAll_of_ascii hnumbers, joinAll_of_ascii hnumbers, List.map_map]
  exact List.map_id'' Char.ofNat_toNat cs

theorem toNat_lower_lt {c : Char} (h : c.toNat < 0x80) : (lower c).toNat < 0x80 := by
  rw [lower]
  split
  · rename_i hcapital
    have hlast : c.toNat ≤ 'Z'.toNat := hcapital.2
    rw [Text.toNat_ofNat (by omega)]
    have hz : 'Z'.toNat = 90 := rfl
    omega
  · exact h

theorem flatMap_replaced_of_ascii {cs : List Char} (h : ∀ c ∈ cs, c.toNat < 0x80) :
    cs.flatMap replaced = cs.map lower := by
  rw [List.map_eq_flatMap]
  exact List.flatMap_congr fun c hc => if_pos (h c hc)

theorem not_turnsName_of_ascii {c : Char} (h : c.toNat < 0x80) :
    (Direction.ofChar c).turnsName = false := by
  rw [Direction.ofChar]
  generalize hfind : Direction.spans.find? _ = found
  cases found with
  | none => rfl
  | some found =>
    obtain ⟨direction, list⟩ := found
    have hfound := List.find?_some hfind
    obtain ⟨span, hspan, hholds⟩ := List.any_eq_true.mp hfound
    have hmem := List.mem_of_find?_eq_some hfind
    simp only [Direction.spans, List.mem_cons, Prod.mk.injEq, List.not_mem_nil, or_false] at hmem
    rcases hmem with ⟨rfl, rfl⟩ | ⟨rfl, rfl⟩ | ⟨rfl, -⟩ | ⟨rfl, -⟩ | ⟨rfl, -⟩
    · rw [not_holds_of_ascii h (List.mem_append_left _ hspan)] at hholds
      cases hholds
    · rw [not_holds_of_ascii h (List.mem_append_right _ hspan)] at hholds
      cases hholds
    · rfl
    · rfl
    · rfl

theorem directionsFit_of_ascii {labels : List (List Char)}
    (h : ∀ label ∈ labels, ∀ c ∈ label, c.toNat < 0x80) : directionsFit labels = true := by
  have hnone : (labels.map fun label => label.map Direction.ofChar).any
      (·.any Direction.turnsName) = false := by
    rw [List.any_eq_false]
    intro directions hdirections
    obtain ⟨label, hlabel, rfl⟩ := List.mem_map.mp hdirections
    rw [Bool.not_eq_true, List.any_eq_false]
    intro direction hdirection
    obtain ⟨c, hc, rfl⟩ := List.mem_map.mp hdirection
    rw [not_turnsName_of_ascii (h label hlabel c hc)]
    exact Bool.false_ne_true
  rw [directionsFit, hnone]
  rfl

theorem mem_joinWith {fields : List (List Char)} {field : List Char} {sep c : Char}
    (hfield : field ∈ fields) (hc : c ∈ field) : c ∈ Text.joinWith sep fields := by
  fun_induction Text.joinWith sep fields with
  | case1 => cases hfield
  | case2 only =>
    rw [List.mem_singleton.mp hfield] at hc
    exact hc
  | case3 first next rest ih =>
    rcases List.mem_cons.mp hfield with rfl | hrest
    · exact List.mem_append_left _ hc
    · exact List.mem_append_right _ (List.mem_cons_of_mem _ (ih hrest))

-- Labels in ASCII stand for themselves, but for those that are written for others.
theorem labelMeant?_of_ascii {label : List Char} (h : isAscii label = true)
    (hplain : ¬"xn--".toList <+: label) : labelMeant? label = some label := by
  unfold labelMeant?
  split
  · exact (hplain ⟨_, rfl⟩).elim
  · rw [h]
    rfl

theorem toAscii?_of_ascii {cs : List Char} (hascii : ∀ c ∈ cs, c.toNat < 0x80)
    (hplain : ∀ label ∈ Text.splitOn '.' (cs.map lower), ¬"xn--".toList <+: label)
    (hallowed : ∀ c ∈ cs, isAllowed (lower c) = true) :
    toAscii? (Text.Utf8.encodeChars cs) = some (cs.map lower) := by
  have hlowered : ∀ c ∈ cs.map lower, c.toNat < 0x80 :=
    List.forall_mem_map.mpr fun c hc => toNat_lower_lt (hascii c hc)
  have hlabels : ∀ label ∈ Text.splitOn '.' (cs.map lower), ∀ c ∈ label, c.toNat < 0x80 := by
    intro label hlabel c hc
    apply hlowered
    rw [← Text.joinWith_splitOn '.' (cs.map lower)]
    exact mem_joinWith hlabel hc
  have hwritten : ∀ label ∈ Text.splitOn '.' (cs.map lower), isAscii label = true :=
    fun label hlabel => List.all_eq_true.mpr fun c hc => decide_eq_true (hlabels label hlabel c hc)
  have hmeant : (Text.splitOn '.' (cs.map lower)).mapM labelMeant? =
      some (Text.splitOn '.' (cs.map lower)) := by
    rw [Json.mapM_eq_some_iff, List.forall₂_same]
    exact fun label hlabel => labelMeant?_of_ascii (hwritten label hlabel) (hplain label hlabel)
  have hkept : (Text.splitOn '.' (cs.map lower)).map labelToAscii =
      Text.splitOn '.' (cs.map lower) := by
    have hsame : ∀ label ∈ Text.splitOn '.' (cs.map lower), labelToAscii label = id label :=
      fun label hlabel => if_pos (hwritten label hlabel)
    rw [List.map_congr_left hsame, List.map_id]
  have hname : Text.Utf8.decode? (Text.Utf8.encodeChars cs) = some (String.ofList cs) := by
    rw [Text.Utf8.decode?_eq_some_iff, Text.Utf8.encode, String.toList_ofList]
  have hall : (cs.map lower).all isAllowed = true :=
    List.all_eq_true.mpr (List.forall_mem_map.mpr hallowed)
  simp only [toAscii?, hname, Option.bind_eq_bind, Option.bind_some, String.toList_ofList,
    flatMap_replaced_of_ascii hascii, compose_of_ascii hlowered, hmeant, hkept,
    Text.joinWith_splitOn, directionsFit_of_ascii hlabels, hall, Bool.and_self, if_true]

theorem isAllowed_iff {c : Char} :
    isAllowed c = true ↔ (0x20 < c.toNat ∧ c.toNat < 0x7F) ∧ c ∉ forbidden := by
  simp [isAllowed]

theorem isAllowed_lower {c : Char} (h : isAllowed c = true) : isAllowed (lower c) = true := by
  rw [lower]
  split
  · rename_i hcapital
    have hsmall : ∀ n ∈ List.range 26, isAllowed (Char.ofNat (n + 97)) = true := by decide
    have hfirst : 65 ≤ c.toNat := hcapital.1
    have hlast : c.toNat ≤ 90 := hcapital.2
    have hnumber : c.toNat + 32 = c.toNat - 65 + 97 := by omega
    rw [hnumber]
    exact hsmall _ (List.mem_range.mpr (by omega))
  · exact h

end Domain

-- A name in ASCII that is no address and has no label that stands for another.
structure IsPlainName (name : List Char) : Prop where
  nonempty : name ≠ []
  allowed : ∀ c ∈ name, Domain.isAllowed c = true
  meant : ∀ label ∈ Text.splitOn '.' (name.map Domain.lower), ¬"xn--".toList <+: label
  unnumbered : Host.endsInNumber (name.map Domain.lower) = false

theorem decodeChars_of_not_mem {cs : List Char} (h : ∀ c ∈ cs, c.toNat < 0x80 ∧ c ≠ '%') :
    Text.Percent.decodeChars cs = Text.Utf8.encodeChars cs := by
  induction cs with
  | nil => rfl
  | cons c rest ih =>
    obtain ⟨⟨hascii, hmark⟩, hrest⟩ := List.forall_mem_cons.mp h
    have hbyte : UInt8.ofNat c.toNat ≠ 0x25 := by
      intro heq
      have hn := congrArg UInt8.toNat heq
      rw [UInt8.toNat_ofNat', Nat.mod_eq_of_lt (by omega)] at hn
      exact hmark (Char.toNat_inj.mp hn)
    rw [Text.Percent.decodeChars, Text.Utf8.encodeChars_cons_of_ascii hascii,
      Text.Percent.decodeBytes_cons_of_ne hbyte]
    exact congrArg _ (ih hrest)

namespace IsPlainName

variable {name : List Char} (h : IsPlainName name)

include h

theorem not_mem {c : Char} (hc : c ∈ Domain.forbidden) : c ∉ name :=
  fun hmem => (Domain.isAllowed_iff.mp (h.allowed c hmem)).2 hc

theorem readWeb_eq : Host.readWeb name = .ok (.name (String.ofList (name.map Domain.lower))) := by
  have hbytes : Text.Percent.decodeChars name = Text.Utf8.encodeChars name := by
    apply decodeChars_of_not_mem
    intro c hc
    obtain ⟨⟨-, hascii⟩, hfree⟩ := Domain.isAllowed_iff.mp (h.allowed c hc)
    exact ⟨Nat.lt_succ_of_lt hascii, fun hmark => hfree (by rw [hmark]; decide)⟩
  have hdomain := Domain.toAscii?_of_ascii
    (fun c hc => Nat.lt_succ_of_lt (Domain.isAllowed_iff.mp (h.allowed c hc)).1.2) h.meant
    fun c hc => Domain.isAllowed_lower (h.allowed c hc)
  unfold Host.readWeb
  split
  · exact absurd rfl h.nonempty
  · exact absurd List.mem_cons_self (h.not_mem (by decide))
  · rw [hbytes, hdomain]
    split
    · rename_i hnone
      cases hnone
    · rename_i hempty
      exact absurd (List.map_eq_nil_iff.mp (Option.some.inj hempty)) h.nonempty
    · rename_i domain hsome
      rw [← Option.some.inj hsome, h.unnumbered]
      rfl

theorem breakAtLastAt_eq : breakAtLastAt name = (none, name) := by
  have hall : ∀ c ∈ name.reverse, decide (c ≠ '@') = true := by
    intro c hc
    exact decide_eq_true fun hat => h.not_mem (by decide) (hat ▸ List.mem_reverse.mp hc)
  rw [breakAtLastAt, List.takeWhile_eq_self_iff.mpr hall, List.reverse_reverse]
  exact if_pos rfl

theorem breakHost_eq : breakHost false name = (name, none) := by
  have hfree : ':' ∉ name ∧ '[' ∉ name := ⟨h.not_mem (by decide), h.not_mem (by decide)⟩
  clear h
  induction name with
  | nil => rfl
  | cons c rest ih =>
    simp only [List.mem_cons, not_or] at hfree
    obtain ⟨⟨hcolon, hcolons⟩, hbracket, hbrackets⟩ := hfree
    rw [breakHost, if_neg fun hends => hcolon hends.1.symm, if_neg fun hopens =>
      hbracket hopens.symm, ite_self, ih ⟨hcolons, hbrackets⟩]

theorem readAuthority_eq {scheme : String} (hlike : isWebLike scheme = true) :
    readAuthority scheme name =
      .ok ⟨"", none, .name (String.ofList (name.map Domain.lower)), none, []⟩ := by
  have hnamed : Host.name (String.ofList (name.map Domain.lower)) ≠ .name "" := by
    intro hempty
    have hnil := congrArg String.toList (Host.name.inj hempty)
    rw [String.toList_ofList, String.toList_empty] at hnil
    exact h.nonempty (List.map_eq_nil_iff.mp hnil)
  have hcredentials : readCredentials [] = ("", none) := by decide
  simp only [readAuthority, h.breakAtLastAt_eq, h.breakHost_eq, hlike, readHost, if_true,
    Option.getD_none, hcredentials]
  refine bind_eq_ok_iff.mpr ⟨_, h.readWeb_eq, ?_⟩
  rw [if_neg fun hempty => hnamed hempty.1]
  rfl

variable {scheme : String} (hlike : isWebLike scheme = true) {path : List Char}
  (hpath : path.head?.all (endsAuthority true) = true)

include hlike hpath

theorem readWithAuthority_eq : readWithAuthority scheme (name ++ path) = .ok (withTail
    ⟨scheme, "", none, some (.name (String.ofList (name.map Domain.lower))), none, false,
      readPath true (path.takeWhile fun c => !endsPath c), none, none⟩
    (path.dropWhile fun c => !endsPath c)) := by
  have hname : ∀ c ∈ name, (!endsAuthority true c) = true := by
    intro c hc
    have hne : ∀ d ∈ Domain.forbidden, c ≠ d := fun d hd heq => h.not_mem hd (heq ▸ hc)
    simp [endsAuthority, isSlash, endsPath, hne '/' (by decide), hne '\\' (by decide),
      hne '?' (by decide), hne '#' (by decide)]
  have hstart : path.takeWhile (fun c => !endsAuthority true c) = [] ∧
      path.dropWhile (fun c => !endsAuthority true c) = path := by
    cases path with
    | nil => exact ⟨rfl, rfl⟩
    | cons c rest =>
      have hends : endsAuthority true c = true := hpath
      simp [hends]
  have hbare : isBareAt name path = false := by
    have hat : name ≠ ['@'] := fun hat => h.not_mem (by decide) (hat ▸ List.mem_singleton_self '@')
    simp [isBareAt, hat]
  simp only [readWithAuthority, hlike, List.takeWhile_append_of_pos hname, hstart.1,
    List.append_nil, List.dropWhile_append_of_pos hname, hstart.2, hbare, Bool.false_eq_true,
    if_false]
  exact bind_eq_ok_iff.mpr ⟨_, h.readAuthority_eq hlike, rfl⟩

-- A URL whose host is such a name is read, its path, query and fragment whatever they are.
theorem read_eq {text : String} {rest : List Char} (hfile : scheme ≠ "file")
    (hscheme : breakScheme? (significant text.toList) = some (scheme, rest))
    (hrest : rest.dropWhile (isSlash true) = name ++ path) : read text = .ok (withTail
    ⟨scheme, "", none, some (.name (String.ofList (name.map Domain.lower))), none, false,
      readPath true (path.takeWhile fun c => !endsPath c), none, none⟩
    (path.dropWhile fun c => !endsPath c)) := by
  rw [read, readChars, hscheme]
  simp only
  rw [if_neg hfile, if_pos hlike, hrest, h.readWithAuthority_eq hlike hpath]

end IsPlainName

end Unshare.Url
