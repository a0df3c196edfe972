import Unshare.Proofs.PermissionPath
import Unshare.Proofs.ReadPaths

namespace Unshare

namespace Url

open Text

-- A segment that stays where it is put: it is no dot segment, and none of its characters ends a
-- segment or a path.
def IsPlain (segment : String) : Prop :=
  segmentKind segment = .plain ∧ ∀ c ∈ segment.toList,
    0x20 < c.toNat ∧ c.toNat < 0x7F ∧ c ∉ ['/', '\\', '?', '#']

instance (segment : String) : Decidable (IsPlain segment) :=
  decidable_of_iff (segmentKind segment = .plain ∧ (segment.toList.all fun c =>
      0x20 < c.toNat && c.toNat < 0x7F && decide (c ∉ ['/', '\\', '?', '#'])) = true) <| by
    simp only [IsPlain, List.all_eq_true, Bool.and_eq_true, decide_eq_true_eq, and_assoc]

-- A written path without one slash at its end.
def withoutSlash (path : List Char) : List Char :=
  if path.getLast? = some '/' then path.dropLast else path

-- Whether a URL lies under a base URL. The path `//` is a root as well.
structure IsWithin (base url : Url) : Prop where
  scheme : url.scheme = base.scheme
  host : url.host = base.host
  portNumber : url.portNumber = base.portNumber
  query : url.query = base.query
  startsWith : withoutSlash base.path.print <+: url.path.print
  goesOn : ∃ own, own ≠ [] ∧ (∀ segment ∈ own, IsPlain segment) ∧
    (url.path.print = withoutSlash base.path.print ++ (Path.segments own).print ∨
      base.path.print = ['/', '/'] ∧ url.path = .segments own)

theorem IsWithin.sentUrl {base url : Url} (h : IsWithin base url) :
    IsWithin base (Remote.sentUrl url) := by
  obtain ⟨user, password, hsent⟩ := Remote.sentUrl_eq url
  rw [hsent]
  exact ⟨h.scheme, h.host, h.portNumber, h.query, h.startsWith, h.goesOn⟩

theorem isPlain_webSegment {cs : List Char} (hhere : cs ≠ ['.']) (hparent : cs ≠ ['.', '.']) :
    IsPlain (webSegment cs) := by
  constructor
  · rw [segmentKind_webSegment, if_neg hhere, if_neg hparent]
  · intro c hc
    rcases mem_escape hc with ⟨-, hallowed, hlow, hhigh⟩ | rfl | ⟨n, hn, rfl⟩
    · have hblank : c ≠ ' ' := by
        rintro rfl
        exact hallowed (by decide)
      have hends : ['/', '\\', '?', '#'].all webSegmentForbidden.contains = true := by decide
      have hspace : c.toNat ≠ 0x20 := fun h => hblank (Char.toNat_inj.mp h)
      refine ⟨by omega, hhigh, fun hmem => hallowed ?_⟩
      exact List.contains_iff_mem.mp (List.all_eq_true.mp hends c hmem)
    · decide
    · have hdigits : ∀ n ∈ List.range 16, 0x20 < (upperHex n).toNat ∧
          (upperHex n).toNat < 0x7F ∧ upperHex n ∉ ['/', '\\', '?', '#'] := by
        decide
      exact hdigits n hn

theorem isPlain_of_mem_landing {name : String} (hname : IsPlain name) {text segment : String}
    (h : segment ∈ landing name text) : IsPlain segment := by
  have hempty : IsPlain "" := by decide
  rw [landing] at h
  split at h
  · rwa [List.mem_singleton.mp h]
  · split at h
    · simp only [List.mem_cons, List.not_mem_nil, or_false] at h
      rcases h with rfl | rfl
      · exact hname
      · exact hempty
    · split at h
      · rwa [List.mem_singleton.mp h]
      · rename_i hhere hparent
        simp only [List.mem_cons, List.not_mem_nil, or_false] at h
        rcases h with rfl | rfl
        · exact hname
        · exact isPlain_webSegment hhere hparent

theorem landing_ne_nil (name text : String) : landing name text ≠ [] := by
  rw [landing]
  split
  · exact List.cons_ne_nil _ _
  · split
    · exact List.cons_ne_nil _ _
    · split <;> exact List.cons_ne_nil _ _

-- Opening the end takes away nothing but what was added.
theorem openEnd_append {added : List String} (hne : added ≠ []) (before : List String) :
    ∃ own, openEnd (before ++ added) = before ++ own ∧ own ⊆ added := by
  by_cases hroot : before ++ added = [""]
  · have hbefore : before = [] := by
      rcases List.append_eq_singleton_iff.mp hroot with ⟨hbefore, -⟩ | ⟨-, hadded⟩
      · exact hbefore
      · exact absurd hadded hne
    refine ⟨[], ?_, List.nil_subset added⟩
    rw [openEnd, if_pos hroot, hbefore]
    rfl
  · exact ⟨added, by rw [openEnd, if_neg hroot], List.Subset.refl added⟩

theorem print_concat (before : List String) (last : String) :
    (Path.segments (before ++ [last])).print =
      (Path.segments before).print ++ '/' :: last.toList := by
  rw [print_append, print_cons]
  exact congrArg (_ ++ '/' :: ·) (List.append_nil _)

theorem print_concat_empty (before : List String) :
    (Path.segments (before ++ [""])).print = (Path.segments before).print ++ ['/'] :=
  print_concat before ""

-- Only an empty segment ends with the slash before it.
theorem getLast?_print_iff {segments : List String} (h : IsSpelt segments) :
    (Path.segments segments).print.getLast? = some '/' ↔ segments.getLast? = some "" := by
  obtain ⟨hne, hfree⟩ := h
  rcases List.eq_nil_or_concat segments with hnil | ⟨before, last, hlast⟩
  · exact absurd hnil hne
  · rw [List.concat_eq_append] at hlast
    subst hlast
    rw [print_concat, List.getLast?_concat, Option.some.injEq]
    constructor
    · intro h
      rcases List.eq_nil_or_concat last.toList with hnil | ⟨cs, c, hcs⟩
      · exact String.toList_eq_nil_iff.mp hnil
      · rw [List.concat_eq_append] at hcs
        rw [hcs, ← List.cons_append, ← List.append_assoc, List.getLast?_concat,
          Option.some.injEq] at h
        have hslash : '/' ∈ last.toList := by
          rw [hcs, h]
          exact List.mem_append_right cs (List.mem_singleton.mpr rfl)
        exact absurd hslash (hfree last (List.mem_append_right before (List.mem_singleton.mpr rfl)))
    · rintro rfl
      exact List.getLast?_concat

end Url

namespace Graph

open Url

theorem front_concat_empty (segments : List String) : front (segments ++ [""]) = segments := by
  rw [front, if_pos List.getLast?_concat, List.dropLast_concat]

theorem front_of_getLast?_ne {segments : List String} (h : segments.getLast? ≠ some "") :
    front segments = segments :=
  if_neg h

theorem print_front {segments : List String} (h : IsSpelt segments) :
    (Path.segments (front segments)).print = withoutSlash (Path.segments segments).print := by
  by_cases hlast : segments.getLast? = some ""
  · obtain ⟨before, rfl⟩ := List.getLast?_eq_some_iff.mp hlast
    rw [withoutSlash, if_pos ((getLast?_print_iff h).mpr hlast), front_concat_empty,
      print_concat_empty, List.dropLast_concat]
  · rw [withoutSlash, if_neg (fun hslash => hlast ((getLast?_print_iff h).mp hslash)),
      front_of_getLast?_ne hlast]

-- A slash at the end of a path that has none there makes no difference.
theorem openEnd_closeEnd_concat_empty {segments : List String}
    (hlast : segments.getLast? ≠ some "") :
    openEnd (closeEnd (segments ++ [""])) = openEnd (closeEnd segments) := by
  have hroot : segments ≠ ["", ""] := by
    rintro rfl
    exact hlast rfl
  have hroot' : segments ++ [""] ≠ ["", ""] := by
    intro h
    have hone : segments = [""] := List.append_cancel_right (h : segments ++ [""] = [""] ++ [""])
    rw [hone] at hlast
    exact hlast rfl
  rw [openEnd_closeEnd, openEnd_closeEnd, if_neg hroot, if_neg hroot', front_concat_empty,
    front_of_getLast?_ne hlast]

-- What a permission adds stays behind the open end, since nothing more than that can be left.
theorem landed_eq_append (segments : List String) (id : GrantId) :
    ∃ own, landed segments id = openEnd (closeEnd segments) ++ own ∧ own ≠ [] ∧
      ∀ segment ∈ own, IsPlain segment := by
  have hdrives : IsPlain "drives" := by decide
  have hitems : IsPlain "items" := by decide
  have hpermissions : IsPlain "permissions" := by decide
  obtain ⟨first, hfirst, hdrive⟩ :=
    openEnd_append (landing_ne_nil "drives" id.drive) (openEnd (closeEnd segments))
  obtain ⟨second, hsecond, hitem⟩ :=
    openEnd_append (landing_ne_nil "items" id.item) (openEnd (closeEnd segments) ++ first)
  refine ⟨first ++ second ++ landing "permissions" id.permission, ?_, ?_, ?_⟩
  · rw [landed, hfirst, hsecond]
    simp only [List.append_assoc]
  · exact List.append_ne_nil_of_right_ne_nil _ (landing_ne_nil "permissions" id.permission)
  · intro segment h
    rcases List.mem_append.mp h with h | h
    · rcases List.mem_append.mp h with h | h
      · exact isPlain_of_mem_landing hdrives (hdrive h)
      · exact isPlain_of_mem_landing hitems (hitem h)
    · exact isPlain_of_mem_landing hpermissions h

theorem isWithin_landed {base : Url} {segments : List String} (hpath : base.path = .segments segments)
    (hspelt : IsSpelt segments) (id : GrantId) :
    IsWithin base { base with path := .segments (landed segments id) } := by
  obtain ⟨own, hlanded, hne, hplain⟩ := landed_eq_append segments id
  rw [openEnd_closeEnd] at hlanded
  by_cases hroot : segments = ["", ""]
  · subst hroot
    have hprint : base.path.print = ['/', '/'] := by
      rw [hpath]
      rfl
    have hbefore : withoutSlash base.path.print = ['/'] := by
      rw [hprint]
      rfl
    rw [if_pos rfl, List.nil_append] at hlanded
    refine ⟨rfl, rfl, rfl, rfl, ?_, own, hne, hplain, .inr ⟨hprint, congrArg _ hlanded⟩⟩
    -- The segments begin with a slash of their own.
    obtain ⟨first, rest, rfl⟩ := List.exists_cons_of_ne_nil hne
    rw [hbefore, hlanded, print_cons]
    exact List.prefix_append ['/'] _
  · rw [if_neg hroot] at hlanded
    have hprint : (Path.segments (landed segments id)).print =
        withoutSlash base.path.print ++ (Path.segments own).print := by
      rw [hlanded, print_append, print_front hspelt, hpath]
    refine ⟨rfl, rfl, rfl, rfl, ?_, own, hne, hplain, .inl hprint⟩
    rw [hprint]
    exact List.prefix_append _ _

-- The URL of a permission lies under the base URL whatever the parts of its address are, a slash at
-- the end of the base's path makes no difference to it, and no other URL is asked for.
theorem permissionUrl_isWithin {text : String} {base : Url} (hread : Url.read text = .ok base)
    (hweb : base.isWeb = true) (id : GrantId) :
    ∃ url, permissionUrl base id = .ok url ∧ IsWithin base url ∧
      (∀ text' base', Url.read text' = .ok base' → base' = { base with path := base'.path } →
        base'.path.print = base.path.print ++ ['/'] → base.path.print.getLast? ≠ some '/' →
        permissionUrl base' id = .ok url) ∧
      ∀ (m : Type → Type) [Monad m] (c : Client m), c.baseUrl = base → ∀ wire' : Remote.Wire m,
        (∀ r, IsWithin base r.url → wire' r = c.wire r) →
          { c with wire := wire' }.fetch id = c.fetch id ∧
            { c with wire := wire' }.remove id = c.remove id := by
  obtain ⟨segments, hpath, hspelt⟩ := path_of_read hread hweb
  have hurl := permissionUrl_eq hweb hpath id
  have hwithin := isWithin_landed hpath hspelt id
  refine ⟨_, hurl, hwithin, ?_, ?_⟩
  · intro text' base' hread' hbase' hslashed hopen
    have hweb' : base'.isWeb = true := by
      rw [hbase']
      exact hweb
    obtain ⟨segments', hpath', hspelt'⟩ := path_of_read hread' hweb'
    have hsegments : segments' = segments ++ [""] := by
      apply print_injective hspelt'.2
      · intro segment h
        rcases List.mem_append.mp h with h | h
        · exact hspelt.2 segment h
        · rw [List.mem_singleton.mp h]
          decide
      · rw [print_concat_empty, ← hpath, ← hpath', hslashed]
    have hlast : segments.getLast? ≠ some "" := by
      intro h
      rw [hpath] at hopen
      exact hopen ((getLast?_print_iff hspelt).mpr h)
    have hlanded : landed segments' id = landed segments id := by
      rw [landed, landed, hsegments, openEnd_closeEnd_concat_empty hlast]
    rw [permissionUrl_eq hweb' hpath' id, hlanded, hbase']
  · intro m _ c hbase wire' h
    subst hbase
    have hperform : ∀ operation,
        { c with wire := wire' }.perform operation id = c.perform operation id := by
      intro operation
      apply perform_congr_sent hurl
      intro r _ hsent
      apply h
      rw [hsent]
      exact hwithin.sentUrl
    simp only [Client.fetch, Client.remove, hperform, and_self]

def loopbackBase : Url :=
  ⟨"https", "", none, some (.v6 ⟨[0, 0, 0, 0, 0, 0, 0, 1]⟩), none, false, .segments ["v1.0"],
    some "tenant=a", none⟩

-- Ways up, hidden by a tab, between slashes and behind escapes, and the ends of a path.
def hostile : GrantId :=
  ⟨".\t.", "../\\..", "%2e%2e?q#f", .refl false, .refl false, .refl false⟩

theorem permissionUrl_isWithin_hostile :
    ∃ url, permissionUrl loopbackBase hostile = .ok url ∧ IsWithin loopbackBase url := by
  have hread : Url.read "https://[::1]/v1.0?tenant=a" = .ok loopbackBase := rfl
  obtain ⟨url, hurl, hwithin, -, -⟩ := permissionUrl_isWithin hread (by decide) hostile
  exact ⟨url, hurl, hwithin⟩

end Graph

end Unshare
