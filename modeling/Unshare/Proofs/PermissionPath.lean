import Unshare.Graph.Client
import Unshare.Proofs.Landing
import Unshare.Proofs.Sending

namespace Unshare.Graph

open Url Text

-- The segments of a path without one empty segment at their end.
def front (segments : List String) : List String :=
  if segments.getLast? = some "" then segments.dropLast else segments

-- Whether the segments behind the front ones stand for the parts of a permission's address.
def LeadsTo (front : List String) (id : GrantId) (path : List String) : Prop :=
  ∃ own, path = front ++ own ∧ own.map said = (segmentsOf id).map Utf8.encode

-- A permission whose parts are held by a path as they are.
def IsAddressable (id : GrantId) : Prop :=
  IsHeld id.drive ∧ IsHeld id.item ∧ IsHeld id.permission

-- The path that a permission's URL has above these segments.
def landed (segments : List String) (id : GrantId) : List String :=
  openEnd (openEnd (openEnd (closeEnd segments) ++ landing "drives" id.drive) ++
    landing "items" id.item) ++ landing "permissions" id.permission

theorem permissionUrl_eq {base : Url} {segments : List String} (hweb : base.isWeb = true)
    (hpath : base.path = .segments segments) (id : GrantId) :
    permissionUrl base id = .ok { base with path := .segments (landed segments id) } := by
  obtain ⟨hlike, hfile⟩ := isWebLike_of_isWeb hweb
  have hdrives : IsName "drives" := by decide
  have hitems : IsName "items" := by decide
  have hpermissions : IsName "permissions" := by decide
  simp only [permissionUrl, extend?, hpath, segmentsOf, List.foldl_cons, List.foldl_nil,
    addSegment_addSegment hlike hfile hdrives, addSegment_addSegment hlike hfile hitems,
    addSegment_addSegment hlike hfile hpermissions]
  rfl

-- The root with a slash behind it is the only path that loses a segment more than its empty end.
theorem openEnd_closeEnd (segments : List String) :
    openEnd (closeEnd segments) = if segments = ["", ""] then [] else front segments := by
  by_cases hroot : segments = ["", ""]
  · subst hroot
    decide
  · rw [if_neg hroot, front]
    by_cases hlast : segments.getLast? = some ""
    · obtain ⟨before, rfl⟩ := List.getLast?_eq_some_iff.mp hlast
      rw [if_pos hlast, List.dropLast_concat]
      cases before with
      | nil => decide
      | cons first rest =>
        have hne : first :: rest ≠ [""] := by
          intro h
          rw [h] at hroot
          exact hroot rfl
        have hclose : closeEnd (first :: rest ++ [""]) = first :: rest := by
          rw [closeEnd, if_pos ⟨by simp, hlast⟩, List.dropLast_concat]
        rw [hclose, openEnd, if_neg hne]
    · have hclose : closeEnd segments = segments := by
        rw [closeEnd, if_neg (fun h => hlast h.2)]
      have hne : segments ≠ [""] := by
        intro h
        rw [h] at hlast
        exact hlast rfl
      rw [if_neg hlast, hclose, openEnd, if_neg hne]

-- Six segments are the most that a permission adds, and if it adds them nothing was left out or
-- left on the way.
theorem landed_of_length_le {segments : List String} {id : GrantId}
    (h : (openEnd (closeEnd segments)).length + 6 ≤ (landed segments id).length) :
    landed segments id = openEnd (closeEnd segments) ++ (landing "drives" id.drive ++
      (landing "items" id.item ++ landing "permissions" id.permission)) ∧
      (landing "drives" id.drive).length = 2 ∧ (landing "items" id.item).length = 2 := by
  rw [landed] at h ⊢
  generalize openEnd (closeEnd segments) = before at h ⊢
  have hdrive := length_landing_le "drives" id.drive
  have hitem := length_landing_le "items" id.item
  have hpermission := length_landing_le "permissions" id.permission
  have hfirst := length_openEnd_le (before ++ landing "drives" id.drive)
  have hsecond := length_openEnd_le
    (openEnd (before ++ landing "drives" id.drive) ++ landing "items" id.item)
  simp only [List.length_append] at h hfirst hsecond
  have hkeep₁ : openEnd (before ++ landing "drives" id.drive) =
      before ++ landing "drives" id.drive := by
    apply openEnd_of_length_le
    rw [List.length_append]
    omega
  rw [hkeep₁] at h hsecond
  have hkeep₂ : openEnd (before ++ landing "drives" id.drive ++ landing "items" id.item) =
      before ++ landing "drives" id.drive ++ landing "items" id.item := by
    apply openEnd_of_length_le
    simp only [List.length_append] at hsecond ⊢
    omega
  rw [hkeep₂] at h
  simp only [List.length_append] at h
  refine ⟨?_, by omega, by omega⟩
  rw [hkeep₁, hkeep₂, List.append_assoc, List.append_assoc]

theorem length_landed_le (segments : List String) (id : GrantId) :
    (landed segments id).length ≤ (openEnd (closeEnd segments)).length + 6 := by
  have hdrive := length_landing_le "drives" id.drive
  have hitem := length_landing_le "items" id.item
  have hpermission := length_landing_le "permissions" id.permission
  have hfirst := length_openEnd_le (openEnd (closeEnd segments) ++ landing "drives" id.drive)
  have hsecond := length_openEnd_le
    (openEnd (openEnd (closeEnd segments) ++ landing "drives" id.drive) ++ landing "items" id.item)
  simp only [landed, List.length_append] at hfirst hsecond ⊢
  omega

theorem landed_of_isAddressable {id : GrantId} (h : IsAddressable id) (segments : List String) :
    landed segments id = openEnd (closeEnd segments) ++ ["drives", webSegment id.drive.toList,
      "items", webSegment id.item.toList, "permissions", webSegment id.permission.toList] := by
  obtain ⟨hdrive, hitem, hpermission⟩ := h
  have hkeep : ∀ (before : List String) (name text : String),
      openEnd (before ++ [name, text]) = before ++ [name, text] := by
    intro before name text
    rw [openEnd, if_neg]
    intro h
    have hlen := congrArg List.length h
    simp at hlen
  rw [landed, landing_of_isHeld hdrive, landing_of_isHeld hitem, landing_of_isHeld hpermission,
    hkeep, hkeep]
  simp only [List.append_assoc, List.cons_append, List.nil_append]

theorem leadsTo_landed_iff (segments : List String) (id : GrantId) :
    LeadsTo (front segments) id (landed segments id) ↔
      segments ≠ ["", ""] ∧ IsAddressable id := by
  have hdrives : said "drives" = Utf8.encode "drives" := by decide
  have hitems : said "items" = Utf8.encode "items" := by decide
  have hpermissions : said "permissions" = Utf8.encode "permissions" := by decide
  constructor
  · rintro ⟨own, hpath, hown⟩
    have hsix : own.length = 6 := by
      have hlen := congrArg List.length hown
      simpa [segmentsOf] using hlen
    have hlen := congrArg List.length hpath
    rw [List.length_append, hsix] at hlen
    have hroot : segments ≠ ["", ""] := by
      rintro rfl
      have hle := length_landed_le ["", ""] id
      have hopen : (openEnd (closeEnd ["", ""])).length = 0 := by decide
      have hfront : (front ["", ""]).length = 1 := by decide
      omega
    have hopen : openEnd (closeEnd segments) = front segments := by
      rw [openEnd_closeEnd, if_neg hroot]
    have hmost : (openEnd (closeEnd segments)).length + 6 ≤ (landed segments id).length := by
      rw [hopen]
      exact Nat.le_of_eq hlen.symm
    obtain ⟨hlanded, hdrive, hitem⟩ := landed_of_length_le hmost
    rw [hlanded, hopen] at hpath
    have hparts := List.append_cancel_left hpath
    have hown : (landing "drives" id.drive).map said ++ ((landing "items" id.item).map said ++
        (landing "permissions" id.permission).map said) =
        [Utf8.encode "drives", Utf8.encode id.drive] ++ ([Utf8.encode "items",
          Utf8.encode id.item] ++ [Utf8.encode "permissions", Utf8.encode id.permission]) := by
      rw [← List.map_append, ← List.map_append, hparts, hown]
      rfl
    obtain ⟨hd, hrest⟩ := List.append_inj hown (by rw [List.length_map, hdrive]; rfl)
    obtain ⟨hi, hp⟩ := List.append_inj hrest (by rw [List.length_map, hitem]; rfl)
    exact ⟨hroot, (said_landing_iff hdrives _).mp hd, (said_landing_iff hitems _).mp hi,
      (said_landing_iff hpermissions _).mp hp⟩
  · rintro ⟨hroot, hid⟩
    have hpath := landed_of_isAddressable hid segments
    rw [openEnd_closeEnd, if_neg hroot] at hpath
    refine ⟨_, hpath, ?_⟩
    simp only [List.map_cons, List.map_nil, said_webSegment, hdrives, hitems, hpermissions]
    rfl

-- A permission shares its path with those whose parts differ in dropped characters only.
theorem landed_eq_iff {id : GrantId} (hid : IsAddressable id) (segments : List String)
    (other : GrantId) : landed segments other = landed segments id ↔
      kept other.drive = id.drive.toList ∧ kept other.item = id.item.toList ∧
        kept other.permission = id.permission.toList := by
  have hlanded := landed_of_isAddressable hid segments
  obtain ⟨hdrive, hitem, hpermission⟩ := hid
  constructor
  · intro h
    have hlen := congrArg List.length (h.trans hlanded)
    rw [List.length_append] at hlen
    obtain ⟨hparts, hd, hi⟩ := landed_of_length_le (Nat.le_of_eq hlen.symm)
    rw [h, hlanded] at hparts
    have hown : landing "drives" other.drive ++
        (landing "items" other.item ++ landing "permissions" other.permission) =
        ["drives", webSegment id.drive.toList] ++ (["items", webSegment id.item.toList] ++
          ["permissions", webSegment id.permission.toList]) :=
      (List.append_cancel_left hparts).symm
    obtain ⟨hd, hrest⟩ := List.append_inj hown hd
    obtain ⟨hi, hp⟩ := List.append_inj hrest hi
    rw [← landing_of_isHeld hdrive] at hd
    rw [← landing_of_isHeld hitem] at hi
    rw [← landing_of_isHeld hpermission] at hp
    exact ⟨(landing_eq_iff hdrive id.drive_visible _).mp hd,
      (landing_eq_iff hitem id.item_visible _).mp hi,
      (landing_eq_iff hpermission id.permission_visible _).mp hp⟩
  · rintro ⟨hd, hi, hp⟩
    rw [landed, landed, (landing_eq_iff hdrive id.drive_visible _).mpr hd,
      (landing_eq_iff hitem id.item_visible _).mpr hi,
      (landing_eq_iff hpermission id.permission_visible _).mpr hp]

section Requests

variable {m : Type → Type} [Monad m]

-- An operation depends on the wire at its own method and the permission's own URL only.
theorem perform_congr_sent {c : Client m} {operation : Operation} {id : GrantId} {url : Url}
    (hurl : permissionUrl c.baseUrl id = .ok url) {wire' : Remote.Wire m}
    (h : ∀ r, r.method = operation.method → r.url = Remote.sentUrl url → wire' r = c.wire r) :
    { c with wire := wire' }.perform operation id = c.perform operation id := by
  have hsend : ∀ token, Remote.send wire' (request operation url token) =
      Remote.send c.wire (request operation url token) := by
    intro token
    apply Remote.send_congr
    apply h
    · rw [Remote.Request.normalized_method]
      rfl
    · rw [Remote.Request.normalized_url]
      rfl
  simp only [Client.perform, hurl, hsend]

theorem perform_congr {c : Client m} {operation : Operation} {id : GrantId} {url : Url}
    (hurl : permissionUrl c.baseUrl id = .ok url) {wire' : Remote.Wire m}
    (h : ∀ r, r.method = operation.method → r.url.path = url.path → wire' r = c.wire r) :
    { c with wire := wire' }.perform operation id = c.perform operation id := by
  apply perform_congr_sent hurl
  intro r hmethod hsent
  apply h r hmethod
  rw [hsent, Remote.sentUrl_path]

theorem fetch_congr {c : Client m} {id : GrantId} {url : Url}
    (hurl : permissionUrl c.baseUrl id = .ok url) {wire' : Remote.Wire m}
    (h : ∀ r, r.method = "GET" → r.url.path = url.path → wire' r = c.wire r) :
    { c with wire := wire' }.fetch id = c.fetch id := by
  have hperform : { c with wire := wire' }.perform .fetch id = c.perform .fetch id :=
    perform_congr hurl h
  simp only [Client.fetch, hperform]

theorem remove_congr {c : Client m} {id : GrantId} {url : Url}
    (hurl : permissionUrl c.baseUrl id = .ok url) {wire' : Remote.Wire m}
    (h : ∀ r, r.method = "DELETE" → r.url.path = url.path → wire' r = c.wire r) :
    { c with wire := wire' }.remove id = c.remove id := by
  have hperform : { c with wire := wire' }.perform .remove id = c.perform .remove id :=
    perform_congr hurl h
  simp only [Client.remove, hperform]

end Requests

-- Every permission has a URL that differs from the base in its path only, and the directory is
-- asked for nothing but that path. It leads to the permission exactly if a path holds the three
-- parts as they are and the base is not the root with a slash behind it; such permissions have
-- different URLs, but each shares its own with those that differ in dropped characters.
theorem permissionUrl_leadsTo_iff {base : Url} {segments : List String} (hweb : base.isWeb = true)
    (hpath : base.path = .segments segments) (id : GrantId) :
    ∃ path, permissionUrl base id = .ok { base with path := .segments path } ∧
      (LeadsTo (front segments) id path ↔ segments ≠ ["", ""] ∧ IsAddressable id) ∧
      (IsAddressable id → ∀ other,
        (permissionUrl base other = permissionUrl base id ↔
          kept other.drive = id.drive.toList ∧ kept other.item = id.item.toList ∧
            kept other.permission = id.permission.toList) ∧
        (IsAddressable other → permissionUrl base other = permissionUrl base id → other = id)) ∧
      ∀ (m : Type → Type) [Monad m] (c : Client m), c.baseUrl = base → ∀ wire' : Remote.Wire m,
        ((∀ r, r.method = "GET" → r.url.path = .segments path → wire' r = c.wire r) →
          { c with wire := wire' }.fetch id = c.fetch id) ∧
        ((∀ r, r.method = "DELETE" → r.url.path = .segments path → wire' r = c.wire r) →
          { c with wire := wire' }.remove id = c.remove id) := by
  have hurl := permissionUrl_eq hweb hpath
  refine ⟨landed segments id, hurl id, leadsTo_landed_iff segments id, ?_, ?_⟩
  · intro hid other
    have hsame : permissionUrl base other = permissionUrl base id ↔
        landed segments other = landed segments id := by
      rw [hurl, hurl]
      constructor
      · intro h
        injection h with h
        injection h with _ _ _ _ _ _ hlanded
        injection hlanded
      · intro h
        rw [h]
    rw [hsame, landed_eq_iff hid]
    refine ⟨Iff.rfl, ?_⟩
    rintro ⟨hdrive, hitem, hpermission⟩ ⟨hd, hi, hp⟩
    rw [(kept_eq_iff _).mpr hdrive.2.2] at hd
    rw [(kept_eq_iff _).mpr hitem.2.2] at hi
    rw [(kept_eq_iff _).mpr hpermission.2.2] at hp
    exact GrantId.eq_of_parts (String.toList_injective hd) (String.toList_injective hi)
      (String.toList_injective hp)
  · intro m _ c hbase wire'
    subst hbase
    exact ⟨fetch_congr (hurl id), remove_congr (hurl id)⟩

def graphBase : Url :=
  ⟨"https", "", none, some (.name "graph.microsoft.com"), none, false, .segments ["v1.0"], none,
    none⟩

def slashed : GrantId :=
  ⟨"b!1/2", "50% off", "a..b", by decide, by decide, by decide⟩

theorem permissionUrl_leadsTo_slashed : ∃ path,
    permissionUrl graphBase slashed = .ok { graphBase with path := .segments path } ∧
      LeadsTo ["v1.0"] slashed path := by
  have hpath : graphBase.path = .segments ["v1.0"] := rfl
  obtain ⟨path, hurl, hleads, -, -⟩ := permissionUrl_leadsTo_iff (by decide) hpath slashed
  have hroot : ["v1.0"] ≠ ["", ""] := by decide
  have hheld : IsAddressable slashed := by
    refine ⟨?_, ?_, ?_⟩ <;> decide
  exact ⟨path, hurl, hleads.mpr ⟨hroot, hheld⟩⟩

-- A tab in the drive, and none.
def tabbed : GrantId :=
  ⟨"a\tb", "i", "p", by decide, by decide, by decide⟩

def untabbed : GrantId :=
  ⟨"ab", "i", "p", by decide, by decide, by decide⟩

-- Two dots around a tab, which the path takes for a way up.
def climbing : GrantId :=
  ⟨"d", "i", ".\t.", by decide, by decide, by decide⟩

theorem permissionUrl_leads_elsewhere :
    (∀ path, permissionUrl graphBase tabbed = .ok { graphBase with path := .segments path } →
      ¬LeadsTo ["v1.0"] tabbed path) ∧
    (tabbed ≠ untabbed ∧ permissionUrl graphBase tabbed = permissionUrl graphBase untabbed) ∧
    permissionUrl graphBase climbing =
      .ok { graphBase with path := .segments ["v1.0", "drives", "d", "items", "i", ""] } := by
  have hpath : graphBase.path = .segments ["v1.0"] := rfl
  have hurl := permissionUrl_eq (by decide) hpath
  have hshared : landed ["v1.0"] tabbed = landed ["v1.0"] untabbed := by decide
  have hup : landed ["v1.0"] climbing = ["v1.0", "drives", "d", "items", "i", ""] := by decide
  refine ⟨?_, ⟨by decide, ?_⟩, ?_⟩
  · intro path h hleads
    rw [hurl] at h
    injection h with h
    injection h with _ _ _ _ _ _ hlanded
    injection hlanded with hlanded
    subst hlanded
    have hheld := ((leadsTo_landed_iff ["v1.0"] tabbed).mp hleads).2.1
    exact absurd hheld (by decide)
  · rw [hurl, hurl, hshared]
  · rw [hurl, hup]

end Unshare.Graph
