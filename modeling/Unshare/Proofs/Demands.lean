import Unshare.Proofs.Bounding
import Unshare.Proofs.Lockout
import Unshare.Proofs.PlainNames
import Unshare.Proofs.ReadPaths

namespace Unshare.Settings

open Text (isBlank nonBlank)

-- What is asked of a variable: to hold the token of the service, to hold a URL of the web or nothing
-- that shows, for which the standard one stands then, or to hold something that shows.
inductive Demand.Kind
  | token
  | webUrl (standard : String)
  | visible
deriving DecidableEq

structure Demand where
  name : String
  kind : Demand.Kind
deriving DecidableEq

-- All that is asked, in the order in which it is looked for.
def demands : List Demand :=
  [⟨"ADMIN_API_TOKEN", .token⟩, ⟨"GRAPH_BASE_URL", .webUrl standardBaseUrl⟩,
   ⟨"GRAPH_AUTHORITY_URL", .webUrl standardAuthorityUrl⟩, ⟨"GRAPH_TENANT_ID", .visible⟩,
   ⟨"GRAPH_CLIENT_ID", .visible⟩, ⟨"GRAPH_CLIENT_SECRET", .visible⟩]

def byteSize (text : String) : Nat :=
  (Text.Utf8.encode text).length

-- The variable is set to the bytes of the text.
def Holds (bindings : List (String × List UInt8)) (name text : String) : Prop :=
  bindings.lookup name = some (Text.Utf8.encode text)

theorem ofBytes_eq_some_iff {bindings : List (String × List UInt8)} {name text : String} :
    Environment.ofBytes bindings name = some text ↔ Holds bindings name text := by
  rw [Environment.ofBytes, Holds]
  cases bindings.lookup name with
  | none => simp
  | some bytes => simp [Text.Utf8.decode?_eq_some_iff]

-- Whether a variable has what is asked of it, if this is the size of a token.
def Demand.IsMet (size : String → Nat) (bindings : List (String × List UInt8)) (d : Demand) : Prop :=
  match d.kind with
  | .token => ∃ text, Holds bindings d.name text ∧ isBlank text = false ∧ 32 ≤ size text
  | .webUrl _ => ∀ text, Holds bindings d.name text → isBlank text = false →
      ∃ url, Url.read (Text.trim text) = .ok url ∧ url.isWeb = true
  | .visible => ∃ text, Holds bindings d.name text ∧ isBlank text = false

-- A failure that names this variable, and of those that something is asked of no other one.
def Demand.IsNamedBy (d : Demand) (f : Failure) : Prop :=
  f.kind = .validation ∧ ∀ e ∈ demands, e.name.toList <:+: f.detail.toList ↔ e = d

-- The settings are read exactly if all that is asked is there, and otherwise the failure names the
-- first variable that does not have it.
structure FollowsDemands {α : Type} (size : String → Nat) (bindings : List (String × List UInt8))
    (result : Except Failure α) : Prop where
  accepts : (∃ settings, result = .ok settings) ↔ ∀ d ∈ demands, d.IsMet size bindings
  names : ∀ f, result = .error f → ∃ front d back, demands = front ++ d :: back ∧
    (∀ e ∈ front, e.IsMet size bindings) ∧ ¬d.IsMet size bindings ∧ d.IsNamedBy f

-- The part of reading the settings that looks after one variable.
def Demand.check (env : Environment) (d : Demand) : Except Failure Unit :=
  match d.kind with
  | .token => discard (readAdminToken env)
  | .webUrl standard => discard (webUrl env d.name standard)
  | .visible => discard (requiredVisible env d.name)

theorem discard_eq_ok_iff {ε α : Type} {act : Except ε α} :
    discard act = .ok () ↔ ∃ a, act = .ok a := by
  cases act with
  | error e => exact ⟨nofun, nofun⟩
  | ok a => exact ⟨fun _ => ⟨a, rfl⟩, fun _ => rfl⟩

theorem discard_eq_error_iff {ε α : Type} {act : Except ε α} {e : ε} :
    discard act = .error e ↔ act = .error e := by
  cases act with
  | error e' =>
    constructor
    all_goals
      rintro ⟨⟩
      rfl
  | ok a => exact ⟨nofun, nofun⟩

-- Reading the settings fails as the first of its parts that fails, and only so.
theorem discard_load (env : Environment) :
    discard (Service.load env) = discard (demands.mapM (Demand.check env)) := by
  simp only [Service.load, Graph.load, demands, List.mapM_cons, List.mapM_nil, Demand.check]
  cases readAdminToken env with
  | error f => rfl
  | ok token =>
  cases webUrl env "GRAPH_BASE_URL" standardBaseUrl with
  | error f => rfl
  | ok baseUrl =>
  cases webUrl env "GRAPH_AUTHORITY_URL" standardAuthorityUrl with
  | error f => rfl
  | ok authorityUrl =>
  cases requiredVisible env "GRAPH_TENANT_ID" with
  | error f => rfl
  | ok tenantId =>
  cases requiredVisible env "GRAPH_CLIENT_ID" with
  | error f => rfl
  | ok clientId =>
  cases requiredVisible env "GRAPH_CLIENT_SECRET" with
  | error f => rfl
  | ok clientSecret => rfl

theorem requiredVisible_error {env : Environment} {name : String} {f : Failure}
    (h : requiredVisible env name = .error f) :
    f = .validation (name ++ " is required") ∨ f = .validation (name ++ " must not be empty") := by
  rw [requiredVisible, required] at h
  cases hvalue : env name with
  | none =>
    rw [hvalue] at h
    cases h
    exact .inl rfl
  | some text =>
    rw [hvalue] at h
    cases hblank : isBlank text with
    | true =>
      cases (if_pos hblank).symm.trans h
      exact .inr rfl
    | false => cases (if_neg (Bool.not_eq_true _ ▸ hblank)).symm.trans h

theorem readAdminToken_eq_ok_iff {env : Environment} {token : String} :
    readAdminToken env = .ok token ↔
      env "ADMIN_API_TOKEN" = some token ∧ isBlank token = false ∧ 32 ≤ byteSize token := by
  rw [readAdminToken, bind_eq_ok_iff]
  simp only [requiredVisible_eq_ok_iff]
  constructor
  · rintro ⟨given, ⟨hgiven, hvisible⟩, h⟩
    by_cases hshort : (Text.Utf8.encode given).length < minTokenSize
    · cases (if_pos hshort).symm.trans h
    · cases (if_neg hshort).symm.trans h
      exact ⟨hgiven, hvisible, Nat.not_lt.mp hshort⟩
  · rintro ⟨hgiven, hvisible, hlong⟩
    exact ⟨token, ⟨hgiven, hvisible⟩, if_neg (Nat.not_lt.mpr hlong)⟩

theorem readAdminToken_error {env : Environment} {f : Failure} (h : readAdminToken env = .error f) :
    requiredVisible env "ADMIN_API_TOKEN" = .error f ∨
      f = .validation "ADMIN_API_TOKEN must be at least 32 characters" := by
  rw [readAdminToken] at h
  cases hgiven : requiredVisible env "ADMIN_API_TOKEN" with
  | error e =>
    rw [hgiven] at h
    cases h
    exact .inl rfl
  | ok given =>
    rw [hgiven] at h
    by_cases hshort : (Text.Utf8.encode given).length < minTokenSize
    · cases (if_pos hshort).symm.trans h
      exact .inr rfl
    · cases (if_neg hshort).symm.trans h

-- A URL of the web always has segments, so that this is not asked for besides.
theorem webUrl_eq_ok_iff {env : Environment} {name standard : String} {url : Url} :
    webUrl env name standard = .ok url ↔
      Url.read (Text.trim ((nonBlank (env name)).getD standard)) = .ok url ∧ url.isWeb = true := by
  rw [webUrl]
  cases hread : Url.read (Text.trim ((nonBlank (env name)).getD standard)) with
  | error fault => exact ⟨nofun, nofun⟩
  | ok read =>
    have hsegments : read.isWeb = true → read.hasSegments = true := by
      intro hweb
      obtain ⟨segments, hpath, -⟩ := Url.path_of_read hread hweb
      rw [Url.hasSegments, hpath]
    simp only
    by_cases hweb : read.isWeb = true
    · rw [if_pos ⟨hsegments hweb, hweb⟩]
      constructor
      · rintro ⟨⟩
        exact ⟨rfl, hweb⟩
      · rintro ⟨⟨⟩, -⟩
        rfl
    · rw [if_neg fun hboth => hweb hboth.2]
      constructor
      · rintro ⟨⟩
      · rintro ⟨⟨⟩, h⟩
        exact absurd h hweb

theorem webUrl_error {env : Environment} {name standard : String} {f : Failure}
    (h : webUrl env name standard = .error f) :
    (∃ fault : Url.Fault, f = .validation ("invalid " ++ name ++ ": " ++ fault.message)) ∨
      f = .validation (name ++ " must be an absolute http(s) URL") := by
  simp only [webUrl] at h
  split at h
  · cases h
    exact .inl ⟨_, rfl⟩
  · split at h
    · cases h
    · cases h
      exact .inr rfl

theorem isPlainName_graph : Url.IsPlainName "graph.microsoft.com".toList :=
  ⟨by decide, List.all_eq_true.mp (by decide), by decide, by decide⟩

theorem isPlainName_login : Url.IsPlainName "login.microsoftonline.com".toList :=
  ⟨by decide, List.all_eq_true.mp (by decide), by decide, by decide⟩

-- What stands for a variable that holds nothing is itself a URL of the web.
theorem exists_read_standard {d : Demand} (hd : d ∈ demands) {standard : String}
    (hkind : d.kind = .webUrl standard) :
    ∃ url, Url.read (Text.trim standard) = .ok url ∧ url.isWeb = true := by
  have hcases : standard = standardBaseUrl ∨ standard = standardAuthorityUrl := by
    simp only [demands, List.mem_cons, List.not_mem_nil, or_false] at hd
    rcases hd with rfl | rfl | rfl | rfl | rfl | rfl <;> cases hkind
    · exact .inl rfl
    · exact .inr rfl
  rcases hcases with rfl | rfl
  · have htrim : Text.trim standardBaseUrl = standardBaseUrl := by decide
    have hscheme : Url.breakScheme? (Url.significant standardBaseUrl.toList) =
        some ("https", "//graph.microsoft.com/v1.0".toList) := by decide +kernel
    have hrest : "//graph.microsoft.com/v1.0".toList.dropWhile (Url.isSlash true) =
        "graph.microsoft.com".toList ++ "/v1.0".toList := by decide +kernel
    rw [htrim]
    exact ⟨_, isPlainName_graph.read_eq rfl (by decide) (by decide) hscheme hrest, rfl⟩
  · have htrim : Text.trim standardAuthorityUrl = standardAuthorityUrl := by decide
    have hscheme : Url.breakScheme? (Url.significant standardAuthorityUrl.toList) =
        some ("https", "//login.microsoftonline.com".toList) := by decide +kernel
    have hrest : "//login.microsoftonline.com".toList.dropWhile (Url.isSlash true) =
        "login.microsoftonline.com".toList ++ [] := by decide +kernel
    rw [htrim]
    exact ⟨_, isPlainName_login.read_eq rfl (by decide) (by decide) hscheme hrest, rfl⟩

theorem name_of_token : ∀ d ∈ demands, d.kind = .token → d.name = "ADMIN_API_TOKEN" := by
  decide

variable {bindings : List (String × List UInt8)} {d : Demand} {f : Failure}

-- The part that looks after a variable succeeds exactly if the variable has what is asked of it.
theorem check_eq_ok_iff (hd : d ∈ demands) :
    (∃ u, d.check (.ofBytes bindings) = .ok u) ↔ d.IsMet byteSize bindings := by
  have hunit : (∃ u, d.check (.ofBytes bindings) = .ok u) ↔
      d.check (.ofBytes bindings) = .ok () := ⟨fun ⟨(), h⟩ => h, fun h => ⟨(), h⟩⟩
  rw [hunit, Demand.check, Demand.IsMet]
  cases hkind : d.kind with
  | token =>
    simp only [discard_eq_ok_iff, readAdminToken_eq_ok_iff, ofBytes_eq_some_iff,
      name_of_token d hd hkind]
  | webUrl standard =>
    simp only [discard_eq_ok_iff, webUrl_eq_ok_iff]
    obtain ⟨read, hread⟩ := exists_read_standard hd hkind
    constructor
    · rintro ⟨url, hurl⟩ text htext hvisible
      have hkept : nonBlank (Environment.ofBytes bindings d.name) = some text := by
        rw [ofBytes_eq_some_iff.mpr htext]
        simp [nonBlank, hvisible]
      rw [hkept] at hurl
      exact ⟨url, hurl⟩
    · intro hall
      cases hkept : nonBlank (Environment.ofBytes bindings d.name) with
      | none => exact ⟨read, hread⟩
      | some text =>
        obtain ⟨htext, hvisible⟩ := Option.filter_eq_some_iff.mp hkept
        exact hall text (ofBytes_eq_some_iff.mp htext) (by simpa using hvisible)
  | visible => simp only [discard_eq_ok_iff, requiredVisible_eq_ok_iff, ofBytes_eq_some_iff]

-- The names are words with a bar in them, and none is part of another.
theorem name_spec : ∀ e ∈ demands,
    '_' ∈ e.name.toList ∧ ' ' ∉ e.name.toList ∧ ':' ∉ e.name.toList := by
  decide

theorem name_infix_name_iff :
    ∀ d ∈ demands, ∀ e ∈ demands, e.name.toList <:+: d.name.toList ↔ e = d := by
  decide +kernel

theorem not_infix_of_not_mem {e : Demand} (he : e ∈ demands) {cs : List Char} (h : '_' ∉ cs) :
    ¬e.name.toList <:+: cs :=
  fun hwithin => h (hwithin.subset (name_spec e he).1)

theorem name_infix_iff {e : Demand} (hd : d ∈ demands) (he : e ∈ demands) {mark : Char}
    (hmark : mark ∉ e.name.toList) {after : List Char} (hafter : '_' ∉ after) :
    e.name.toList <:+: d.name.toList ++ mark :: after ↔ e = d := by
  rw [Text.infix_append_sep_iff hmark, name_infix_name_iff d hd e he]
  exact or_iff_left (not_infix_of_not_mem he hafter)

theorem isNamedBy_of_said (hd : d ∈ demands) {said : String} {after : List Char}
    (hsaid : said.toList = ' ' :: after) (hafter : '_' ∉ after) :
    d.IsNamedBy (.validation (d.name ++ said)) := by
  refine ⟨rfl, ?_⟩
  intro e he
  rw [Failure.validation, String.toList_append, hsaid]
  exact name_infix_iff hd he (name_spec e he).2.1 hafter

theorem isNamedBy_of_fault (hd : d ∈ demands) (fault : Url.Fault) :
    d.IsNamedBy (.validation ("invalid " ++ d.name ++ ": " ++ fault.message)) := by
  refine ⟨rfl, ?_⟩
  intro e he
  obtain ⟨-, hblank, hcolon⟩ := name_spec e he
  have hbefore : "invalid ".toList = "invalid".toList ++ [' '] := by decide
  have hbetween : ": ".toList = [':', ' '] := by decide
  have hfree : '_' ∉ "invalid".toList := by decide
  have hafter : '_' ∉ ' ' :: fault.message.toList := by
    cases fault <;> decide
  simp only [Failure.validation, String.toList_append, hbefore, hbetween, List.append_assoc,
    List.cons_append, List.nil_append]
  rw [Text.infix_append_sep_iff hblank, name_infix_iff hd he hcolon hafter]
  exact or_iff_right (not_infix_of_not_mem he hfree)

theorem isNamedBy_of_requiredVisible (hd : d ∈ demands) {env : Environment}
    (h : requiredVisible env d.name = .error f) : d.IsNamedBy f := by
  rcases requiredVisible_error h with rfl | rfl
  · exact isNamedBy_of_said hd rfl (by decide)
  · exact isNamedBy_of_said hd rfl (by decide)

theorem isNamedBy_of_check (hd : d ∈ demands) {env : Environment} (h : d.check env = .error f) :
    d.IsNamedBy f := by
  rw [Demand.check] at h
  cases hkind : d.kind with
  | token =>
    have hname := name_of_token d hd hkind
    rw [hkind] at h
    rcases readAdminToken_error (discard_eq_error_iff.mp h) with hgiven | rfl
    · rw [← hname] at hgiven
      exact isNamedBy_of_requiredVisible hd hgiven
    · have hsaid : "ADMIN_API_TOKEN must be at least 32 characters" =
          d.name ++ " must be at least 32 characters" := by rw [hname]; rfl
      rw [hsaid]
      exact isNamedBy_of_said hd rfl (by decide)
  | webUrl standard =>
    rw [hkind] at h
    rcases webUrl_error (discard_eq_error_iff.mp h) with ⟨fault, rfl⟩ | rfl
    · exact isNamedBy_of_fault hd fault
    · exact isNamedBy_of_said hd rfl (by decide)
  | visible =>
    rw [hkind] at h
    exact isNamedBy_of_requiredVisible hd (discard_eq_error_iff.mp h)

theorem exists_load_iff (env : Environment) :
    (∃ settings, Service.load env = .ok settings) ↔
      ∀ d ∈ demands, ∃ u, d.check env = .ok u := by
  rw [← discard_eq_ok_iff, discard_load, discard_eq_ok_iff]
  constructor
  · rintro ⟨us, hus⟩
    have hboth := ((mapM_eq_ok_iff _ _ _).mp hus).imp fun d u hu =>
      (⟨⟨u, hu⟩, hu⟩ : (∃ u, d.check env = .ok u) ∧ d.check env = .ok u)
    exact ((List.forall₂_and_left _ _).mp hboth).1
  · intro hall
    have hunit : ∀ d ∈ demands, d.check env = .ok () := by
      intro d hd
      obtain ⟨⟨⟩, hu⟩ := hall d hd
      exact hu
    exact ⟨_, mapM_of_forall_ok hunit⟩

theorem load_eq_error_iff {env : Environment} {f : Failure} :
    Service.load env = .error f ↔ ∃ front d back, demands = front ++ d :: back ∧
      (∀ e ∈ front, ∃ u, e.check env = .ok u) ∧ d.check env = .error f := by
  rw [← discard_eq_error_iff, discard_load, discard_eq_error_iff, mapM_eq_error_iff]

theorem mem_of_split {front back : List Demand} (hsplit : demands = front ++ d :: back) :
    d ∈ demands ∧ ∀ e ∈ front, e ∈ demands := by
  rw [hsplit]
  exact ⟨List.mem_append_right _ List.mem_cons_self, fun e he => List.mem_append_left _ he⟩

theorem load_follows_bytes (bindings : List (String × List UInt8)) :
    FollowsDemands byteSize bindings (Service.load (.ofBytes bindings)) where
  accepts := by
    rw [exists_load_iff]
    exact forall₂_congr fun d hd => check_eq_ok_iff hd
  names := by
    intro f hf
    obtain ⟨front, d, back, hsplit, hfront, hcheck⟩ := load_eq_error_iff.mp hf
    obtain ⟨hd, hmem⟩ := mem_of_split hsplit
    refine ⟨front, d, back, hsplit, ?_, ?_, isNamedBy_of_check hd hcheck⟩
    · exact fun e he => (check_eq_ok_iff (hmem e he)).mp (hfront e he)
    · intro hmet
      obtain ⟨u, hu⟩ := (check_eq_ok_iff hd).mpr hmet
      rw [hu] at hcheck
      cases hcheck

theorem length_le_byteSize (text : String) : text.length ≤ byteSize text := by
  rw [byteSize, Text.Utf8.encode, ← String.length_toList]
  induction text.toList with
  | nil => exact Nat.le_refl _
  | cons c rest ih =>
    have hbyte := c.utf8Size_pos
    rw [Text.Utf8.encodeChars, List.flatMap_cons, List.length_append,
      String.length_utf8EncodeChar, List.length_cons]
    rw [Text.Utf8.encodeChars] at ih
    omega

theorem FollowsDemands.of_isMet_iff {α : Type} {size size' : String → Nat}
    {result : Except Failure α} (h : FollowsDemands size bindings result)
    (hsame : ∀ d ∈ demands, d.IsMet size bindings ↔ d.IsMet size' bindings) :
    FollowsDemands size' bindings result where
  accepts := h.accepts.trans (forall₂_congr hsame)
  names := by
    intro f hf
    obtain ⟨front, d, back, hsplit, hfront, hmissing, hnamed⟩ := h.names f hf
    obtain ⟨hd, hmem⟩ := mem_of_split hsplit
    refine ⟨front, d, back, hsplit, ?_, ?_, hnamed⟩
    · exact fun e he => (hsame e (hmem e he)).mp (hfront e he)
    · rwa [← hsame d hd]

-- The same result cannot follow from the token being long enough and from its being too short.
theorem FollowsDemands.isMet_of_isMet {α : Type} {size size' : String → Nat}
    {result : Except Failure α} (h : FollowsDemands size bindings result)
    (h' : FollowsDemands size' bindings result) {rest : List Demand} (hd : demands = d :: rest)
    (hmet : d.IsMet size bindings) : d.IsMet size' bindings := by
  cases hresult : result with
  | ok settings => exact h'.accepts.mp ⟨settings, hresult⟩ d (hd ▸ List.mem_cons_self)
  | error f =>
    obtain ⟨front, e, back, hsplit, -, hmissing, hnamed⟩ := h.names f hresult
    obtain ⟨front', e', back', hsplit', hfront', -, hnamed'⟩ := h'.names f hresult
    have he := (mem_of_split hsplit).1
    -- Both name the same variable.
    have hsame : e = e' := (hnamed'.2 e he).mp ((hnamed.2 e he).mpr rfl)
    cases front' with
    | nil =>
      have hfirst : d = e' := (List.cons.inj (hd.symm.trans hsplit')).1
      rw [hsame, ← hfirst] at hmissing
      exact absurd hmet hmissing
    | cons first front' =>
      have hfirst : d = first := (List.cons.inj (hd.symm.trans hsplit')).1
      rw [hfirst]
      exact hfront' first List.mem_cons_self

theorem check_congr (hd : d ∈ demands) {env env' : Environment} (h : env d.name = env' d.name) :
    d.check env = d.check env' := by
  rw [Demand.check, Demand.check]
  cases hkind : d.kind with
  | token =>
    rw [name_of_token d hd hkind] at h
    simp only [readAdminToken, requiredVisible, required, h]
  | webUrl standard => simp only [webUrl, h]
  | visible => simp only [requiredVisible, required, h]

-- Only what something is asked of can make a failure.
theorem load_error_of_agree {env env' : Environment}
    (h : ∀ d ∈ demands, env d.name = env' d.name) (hf : Service.load env = .error f) :
    Service.load env' = .error f := by
  obtain ⟨front, d, back, hsplit, hfront, hcheck⟩ := load_eq_error_iff.mp hf
  obtain ⟨hd, hmem⟩ := mem_of_split hsplit
  refine load_eq_error_iff.mpr ⟨front, d, back, hsplit, ?_, ?_⟩
  · intro e he
    rw [← check_congr (hmem e he) (h e (hmem e he))]
    exact hfront e he
  · rw [← check_congr hd (h d hd)]
    exact hcheck

-- The settings follow what is asked with the token sized in bytes. Sized in characters they follow it
-- exactly if no token is too short that has bytes enough. No other variable matters for a failure.
theorem load_follows_demands (bindings : List (String × List UInt8)) :
    FollowsDemands byteSize bindings (Service.load (.ofBytes bindings)) ∧
      (FollowsDemands String.length bindings (Service.load (.ofBytes bindings)) ↔ ∀ token,
        Holds bindings "ADMIN_API_TOKEN" token → isBlank token = false → 32 ≤ byteSize token →
          32 ≤ token.length) ∧
      ∀ others : List (String × List UInt8),
        (∀ d ∈ demands, others.lookup d.name = bindings.lookup d.name) → ∀ f,
          Service.load (.ofBytes others) = .error f ↔
            Service.load (.ofBytes bindings) = .error f := by
  have hbytes := load_follows_bytes bindings
  refine ⟨hbytes, ⟨?_, ?_⟩, ?_⟩
  · intro hchars token hholds hvisible hlong
    obtain ⟨text, htext, -, hlength⟩ :=
      hbytes.isMet_of_isMet hchars rfl ⟨token, hholds, hvisible, hlong⟩
    have hsame : token = text :=
      Text.Utf8.encode_injective (Option.some.inj (hholds.symm.trans htext))
    rwa [hsame]
  · intro hall
    refine hbytes.of_isMet_iff ?_
    intro d hd
    rw [Demand.IsMet, Demand.IsMet]
    cases hkind : d.kind with
    | token =>
      rw [name_of_token d hd hkind]
      constructor
      · rintro ⟨text, hholds, hvisible, hlong⟩
        exact ⟨text, hholds, hvisible, hall text hholds hvisible hlong⟩
      · rintro ⟨text, hholds, hvisible, hlong⟩
        exact ⟨text, hholds, hvisible, hlong.trans (length_le_byteSize text)⟩
    | webUrl standard => exact Iff.rfl
    | visible => exact Iff.rfl
  · intro others hagree f
    have henv : ∀ d ∈ demands,
        Environment.ofBytes others d.name = Environment.ofBytes bindings d.name := by
      intro d hd
      rw [Environment.ofBytes, Environment.ofBytes, hagree d hd]
    exact ⟨load_error_of_agree henv, load_error_of_agree fun d hd => (henv d hd).symm⟩

-- An environment with this token, in which the URLs are not set.
def bindingsWith (token : String) : List (String × List UInt8) :=
  [("ADMIN_API_TOKEN", Text.Utf8.encode token), ("GRAPH_TENANT_ID", Text.Utf8.encode "tenant"),
   ("GRAPH_CLIENT_ID", Text.Utf8.encode "client"),
   ("GRAPH_CLIENT_SECRET", Text.Utf8.encode "secret")]

theorem eq_of_holds_bindingsWith {token text : String}
    (h : Holds (bindingsWith token) "ADMIN_API_TOKEN" text) : text = token :=
  Text.Utf8.encode_injective (Option.some.inj h).symm

-- The failures stay the same with a port behind which there is no text.
theorem load_follows_demands_plainToken :
    FollowsDemands String.length (bindingsWith Stack.plainToken)
        (Service.load (.ofBytes (bindingsWith Stack.plainToken))) ∧
      ∀ f, Service.load (.ofBytes (("API_PORT", [0xFF]) :: bindingsWith Stack.plainToken)) =
          .error f ↔ Service.load (.ofBytes (bindingsWith Stack.plainToken)) = .error f := by
  obtain ⟨-, hchars, hothers⟩ := load_follows_demands (bindingsWith Stack.plainToken)
  refine ⟨hchars.mpr ?_, hothers _ ?_⟩
  · intro token hholds _ _
    rw [eq_of_holds_bindingsWith hholds]
    decide
  · intro d hd
    simp only [demands, List.mem_cons, List.not_mem_nil, or_false] at hd
    rcases hd with rfl | rfl | rfl | rfl | rfl | rfl <;> rfl

-- Sixteen letters of two bytes each.
def wideToken : String := "éééééééééééééééé"

theorem wide_token_is_taken :
    (∃ settings, Service.load (.ofBytes (bindingsWith wideToken)) = .ok settings) ∧
      wideToken.length = 16 ∧ ¬FollowsDemands String.length (bindingsWith wideToken)
        (Service.load (.ofBytes (bindingsWith wideToken))) := by
  have hmet : ∀ d ∈ demands, d.IsMet byteSize (bindingsWith wideToken) := by
    simp only [demands, List.forall_mem_cons, List.not_mem_nil, false_implies, implies_true,
      and_true]
    refine ⟨⟨wideToken, rfl, by decide, by decide⟩, ?_, ?_, ⟨"tenant", rfl, by decide⟩,
      ⟨"client", rfl, by decide⟩, ⟨"secret", rfl, by decide⟩⟩
    · rintro text ⟨⟩
    · rintro text ⟨⟩
  have hload := (load_follows_bytes (bindingsWith wideToken)).accepts.mpr hmet
  refine ⟨hload, by decide, ?_⟩
  intro hchars
  obtain ⟨text, hholds, -, hlong⟩ := hchars.accepts.mp hload _ List.mem_cons_self
  rw [eq_of_holds_bindingsWith hholds] at hlong
  exact absurd hlong (by decide)

end Unshare.Settings
