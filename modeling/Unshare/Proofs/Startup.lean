import Unshare.Proofs.Demands

namespace Unshare

namespace Api

-- Whether a character may stand in a header value.
def IsHeaderChar (c : Char) : Prop :=
  c = '\t' ∨ 0x20 ≤ c.toNat ∧ c.toNat ≠ 0x7F

theorem isHeaderByte_iff {b : UInt8} :
    isHeaderByte b = true ↔ b.toNat = 9 ∨ 0x20 ≤ b.toNat ∧ b.toNat ≠ 0x7F := by
  simp only [isHeaderByte, Bool.or_eq_true, Bool.and_eq_true, decide_eq_true_eq, bne_iff_ne,
    beq_iff_eq, ge_iff_le, UInt8.le_iff_toNat_le, ← UInt8.toNat_inj, ne_eq]
  exact or_comm

-- Every byte of a character beyond ASCII may stand there.
theorem all_isHeaderByte_iff {text : String} :
    (Text.Utf8.encode text).all isHeaderByte = true ↔ ∀ c ∈ text.toList, IsHeaderChar c := by
  rw [List.all_eq_true]
  constructor
  · intro hbytes c hc
    by_cases hascii : c.toNat < 0x80
    · have hbyte : UInt8.ofNat c.toNat ∈ Text.Utf8.encode text :=
        List.mem_flatMap.mpr ⟨c, hc, by simp [Text.utf8EncodeChar_of_ascii hascii]⟩
      have hn : (UInt8.ofNat c.toNat).toNat = c.toNat :=
        UInt8.toNat_ofNat_of_lt (Nat.lt_trans hascii (by decide))
      have hlegal := isHeaderByte_iff.mp (hbytes _ hbyte)
      rw [hn] at hlegal
      exact hlegal.imp_left fun htab => Char.toNat_inj.mp htab
    · exact .inr ⟨by omega, by omega⟩
  · intro hchars b hb
    obtain ⟨c, hc, hbyte⟩ := List.mem_flatMap.mp hb
    rw [isHeaderByte_iff]
    by_cases hascii : b.toNat < 0x80
    · rw [← Text.toNat_of_mem_utf8EncodeChar hbyte hascii]
      exact (hchars c hc).imp_left fun htab => by rw [htab]; rfl
    · exact .inr ⟨by omega, by omega⟩

theorem Origin.of?_cases (text : String) :
    (¬(∀ c ∈ text.toList, IsHeaderChar c) ∧ Origin.of? text =
        .error (.failure (.internal "invalid FRONTEND_URL: failed to parse header value"))) ∨
      (text = "*" ∧ ∃ c, Origin.of? text = .error (.crash c)) ∨
      ((∀ c ∈ text.toList, IsHeaderChar c) ∧ text ≠ "*" ∧
        ∃ origin, Origin.of? text = .ok origin ∧ origin.text = text) := by
  rw [← all_isHeaderByte_iff]
  by_cases hlegal : (Text.Utf8.encode text).all isHeaderByte = true
  · by_cases hnamed : text ≠ "*"
    · exact .inr (.inr ⟨hlegal, hnamed, _, by rw [Origin.of?, dif_pos hlegal, dif_pos hnamed], rfl⟩)
    · exact .inr (.inl ⟨not_not.mp hnamed, _, by rw [Origin.of?, dif_pos hlegal, dif_neg hnamed]⟩)
  · exact .inl ⟨hlegal, by rw [Origin.of?, dif_neg hlegal]⟩

end Api

namespace Settings

variable {env : Environment} {settings : Service}

theorem frontendUrl_of_load (h : Service.load env = .ok settings) :
    settings.frontendUrl = (env "FRONTEND_URL").getD "http://localhost:3000" := by
  obtain ⟨token, graph, -, -, rfl⟩ := Service.load_inv h
  rfl

theorem Graph.load_inv {graph : Graph} (h : Graph.load env = .ok graph) :
    ∃ baseUrl authorityUrl tenantId clientId clientSecret,
      webUrl env "GRAPH_BASE_URL" standardBaseUrl = .ok baseUrl ∧
      webUrl env "GRAPH_AUTHORITY_URL" standardAuthorityUrl = .ok authorityUrl ∧
      graph = ⟨baseUrl, authorityUrl, tenantId, clientId, clientSecret,
        (positive? env Text.maxWord64 "GRAPH_TIMEOUT_SECONDS").getD 20⟩ := by
  obtain ⟨baseUrl, hbase, h⟩ := bind_eq_ok_iff.mp h
  obtain ⟨authorityUrl, hauthority, h⟩ := bind_eq_ok_iff.mp h
  obtain ⟨tenantId, -, h⟩ := bind_eq_ok_iff.mp h
  obtain ⟨clientId, -, h⟩ := bind_eq_ok_iff.mp h
  obtain ⟨clientSecret, -, h⟩ := bind_eq_ok_iff.mp h
  cases h
  exact ⟨baseUrl, authorityUrl, tenantId, clientId, clientSecret, hbase, hauthority, rfl⟩

theorem hasSegments_of_webUrl {name standard : String} {url : Url}
    (h : webUrl env name standard = .ok url) : url.hasSegments = true := by
  obtain ⟨hread, hweb⟩ := webUrl_eq_ok_iff.mp h
  obtain ⟨segments, hpath, -⟩ := Url.path_of_read hread hweb
  rw [Url.hasSegments, hpath]

-- Both URLs of the directory have a place for more segments.
theorem hasSegments_of_load (h : Service.load env = .ok settings) :
    settings.graph.baseUrl.hasSegments = true ∧
      settings.graph.authorityUrl.hasSegments = true := by
  obtain ⟨token, graph, -, hgraph, rfl⟩ := Service.load_inv h
  obtain ⟨_, _, _, _, _, hbase, hauthority, rfl⟩ := Graph.load_inv hgraph
  exact ⟨hasSegments_of_webUrl hbase, hasSegments_of_webUrl hauthority⟩

end Settings

namespace Stack

variable {env : Environment} {settings : Settings.Service}

-- An authority that was read from the settings always has a place for the tenant's tokens.
theorem provider_of_load (h : Settings.Service.load env = .ok settings) :
    ∃ p, provider settings.graph = .ok p := by
  obtain ⟨url, hurl⟩ := Option.isSome_iff_exists.mp (Url.extend?_isSome
    (Settings.hasSegments_of_load h).2 [settings.graph.tenantId, "oauth2", "v2.0", "token"])
  exact ⟨_, by rw [provider, Token.Provider.of?, hurl]⟩

-- What is left to go wrong is the page.
theorem load_eq (h : Settings.Service.load env = .ok settings) : ∃ p, load env =
    (fun origin => ⟨services (client settings.graph p),
      settings.logSource.getD Report.standardSource, settings.adminToken, origin,
      onDatabase Database.check⟩) <$>
        Api.Origin.of? ((env "FRONTEND_URL").getD "http://localhost:3000") := by
  obtain ⟨p, hp⟩ := provider_of_load h
  refine ⟨p, ?_⟩
  rw [load, h, ← Settings.frontendUrl_of_load h]
  simp only [build, hp]
  cases Api.Origin.of? settings.frontendUrl with
  | error abort => rfl
  | ok origin => rfl

-- With settings that were read, the start crashes on a wildcard and nothing else, it fails on a page
-- that no header can hold, and with every other page the service is there and names that page.
theorem load_ends_by_page (hload : Settings.Service.load env = .ok settings) :
    let page := (env "FRONTEND_URL").getD "http://localhost:3000"
    ((∃ c, load env = .error (.crash c)) ↔ env "FRONTEND_URL" = some "*") ∧
      (∀ f, load env = .error (.failure f) ↔ (¬∀ c ∈ page.toList, Api.IsHeaderChar c) ∧
        f = .internal "invalid FRONTEND_URL: failed to parse header value") ∧
      ((∃ api, load env = .ok api ∧ api.origin.text = page) ↔
        (∀ c ∈ page.toList, Api.IsHeaderChar c) ∧ page ≠ "*") := by
  intro page
  have hwild : env "FRONTEND_URL" = some "*" ↔ page = "*" := by
    cases hset : env "FRONTEND_URL" with
    | none => simp [page, hset]
    | some text => simp [page, hset]
  obtain ⟨p, hp⟩ := load_eq hload
  rw [hwild, hp]
  rcases Api.Origin.of?_cases page with ⟨hillegal, hof⟩ | ⟨hstar, c, hof⟩ |
    ⟨hlegal, hnamed, origin, hof, htext⟩
  · have hnamed : page ≠ "*" := by
      intro hstar
      rw [hstar] at hillegal
      exact hillegal (Api.all_isHeaderByte_iff.mp rfl)
    rw [hof]
    refine ⟨iff_of_false ?_ hnamed, ?_, iff_of_false ?_ fun h => hillegal h.1⟩
    · rintro ⟨c, ⟨⟩⟩
    · intro f
      constructor
      · rintro ⟨⟩
        exact ⟨hillegal, rfl⟩
      · rintro ⟨-, rfl⟩
        rfl
    · rintro ⟨api, ⟨⟩, -⟩
  · have hlegal : ∀ c ∈ page.toList, Api.IsHeaderChar c := by
      rw [hstar]
      exact Api.all_isHeaderByte_iff.mp rfl
    rw [hof]
    refine ⟨iff_of_true ⟨c, rfl⟩ hstar, ?_, iff_of_false ?_ fun h => h.2 hstar⟩
    · intro f
      exact iff_of_false nofun fun h => h.1 hlegal
    · rintro ⟨api, ⟨⟩, -⟩
  · rw [hof]
    refine ⟨iff_of_false ?_ hnamed, ?_, iff_of_true ⟨_, rfl, htext⟩ ⟨hlegal, hnamed⟩⟩
    · rintro ⟨c, ⟨⟩⟩
    · intro f
      exact iff_of_false nofun fun h => h.1 hlegal

theorem load_ends_by_page_plainToken :
    Settings.Service.load (environmentWith plainToken) = .ok (settingsWith plainToken) ∧
      ∃ api, load (environmentWith plainToken) = .ok api ∧
        api.origin.text = "http://localhost:3000" := by
  have hread : Settings.Service.load (environmentWith plainToken) = .ok (settingsWith plainToken) :=
    rfl
  obtain ⟨-, -, hstarts⟩ := load_ends_by_page hread
  exact ⟨hread, hstarts.mpr ⟨Api.all_isHeaderByte_iff.mp (by decide), by decide⟩⟩

-- The same environment, with a wildcard for the page.
def openToAll : Environment := fun name =>
  if name = "FRONTEND_URL" then some "*" else environmentWith plainToken name

theorem wildcard_page_crashes :
    Settings.Service.load openToAll = .ok { settingsWith plainToken with frontendUrl := "*" } ∧
      ∃ c, load openToAll = .error (.crash c) :=
  ⟨rfl, _, rfl⟩

end Stack

end Unshare
