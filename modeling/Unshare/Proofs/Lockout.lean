import Unshare.Proofs.Admitted
import Unshare.Proofs.Computations
import Unshare.Proofs.Trimming
import Unshare.Stack

namespace Unshare

open Http

namespace Api

-- A token that comes out of a header as it was set: printable, with no blanks at its ends to lose.
def IsPresentable (token : String) : Prop :=
  Text.trim token = token ∧ ∀ b ∈ Text.Utf8.encode token, Request.IsPrintable b

theorem isPresentable_of_bears {r : Request} {token : String} (h : r.Bears token) :
    IsPresentable token := by
  obtain ⟨bytes, rest, -, hprintable, rfl, -, hsame⟩ := h
  have htoken : Text.trim rest = token := Text.Utf8.encode_injective hsame
  refine ⟨?_, ?_⟩
  · rw [← htoken, Text.trim_idem]
  · intro b hb
    rw [← htoken, Text.Utf8.encode, Text.toList_trim] at hb
    obtain ⟨c, hc, hbyte⟩ := List.mem_flatMap.mp hb
    have hrest : b ∈ Text.Utf8.encode rest :=
      List.mem_flatMap.mpr ⟨c, Text.mem_of_mem_trimChars hc, hbyte⟩
    apply hprintable
    rw [Text.Utf8.encode, String.toList_append, Text.Utf8.encodeChars, List.flatMap_append]
    exact List.mem_append_right _ hrest

theorem bears_of_isPresentable {r : Request} {token : String}
    (hvisible : Text.isBlank token = false) (h : IsPresentable token)
    (hgives : r.Gives "authorization" (Text.Utf8.encode ("Bearer " ++ token))) :
    r.Bears token := by
  obtain ⟨htrim, hprintable⟩ := h
  refine ⟨_, token, hgives, ?_, rfl, ?_, by rw [htrim]⟩
  · intro b hb
    rw [Text.Utf8.encode, String.toList_append, Text.Utf8.encodeChars, List.flatMap_append] at hb
    rcases List.mem_append.mp hb with hmark | htoken
    · have hmarks : ("Bearer ".toList.flatMap String.utf8EncodeChar).all Request.isHeaderText =
          true := by decide
      exact (Request.isHeaderText_iff b).mp (List.all_eq_true.mp hmarks b hmark)
    · exact hprintable b htoken
  · rw [ne_eq, Text.trim_eq_empty_iff, hvisible]
    exact Bool.false_ne_true

end Api

namespace Settings

theorem required_eq_ok_iff {env : Environment} {name value : String} :
    required env name = .ok value ↔ env name = some value := by
  unfold required
  cases env name <;> simp

theorem requiredVisible_eq_ok_iff {env : Environment} {name value : String} :
    requiredVisible env name = .ok value ↔
      env name = some value ∧ Text.isBlank value = false := by
  rw [requiredVisible, bind_eq_ok_iff]
  simp only [required_eq_ok_iff]
  constructor
  · rintro ⟨given, hgiven, h⟩
    cases hblank : Text.isBlank given with
    | true =>
      rw [hblank] at h
      cases h
    | false =>
      rw [hblank] at h
      cases h
      exact ⟨hgiven, hblank⟩
  · rintro ⟨hvalue, hblank⟩
    refine ⟨value, hvalue, ?_⟩
    rw [hblank]
    rfl

theorem readAdminToken_inv {env : Environment} {token : String}
    (h : readAdminToken env = .ok token) :
    env "ADMIN_API_TOKEN" = some token ∧ Text.isBlank token = false := by
  obtain ⟨given, hgiven, hsize⟩ := bind_eq_ok_iff.mp h
  by_cases hshort : (Text.Utf8.encode given).length < minTokenSize
  · rw [if_pos hshort] at hsize
    cases hsize
  · rw [if_neg hshort] at hsize
    cases hsize
    exact requiredVisible_eq_ok_iff.mp hgiven

theorem Service.load_inv {env : Environment} {settings : Service}
    (h : Service.load env = .ok settings) : ∃ token graph, readAdminToken env = .ok token ∧
      Graph.load env = .ok graph ∧
      settings = ⟨(env "FRONTEND_URL").getD "http://localhost:3000", token,
        (env "API_HOST").getD "127.0.0.1", (number? env Text.maxWord16 "API_PORT").getD 3001,
        Text.present (env "REVOKE_LOG_SOURCE"), graph⟩ := by
  obtain ⟨token, htoken, hrest⟩ := bind_eq_ok_iff.mp h
  obtain ⟨graph, hgraph, hsettings⟩ := bind_eq_ok_iff.mp hrest
  cases hsettings
  exact ⟨token, graph, htoken, hgraph, rfl⟩

theorem adminToken_of_load {env : Environment} {settings : Service}
    (h : Service.load env = .ok settings) :
    env "ADMIN_API_TOKEN" = some settings.adminToken ∧
      Text.isBlank settings.adminToken = false := by
  obtain ⟨token, graph, htoken, -, rfl⟩ := Service.load_inv h
  exact readAdminToken_inv htoken

end Settings

namespace Stack

open Api (IsPresentable)

theorem adminToken_of_build {settings : Settings.Service} {api : Api Action}
    (h : build settings = .ok api) : api.adminToken = settings.adminToken := by
  obtain ⟨p, origin, -, -, rfl⟩ := build_inv h
  rfl

theorem serve_of_not_bears {api : Api Action} {r : Request} {route : Api.Route}
    (hprotected : route.isProtected = true) (hasks : r.Asks route)
    (hbears : ¬r.Bears api.adminToken) (correlation : String) (o : Surroundings) (s : Stack) :
    ∃ response, response.status = 401 ∧
      serve api correlation o r s = (.ok response, prepare o s) := by
  obtain ⟨response, hstatus, hsettles⟩ := Api.settles_of_not_bears hprotected hasks hbears
  refine ⟨api.framed r response, (api.status_framed r response).trans hstatus, ?_⟩
  rw [serve, Api.answer, hsettles api correlation rfl]
  rfl

-- Whatever the settings take, the service behind them is open to those who present the token as it
-- was set if the token is presentable, and otherwise to nobody.
theorem build_opens_or_locks {env : Environment} {settings : Settings.Service}
    (hload : Settings.Service.load env = .ok settings) :
    env "ADMIN_API_TOKEN" = some settings.adminToken ∧
      ∀ api, build settings = .ok api → ∀ (route : Api.Route) (r : Request),
        route.isProtected = true → r.Asks route → ∀ correlation : String,
          (IsPresentable settings.adminToken →
            r.Gives "authorization" (Text.Utf8.encode ("Bearer " ++ settings.adminToken)) →
            api.answer correlation r =
              api.framed r <$> api.serve correlation route (Api.actorOf r) r) ∧
          (¬IsPresentable settings.adminToken → ∀ (o : Surroundings) (s : Stack),
            ∃ response, response.status = 401 ∧
              serve api correlation o r s = (.ok response, prepare o s)) := by
  obtain ⟨hset, hvisible⟩ := Settings.adminToken_of_load hload
  refine ⟨hset, ?_⟩
  intro api hbuild route r hprotected hasks correlation
  have htoken : api.adminToken = settings.adminToken := adminToken_of_build hbuild
  refine ⟨?_, ?_⟩
  · intro hpresentable hgives
    have hbears : r.Bears api.adminToken := by
      rw [htoken]
      exact Api.bears_of_isPresentable hvisible hpresentable hgives
    rw [Api.answer, Api.answerBare_of_bears api correlation hprotected hasks hbears]
    rfl
  · intro hlocked o s
    apply serve_of_not_bears hprotected hasks
    rw [htoken]
    exact fun hbears => hlocked (Api.isPresentable_of_bears hbears)

-- An environment in which nothing but the token of the service is open.
def environmentWith (token : String) : Environment := fun name =>
  [("ADMIN_API_TOKEN", token), ("GRAPH_BASE_URL", "https://[::1]/v1.0"),
   ("GRAPH_AUTHORITY_URL", "https://[::1]"), ("GRAPH_TENANT_ID", "tenant"),
   ("GRAPH_CLIENT_ID", "client"), ("GRAPH_CLIENT_SECRET", "secret")].lookup name

def loopbackUrl (path : List String) : Url :=
  ⟨"https", "", none, some (.v6 ⟨[0, 0, 0, 0, 0, 0, 0, 1]⟩), none, false, .segments path, none,
    none⟩

def settingsWith (token : String) : Settings.Service :=
  ⟨"http://localhost:3000", token, "127.0.0.1", 3001, none,
    ⟨loopbackUrl ["v1.0"], loopbackUrl [""], "tenant", "client", "secret", 20⟩⟩

def plainToken : String := "tttttttttttttttttttttttttttttttt"

theorem build_opens_or_locks_plainToken :
    ∃ api, build (settingsWith plainToken) = .ok api ∧
      ∀ correlation, let r := Api.removal [("Authorization", "Bearer " ++ plainToken)]
        api.answer correlation r =
          api.framed r <$> api.serve correlation .permissions (Api.actorOf r) r := by
  have hload : Settings.Service.load (environmentWith plainToken) = .ok (settingsWith plainToken) :=
    rfl
  have hpresentable : IsPresentable plainToken := by
    refine ⟨by decide, ?_⟩
    have hall : (Text.Utf8.encode plainToken).all Request.isHeaderText = true := by decide
    exact fun b hb => (Request.isHeaderText_iff b).mp (List.all_eq_true.mp hall b hb)
  obtain ⟨-, hopens⟩ := build_opens_or_locks hload
  refine ⟨_, rfl, ?_⟩
  intro correlation r
  have hasks : r.Asks .permissions := by decide
  exact (hopens _ rfl .permissions r rfl hasks correlation).1 hpresentable
    ⟨[], "Authorization", [], rfl, by decide, by simp⟩

-- The same token with a blank behind it, which the settings take and the door drops.
def spacedToken : String := plainToken ++ " "

theorem spaced_token_locks_out :
    Settings.Service.load (environmentWith spacedToken) = .ok (settingsWith spacedToken) ∧
      ∃ api, build (settingsWith spacedToken) = .ok api ∧
        ∀ (route : Api.Route) (r : Request), route.isProtected = true → r.Asks route →
          ∀ correlation o s, ∃ response, response.status = 401 ∧
            serve api correlation o r s = (.ok response, prepare o s) := by
  have hlocked : ¬IsPresentable spacedToken := by
    rintro ⟨htrim, -⟩
    exact absurd htrim (by decide)
  refine ⟨rfl, _, rfl, ?_⟩
  intro route r hprotected hasks correlation o s
  exact serve_of_not_bears hprotected hasks
    (fun hbears => hlocked (Api.isPresentable_of_bears hbears)) correlation o s

end Stack

end Unshare
