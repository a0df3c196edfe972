import Unshare.Proofs.Computations
import Unshare.Proofs.Forms
import Unshare.Proofs.Sending
import Unshare.Proofs.TokenUse

namespace Unshare

theorem Text.Form.decodeBytes_encode (pairs : Pairs) :
    decodeBytes (Utf8.encode (encode pairs)) = pairs :=
  decode_encode pairs

theorem Text.Form.encode_injective {pairs pairs' : Pairs} (h : encode pairs = encode pairs') :
    pairs = pairs' := by
  rw [← decode_encode pairs, h, decode_encode]

namespace Remote

variable {σ : Type}

-- Notes every request that gets to the wire.
def noting (wire : Wire (StateM σ)) : Wire (StateM (σ × List Request)) := fun r => do
  let (s, noted) ← get
  let (reply, t) := (wire r).run s
  set (t, noted ++ [r])
  return reply

-- A request that may be sent is noted in the form in which it is sent.
theorem noted_send (wire : Wire (StateM σ)) {r : Request}
    (hheaders : r.normalized.hasLegalHeaders = true) (hurl : isSendable r.normalized.url = true)
    (s : σ × List Request) : ((send (noting wire) r).run s).2.2 = s.2 ++ [r.normalized] := by
  simp only [send, hheaders, hurl, Bool.not_true, Bool.false_eq_true, if_false]
  rw [snd_run_bind_pure]
  · rfl
  · intro reply
    cases reply <;> exact ⟨_, rfl⟩

theorem noted_send_of_not (wire : Wire (StateM σ)) {r : Request}
    (h : ¬(r.normalized.hasLegalHeaders = true ∧ isSendable r.normalized.url = true))
    (s : σ × List Request) : ((send (noting wire) r).run s).2.2 = s.2 := by
  simp only [send]
  by_cases hheaders : r.normalized.hasLegalHeaders = true
  · have hurl : isSendable r.normalized.url = false := by
      rw [← Bool.not_eq_true]
      exact fun hurl => h ⟨hheaders, hurl⟩
    simp only [hheaders, hurl, Bool.not_true, Bool.false_eq_true, if_false, Bool.not_false,
      if_true]
    rfl
  · simp only [hheaders, Bool.not_false, if_true]
    rfl

end Remote

namespace Token

open Remote (Request Wire noting)

namespace Provider

section

variable {m : Type → Type} [Monad m]

-- Calls for a token, one in each of these seconds. What is kept goes from each to the next.
def accesses (p : Provider) (wire : Wire m) : List Nat → Option Cached → m (Option Cached)
  | [], cache => return cache
  | now :: later, cache => do
    let (_, kept) ← p.access wire now cache
    p.accesses wire later kept

end

variable {σ : Type} (p : Provider) (wire : Wire (StateM σ))

-- Asking notes the provider's one request, if it may be sent, and nothing else.
theorem noted_ask (s : σ × List Request) : ∃ n ≤ 1, (0 < n ↔ p.CanAsk) ∧
    ((p.ask (noting wire)).run s).2.2 = s.2 ++ List.replicate n p.request.normalized := by
  have hsend : ((p.ask (noting wire)).run s).2 =
      ((Remote.send (noting wire) p.request).run s).2 := by
    rw [ask, snd_run_bind_pure]
    intro sent
    cases sent <;> exact ⟨_, rfl⟩
  rw [hsend]
  by_cases h : p.CanAsk
  · exact ⟨1, Nat.le_refl 1, iff_of_true Nat.one_pos h, Remote.noted_send wire h.1 h.2 s⟩
  · refine ⟨0, Nat.zero_le 1, iff_of_false (Nat.lt_irrefl 0) h, ?_⟩
    rw [Remote.noted_send_of_not wire h, List.replicate_zero, List.append_nil]

theorem noted_access (now : Nat) (cache : Option Cached) (s : σ × List Request) :
    ∃ n ≤ 1, (0 < n ↔ fresh? now cache = none ∧ p.CanAsk) ∧
      ((p.access (noting wire) now cache).run s).2.2 =
        s.2 ++ List.replicate n p.request.normalized := by
  cases hfresh : fresh? now cache with
  | some token =>
    refine ⟨0, Nat.zero_le 1, iff_of_false (Nat.lt_irrefl 0) (by simp), ?_⟩
    rw [access, hfresh, List.replicate_zero, List.append_nil]
    rfl
  | none =>
    obtain ⟨n, hn, hpos, hnoted⟩ := noted_ask p wire s
    refine ⟨n, hn, by simpa using hpos, ?_⟩
    rw [access_of_stale hfresh, snd_run_bind_pure fun asked => ⟨_, rfl⟩, hnoted]

-- All that calls for a token ever send is the provider's one request, over and over. They send it at
-- least once if the first of them finds nothing kept.
theorem noted_accesses (times : List Nat) (cache : Option Cached) (s : σ × List Request) :
    ∃ n ≤ times.length,
      (∀ now later, times = now :: later → fresh? now cache = none → p.CanAsk → 0 < n) ∧
      ((p.accesses (noting wire) times cache).run s).2.2 =
        s.2 ++ List.replicate n p.request.normalized := by
  induction times generalizing cache s with
  | nil => exact ⟨0, Nat.le_refl 0, by simp, (List.append_nil s.2).symm⟩
  | cons now later ih =>
    obtain ⟨n, hn, hpos, hfirst⟩ := noted_access p wire now cache s
    obtain ⟨m, hm, -, hrest⟩ := ih ((p.access (noting wire) now cache).run s).1.2
      ((p.access (noting wire) now cache).run s).2
    refine ⟨n + m, by rw [List.length_cons]; omega, ?_, ?_⟩
    · rintro _ _ ⟨⟩ hstale hask
      have hsent : 0 < n := hpos.mpr ⟨hstale, hask⟩
      omega
    · rw [hfirst, List.append_assoc, ← List.replicate_add] at hrest
      exact hrest

theorem credentials_of_of? {authority : Url} {tenant clientId clientSecret : String} {p : Provider}
    (h : of? authority tenant clientId clientSecret = .ok p) :
    p.clientId = clientId ∧ p.clientSecret = clientSecret := by
  rw [of?] at h
  split at h
  · cases h
    exact ⟨rfl, rfl⟩
  · cases h

theorem request_body (p : Provider) :
    p.request.body = Text.Utf8.encode (Text.Form.encode p.form) := by
  rw [request]

theorem request_carries (p : Provider) :
    p.request.method = "POST" ∧ p.request.contentType = some "application/x-www-form-urlencoded" ∧
      (∃ written, p.request.body = Text.Utf8.encode written ∧ Text.Form.Spells written p.form) ∧
      Text.Form.decodeBytes p.request.body = p.form := by
  refine ⟨by rw [request], by rw [request, formType], ?_, ?_⟩
  · exact ⟨Text.Form.encode p.form, p.request_body, Text.Form.spells_encode p.form⟩
  · rw [request_body, Text.Form.decodeBytes_encode]

theorem body_eq_iff (p p' : Provider) :
    p'.request.body = p.request.body ↔
      p'.clientId = p.clientId ∧ p'.clientSecret = p.clientSecret := by
  have hforms : p'.request.body = p.request.body ↔ p'.form = p.form := by
    rw [request_body, request_body]
    constructor
    · intro h
      exact Text.Form.encode_injective (Text.Utf8.encode_injective h)
    · intro h
      rw [h]
  rw [hforms]
  simp [form]

-- Whatever is asked when, and whatever the authority does, it is sent nothing but the four pairs, with
-- the credentials in them as they are. So other credentials make another body.
theorem requests_carry_credentials {authority : Url} {tenant clientId clientSecret : String}
    {p : Provider} (h : of? authority tenant clientId clientSecret = .ok p)
    (wire : Wire (StateM σ)) (times : List Nat) (cache : Option Cached) (s : σ) :
    let noted := ((p.accesses (noting wire) times cache).run (s, [])).2.2
    let pairs : Text.Form.Pairs := [("grant_type", "client_credentials"), ("client_id", clientId),
      ("client_secret", clientSecret), ("scope", "https://graph.microsoft.com/.default")]
    (∀ r ∈ noted, r.method = "POST" ∧
      r.contentType = some "application/x-www-form-urlencoded" ∧ r.body = p.request.body ∧
      (∃ written, r.body = Text.Utf8.encode written ∧ Text.Form.Spells written pairs) ∧
      Text.Form.decodeBytes r.body = pairs) ∧
    (∀ now later, times = now :: later → fresh? now cache = none → p.CanAsk → noted ≠ []) ∧
    ∀ authority' tenant' clientId' clientSecret' p',
      of? authority' tenant' clientId' clientSecret' = .ok p' →
        (p'.request.body = p.request.body ↔
          clientId' = clientId ∧ clientSecret' = clientSecret) := by
  obtain ⟨rfl, rfl⟩ := credentials_of_of? h
  intro noted pairs
  obtain ⟨n, -, hpos, hnoted⟩ := noted_accesses p wire times cache (s, [])
  have hsame : noted = List.replicate n p.request.normalized := hnoted
  rw [hsame]
  refine ⟨?_, ?_, ?_⟩
  · intro r hr
    obtain rfl := List.eq_of_mem_replicate hr
    obtain ⟨htype, hbody⟩ := p.request.normalized_content
    rw [Remote.Request.normalized_method, htype, hbody]
    obtain ⟨hmethod, hform, hspelled, hread⟩ := p.request_carries
    exact ⟨hmethod, hform, rfl, hspelled, hread⟩
  · intro now later htimes hstale hask
    have hn : 0 < n := hpos now later htimes hstale hask
    rw [Ne, List.replicate_eq_nil_iff]
    omega
  · intro authority' tenant' clientId' clientSecret' p' h'
    obtain ⟨rfl, rfl⟩ := credentials_of_of? h'
    exact body_eq_iff p p'

def townAuthority : Url :=
  ⟨"https", "", none, some (.name "town.test"), none, false, .segments [""], none, none⟩

-- A secret that tries to close its pair and open another.
theorem requests_carry_credentials_of_marks :
    ∃ p, of? townAuthority "town" "a b" "c&scope=d+%26\n" = .ok p ∧ p.CanAsk ∧
      ∃ r : Request, Text.Form.decodeBytes r.body =
        [("grant_type", "client_credentials"), ("client_id", "a b"),
          ("client_secret", "c&scope=d+%26\n"),
          ("scope", "https://graph.microsoft.com/.default")] ∧
        r ∈ ((p.accesses (noting fun _ => pure .unreachable) [0] none).run ((), [])).2.2 := by
  have hurl : townAuthority.extend? ["town", "oauth2", "v2.0", "token"] =
      some { townAuthority with path := .segments ["town", "oauth2", "v2.0", "token"] } := by
    decide +kernel
  have hp : of? townAuthority "town" "a b" "c&scope=d+%26\n" =
      .ok ⟨{ townAuthority with path := .segments ["town", "oauth2", "v2.0", "token"] },
        "a b", "c&scope=d+%26\n"⟩ := by
    rw [of?, hurl]
  have hask : CanAsk ⟨{ townAuthority with path := .segments ["town", "oauth2", "v2.0", "token"] },
      "a b", "c&scope=d+%26\n"⟩ := ⟨by decide +kernel, by decide +kernel⟩
  obtain ⟨hcarry, hsent, -⟩ := requests_carry_credentials hp
    (fun _ => (pure .unreachable : StateM Unit Remote.Reply)) [0] none ()
  obtain ⟨r, hr⟩ := List.exists_mem_of_ne_nil _ (hsent 0 [] rfl rfl hask)
  exact ⟨_, hp, hask, r, (hcarry r hr).2.2.2.2, hr⟩

end Provider

end Token

end Unshare
