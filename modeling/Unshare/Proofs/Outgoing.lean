import Unshare.Proofs.Issuing
import Unshare.Proofs.Sending
import Unshare.Stack

namespace Unshare.Stack

open Remote (Request Reply)

-- An action that starts in the state `s` comes to this result and leaves the state `t`.
def Runs {α : Type} (act : Action α) (s : Stack) (result : Except Crash α) (t : Stack) : Prop :=
  act.run.run s = (result, t)

section

variable {α β : Type} {s t : Stack}

theorem Runs.pure_inv {a : α} {result : Except Crash α}
    (h : Runs (pure a : Action α) s result t) : result = .ok a ∧ t = s := by
  cases h
  exact ⟨rfl, rfl⟩

theorem Runs.throw_inv {c : Crash} {result : Except Crash α}
    (h : Runs (throw c : Action α) s result t) : result = .error c ∧ t = s := by
  cases h
  exact ⟨rfl, rfl⟩

-- Either the first action gives a value and the second goes on from there, or it crashes and
-- nothing follows.
theorem Runs.bind_inv {act : Action α} {next : α → Action β} {result : Except Crash β}
    (h : Runs (act >>= next) s result t) :
    (∃ a mid, Runs act s (.ok a) mid ∧ Runs (next a) mid result t) ∨
      ∃ c, Runs act s (.error c) t ∧ result = .error c := by
  unfold Runs at *
  rw [ExceptT.run_bind, StateT.run_bind] at h
  cases hact : act.run.run s with
  | mk first mid =>
    rw [hact] at h
    cases first with
    | ok a => exact .inl ⟨a, mid, rfl, h⟩
    | error c =>
      cases h
      exact .inr ⟨c, rfl, rfl⟩

end

-- A reply to a form post among these requests issued this token.
def Issues (s : Stack) (sent : List Request) (issued : Token.Issued) : Prop :=
  ∃ post reply, (post, reply) ∈ s.server.transcript sent ∧ post.method = "POST" ∧
    Token.Issues reply issued

-- A token that may be used: the kept one while it is fresh, or one that was issued for these
-- requests.
def Holds (s : Stack) (sent : List Request) (token : String) : Prop :=
  Token.fresh? s.clock s.token = some token ∨
    ∃ issued, Issues s sent issued ∧ issued.token = token

-- A token was issued that is to be used for longer than the clock can tell.
def Overruns (s : Stack) (sent : List Request) : Prop :=
  ∃ issued, Issues s sent issued ∧
    Token.lastSecond < s.clock + (issued.lifetime - Token.margin)

-- What the server has received on the way from one state to another.
structure Sends (s t : Stack) (sent : List Request) : Prop where
  reached : ∀ r ∈ sent, s.server.reaches r.url = true
  server : t.server = s.server.replay sent
  clock : t.clock = s.clock
  token : ∀ token, Token.fresh? t.clock t.token = some token → Holds s sent token

theorem Issues.append {s : Stack} {a : List Request} {issued : Token.Issued}
    (h : Issues s a issued) (b : List Request) : Issues s (a ++ b) issued := by
  obtain ⟨post, reply, hmem, hrest⟩ := h
  refine ⟨post, reply, ?_, hrest⟩
  rw [Remote.Server.transcript_append]
  exact List.mem_append_left _ hmem

theorem Sends.issues {s t : Stack} {a b : List Request} {issued : Token.Issued}
    (h : Sends s t a) (ht : Issues t b issued) : Issues s (a ++ b) issued := by
  obtain ⟨post, reply, hmem, hrest⟩ := ht
  refine ⟨post, reply, ?_, hrest⟩
  rw [Remote.Server.transcript_append, ← h.server]
  exact List.mem_append_right _ hmem

theorem Holds.append {s : Stack} {a : List Request} {token : String} (h : Holds s a token)
    (b : List Request) : Holds s (a ++ b) token :=
  h.imp_right fun ⟨issued, hissued, htoken⟩ => ⟨issued, hissued.append b, htoken⟩

theorem Sends.holds {s t : Stack} {a b : List Request} {token : String} (h : Sends s t a)
    (ht : Holds t b token) : Holds s (a ++ b) token := by
  cases ht with
  | inl hkept => exact (h.token token hkept).append b
  | inr hissued =>
    obtain ⟨issued, hissued, htoken⟩ := hissued
    exact .inr ⟨issued, h.issues hissued, htoken⟩

theorem Sends.refl (s : Stack) : Sends s s [] where
  reached := by simp
  server := rfl
  clock := rfl
  token := fun _ h => .inl h

theorem Sends.trans {s t u : Stack} {a b : List Request} (h : Sends s t a) (h' : Sends t u b) :
    Sends s u (a ++ b) where
  reached := by
    intro r hr
    rcases List.mem_append.mp hr with ha | hb
    · exact h.reached r ha
    · have hreached := h'.reached r hb
      rwa [h.server, (Remote.Server.received_replay h.reached).1] at hreached
  server := by rw [Remote.Server.replay_append, ← h.server, h'.server]
  clock := h'.clock.trans h.clock
  token := fun token hu => h.holds (h'.token token hu)

theorem Sends.received {s t : Stack} {sent : List Request} (h : Sends s t sent) :
    t.server.received = s.server.received ++ sent := by
  rw [h.server, (Remote.Server.received_replay h.reached).2]

-- Nothing but form posts, which is how tokens are asked for.
def OnlyPosts (sent : List Request) : Prop :=
  ∀ r ∈ sent, r.method = "POST"

theorem OnlyPosts.nil : OnlyPosts [] :=
  fun _ h => absurd h List.not_mem_nil

theorem onlyPosts_of_post {r : Request} {own : List Request} (hr : r.method = "POST")
    (h : own = [] ∨ own = [r.normalized]) : OnlyPosts own := by
  rcases h with rfl | rfl
  · exact OnlyPosts.nil
  · intro q hq
    rw [List.mem_singleton.mp hq, Remote.Request.normalized_method, hr]

theorem wire_inv {r : Request} {s t : Stack} {result : Except Crash Reply}
    (h : Runs (wire r) s result t) : result = .ok (s.server.exchange r).1 ∧
      t = { s with server := (s.server.exchange r).2 } := by
  cases h
  exact ⟨rfl, rfl⟩

theorem send_ne_crash {r : Request} {s t : Stack} {c : Crash} :
    ¬Runs (Remote.send wire r) s (.error c) t := by
  intro h
  simp only [Remote.send] at h
  split at h
  · cases h
  · split at h
    · cases h
    · obtain ⟨reply, mid, -, hnext⟩ | ⟨c, hwire, -⟩ := h.bind_inv
      · cases reply <;> cases hnext
      · cases hwire

-- A request is received in the form in which it is sent, or not at all.
theorem send_inv {r : Request} {s t : Stack}
    {result : Except Crash (Except Remote.Fault Remote.Answer)}
    (h : Runs (Remote.send wire r) s result t) :
    ∃ own, Sends s t own ∧ t.token = s.token ∧ (own = [] ∨ own = [r.normalized]) ∧
      (∀ answer, result = .ok (.ok answer) → own = [r.normalized] ∧
        (s.server.exchange r.normalized).1 = .answered answer.status answer.body) ∧
      ∀ q status body, own = [q] → (s.server.exchange q).1 = .answered status body →
        result = .ok (.ok ⟨q.url, status, body⟩) := by
  simp only [Remote.send] at h
  split at h
  · obtain ⟨rfl, rfl⟩ := h.pure_inv
    exact ⟨[], Sends.refl t, rfl, .inl rfl, by simp, by simp⟩
  · split at h
    · obtain ⟨rfl, rfl⟩ := h.pure_inv
      exact ⟨[], Sends.refl t, rfl, .inl rfl, by simp, by simp⟩
    · obtain ⟨reply, mid, hwire, hnext⟩ | ⟨c, hwire, -⟩ := h.bind_inv
      · obtain ⟨hreply, hmid⟩ := wire_inv hwire
        injection hreply with hreply
        have hresult : t = mid ∧ (∀ answer, result = .ok (.ok answer) →
            reply = .answered answer.status answer.body) ∧
            ∀ status body, reply = .answered status body →
              result = .ok (.ok ⟨r.normalized.url, status, body⟩) := by
          cases reply with
          | answered status body =>
            obtain ⟨rfl, rfl⟩ := hnext.pure_inv
            refine ⟨rfl, ?_, ?_⟩
            · rintro _ ⟨⟩
              rfl
            · rintro _ _ ⟨⟩
              rfl
          | timedOut =>
            obtain ⟨rfl, rfl⟩ := hnext.pure_inv
            exact ⟨rfl, by simp, by simp⟩
          | unreachable =>
            obtain ⟨rfl, rfl⟩ := hnext.pure_inv
            exact ⟨rfl, by simp, by simp⟩
        obtain ⟨rfl, hanswer, hanswered⟩ := hresult
        by_cases hreach : s.server.reaches r.normalized.url = true
        · refine ⟨[r.normalized], ⟨?_, ?_, ?_, ?_⟩, ?_, .inr rfl, ?_, ?_⟩
          · intro q hq
            rw [List.mem_singleton.mp hq]
            exact hreach
          · rw [hmid]
            rfl
          · rw [hmid]
          · intro token htoken
            rw [hmid] at htoken
            exact .inl htoken
          · rw [hmid]
          · intro answer ha
            rw [← hreply]
            exact ⟨rfl, hanswer answer ha⟩
          · rintro q status body ⟨⟩ hexchange
            exact hanswered status body (hreply.trans hexchange)
        · -- Nobody received it, so nothing has changed and there is no answer.
          rw [Remote.Server.exchange_of_not_reaches hreach] at hmid hreply
          refine ⟨[], ?_, ?_, .inl rfl, ?_, by simp⟩
          · rw [hmid]
            exact Sends.refl s
          · rw [hmid]
          · intro answer ha
            rw [hanswer answer ha] at hreply
            cases hreply
      · cases (wire_inv hwire).1

theorem ask_inv {p : Token.Provider} {s t : Stack}
    {result : Except Crash (Except Failure Token.Issued)} (h : Runs (p.ask wire) s result t) :
    ∃ posts, Sends s t posts ∧ OnlyPosts posts ∧ t.token = s.token ∧
      ∀ issued, result = .ok (.ok issued) ↔ Issues s posts issued := by
  obtain ⟨sent, mid, hsend, hnext⟩ | ⟨c, hsend, -⟩ := h.bind_inv
  · obtain ⟨own, hown, htoken, hform, hanswer, hanswered⟩ := send_inv hsend
    have hposts : OnlyPosts own := onlyPosts_of_post rfl hform
    -- What issues a token is the one answer there is.
    have hissues : ∀ issued, Issues s own issued → ∃ answer, sent = .ok answer ∧
        Token.ofAnswer answer = .ok issued := by
      rintro issued ⟨post, reply, hmem, -, hissues⟩
      obtain rfl | rfl := hform
      · cases hmem
      · obtain ⟨rfl, hreply⟩ := Prod.mk.inj (List.mem_singleton.mp hmem)
        obtain ⟨status, body, rfl⟩ := hissues.answered
        have hsent := hanswered _ status body rfl hreply.symm
        injection hsent with hsent
        exact ⟨_, hsent, (Token.ofAnswer_eq_ok_iff _ issued).mpr hissues⟩
    cases sent with
    | error fault =>
      obtain ⟨rfl, rfl⟩ := hnext.pure_inv
      refine ⟨own, hown, hposts, htoken, fun issued => iff_of_false (by simp) ?_⟩
      intro hissued
      obtain ⟨_, ⟨⟩, -⟩ := hissues issued hissued
    | ok answer =>
      obtain ⟨rfl, rfl⟩ := hnext.pure_inv
      refine ⟨own, hown, hposts, htoken, fun issued => ⟨?_, ?_⟩⟩
      · intro hissued
        injection hissued with hissued
        obtain ⟨rfl, hreply⟩ := hanswer answer rfl
        refine ⟨p.request.normalized, _, ?_, hposts _ (List.mem_singleton_self _),
          (Token.ofAnswer_eq_ok_iff answer issued).mp hissued⟩
        rw [← hreply]
        exact List.mem_singleton_self _
      · intro hissued
        obtain ⟨_, ⟨⟩, hread⟩ := hissues issued hissued
        rw [hread]
  · exact absurd hsend send_ne_crash

theorem ask_ne_crash {p : Token.Provider} {s t : Stack} {c : Crash} :
    ¬Runs (p.ask wire) s (.error c) t := by
  intro h
  obtain ⟨sent, mid, -, hnext⟩ | ⟨c, hsend, -⟩ := h.bind_inv
  · cases sent <;> cases hnext
  · exact send_ne_crash hsend

theorem not_overruns_of_not_issues {s : Stack} {posts : List Request}
    (h : ∀ issued, ¬Issues s posts issued) : ¬Overruns s posts := by
  rintro ⟨issued, hissues, -⟩
  exact h issued hissues

theorem not_overruns_nil {s : Stack} : ¬Overruns s [] := by
  apply not_overruns_of_not_issues
  rintro issued ⟨_, _, hmem, -⟩
  exact List.not_mem_nil hmem

-- The one token that was issued is kept, or it is to be used for longer than the clock can tell.
theorem keep_eq_error_iff {s : Stack} {posts : List Request} {issued : Token.Issued}
    (h : ∀ other, Issues s posts other ↔ issued = other) :
    (∃ c, Token.keep s.clock issued = .error c) ↔ Overruns s posts := by
  have hover : Overruns s posts ↔
      Token.lastSecond < s.clock + (issued.lifetime - Token.margin) := by
    simp only [Overruns, h]
    exact ⟨fun ⟨_, hissued, hlate⟩ => hissued ▸ hlate, fun hlate => ⟨issued, rfl, hlate⟩⟩
  rw [hover, ← Nat.not_le]
  by_cases hfits : s.clock + (issued.lifetime - Token.margin) ≤ Token.lastSecond
  · have hkept : ∀ c, Token.keep s.clock issued ≠ .error c := by
      intro c hkeep
      rw [Token.keep, if_pos hfits] at hkeep
      cases hkeep
    exact iff_of_false (fun ⟨c, hkeep⟩ => hkept c hkeep) (not_not_intro hfits)
  · exact iff_of_true ⟨_, if_neg hfits⟩ hfits

theorem token_of_keep {now : Nat} {issued : Token.Issued} {cached : Token.Cached}
    (h : Token.keep now issued = .ok cached) : cached.token = issued.token := by
  simp only [Token.keep] at h
  split at h
  · cases h
    rfl
  · cases h

theorem fresh?_eq_some {now : Nat} {cached : Token.Cached} {token : String}
    (h : Token.fresh? now (some cached) = some token) : cached.token = token := by
  simp only [Token.fresh?, Option.filter] at h
  split at h
  · cases h
    rfl
  · cases h

-- Both the token that is given out and the one that is kept for later may be used.
theorem access_inv {p : Token.Provider} {s t : Stack}
    {result : Except Crash (Except Abort String × Option Token.Cached)}
    (h : Runs (p.access wire s.clock s.token) s result t) :
    ∃ posts, Sends s t posts ∧ OnlyPosts posts ∧
      ∀ given kept, result = .ok (given, kept) →
        (∀ token, given = .ok token → Holds s posts token) ∧
        (∀ token, Token.fresh? s.clock kept = some token → Holds s posts token) ∧
        ((∃ c, given = .error (.crash c)) ↔ Overruns s posts) := by
  rw [Token.Provider.access] at h
  cases hfresh : Token.fresh? s.clock s.token with
  | some token =>
    rw [hfresh] at h
    obtain ⟨rfl, rfl⟩ := h.pure_inv
    refine ⟨[], Sends.refl t, OnlyPosts.nil, ?_⟩
    rintro _ _ ⟨⟩
    refine ⟨?_, fun _ hkept => .inl hkept, iff_of_false (by simp) not_overruns_nil⟩
    rintro _ ⟨⟩
    exact .inl hfresh
  | none =>
    rw [hfresh] at h
    obtain ⟨asked, mid, hask, hnext⟩ | ⟨c, hask, rfl⟩ := h.bind_inv
    · obtain ⟨posts, hposts, honly, -, hissued⟩ := ask_inv hask
      -- The token that was kept before is not fresh, so what is kept unchanged gives none.
      have hstale : ∀ token, Token.fresh? s.clock s.token = some token → Holds s posts token :=
        fun _ hkept => .inl hkept
      cases asked with
      | error f =>
        obtain ⟨rfl, rfl⟩ := hnext.pure_inv
        refine ⟨posts, hposts, honly, ?_⟩
        rintro _ _ ⟨⟩
        refine ⟨by simp, hstale, iff_of_false (by simp) (not_overruns_of_not_issues ?_)⟩
        intro issued hissues
        cases (hissued issued).mpr hissues
      | ok issued =>
        have hissues : Issues s posts issued := (hissued issued).mp rfl
        have honce : ∀ other, Issues s posts other ↔ issued = other := fun other => by
          rw [← hissued, Except.ok.injEq, Except.ok.injEq]
        have hover := keep_eq_error_iff honce
        cases hkeep : Token.keep s.clock issued with
        | error crash =>
          simp only [hkeep] at hnext
          obtain ⟨rfl, rfl⟩ := hnext.pure_inv
          refine ⟨posts, hposts, honly, ?_⟩
          rintro _ _ ⟨⟩
          exact ⟨by simp, hstale, iff_of_true ⟨crash, rfl⟩ (hover.mp ⟨crash, hkeep⟩)⟩
        | ok cached =>
          simp only [hkeep] at hnext
          obtain ⟨rfl, rfl⟩ := hnext.pure_inv
          refine ⟨posts, hposts, honly, ?_⟩
          rintro _ _ ⟨⟩
          refine ⟨?_, ?_, iff_of_false (by simp) ?_⟩
          · rintro _ ⟨⟩
            exact .inr ⟨issued, hissues, rfl⟩
          · intro token htoken
            rw [← fresh?_eq_some htoken, token_of_keep hkeep]
            exact .inr ⟨issued, hissues, rfl⟩
          · rw [← hover]
            rintro ⟨c, hcrash⟩
            rw [hkeep] at hcrash
            cases hcrash
    · exact absurd hask ask_ne_crash

theorem access_ne_crash {p : Token.Provider} {s t : Stack} {c : Crash} :
    ¬Runs (p.access wire s.clock s.token) s (.error c) t := by
  intro h
  rw [Token.Provider.access] at h
  cases hfresh : Token.fresh? s.clock s.token with
  | some token =>
    rw [hfresh] at h
    cases h
  | none =>
    rw [hfresh] at h
    obtain ⟨asked, mid, -, hnext⟩ | ⟨c, hask, -⟩ := h.bind_inv
    · cases asked with
      | error f => cases hnext
      | ok issued =>
        cases hkeep : Token.keep s.clock issued <;> simp only [hkeep] at hnext <;> cases hnext
    · exact ask_ne_crash hask

theorem accessToken_inv {p : Token.Provider} {s t : Stack}
    {result : Except Crash (Except Abort String)} (h : Runs (accessToken p) s result t) :
    ∃ posts, Sends s t posts ∧ OnlyPosts posts ∧
      (∀ token, result = .ok (.ok token) → Holds s posts token) ∧
      ((∃ c, result = .ok (.error (.crash c))) ↔ Overruns s posts) := by
  obtain ⟨_, _, hget, hrest⟩ | ⟨c, hget, -⟩ := h.bind_inv
  · cases hget
    obtain ⟨⟨given, kept⟩, mid, haccess, hnext⟩ | ⟨c, haccess, rfl⟩ := hrest.bind_inv
    · obtain ⟨posts, hposts, honly, hholds⟩ := access_inv haccess
      obtain ⟨hgiven, hkept, hover⟩ := hholds given kept rfl
      cases hnext
      refine ⟨posts, ⟨hposts.reached, hposts.server, hposts.clock, ?_⟩, honly, ?_, ?_⟩
      · intro token htoken
        apply hkept
        rw [← hposts.clock]
        exact htoken
      · intro token htoken
        injection htoken with htoken
        exact hgiven token htoken
      · simp only [Except.ok.injEq, hover]
    · exact absurd haccess access_ne_crash
  · cases hget

theorem accessToken_ne_crash {p : Token.Provider} {s t : Stack} {c : Crash} :
    ¬Runs (accessToken p) s (.error c) t := by
  intro h
  obtain ⟨_, _, hget, hrest⟩ | ⟨c, hget, -⟩ := h.bind_inv
  · cases hget
    obtain ⟨_, mid, -, hnext⟩ | ⟨c, haccess, -⟩ := hrest.bind_inv
    · cases hnext
    · exact access_ne_crash haccess
  · cases hget

-- What an operation sends once it has its token: nothing, or one request for the permission.
def IsOwn (s : Stack) (posts : List Request) (base : Url) (operation : Graph.Operation)
    (id : GrantId) (own : List Request) : Prop :=
  own = [] ∨ ∃ url token, Graph.permissionUrl base id = .ok url ∧ Holds s posts token ∧
    own = [(Graph.request operation url token).normalized]

-- An operation on a permission: form posts for its token, then what it sends itself.
structure Performs (s t : Stack) (base : Url) (operation : Graph.Operation) (id : GrantId)
    (posts own : List Request) : Prop where
  sends : Sends s t (posts ++ own)
  only : OnlyPosts posts
  isOwn : IsOwn s posts base operation id own

theorem isSuccess_of_failureOf? {a : Remote.Answer} (h : Graph.failureOf? a = none) :
    Http.Status.isSuccess a.status = true := by
  rw [Graph.failureOf?] at h
  split at h
  · rename_i hsuccess
    exact hsuccess
  · split at h <;> cases h

theorem failureOf?_of_isSuccess {a : Remote.Answer} (h : Http.Status.isSuccess a.status = true) :
    Graph.failureOf? a = none := by
  rw [Graph.failureOf?, Remote.Answer.isSuccess, if_pos h]

-- What an operation comes to with this answer.
def judged (a : Remote.Answer) : Except Abort Remote.Answer :=
  match Graph.failureOf? a with
  | some f => .error (.failure f)
  | none => .ok a

theorem judged_of_isSuccess {a : Remote.Answer} (h : Http.Status.isSuccess a.status = true) :
    judged a = .ok a := by
  rw [judged, failureOf?_of_isSuccess h]

theorem perform_inv {g : Settings.Graph} {p : Token.Provider} {operation : Graph.Operation}
    {id : GrantId} {s t : Stack} {result : Except Crash (Except Abort Remote.Answer)}
    (h : Runs ((client g p).perform operation id) s result t) :
    ∃ posts own, Performs s t g.baseUrl operation id posts own ∧
      (∀ answer, result = .ok (.ok answer) → ∃ r, own = [r] ∧
        Http.Status.isSuccess answer.status = true ∧
        ((s.server.replay posts).exchange r).1 = .answered answer.status answer.body) ∧
      (∀ r status body, own = [r] →
        ((s.server.replay posts).exchange r).1 = .answered status body →
        result = .ok (judged ⟨r.url, status, body⟩)) ∧
      ((∃ c, result = .ok (.error (.crash c))) ↔ Overruns s posts) := by
  rw [Graph.Client.perform] at h
  cases hurl : Graph.permissionUrl (client g p).baseUrl id with
  | error f =>
    rw [hurl] at h
    obtain ⟨rfl, rfl⟩ := h.pure_inv
    exact ⟨[], [], ⟨Sends.refl t, OnlyPosts.nil, .inl rfl⟩, by simp, by simp,
      iff_of_false (by simp) not_overruns_nil⟩
  | ok url =>
    rw [hurl] at h
    obtain ⟨given, mid, hgiven, hrest⟩ | ⟨c, hgiven, rfl⟩ := h.bind_inv
    · obtain ⟨posts, hposts, honly, hholds, hover⟩ := accessToken_inv hgiven
      cases given with
      | error abort =>
        obtain ⟨rfl, rfl⟩ := hrest.pure_inv
        refine ⟨posts, [], ⟨by rwa [List.append_nil], honly, .inl rfl⟩, by simp, by simp, ?_⟩
        simpa only [Except.ok.injEq, Except.error.injEq] using hover
      | ok token =>
        have htoken : Holds s posts token := hholds token rfl
        have hfits : ¬Overruns s posts := by simp [← hover]
        obtain ⟨sent, last, hsend, hnext⟩ | ⟨c, hsend, -⟩ := hrest.bind_inv
        · obtain ⟨own, hown, -, hform, hanswer, hanswered⟩ := send_inv hsend
          have hperforms : Performs s last g.baseUrl operation id posts own :=
            ⟨hposts.trans hown, honly,
              hform.imp_right fun hsent => ⟨url, token, hurl, htoken, hsent⟩⟩
          rw [hposts.server] at hanswer hanswered
          cases sent with
          | error fault =>
            obtain ⟨rfl, rfl⟩ := hnext.pure_inv
            refine ⟨posts, own, hperforms, by simp, ?_, iff_of_false (by simp) hfits⟩
            intro r status body hone hreply
            cases hanswered r status body hone hreply
          | ok answer =>
            cases hfailure : Graph.failureOf? answer with
            | some f =>
              simp only [hfailure] at hnext
              obtain ⟨rfl, rfl⟩ := hnext.pure_inv
              refine ⟨posts, own, hperforms, by simp, ?_, iff_of_false (by simp) hfits⟩
              intro r status body hone hreply
              cases hanswered r status body hone hreply
              rw [judged, hfailure]
            | none =>
              simp only [hfailure] at hnext
              obtain ⟨rfl, rfl⟩ := hnext.pure_inv
              refine ⟨posts, own, hperforms, ?_, ?_, iff_of_false (by simp) hfits⟩
              · rintro _ ⟨⟩
                obtain ⟨hone, hreply⟩ := hanswer answer rfl
                exact ⟨_, hone, isSuccess_of_failureOf? hfailure, hreply⟩
              · intro r status body hone hreply
                cases hanswered r status body hone hreply
                rw [judged, hfailure]
        · exact absurd hsend send_ne_crash
    · exact absurd hgiven accessToken_ne_crash

end Unshare.Stack
