import Unshare.Proofs.Issuing

namespace Unshare.Token

open Remote (Reply Request)

-- Gives every request this reply, and notes the request.
def replying (reply : Reply) : Remote.Wire (StateM (List Request)) :=
  fun r => modifyGet fun sent => (reply, sent ++ [r])

-- What a call for a token gives, and what is sent for it.
structure Call where
  given : Except Abort String
  sent : List Request

-- The token of a reply that is issued for longer than the margin.
def lasting? (reply : Reply) : Option String :=
  ((issued? reply).filter fun issued => margin < issued.lifetime).map Issued.token

-- The clock can name the second until which the token of the reply is used.
def Fits (now : Nat) (reply : Reply) : Prop :=
  ∀ issued, Issues reply issued → now + (issued.lifetime - 60) ≤ lastSecond

theorem lasting?_eq_some_iff (reply : Reply) (token : String) :
    lasting? reply = some token ↔
      ∃ issued, Issues reply issued ∧ issued.token = token ∧ 60 < issued.lifetime := by
  simp only [lasting?, Option.map_eq_some_iff, Option.filter_eq_some_iff, decide_eq_true_eq,
    issues_iff, and_assoc]
  exact exists_congr fun issued => and_congr_right fun _ => and_comm

theorem lasting?_eq_none_iff (reply : Reply) :
    lasting? reply = none ↔ ∀ issued, Issues reply issued → issued.lifetime ≤ 60 := by
  simp only [lasting?, Option.map_eq_none_iff, Option.filter_eq_none_iff, decide_eq_true_eq,
    Nat.not_lt, issues_iff]
  rfl

-- A token is fresh in the second in which it is kept exactly if it was issued for longer than the
-- margin.
theorem fresh?_of_keep {now : Nat} {reply : Reply} {issued : Issued} {cached : Cached}
    (hissued : Issues reply issued) (hkeep : keep now issued = .ok cached) :
    fresh? now (some cached) = lasting? reply := by
  simp only [keep] at hkeep
  split at hkeep
  · cases hkeep
    have hlasts : now < now + (issued.lifetime - margin) ↔ margin < issued.lifetime := by omega
    simp only [fresh?, lasting?, (issues_iff reply issued).mp hissued, Option.filter, hlasts]
    split <;> rfl
  · cases hkeep

theorem exists_keep_of_fits {now : Nat} {reply : Reply} {issued : Issued}
    (hissued : Issues reply issued) (hfits : Fits now reply) :
    ∃ cached, keep now issued = .ok cached :=
  ⟨_, if_pos (hfits issued hissued)⟩

namespace Provider

-- A call in this second that finds this reply prepared, and what is kept after it.
def call (p : Provider) (now : Nat) (reply : Reply) (cache : Option Cached) :
    Call × Option Cached :=
  let ((given, kept), sent) := (p.access (replying reply) now cache).run []
  (⟨given, sent⟩, kept)

-- Calls in one second, each with a reply prepared for it. A reply that nobody asks for is lost.
def calls (p : Provider) (now : Nat) : List Reply → Option Cached → List Call
  | [], _ => []
  | reply :: rest, cache =>
    let taken := p.call now reply cache
    taken.1 :: p.calls now rest taken.2

-- The provider's request is one that may be sent.
def CanAsk (p : Provider) : Prop :=
  p.request.normalized.hasLegalHeaders = true ∧ Remote.isSendable p.request.normalized.url = true

-- What the provider makes of the reply to its request.
def told (p : Provider) : Reply → Except Failure Issued
  | .answered status body => ofAnswer ⟨p.request.normalized.url, status, body⟩
  | .timedOut => .error (.dependency
      ("token request failed: " ++ (Remote.Fault.timedOut p.request.normalized.url).message))
  | .unreachable => .error (.dependency
      ("token request failed: " ++ (Remote.Fault.unreachable p.request.normalized.url).message))

-- What a call gives that is sent this reply.
def given (p : Provider) (reply : Reply) : Except Abort String :=
  match p.told reply with
  | .ok issued => .ok issued.token
  | .error f => .error (.failure f)

-- What a call does with this token in use, if there is one.
def next (p : Provider) (inUse : Option String) (reply : Reply) : Call :=
  match inUse with
  | some token => ⟨.ok token, []⟩
  | none => ⟨p.given reply, [p.request.normalized]⟩

-- The calls, told from the token in use alone.
def uses (p : Provider) : Option String → List Reply → List Call
  | _, [] => []
  | inUse, reply :: rest => p.next inUse reply :: p.uses (inUse <|> lasting? reply) rest

section

variable {p : Provider} {now : Nat} {cache : Option Cached} {reply : Reply}

theorem run_ask (h : p.CanAsk) (reply : Reply) (sent : List Request) :
    (p.ask (replying reply)).run sent = (p.told reply, sent ++ [p.request.normalized]) := by
  obtain ⟨hheaders, hurl⟩ := h
  simp only [ask, Remote.send, hheaders, hurl, Bool.not_true, Bool.false_eq_true, if_false]
  cases reply <;> rfl

-- A request that may not be sent fails before it gets to the wire.
theorem run_ask_of_not (h : ¬p.CanAsk) (reply : Reply) (sent : List Request) :
    ∃ detail, (p.ask (replying reply)).run sent = (.error (.dependency detail), sent) := by
  simp only [ask, Remote.send]
  by_cases hheaders : p.request.normalized.hasLegalHeaders = true
  · have hurl : Remote.isSendable p.request.normalized.url = false := by
      rw [← Bool.not_eq_true]
      exact fun hurl => h ⟨hheaders, hurl⟩
    simp only [hheaders, hurl, Bool.not_true, Bool.false_eq_true, if_false, Bool.not_false,
      if_true]
    exact ⟨_, rfl⟩
  · rw [Bool.not_eq_true] at hheaders
    simp only [hheaders, Bool.not_false, if_true]
    exact ⟨_, rfl⟩

theorem told_eq_ok_iff (p : Provider) (reply : Reply) (issued : Issued) :
    p.told reply = .ok issued ↔ Issues reply issued := by
  cases reply with
  | answered status body => exact ofAnswer_eq_ok_iff _ issued
  | timedOut => simp [told, Issues]
  | unreachable => simp [told, Issues]

theorem told_of_not_issues (h : ∀ issued, ¬Issues reply issued) :
    ∃ detail, p.told reply = .error (.dependency detail) := by
  cases reply with
  | answered status body =>
    have hnone : issued? (.answered status body) = none := by
      simpa only [issues_iff, Option.eq_none_iff_forall_ne_some] using h
    rw [told, ofAnswer]
    split
    · rename_i hsuccess
      have hsuccess' : Http.Status.isSuccess status = true := hsuccess
      rw [issued?, if_pos hsuccess'] at hnone
      rw [Remote.Answer.decode, hnone]
      exact ⟨_, rfl⟩
    · exact ⟨_, rfl⟩
  | timedOut => exact ⟨_, rfl⟩
  | unreachable => exact ⟨_, rfl⟩

theorem given_eq_ok_iff (p : Provider) (reply : Reply) (token : String) :
    p.given reply = .ok token ↔ ∃ issued, Issues reply issued ∧ issued.token = token := by
  simp only [← told_eq_ok_iff p, given]
  cases p.told reply <;> simp

theorem given_of_not_issues (h : ∀ issued, ¬Issues reply issued) :
    ∃ detail, p.given reply = .error (.failure (.dependency detail)) := by
  obtain ⟨detail, htold⟩ := told_of_not_issues (p := p) h
  exact ⟨detail, by rw [given, htold]⟩

-- While a token is fresh, a call gives it and sends nothing.
theorem call_of_fresh {token : String} (h : fresh? now cache = some token) (reply : Reply) :
    p.call now reply cache = (⟨.ok token, []⟩, cache) := by
  simp only [call, access, h]
  rfl

-- What a call comes to that was given this token, and what is kept after it.
def held (issued : Issued) (cache : Option Cached) :
    Except Crash Cached → Except Abort String × Option Cached
  | .ok cached => (.ok issued.token, some cached)
  | .error crash => (.error (.crash crash), cache)

-- What a call comes to that has no fresh token, and what is kept after it.
def received (now : Nat) (cache : Option Cached) :
    Except Failure Issued → Except Abort String × Option Cached
  | .error f => (.error (.failure f), cache)
  | .ok issued => held issued cache (keep now issued)

theorem access_of_stale {m : Type → Type} [Monad m] (h : fresh? now cache = none)
    (wire : Remote.Wire m) :
    p.access wire now cache = do return received now cache (← p.ask wire) := by
  simp only [access, h]
  congr 1
  funext asked
  cases asked with
  | error f => rfl
  | ok issued =>
    rw [received]
    cases hkeep : keep now issued <;> simp only [hkeep, held]

theorem call_of_stale {asked : Except Failure Issued} {sent : List Request}
    (hstale : fresh? now cache = none)
    (hask : (p.ask (replying reply)).run [] = (asked, sent)) :
    p.call now reply cache =
      (⟨(received now cache asked).1, sent⟩, (received now cache asked).2) := by
  rw [call, access_of_stale hstale, StateT.run_bind, hask]
  rfl

-- One call goes by the token in use, and leaves the token in use to the next.
theorem call_follows (h : p.CanAsk) (hfits : Fits now reply) (cache : Option Cached) :
    (p.call now reply cache).1 = p.next (fresh? now cache) reply ∧
      fresh? now (p.call now reply cache).2 = (fresh? now cache <|> lasting? reply) := by
  cases hfresh : fresh? now cache with
  | some token =>
    rw [call_of_fresh hfresh]
    exact ⟨rfl, hfresh⟩
  | none =>
    rw [call_of_stale hfresh (run_ask h reply [])]
    cases hread : issued? reply with
    | some issued =>
      have hissued := (issues_iff reply issued).mpr hread
      obtain ⟨cached, hkeep⟩ := exists_keep_of_fits hissued hfits
      simp only [next, given, (told_eq_ok_iff p reply issued).mpr hissued, received, hkeep, held]
      exact ⟨rfl, fresh?_of_keep hissued hkeep⟩
    | none =>
      have hnone : ∀ issued, ¬Issues reply issued := by simp [issues_iff, hread]
      obtain ⟨detail, htold⟩ := told_of_not_issues (p := p) hnone
      have hnot : lasting? reply = none := by
        rw [lasting?, hread]
        rfl
      simp only [next, given, htold, received, hnot]
      exact ⟨rfl, hfresh⟩

theorem calls_eq_uses (h : p.CanAsk) {replies : List Reply}
    (hfits : ∀ reply ∈ replies, Fits now reply) (cache : Option Cached) :
    p.calls now replies cache = p.uses (fresh? now cache) replies := by
  induction replies generalizing cache with
  | nil => rfl
  | cons reply rest ih =>
    obtain ⟨hreply, hrest⟩ := List.forall_mem_cons.mp hfits
    obtain ⟨hcall, hkept⟩ := call_follows h hreply cache
    rw [calls, uses, hcall, ih hrest, hkept]

-- A call goes by the first token that was issued for longer than the margin before it.
theorem uses_split {replies : List Reply} {inUse : Option String}
    {before after : List (Reply × Call)} {taken : Reply × Call}
    (h : replies.zip (p.uses inUse replies) = before ++ taken :: after) :
    taken.2 = p.next (inUse <|> (before.map Prod.fst).findSome? lasting?) taken.1 := by
  induction before generalizing replies inUse with
  | nil =>
    cases replies with
    | nil => cases h
    | cons reply rest =>
      rw [uses, List.zip_cons_cons, List.nil_append, List.cons.injEq] at h
      rw [← h.1]
      cases inUse <;> rfl
  | cons first before ih =>
    cases replies with
    | nil => cases h
    | cons reply rest =>
      rw [uses, List.zip_cons_cons, List.cons_append, List.cons.injEq] at h
      obtain ⟨hfirst, hrest⟩ := h
      rw [ih hrest, ← hfirst, List.map_cons, List.findSome?_cons]
      cases inUse <;> cases lasting? reply <;> rfl

-- A reply that brings no token for longer than the margin leaves no trace in the other calls.
theorem uses_eraseIdx (hreply : lasting? reply = none) (front back : List Reply)
    (inUse : Option String) :
    p.uses inUse (front ++ back) =
      (p.uses inUse (front ++ reply :: back)).eraseIdx front.length := by
  induction front generalizing inUse with
  | nil =>
    simp only [List.nil_append, uses, hreply, List.length_nil, List.eraseIdx_cons_zero]
    cases inUse <;> rfl
  | cons first front ih =>
    simp only [List.cons_append, uses, List.length_cons, List.eraseIdx_cons_succ, ih]

end

-- The call was sent its reply, and gives a token out of it that was issued for longer than a
-- minute.
def Renews (taken : Reply × Call) (token : String) : Prop :=
  taken.2.sent ≠ [] ∧ taken.2.given = .ok token ∧
    ∃ issued, Issues taken.1 issued ∧ issued.token = token ∧ 60 < issued.lifetime

section

variable {p : Provider} {now : Nat} {replies : List Reply} {before after : List (Reply × Call)}
  {taken : Reply × Call} {token : String}

theorem renews_of_lasting? (hcall : taken.2 = p.next none taken.1)
    (hlasts : lasting? taken.1 = some token) : Renews taken token := by
  obtain ⟨issued, hissued, htoken, hmargin⟩ := (lasting?_eq_some_iff _ _).mp hlasts
  have hgiven : p.given taken.1 = .ok token :=
    (given_eq_ok_iff p _ _).mpr ⟨issued, hissued, htoken⟩
  rw [Renews, hcall]
  exact ⟨List.cons_ne_nil _ _, hgiven, issued, hissued, htoken, hmargin⟩

theorem lasting?_of_renews (h : Renews taken token) : lasting? taken.1 = some token :=
  (lasting?_eq_some_iff _ _).mpr h.2.2

-- What is in use at a call is what a call before it was the first to get.
theorem inUse_eq_some_iff
    (h : replies.zip (p.uses none replies) = before ++ taken :: after) (token : String) :
    (before.map Prod.fst).findSome? lasting? = some token ↔
      ∃ earlier ∈ before, Renews earlier token := by
  constructor
  · intro hfound
    rw [List.findSome?_map, List.findSome?_eq_some_iff] at hfound
    obtain ⟨front, first, back, rfl, hlasts, hfront⟩ := hfound
    rw [List.append_assoc, List.cons_append] at h
    have hnone : (front.map Prod.fst).findSome? lasting? = none := by
      rw [List.findSome?_map, List.findSome?_eq_none_iff]
      exact hfront
    have hcall := uses_split h
    rw [hnone] at hcall
    exact ⟨first, by simp, renews_of_lasting? hcall hlasts⟩
  · rintro ⟨earlier, hmem, hrenews⟩
    obtain ⟨front, back, rfl⟩ := List.append_of_mem hmem
    rw [List.append_assoc, List.cons_append] at h
    have hcall := uses_split h
    have hlasts := lasting?_of_renews hrenews
    cases hfront : (front.map Prod.fst).findSome? lasting? with
    | some _ =>
      -- A call with a token in use sends nothing, and this one did.
      rw [hfront] at hcall
      exact absurd (congrArg Call.sent hcall) hrenews.1
    | none =>
      rw [List.map_append, List.findSome?_append, hfront, List.map_cons, List.findSome?_cons,
        hlasts]
      rfl

theorem inUse_eq_none_iff
    (h : replies.zip (p.uses none replies) = before ++ taken :: after) :
    (before.map Prod.fst).findSome? lasting? = none ↔
      ¬∃ earlier ∈ before, ∃ token, Renews earlier token := by
  rw [Option.eq_none_iff_forall_ne_some]
  constructor
  · rintro hnone ⟨earlier, hmem, token, hrenews⟩
    exact hnone token ((inUse_eq_some_iff h token).mpr ⟨earlier, hmem, hrenews⟩)
  · intro hnot token hfound
    obtain ⟨earlier, hmem, hrenews⟩ := (inUse_eq_some_iff h token).mp hfound
    exact hnot ⟨earlier, hmem, token, hrenews⟩

theorem sends_iff (h : replies.zip (p.uses none replies) = before ++ taken :: after) :
    taken.2.sent ≠ [] ↔ ¬∃ earlier ∈ before, ∃ token, Renews earlier token := by
  rw [← inUse_eq_none_iff h, uses_split h]
  cases (before.map Prod.fst).findSome? lasting? with
  | none => exact iff_of_true (List.cons_ne_nil _ _) rfl
  | some token => exact iff_of_false (fun hsent => hsent rfl) (Option.some_ne_none token)

theorem eq_next_of_sends (h : replies.zip (p.uses none replies) = before ++ taken :: after)
    (hsends : taken.2.sent ≠ []) : taken.2 = ⟨p.given taken.1, [p.request.normalized]⟩ := by
  rw [uses_split h, (inUse_eq_none_iff h).mpr ((sends_iff h).mp hsends)]
  rfl

-- Once a token has been issued for longer than the margin, every later call gives it.
theorem eq_of_renews (h : replies.zip (p.uses none replies) = before ++ taken :: after)
    (hrenews : Renews taken token) : ∀ later ∈ after, later.2 = ⟨.ok token, []⟩ := by
  intro later hlater
  obtain ⟨front, back, rfl⟩ := List.append_of_mem hlater
  rw [← List.cons_append, ← List.append_assoc] at h
  have hfound := (inUse_eq_some_iff h token).mpr ⟨taken, by simp, hrenews⟩
  rw [uses_split h, hfound]
  rfl

end

-- A provider whose request may not be sent fails every time, and nothing is kept.
theorem call_of_cannotAsk {p : Provider} (h : ¬p.CanAsk) (now : Nat) (reply : Reply) :
    ∃ detail, p.call now reply none = (⟨.error (.failure (.dependency detail)), []⟩, none) := by
  obtain ⟨detail, hask⟩ := run_ask_of_not h reply []
  exact ⟨detail, by rw [call_of_stale rfl hask]; rfl⟩

theorem calls_of_cannotAsk {p : Provider} (h : ¬p.CanAsk) (now : Nat) (replies : List Reply) :
    ∀ call ∈ p.calls now replies none,
      call.sent = [] ∧ ∃ detail, call.given = .error (.failure (.dependency detail)) := by
  induction replies with
  | nil => exact List.forall_mem_nil _
  | cons reply rest ih =>
    obtain ⟨detail, hcall⟩ := call_of_cannotAsk h now reply
    rw [calls, hcall, List.forall_mem_cons]
    exact ⟨⟨rfl, detail, rfl⟩, ih⟩

theorem length_calls (p : Provider) (now : Nat) (replies : List Reply) (cache : Option Cached) :
    (p.calls now replies cache).length = replies.length := by
  induction replies generalizing cache with
  | nil => rfl
  | cons reply rest ih => rw [calls, List.length_cons, List.length_cons, ih]

-- Calls in one second ask until the first token that was issued for longer than a minute, each
-- for itself, and give that token from then on.
theorem calls_follow_first_lasting (p : Provider) {now : Nat} {replies : List Reply}
    (hfits : ∀ reply ∈ replies, Fits now reply) :
    (p.calls now replies none).length = replies.length ∧
    (p.CanAsk →
      (∀ before taken after,
        replies.zip (p.calls now replies none) = before ++ taken :: after →
          (taken.2.sent ≠ [] ↔ ¬∃ earlier ∈ before, ∃ token, Renews earlier token) ∧
          (taken.2.sent ≠ [] →
            taken.2 = ⟨p.given taken.1, [p.request.normalized]⟩ ∧
            (∀ token, taken.2.given = .ok token ↔
              ∃ issued, Issues taken.1 issued ∧ issued.token = token) ∧
            ((∀ issued, ¬Issues taken.1 issued) →
              ∃ detail, taken.2.given = .error (.failure (.dependency detail)))) ∧
          ∀ token, Renews taken token → ∀ later ∈ after, later.2 = ⟨.ok token, []⟩) ∧
      ∀ front reply back, replies = front ++ reply :: back →
        (∀ issued, Issues reply issued → issued.lifetime ≤ 60) →
          p.calls now (front ++ back) none =
            (p.calls now replies none).eraseIdx front.length) ∧
    (¬p.CanAsk → ∀ call ∈ p.calls now replies none,
      call.sent = [] ∧ ∃ detail, call.given = .error (.failure (.dependency detail))) := by
  refine ⟨length_calls p now replies none, fun h => ⟨?_, ?_⟩,
    fun h => calls_of_cannotAsk h now replies⟩
  · intro before taken after hsplit
    rw [calls_eq_uses h hfits] at hsplit
    refine ⟨sends_iff hsplit, fun hsends => ?_, fun token => eq_of_renews hsplit⟩
    have hcall := eq_next_of_sends hsplit hsends
    have hgiven : taken.2.given = p.given taken.1 := by rw [hcall]
    rw [hgiven]
    exact ⟨hcall, given_eq_ok_iff p taken.1, given_of_not_issues⟩
  · rintro front reply back rfl hreply
    have hless : ∀ reply ∈ front ++ back, Fits now reply := by
      intro other hmem
      rw [List.mem_append] at hmem
      exact hfits other (List.mem_append.mpr (hmem.imp_right (List.mem_cons_of_mem _)))
    rw [calls_eq_uses h hfits, calls_eq_uses h hless]
    exact uses_eraseIdx ((lasting?_eq_none_iff reply).mpr hreply) front back none

def townProvider : Provider :=
  ⟨⟨"https", "", none, some (.name "town.test"), none, false, .segments ["token"], none, none⟩,
    "client", "secret"⟩

-- A token for exactly a minute, and one for a second more.
def brief : Reply :=
  .answered 200 (Text.Utf8.encode "\x7b\"access_token\":\"a\",\"expires_in\":60\x7d")

def longer : Reply :=
  .answered 200 (Text.Utf8.encode "\x7b\"access_token\":\"b\",\"expires_in\":61\x7d")

theorem not_issues_timedOut (issued : Issued) : ¬Issues .timedOut issued := by
  simp [Issues]

theorem issues_brief (issued : Issued) : Issues brief issued ↔ issued = ⟨"a", 60⟩ := by
  have hread : issued? brief = some ⟨"a", 60⟩ := by decide +kernel
  rw [issues_iff, hread, Option.some.injEq, eq_comm]

theorem issues_longer (issued : Issued) : Issues longer issued ↔ issued = ⟨"b", 61⟩ := by
  have hread : issued? longer = some ⟨"b", 61⟩ := by decide +kernel
  rw [issues_iff, hread, Option.some.injEq, eq_comm]

-- The first call gets nothing, the second a token for itself alone, the third one that the fourth
-- uses too. Without the second reply all but the second call are the same.
theorem calls_follow_first_lasting_of_brief :
    (∀ reply ∈ [.timedOut, brief, longer, .timedOut], Fits 7 reply) ∧ townProvider.CanAsk ∧
      (∀ issued, Issues brief issued → issued.lifetime ≤ 60) ∧
      (∃ first second third,
        townProvider.calls 7 [.timedOut, brief, longer, .timedOut] none =
          [first, second, third, ⟨.ok "b", []⟩] ∧
        second.given = .ok "a" ∧ second.sent ≠ [] ∧ third.given = .ok "b" ∧ third.sent ≠ []) ∧
      townProvider.calls 7 [.timedOut, longer, .timedOut] none =
        (townProvider.calls 7 [.timedOut, brief, longer, .timedOut] none).eraseIdx 1 := by
  have hfits : ∀ reply ∈ [.timedOut, brief, longer, .timedOut], Fits 7 reply := by
    simp [Fits, not_issues_timedOut, issues_brief, issues_longer, lastSecond]
  have hask : townProvider.CanAsk := ⟨by decide +kernel, by decide +kernel⟩
  have hbrief : ∀ issued, Issues brief issued → issued.lifetime ≤ 60 := by
    simp [issues_brief]
  obtain ⟨hlength, hruns, -⟩ := calls_follow_first_lasting townProvider hfits
  obtain ⟨hcalls, herased⟩ := hruns hask
  refine ⟨hfits, hask, hbrief, ?_, herased [.timedOut] brief [longer, .timedOut] rfl hbrief⟩
  obtain ⟨first, second, third, fourth, hfour⟩ := List.length_eq_four.mp hlength
  rw [hfour] at hcalls ⊢
  obtain ⟨hsecond, hsecondGives, -⟩ :=
    hcalls [(.timedOut, first)] (brief, second) [(longer, third), (.timedOut, fourth)] rfl
  obtain ⟨hthird, hthirdGives, hlast⟩ :=
    hcalls [(.timedOut, first), (brief, second)] (longer, third) [(.timedOut, fourth)] rfl
  have hsecond : second.sent ≠ [] := hsecond.mpr (by simp [Renews, not_issues_timedOut])
  have hthird : third.sent ≠ [] := hthird.mpr (by simp [Renews, not_issues_timedOut, issues_brief])
  have hgiven : second.given = .ok "a" :=
    ((hsecondGives hsecond).2.1 "a").mpr ⟨_, (issues_brief _).mpr rfl, rfl⟩
  have hgiven' : third.given = .ok "b" :=
    ((hthirdGives hthird).2.1 "b").mpr ⟨_, (issues_longer _).mpr rfl, rfl⟩
  have hrenews : Renews (longer, third) "b" :=
    ⟨hthird, hgiven', _, (issues_longer _).mpr rfl, rfl, by decide⟩
  have hfourth := hlast "b" hrenews (.timedOut, fourth) (List.mem_singleton_self _)
  simp only at hfourth
  rw [hfourth]
  exact ⟨first, second, third, rfl, hgiven, hsecond, hgiven', hthird⟩

end Provider

end Unshare.Token
