import Unshare.Proofs.Rejections
import Unshare.Proofs.TokenUse

namespace Unshare

namespace Token.Provider

open Remote (Reply)

-- A call crashes exactly if it is issued a token to be used for longer than the clock can tell.
-- What is kept is left alone then.
theorem call_crashes_iff (p : Provider) (now : Nat) (reply : Reply) (cache : Option Cached) :
    ((∃ c, (p.call now reply cache).1.given = .error (.crash c)) ↔
      fresh? now cache = none ∧ p.CanAsk ∧ ∃ issued, Issues reply issued ∧
        lastSecond < now + (issued.lifetime - margin)) ∧
    ((∃ c, (p.call now reply cache).1.given = .error (.crash c)) →
      (p.call now reply cache).2 = cache) := by
  cases hfresh : fresh? now cache with
  | some token =>
    rw [call_of_fresh hfresh]
    exact ⟨iff_of_false (by simp) (by simp), by simp⟩
  | none =>
    by_cases hask : p.CanAsk
    · rw [call_of_stale hfresh (run_ask hask reply [])]
      cases htold : p.told reply with
      | error f =>
        have hnot : ∀ issued, ¬Issues reply issued := by simp [← told_eq_ok_iff p, htold]
        exact ⟨iff_of_false (by simp [received]) (by simp [hnot]), by simp [received]⟩
      | ok issued =>
        have hone : ∀ other, Issues reply other ↔ issued = other := by
          simp [← told_eq_ok_iff p, htold]
        rw [received]
        by_cases hfits : now + (issued.lifetime - margin) ≤ lastSecond
        · have hkeep : keep now issued = .ok ⟨issued.token, _⟩ := if_pos hfits
          rw [hkeep, held]
          exact ⟨iff_of_false (by simp) (by simpa [hask, hone] using hfits), by simp⟩
        · have hkeep : keep now issued = .error _ := if_neg hfits
          rw [hkeep, held]
          exact ⟨iff_of_true ⟨_, rfl⟩
            ⟨rfl, hask, issued, (hone issued).mpr rfl, Nat.lt_of_not_le hfits⟩, fun _ => rfl⟩
    · obtain ⟨detail, hrefused⟩ := run_ask_of_not hask reply []
      rw [call_of_stale hfresh hrefused]
      exact ⟨iff_of_false (by simp [received]) (fun h => hask h.2.1), fun _ => rfl⟩

end Token.Provider

namespace Stack

open Api (AsksToRevoke)
open Database (LogsAttempt insertAudit)
open Remote (Request)

-- An action that crashes exactly if it is issued a token to be used for longer than the clock can
-- tell, and has told the database nothing then.
def CrashesAtOverrun {α : Type} (act : Action α) : Prop :=
  ∀ s result t, Runs act s result t → ∃ sent, Sends s t sent ∧
    ((∃ c, result = .error c) ↔ Overruns s sent) ∧
    ((∃ c, result = .error c) → t.database = s.database)

section

variable {α β : Type}

theorem CrashesAtOverrun.of_quiet {act : Action α} (hquiet : Quiet act) (hsteady : Steady act) :
    CrashesAtOverrun act := by
  intro s result t h
  have hcrash : ¬∃ c, result = .error c := by
    rintro ⟨c, rfl⟩
    exact hsteady s c t h
  exact ⟨[], hquiet s result t h, iff_of_false hcrash not_overruns_nil,
    fun hcrashed => absurd hcrashed hcrash⟩

theorem CrashesAtOverrun.bind {act : Action α} {next : α → Action β}
    (hact : CrashesAtOverrun act)
    (hkeeps : ∀ s result t, Runs act s result t → t.database = s.database)
    (hnext : ∀ a, CrashesAtOverrun (next a)) : CrashesAtOverrun (act >>= next) := by
  intro s result t h
  obtain ⟨a, mid, hfirst, hrest⟩ | ⟨c, hfirst, rfl⟩ := h.bind_inv
  · obtain ⟨sent, hsends, hover, -⟩ := hact s _ mid hfirst
    obtain ⟨later, hlater, hlast, hdatabase⟩ := hnext a mid result t hrest
    have hbefore : ¬Overruns s sent := by simp [← hover]
    refine ⟨sent ++ later, hsends.trans hlater, ?_, ?_⟩
    · rw [hsends.overruns_append_iff, or_iff_right hbefore]
      exact hlast
    · exact fun hcrash => (hdatabase hcrash).trans (hkeeps s _ mid hfirst)
  · obtain ⟨sent, hsends, hover, hdatabase⟩ := hact s _ t hfirst
    have hcrash : ∃ c', (.error c : Except Crash α) = .error c' := ⟨c, rfl⟩
    exact ⟨sent, hsends, iff_of_true ⟨c, rfl⟩ (hover.mp hcrash), fun _ => hdatabase hcrash⟩

theorem CrashesAtOverrun.bind_pure {act : Action α} (hact : CrashesAtOverrun act) (f : α → β) :
    CrashesAtOverrun (act >>= fun a => pure (f a)) := by
  intro s result t h
  obtain ⟨first, hfirst, rfl⟩ := h.bind_pure_inv
  have hcrash : (∃ c, first.map f = .error c) ↔ ∃ c, first = .error c := by
    cases first <;> simp [Except.map]
  rw [hcrash]
  exact hact s first t hfirst

theorem Steady.pure (a : α) : Steady (pure a : Action α) := by
  rintro s c t ⟨⟩

theorem Steady.bind {act : Action α} {next : α → Action β} (hact : Steady act)
    (hnext : ∀ a, Steady (next a)) : Steady (act >>= next) := by
  intro s c t h
  obtain ⟨a, mid, -, hrest⟩ := h.steady_inv hact
  exact hnext a mid c t hrest

theorem Steady.closed : Revocation.Closed @Steady :=
  ⟨Steady.pure, Steady.bind⟩

theorem Steady.onDatabase (act : Database → α × Database) : Steady (onDatabase act) := by
  rintro s c t ⟨⟩

end

section

variable {g : Settings.Graph} {p : Token.Provider} (defaultSource : String)

theorem steady_refuse (c : Revocation.Context) (stage : Stage) (facts : Json.Fields) (f : Failure) :
    Steady (Revocation.refuse (services (client g p)) defaultSource c stage facts f) :=
  Steady.closed.refuse (fun _ => Steady.onDatabase (Database.appendAttempt _)) c stage facts f

theorem steady_conclude (c : Revocation.Context) (id : GrantId) (grant : Grant) :
    Steady (Revocation.conclude (services (client g p)) defaultSource c id grant) := by
  apply Steady.closed.conclude
  · exact fun r => Steady.onDatabase (Database.appendAttempt _)
  · exact fun id => Steady.onDatabase (Database.forgetGrant id)
  · exact fun event => Steady.onDatabase (Database.appendAudit event)

theorem refuse_crashesAtOverrun (c : Revocation.Context) (stage : Stage) (facts : Json.Fields)
    (f : Failure) : CrashesAtOverrun
      (Revocation.refuse (services (client g p)) defaultSource c stage facts f) :=
  .of_quiet (quiet_refuse defaultSource c stage facts f)
    (steady_refuse defaultSource c stage facts f)

theorem fetchGrant_crashesAtOverrun (id : GrantId) :
    CrashesAtOverrun ((services (client g p)).fetchGrant id) := by
  intro s result t h
  obtain ⟨hdatabase, sent, hsends, -, hover⟩ := fetchGrant_ends h
  exact ⟨sent, hsends, hover, fun _ => hdatabase⟩

theorem removeGrant_crashesAtOverrun (id : GrantId) :
    CrashesAtOverrun ((services (client g p)).removeGrant id) := by
  intro s result t h
  obtain ⟨hdatabase, sent, hsends, -, -, hover⟩ := removeGrant_ends h
  exact ⟨sent, hsends, hover, fun _ => hdatabase⟩

theorem remove_crashesAtOverrun (c : Revocation.Context) (id : GrantId) (grant : Grant) :
    CrashesAtOverrun (Revocation.remove (services (client g p)) defaultSource c id grant) := by
  apply (removeGrant_crashesAtOverrun id).bind
  · exact fun s result t h => (removeGrant_ends h).1
  · intro removed
    cases removed with
    | error f => exact refuse_crashesAtOverrun defaultSource c _ _ _
    | ok _ =>
      exact .of_quiet (quiet_conclude defaultSource c id grant)
        (steady_conclude defaultSource c id grant)

theorem revokeGrant_crashesAtOverrun (c : Revocation.Context) (id : GrantId) :
    CrashesAtOverrun (Revocation.revokeGrant (services (client g p)) defaultSource c id) := by
  apply (fetchGrant_crashesAtOverrun id).bind
  · exact fun s result t h => (fetchGrant_ends h).1
  · intro fetched
    cases fetched with
    | error f => exact refuse_crashesAtOverrun defaultSource c _ _ _
    | ok grant =>
      cases hpolicy : Policy.evaluate grant with
      | deny reason =>
        simp only [hpolicy]
        exact refuse_crashesAtOverrun defaultSource c _ _ _
      | allow =>
        simp only [hpolicy]
        exact remove_crashesAtOverrun defaultSource c id grant

theorem revoke_crashesAtOverrun (correlation : String) (r : RevokeRequest)
    (actor : Option Actor) : CrashesAtOverrun
      (Revocation.revoke (services (client g p)) defaultSource correlation r actor) := by
  rw [Revocation.revoke]
  cases hid : r.trimmed.grantId? with
  | none =>
    simp only
    exact refuse_crashesAtOverrun defaultSource _ _ _ _
  | some id =>
    simp only
    exact revokeGrant_crashesAtOverrun defaultSource _ id

end

section

variable {g : Settings.Graph} {p : Token.Provider} {api : Api Action}
  (hservices : api.services = services (client g p))
  (hfault : api.databaseFault = onDatabase Database.check)

include hservices hfault

theorem answer_crashesAtOverrun (correlation : String) (r : Http.Request) :
    CrashesAtOverrun (api.answer correlation r) := by
  apply Api.answer_of_parts
  · exact fun response => .of_quiet (.pure response) (.pure response)
  · intro asked actor
    rw [hservices]
    exact (revoke_crashesAtOverrun _ correlation asked actor).bind_pure _
  · intro query
    rw [hservices]
    exact (CrashesAtOverrun.of_quiet (.onDatabase (Database.listAttempts _))
      (.onDatabase (Database.listAttempts _))).bind_pure _
  · rw [Api.answerHealth, hfault]
    exact (CrashesAtOverrun.of_quiet (.onDatabase Database.check)
      (.onDatabase Database.check)).bind_pure _
  · exact fun act f h => h.bind_pure f

end

-- Unless a token was issued for too long, the last statement of an attempt is its record.
theorem Books.recorded {base : Url} {r : RevokeRequest} {s t : Stack} {sent : List Request}
    (h : Books base r s t sent) (hfits : ¬Overruns s sent) : ∃ front outcome record,
      outcome ∈ ["success", "failed"] ∧ LogsAttempt r outcome record ∧
        t.database = s.database.told (front ++ [record]) := by
  cases h with
  | crashed hover _ _ => exact absurd hover hfits
  | failed _ hattempts hdatabase =>
    exact ⟨[], "failed", _, by simp, Database.logsAttempt_insertAttempt hattempts, hdatabase⟩
  | @removed id cache event a _ _ _ _ _ hattempts hdatabase =>
    refine ⟨cache ++ [insertAudit event], "success", _, by simp,
      Database.logsAttempt_insertAttempt hattempts, ?_⟩
    rw [hdatabase, List.append_assoc]
    rfl

section

variable {settings : Settings.Service} {api : Api Action} (hbuild : build settings = .ok api)

include hbuild

theorem crashes_iff_of_visit (v : Visit) (s : Stack) :
    ((∃ c, v.answer api s = .error c) ↔
      Overruns (v.start s) (v.finish api s).server.received) ∧
    ((∃ c, v.answer api s = .error c) → (v.finish api s).database.statements = []) := by
  obtain ⟨p, hservices, hfault, -⟩ := parts_of_build hbuild
  have hanswer := answer_crashesAtOverrun hservices hfault v.correlation v.request
  obtain ⟨sent, hsends, hover, hdatabase⟩ :=
    hanswer (v.start s) (v.answer api s) (v.finish api s) rfl
  rw [v.received_of_sends hsends]
  refine ⟨hover, ?_⟩
  intro hcrash
  rw [hdatabase hcrash]
  rfl

theorem recorded_visit (v : Visit) {s : Stack} (hopen : s.database.isOpen = true)
    (hasks : AsksToRevoke settings.adminToken v.request)
    (hsize : v.request.body.length ≤ Api.RevokeInput.maxBodySize)
    (hfits : ¬Overruns (v.start s) (v.finish api s).server.received) :
    ∃ front outcome record, outcome ∈ ["success", "failed"] ∧
      LogsAttempt (Api.RevokeInput.read v.request) outcome record ∧
      (v.finish api s).database.statements = front ++ [record] := by
  obtain ⟨p, hservices, -, htoken⟩ := parts_of_build hbuild
  have hopen : (v.start s).database.isOpen = true := hopen
  have hrun : Runs (api.answer v.correlation v.request) (v.start s) (v.answer api s)
      (v.finish api s) := rfl
  obtain ⟨first, hbare, -⟩ := hrun.bind_pure_inv
  rw [Api.answerBare_of_short api v.correlation (by rwa [htoken]) hsize, hservices] at hbare
  obtain ⟨revoked, hrevoke, -⟩ := hbare.bind_pure_inv
  obtain ⟨sent, hsends, hbooks⟩ := revoke_books hopen hrevoke
  rw [v.received_of_sends hsends] at hfits
  obtain ⟨front, outcome, record, houtcome, hrecord, hdatabase⟩ := hbooks.recorded hfits
  refine ⟨front, outcome, record, houtcome, hrecord, ?_⟩
  rw [hdatabase]
  rfl

-- A request ends without an answer exactly if a token was issued during it that is to be used for
-- longer than the clock can tell, and then the database was told nothing. Any other request is
-- answered, and a revocation among them leaves its record.
theorem answer_crashes_iff_overruns :
    (∀ (p : Token.Provider) now reply cache,
      ((∃ c, (p.call now reply cache).1.given = .error (.crash c)) ↔
        Token.fresh? now cache = none ∧ p.CanAsk ∧ ∃ issued, Token.Issues reply issued ∧
          Token.lastSecond < now + (issued.lifetime - Token.margin)) ∧
      ((∃ c, (p.call now reply cache).1.given = .error (.crash c)) →
        (p.call now reply cache).2 = cache)) ∧
    ∀ (v : Visit) (s : Stack),
      ((∃ c, v.answer api s = .error c) ↔
        Overruns (v.start s) (v.finish api s).server.received) ∧
      ((∃ c, v.answer api s = .error c) → (v.finish api s).database.statements = []) ∧
      ∀ response, v.answer api s = .ok response → s.database.isOpen = true →
        AsksToRevoke settings.adminToken v.request →
        v.request.body.length ≤ Api.RevokeInput.maxBodySize →
        ∃ front outcome record, outcome ∈ ["success", "failed"] ∧
          LogsAttempt (Api.RevokeInput.read v.request) outcome record ∧
          (v.finish api s).database.statements = front ++ [record] := by
  refine ⟨Token.Provider.call_crashes_iff, fun v s => ?_⟩
  obtain ⟨hcrashes, hnothing⟩ := crashes_iff_of_visit hbuild v s
  refine ⟨hcrashes, hnothing, ?_⟩
  intro response hanswer hopen hasks hsize
  apply recorded_visit hbuild v hopen hasks hsize
  rw [← hcrashes, hanswer]
  rintro ⟨c, ⟨⟩⟩

end

theorem answer_crashes_iff_overruns_denied :
    build hub = .ok hubApi ∧
      (∃ response, (deniedVisit deniedBody).answer hubApi openHub = .ok response) ∧
      ∃ front outcome record, outcome ∈ ["success", "failed"] ∧
        LogsAttempt (Api.RevokeInput.read (deniedVisit deniedBody).request) outcome record ∧
          ((deniedVisit deniedBody).finish hubApi openHub).database.statements =
            front ++ [record] := by
  have hbuild : build hub = .ok hubApi := rfl
  have hanswered : ((deniedVisit deniedBody).answer hubApi openHub).toBool = true := by
    decide +kernel
  cases hanswer : (deniedVisit deniedBody).answer hubApi openHub with
  | error c =>
    rw [hanswer] at hanswered
    cases hanswered
  | ok response =>
    obtain ⟨-, -, hrecord⟩ :=
      (answer_crashes_iff_overruns hbuild).2 (deniedVisit deniedBody) openHub
    exact ⟨hbuild, ⟨response, rfl⟩, hrecord response hanswer rfl (by decide) (by decide)⟩

-- The authority issues a token for as long as a number of 64 bits can say.
def endlessVisit : Visit :=
  { deniedVisit deniedBody with
    surroundings.toPosts :=
      [textReply 200 "\x7b\"access_token\":\"t\",\"expires_in\":18446744073709551615\x7d"] }

-- Such an answer of the authority ends a revocation without an answer and without a record.
theorem endless_token_ends_revocation :
    build hub = .ok hubApi ∧ openHub.database.isOpen = true ∧
      AsksToRevoke hub.adminToken endlessVisit.request ∧
      (∃ c, endlessVisit.answer hubApi openHub = .error c) ∧
      (endlessVisit.finish hubApi openHub).database.statements = [] := by
  have hbuild : build hub = .ok hubApi := rfl
  have hcrashed : (endlessVisit.answer hubApi openHub).toBool = false := by
    decide +kernel
  cases hanswer : endlessVisit.answer hubApi openHub with
  | ok response =>
    rw [hanswer] at hcrashed
    cases hcrashed
  | error c =>
    have hnothing := (crashes_iff_of_visit hbuild endlessVisit openHub).2 ⟨c, hanswer⟩
    exact ⟨hbuild, rfl, by decide, ⟨c, rfl⟩, hnothing⟩

end Stack

end Unshare
