import Unshare.Proofs.Layouts
import Unshare.Proofs.Numerals
import Unshare.Token.Provider

namespace Unshare

open Text.Decimal (AreDigitsOf)

theorem Json.nat?_eq_some_iff (bound : Nat) (j : Json) (n : Nat) :
    j.nat? bound = some n ↔
      ∃ numeral, j = .number numeral ∧ AreDigitsOf numeral.toList n ∧ n ≤ bound := by
  cases j with
  | number numeral =>
    have hdigits : numeral.toList.all Text.Decimal.isDigit = true ↔
        ∀ c ∈ numeral.toList, c.isDigit = true := by
      simp [Text.Decimal.isDigit, Option.isSome_iff_exists, Text.Decimal.digit?_eq_some_iff]
    have hread : (Json.number numeral).nat? bound = some n ↔
        (∀ c ∈ numeral.toList, c.isDigit = true) ∧
          Text.Decimal.read? bound numeral = some n := by
      rw [Json.nat?, ← hdigits]
      by_cases hall : numeral.toList.all Text.Decimal.isDigit = true
      · rw [if_pos hall, and_iff_right hall]
      · rw [if_neg hall]
        exact iff_of_false nofun fun h => hall h.1
    rw [hread, Text.Decimal.read?_eq_some_iff]
    constructor
    · rintro ⟨hall, hplain | ⟨digits, hplus, -⟩, hbound⟩
      · exact ⟨numeral, rfl, hplain, hbound⟩
      · -- A sign is no digit.
        rw [hplus] at hall
        exact absurd (hall '+' List.mem_cons_self) (by decide)
    · rintro ⟨_, ⟨⟩, hplain, hbound⟩
      exact ⟨hplain.2.1, .inl hplain, hbound⟩
  | _ => simp [Json.nat?]

namespace Token

open Remote (Reply)

-- A response that hands out a token for so many seconds: two fields with a text and a whole number
-- of at most 64 bits, whatever else is in it.
def HandsOut (issued : Issued) (j : Json) : Prop :=
  ∃ numeral, j.Gives ["access_token", "expires_in"]
      [some (.string issued.token), some (.number numeral)] ∧
    AreDigitsOf numeral.toList issued.lifetime ∧ issued.lifetime ≤ 18446744073709551615

-- A reply of success that hands out a token.
def Issues (reply : Reply) (issued : Issued) : Prop :=
  ∃ status body j, reply = .answered status body ∧ 200 ≤ status ∧ status < 300 ∧
    Json.ofBytes? body.bytes = some j ∧ HandsOut issued j

theorem Issued.ofJson?_eq_some_iff (j : Json) (issued : Issued) :
    ofJson? j = some issued ↔ HandsOut issued j := by
  have hlayout : layout.IsStrict ["access_token", "expires_in"] := ⟨rfl, by decide, rfl⟩
  obtain ⟨token, lifetime⟩ := issued
  have hread : ofJson? j = some ⟨token, lifetime⟩ ↔
      ∃ first second, layout.read? j = some ([first, second].map some) ∧
        first.string? = some token ∧ second.nat? Text.maxWord64 = some lifetime := by
    rw [ofJson?]
    split
    · rename_i first second hvalues
      simp [hvalues, Option.bind_eq_some_iff]
    · rename_i hvalues
      refine iff_of_false nofun ?_
      rintro ⟨first, second, hgiven, -⟩
      exact hvalues first second hgiven
  have htext : ∀ first : Json, first.string? = some token ↔ first = .string token := by
    intro first
    cases first <;> simp [Json.string?]
  simp only [hread, hlayout.read?_eq_some_iff, htext, Json.nat?_eq_some_iff]
  constructor
  · rintro ⟨_, _, hgives, rfl, numeral, rfl, hlifetime, hbound⟩
    exact ⟨numeral, hgives, hlifetime, hbound⟩
  · rintro ⟨numeral, hgives, hlifetime, hbound⟩
    exact ⟨_, _, hgives, rfl, numeral, rfl, hlifetime, hbound⟩

-- What a reply issues, as it is read.
def issued? : Reply → Option Issued
  | .answered status body =>
    if Http.Status.isSuccess status then (Json.ofBytes? body.bytes).bind Issued.ofJson? else none
  | _ => none

theorem issues_iff (reply : Reply) (issued : Issued) :
    Issues reply issued ↔ issued? reply = some issued := by
  cases reply with
  | answered status body =>
    have hstatus : Http.Status.isSuccess status = true ↔ 200 ≤ status ∧ status < 300 := by
      simp [Http.Status.isSuccess]
    have hread : issued? (.answered status body) = some issued ↔
        Http.Status.isSuccess status = true ∧
          (Json.ofBytes? body.bytes).bind Issued.ofJson? = some issued := by
      rw [issued?]
      by_cases hsuccess : Http.Status.isSuccess status = true
      · rw [if_pos hsuccess, and_iff_right hsuccess]
      · rw [if_neg hsuccess]
        exact iff_of_false nofun fun h => hsuccess h.1
    simp only [hread, hstatus, Option.bind_eq_some_iff, Issued.ofJson?_eq_some_iff]
    constructor
    · rintro ⟨_, _, j, ⟨⟩, hlow, hhigh, hj, hhands⟩
      exact ⟨⟨hlow, hhigh⟩, j, hj, hhands⟩
    · rintro ⟨⟨hlow, hhigh⟩, j, hj, hhands⟩
      exact ⟨status, body, j, rfl, hlow, hhigh, hj, hhands⟩
  | _ => simp [Issues, issued?]

theorem Issues.answered {reply : Reply} {issued : Issued} (h : Issues reply issued) :
    ∃ status body, reply = .answered status body := by
  obtain ⟨status, body, _, hreply, -⟩ := h
  exact ⟨status, body, hreply⟩

theorem ofAnswer_eq_ok_iff (a : Remote.Answer) (issued : Issued) :
    ofAnswer a = .ok issued ↔ Issues (.answered a.status a.body) issued := by
  rw [issues_iff, ofAnswer, issued?, Remote.Answer.isSuccess]
  by_cases hsuccess : Http.Status.isSuccess a.status = true
  · rw [if_pos hsuccess, if_pos hsuccess, Remote.Answer.decode]
    cases (Json.ofBytes? a.body.bytes).bind Issued.ofJson? <;> simp
  · rw [if_neg hsuccess, if_neg hsuccess]
    exact iff_of_false nofun nofun

end Token

end Unshare
