import Unshare.Remote.Server

namespace Unshare.Remote

-- The URL a request is sent to.
def sentUrl (url : Url) : Url :=
  if (basicCredentials? url).isSome then url.withoutCredentials else url

-- Only the user of a URL is left out of it.
theorem sentUrl_eq (url : Url) :
    ∃ user password, sentUrl url = { url with user := user, password := password } := by
  rw [sentUrl]
  split
  · exact ⟨"", none, rfl⟩
  · exact ⟨url.user, url.password, rfl⟩

theorem sentUrl_path (url : Url) : (sentUrl url).path = url.path := by
  obtain ⟨user, password, hsent⟩ := sentUrl_eq url
  rw [hsent]

namespace Request

theorem normalized_url (r : Request) : r.normalized.url = sentUrl r.url := by
  rw [normalized, sentUrl]
  cases basicCredentials? r.url <;> rfl

theorem normalized_method (r : Request) : r.normalized.method = r.method := by
  rw [normalized]
  split <;> rfl

theorem normalized_content (r : Request) :
    r.normalized.contentType = r.contentType ∧ r.normalized.body = r.body := by
  rw [normalized]
  split <;> exact ⟨rfl, rfl⟩

theorem mem_normalized_authorization {r : Request} {value : String}
    (h : value ∈ r.authorization) : value ∈ r.normalized.authorization := by
  rw [normalized]
  split
  · exact List.mem_cons_of_mem _ h
  · exact h

end Request

-- Sending asks the wire nothing but the request in the form it is sent in.
theorem send_congr {m : Type → Type} [Monad m] {wire wire' : Wire m} {r : Request}
    (h : wire' r.normalized = wire r.normalized) : send wire' r = send wire r := by
  simp only [send, h]

namespace Server

-- The server after these requests.
def replay (s : Server) (sent : List Request) : Server :=
  sent.foldl (fun s r => (s.exchange r).2) s

-- The requests, each with the reply it gets.
def transcript (s : Server) : List Request → List (Request × Reply)
  | [] => []
  | r :: rest => (r, (s.exchange r).1) :: transcript (s.exchange r).2 rest

theorem replay_append (s : Server) (a b : List Request) :
    s.replay (a ++ b) = (s.replay a).replay b :=
  List.foldl_append

theorem transcript_append (s : Server) (a b : List Request) :
    s.transcript (a ++ b) = s.transcript a ++ (s.replay a).transcript b := by
  induction a generalizing s with
  | nil => rfl
  | cons r rest ih => exact congrArg _ (ih _)

theorem transcript_requests (s : Server) (sent : List Request) :
    (s.transcript sent).map Prod.fst = sent := by
  induction sent generalizing s with
  | nil => rfl
  | cons r rest ih => exact congrArg _ (ih _)

theorem exchange_of_reaches {s : Server} {r : Request} (h : s.reaches r.url = true) :
    (s.exchange r).2.reaches = s.reaches ∧ (s.exchange r).2.received = s.received ++ [r] := by
  simp only [exchange, h, if_true]
  by_cases hm : r.method = "POST"
  · simp only [if_pos hm, answerPost]
    split <;> exact ⟨rfl, rfl⟩
  · simp only [if_neg hm, answerOther]
    split <;> exact ⟨rfl, rfl⟩

theorem exchange_of_not_reaches {s : Server} {r : Request} (h : s.reaches r.url ≠ true) :
    s.exchange r = (.unreachable, s) := by
  simp only [exchange, if_neg h]

theorem received_replay {s : Server} {sent : List Request}
    (h : ∀ r ∈ sent, s.reaches r.url = true) :
    (s.replay sent).reaches = s.reaches ∧ (s.replay sent).received = s.received ++ sent := by
  induction sent generalizing s with
  | nil => exact ⟨rfl, (List.append_nil _).symm⟩
  | cons r rest ih =>
    obtain ⟨hreaches, hreceived⟩ := exchange_of_reaches (h r List.mem_cons_self)
    have hrest : ∀ q ∈ rest, (s.exchange r).2.reaches q.url = true := by
      intro q hq
      rw [hreaches]
      exact h q (List.mem_cons_of_mem r hq)
    obtain ⟨hr, hs⟩ := ih hrest
    refine ⟨hr.trans hreaches, hs.trans ?_⟩
    rw [hreceived, List.append_assoc]
    rfl

end Server

end Unshare.Remote
