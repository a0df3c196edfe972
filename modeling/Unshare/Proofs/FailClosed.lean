import Unshare.Proofs.Permitted

namespace Unshare.Stack

open Remote (Request Reply)

-- What stands before a removal: form posts and one GET for the same URL, answered with success and
-- with a permission that is not inherited and has no role of an owner. Both requests carry a token
-- that may be used.
def Released (s : Stack) (front : List Request) (del : Request) : Prop :=
  ∃ before get between status body j p,
    front = before ++ get :: between ∧ OnlyPosts before ∧ OnlyPosts between ∧
    get.method = "GET" ∧ get.url = del.url ∧
    (∃ token, Holds s before token ∧ "Bearer " ++ token ∈ get.authorization) ∧
    (∃ token, Holds s front token ∧ "Bearer " ++ token ∈ del.authorization) ∧
    (get, .answered status body) ∈ s.server.transcript front ∧
    Http.Status.isSuccess status = true ∧ Json.ofBytes? body.bytes = some j ∧ Graph.Releasable j ∧
    Graph.Permission.ofJson? j = some p ∧ p.inheritedFrom = none ∧
    ∀ role ∈ p.roles, ¬Policy.SpellsOwner role

-- What holds of the requests that a step sends when it starts in the state `s`.
structure FailClosed (s : Stack) (sent : List Request) : Prop where
  released : ∀ front del back, sent = front ++ del :: back → del.method = "DELETE" →
    Released s front del
  one_get : (sent.filter fun r => r.method = "GET").length ≤ 1
  one_delete : (sent.filter fun r => r.method = "DELETE").length ≤ 1
  unusable : ∀ get reply, (get, reply) ∈ s.server.transcript sent → get.method = "GET" →
    Graph.Unusable reply → ∀ r ∈ sent, r.method ≠ "DELETE"

section

variable {s : Stack} {base : Url} {operation : Graph.Operation} {id : GrantId}
  {posts own sent : List Request}

theorem filter_method_eq_nil {method : String} (h : ∀ r ∈ sent, r.method ≠ method) :
    sent.filter (fun r => r.method = method) = [] := by
  rw [List.filter_eq_nil_iff]
  intro r hr
  rw [decide_eq_true_eq]
  exact h r hr

theorem OnlyPosts.method_ne (h : OnlyPosts posts) {method : String} (hm : method ≠ "POST") :
    ∀ r ∈ posts, r.method ≠ method := by
  intro r hr
  rw [h r hr]
  exact hm.symm

theorem IsOwn.singleton {r : Request} (h : IsOwn s posts base operation id [r]) :
    ∃ url token, Graph.permissionUrl base id = .ok url ∧ Holds s posts token ∧
      r = (Graph.request operation url token).normalized := by
  obtain h | ⟨url, token, hurl, htoken, h⟩ := h
  · cases h
  · exact ⟨url, token, hurl, htoken, List.singleton_inj.mp h⟩

theorem IsOwn.eq_nil_or (h : IsOwn s posts base operation id own) :
    own = [] ∨ ∃ r, own = [r] ∧ r.method = operation.method := by
  refine h.imp_right ?_
  rintro ⟨url, token, -, -, rfl⟩
  exact ⟨_, rfl, Remote.Request.normalized_method _⟩

theorem failClosed_of_no_delete (hno : ∀ r ∈ sent, r.method ≠ "DELETE")
    (hget : (sent.filter fun r => r.method = "GET").length ≤ 1) : FailClosed s sent where
  released := by
    rintro front del back rfl hdel
    exact absurd hdel (hno del (List.mem_append_right _ List.mem_cons_self))
  one_get := hget
  one_delete := by
    rw [filter_method_eq_nil hno]
    exact Nat.zero_le 1
  unusable := fun _ _ _ _ _ => hno

theorem failClosed_read (hposts : OnlyPosts posts) (hown : IsOwn s posts base .fetch id own) :
    FailClosed s (posts ++ own) := by
  have hno : ∀ r ∈ posts, r.method ≠ "DELETE" := hposts.method_ne (by decide)
  have hfilter := filter_method_eq_nil (hposts.method_ne (by decide : "GET" ≠ "POST"))
  obtain rfl | ⟨get, rfl, hget⟩ := hown.eq_nil_or
  · rw [List.append_nil]
    apply failClosed_of_no_delete hno
    rw [hfilter]
    exact Nat.zero_le 1
  · apply failClosed_of_no_delete
    · intro r hr
      rcases List.mem_append.mp hr with hr | hr
      · exact hno r hr
      · rw [List.mem_singleton.mp hr, hget]
        decide
    · rw [List.filter_append, hfilter, List.nil_append]
      exact List.length_filter_le _ _

-- The last request is the only one of its kind, so whoever stands there is it.
theorem eq_of_last {P : Request → Prop} {front back : List Request} {last r : Request}
    (hnone : ∀ q ∈ sent, ¬P q) (h : sent ++ [last] = front ++ r :: back) (hr : P r) :
    front = sent ∧ r = last := by
  rcases List.append_eq_append_iff.mp h with ⟨between, rfl, hlast⟩ | ⟨between, rfl, hback⟩
  · cases between with
    | nil =>
      rw [List.nil_append, List.cons.injEq] at hlast
      exact ⟨List.append_nil _, hlast.1.symm⟩
    | cons first rest =>
      have hlen := congrArg List.length hlast
      simp at hlen
  · cases between with
    | nil =>
      rw [List.nil_append, List.cons.injEq] at hback
      exact ⟨(List.append_nil _).symm, hback.1⟩
    | cons first rest =>
      rw [List.cons_append, List.cons.injEq] at hback
      obtain ⟨rfl, -⟩ := hback
      exact absurd hr (hnone r (List.mem_append_right _ List.mem_cons_self))

theorem mem_of_mem_transcript {server : Remote.Server} {r : Request} {reply : Reply}
    (h : (r, reply) ∈ server.transcript sent) : r ∈ sent := by
  rw [← server.transcript_requests sent]
  exact List.mem_map_of_mem h

theorem transcript_between (server : Remote.Server) (before after : List Request) (r : Request) :
    server.transcript (before ++ r :: after) = server.transcript before ++
      (r, ((server.replay before).exchange r).1) ::
        ((server.replay before).exchange r).2.transcript after := by
  rw [Remote.Server.transcript_append]
  rfl

theorem released_of_isOwn {later : List Request} {get del : Request} (hposts : OnlyPosts posts)
    (hget : IsOwn s posts base .fetch id [get]) (hreleases : Releases s posts get)
    (hlater : OnlyPosts later) (hdel : IsOwn s (posts ++ get :: later) base .remove id [del]) :
    Released s (posts ++ get :: later) del := by
  obtain ⟨url, token, hurl, htoken, rfl⟩ := hget.singleton
  obtain ⟨url', token', hurl', htoken', rfl⟩ := hdel.singleton
  obtain ⟨status, body, j, p, hreply, hsuccess, hj, hp, hinherited, hroles⟩ := hreleases
  have hsame : url = url' := Except.ok.inj (hurl.symm.trans hurl')
  have hbearer : ∀ (operation : Graph.Operation) (token : String),
      "Bearer " ++ token ∈ (Graph.request operation url token).normalized.authorization := by
    intro operation token
    exact Remote.Request.mem_normalized_authorization (List.mem_singleton_self _)
  refine ⟨posts, _, later, status, body, j, p, rfl, hposts, hlater, ?_, ?_, ⟨token, htoken, ?_⟩,
    ⟨token', htoken', ?_⟩, ?_, hsuccess, hj, ?_, hp, hinherited, hroles⟩
  · exact Remote.Request.normalized_method _
  · rw [Remote.Request.normalized_url, Remote.Request.normalized_url, ← hsame]
    rfl
  · exact hbearer .fetch token
  · rw [← hsame]
    exact hbearer .remove token'
  · rw [transcript_between, hreply]
    exact List.mem_append_right _ List.mem_cons_self
  · exact (Graph.releasable_iff j).mpr ⟨p, hp, hinherited, hroles⟩

-- The one GET among these requests is answered with a permission that may be removed.
theorem not_unusable_of_releases {after : List Request} {get r : Request} {reply : Reply}
    (hposts : OnlyPosts posts) (hreleases : Releases s posts get)
    (hafter : ∀ q ∈ after, q.method ≠ "GET")
    (hmem : (r, reply) ∈ s.server.transcript (posts ++ get :: after)) (hr : r.method = "GET") :
    ¬Graph.Unusable reply := by
  obtain ⟨status, body, j, p, hreply, hsuccess, hj, hp, hinherited, hroles⟩ := hreleases
  rw [transcript_between, hreply] at hmem
  rcases List.mem_append.mp hmem with hmem | hmem
  · exact absurd hr (hposts.method_ne (by decide) r (mem_of_mem_transcript hmem))
  · rcases List.mem_cons.mp hmem with hmem | hmem
    · obtain ⟨-, rfl⟩ := Prod.mk.inj hmem
      intro hunusable
      exact Graph.not_releasable_of_unusable hunusable hsuccess hj
        ((Graph.releasable_iff j).mpr ⟨p, hp, hinherited, hroles⟩)
    · exact absurd hr (hafter r (mem_of_mem_transcript hmem))

theorem failClosed_remove {later : List Request} {get : Request} (hposts : OnlyPosts posts)
    (hget : IsOwn s posts base .fetch id [get]) (hreleases : Releases s posts get)
    (hlater : OnlyPosts later) (hdel : IsOwn s (posts ++ get :: later) base .remove id own) :
    FailClosed s (posts ++ get :: later ++ own) := by
  have hmethod : get.method = "GET" := by
    obtain ⟨url, token, -, -, rfl⟩ := hget.singleton
    exact Remote.Request.normalized_method _
  have hone : (posts ++ get :: later).filter (fun r => r.method = "GET") = [get] := by
    rw [List.filter_append, List.filter_cons_of_pos (by simp [hmethod]),
      filter_method_eq_nil (hposts.method_ne (by decide)),
      filter_method_eq_nil (hlater.method_ne (by decide))]
    rfl
  have hno : ∀ r ∈ posts ++ get :: later, r.method ≠ "DELETE" := by
    intro r hr
    rcases List.mem_append.mp hr with hr | hr
    · exact hposts.method_ne (by decide) r hr
    · rcases List.mem_cons.mp hr with rfl | hr
      · rw [hmethod]
        decide
      · exact hlater.method_ne (by decide) r hr
  obtain rfl | ⟨del, rfl, hremove⟩ := hdel.eq_nil_or
  · rw [List.append_nil]
    apply failClosed_of_no_delete hno
    rw [hone]
    exact Nat.le_refl 1
  · have hdelete : del.method = "DELETE" := hremove
    have hafter : ∀ q ∈ later ++ [del], q.method ≠ "GET" := by
      intro q hq
      rcases List.mem_append.mp hq with hq | hq
      · exact hlater.method_ne (by decide) q hq
      · rw [List.mem_singleton.mp hq, hdelete]
        decide
    constructor
    · intro front r back hsent hr
      obtain ⟨rfl, rfl⟩ := eq_of_last hno hsent hr
      exact released_of_isOwn hposts hget hreleases hlater hdel
    · rw [List.filter_append, hone, List.filter_cons_of_neg (by simp [hdelete])]
      exact Nat.le_refl 1
    · rw [List.filter_append, filter_method_eq_nil hno, List.nil_append]
      exact List.length_filter_le _ _
    · intro r reply hmem hr hunusable
      rw [List.append_assoc, List.cons_append] at hmem
      exact absurd hunusable (not_unusable_of_releases hposts hreleases hafter hmem hr)

theorem Permitted.failClosed (h : Permitted s base sent) : FailClosed s sent := by
  cases h with
  | nothing => exact failClosed_of_no_delete (by simp) (Nat.zero_le 1)
  | read hposts hown => exact failClosed_read hposts hown
  | remove hposts hget hreleases hlater hdel =>
    exact failClosed_remove hposts hget hreleases hlater hdel

end

-- One request to the service: the second it comes in, what it finds outside, and the request.
structure Visit where
  clock : Nat
  correlation : String
  surroundings : Surroundings
  request : Http.Request

namespace Visit

-- The state in which a visit starts.
def start (v : Visit) (s : Stack) : Stack :=
  prepare v.surroundings { s with clock := v.clock }

-- The state in which it leaves the stack.
def finish (api : Api Action) (v : Visit) (s : Stack) : Stack :=
  (serve api v.correlation v.surroundings v.request { s with clock := v.clock }).2

-- The server has received nothing before a visit.
theorem received_of_sends {api : Api Action} (v : Visit) {s : Stack} {sent : List Request}
    (h : Sends (v.start s) (v.finish api s) sent) : (v.finish api s).server.received = sent := by
  rw [h.received]
  rfl

end Visit

-- The states in which each of several visits starts and ends, one visit after the other.
def steps (api : Api Action) : List Visit → Stack → List (Stack × Stack)
  | [], _ => []
  | v :: rest, s => (v.start s, v.finish api s) :: steps api rest (v.finish api s)

theorem failClosed_visit {settings : Settings.Service} {api : Api Action}
    (hbuild : build settings = .ok api) (v : Visit) (s : Stack) :
    FailClosed (v.start s) (v.finish api s).server.received := by
  obtain ⟨p, hservices, hfault, -⟩ := parts_of_build hbuild
  have hquiet : Quiet api.databaseFault := by
    rw [hfault]
    exact .onDatabase Database.check
  have hguarded := guarded_answer hservices hquiet v.correlation v.request
  obtain ⟨sent, hsends, hpermitted⟩ := hguarded (v.start s) _ (v.finish api s) rfl
  rw [v.received_of_sends hsends]
  exact hpermitted.failClosed

-- Whatever is asked of the service and whatever it is answered, no step of it removes a permission
-- that was not read in the same step as one that may be removed.
theorem steps_failClosed {settings : Settings.Service} {api : Api Action}
    (hbuild : build settings = .ok api) (visits : List Visit) (s : Stack) :
    ∀ step ∈ steps api visits s, FailClosed step.1 step.2.server.received := by
  induction visits generalizing s with
  | nil => simp [steps]
  | cons v rest ih =>
    intro step hstep
    rcases List.mem_cons.mp hstep with rfl | hrest
    · exact failClosed_visit hbuild v s
    · exact ih (v.finish api s) step hrest

def hubUrl (path : List String) : Url :=
  ⟨"https", "", none, some (.name "graph.test"), none, false, .segments path, none, none⟩

def hub : Settings.Service :=
  ⟨"https://app.test", "secret", "127.0.0.1", 3001, none,
    ⟨hubUrl ["v1.0"], hubUrl [""], "tenant", "client", "secret", 20⟩⟩

def hubApi : Api Action where
  services := services (client hub.graph
    ⟨hubUrl ["tenant", "oauth2", "v2.0", "token"], "client", "secret"⟩)
  defaultSource := Report.standardSource
  adminToken := "secret"
  origin := ⟨"https://app.test", by decide, by decide⟩
  databaseFault := onDatabase Database.check

def idleHub : Stack where
  server := ⟨fun _ => true, [], [], []⟩
  token := none
  database := .closed
  clock := 0

def textReply (status : Nat) (text : String) : Reply :=
  .answered status (Text.Utf8.encode text)

-- The first visit finds a writer's permission, the second an owner's.
def hubVisits : List Visit :=
  [⟨0, "c",
      ⟨[textReply 200 "[\"t\",3600]"],
        [textReply 200 "\x7b\"roles\":[\"write\"],\"inheritedFrom\":null\x7d", textReply 204 ""],
        [], []⟩,
      ⟨"DELETE", "/api/permissions?driveId=d&itemId=i&permissionId=w",
        [("authorization", Text.Utf8.encode "Bearer secret")], []⟩⟩,
   ⟨1, "c",
      ⟨[], [textReply 200 "\x7b\"roles\":[\"coOWNER\"]\x7d", textReply 204 ""], [], []⟩,
      ⟨"DELETE", "/api/permissions?driveId=d&itemId=i&permissionId=o",
        [("authorization", Text.Utf8.encode "Bearer secret")], []⟩⟩]

theorem steps_failClosed_hubVisits :
    build hub = .ok hubApi ∧
      (steps hubApi hubVisits idleHub).map
          (fun step => step.2.server.received.map fun r => r.method) =
        [["POST", "GET", "DELETE"], ["GET"]] ∧
      ∀ step ∈ steps hubApi hubVisits idleHub, FailClosed step.1 step.2.server.received :=
  have hbuild : build hub = .ok hubApi := rfl
  ⟨hbuild, by decide +kernel, steps_failClosed hbuild hubVisits idleHub⟩

end Unshare.Stack
