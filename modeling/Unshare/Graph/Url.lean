import Unshare.Grant
import Unshare.Url.Path

namespace Unshare.Graph

def segmentsOf (id : GrantId) : List String :=
  ["drives", id.drive, "items", id.item, "permissions", id.permission]

def permissionUrl (base : Url) (id : GrantId) : Except Failure Url :=
  match base.extend? (segmentsOf id) with
  | some url => .ok url
  | none => .error (.internal "graph base URL cannot be a base")

theorem permissionUrl_isOk {base : Url} (h : base.hasSegments = true) (id : GrantId) :
    ∃ url, permissionUrl base id = .ok url := by
  have hs := base.extend?_isSome h (segmentsOf id)
  unfold permissionUrl
  cases he : base.extend? (segmentsOf id) with
  | none => simp [he] at hs
  | some url => exact ⟨url, rfl⟩

end Unshare.Graph
