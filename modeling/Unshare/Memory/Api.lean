import Unshare.Api.Basic
import Unshare.Memory.Run

namespace Unshare.Memory

def closedPool : String :=
  "attempted to acquire a connection on a closed pool"

def api (defaultSource adminToken : String) (origin : Api.Origin) : Api (StateM Memory) where
  services := services
  defaultSource := defaultSource
  adminToken := adminToken
  origin := origin
  databaseFault := return some ("postgres check failed: " ++ closedPool)

-- Answers one request with these failures set. The calls noted afterwards are this request's.
def serve (api : Api (StateM Memory)) (correlation : String) (faults : Faults)
    (r : Http.Request) (m : Memory) : Http.Response × Memory :=
  (api.answer correlation r).run (prepare faults m)

end Unshare.Memory
