import Unshare.Memory.Basic
import Unshare.Revocation.Basic

namespace Unshare.Memory

inductive Step
  | revoke (request : RevokeRequest) (actor : Option Actor) (faults : Faults)
  | list (query : Attempt.Query) (faults : Faults)

inductive Answer
  | revoked (result : Except Failure Revoked)
  | listed (result : Except Failure (List LoggedAttempt))

def Step.faults : Step → Faults
  | .revoke _ _ faults => faults
  | .list _ faults => faults

-- The state in which a step with these failures starts: nothing is noted yet.
def prepare (faults : Faults) (m : Memory) : Memory :=
  { m with calls := [], faults := faults }

-- Takes one step. The calls noted afterwards are this step's.
def Step.perform (defaultSource correlation : String) (step : Step) (m : Memory) :
    Answer × Memory :=
  let ready := prepare step.faults m
  match step with
  | .revoke request actor _ =>
    let (result, after) :=
      (Revocation.revoke services defaultSource correlation request actor).run ready
    (.revoked result, after)
  | .list query _ =>
    let (result, after) := (Revocation.recent services query).run ready
    (.listed result, after)

-- Takes the steps in order; each answer comes with the state after it.
def run (defaultSource correlation : String) : List Step → Memory → List (Answer × Memory)
  | [], _ => []
  | step :: rest, m =>
    let taken := step.perform defaultSource correlation m
    taken :: run defaultSource correlation rest taken.2

end Unshare.Memory
