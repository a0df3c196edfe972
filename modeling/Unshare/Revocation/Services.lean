import Unshare.Attempt

namespace Unshare

-- Which records of the attempt log are asked for, newest first.
structure Attempt.Query where
  limit : Nat
  offset : Nat
  drive : Option String
  item : Option String
  outcome : Option Outcome
deriving DecidableEq, Repr

structure Services (m : Type → Type) where
  fetchGrant : GrantId → m (Except Failure Grant)
  removeGrant : GrantId → m (Except Failure Unit)
  forgetGrant : GrantId → m (Except Failure Unit)
  appendAudit : AuditEvent → m (Except Failure Unit)
  appendAttempt : Attempt → m (Except Failure Unit)
  listAttempts : Attempt.Query → m (Except Failure (List LoggedAttempt))

end Unshare
