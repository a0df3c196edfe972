import Unshare.Revocation.Services

namespace Unshare

inductive Memory.Service
  | fetch
  | remove
  | forget
  | audit
  | log
  | list
deriving DecidableEq, Repr

-- A call made on the services, with what it was given.
inductive Memory.Call
  | fetch (id : GrantId)
  | remove (id : GrantId)
  | forget (id : GrantId)
  | audit (event : AuditEvent)
  | log (attempt : Attempt)
  | list (query : Attempt.Query)

-- The failure each service is made to answer with.
abbrev Memory.Faults := Memory.Service → Option Failure

structure Memory where
  grants : List Grant
  -- the oldest record first
  attempts : List LoggedAttempt
  -- the first call first
  calls : List Memory.Call
  faults : Memory.Faults

namespace Memory

def noFaults : Faults := fun _ => none

def ofGrants (grants : List Grant) : Memory :=
  ⟨grants, [], [], noFaults⟩

-- Notes a call, then answers with the failure set for its service or acts.
def call {α : Type} (service : Service) (note : Call)
    (act : Memory → Except Failure α × Memory) : StateM Memory (Except Failure α) := fun m =>
  let noted := { m with calls := m.calls ++ [note] }
  match m.faults service with
  | some f => (.error f, noted)
  | none => act noted

def notFound (id : GrantId) : Failure :=
  .notFound ("itemNotFound: " ++ id.composite)

def find? (m : Memory) (id : GrantId) : Option Grant :=
  m.grants.find? fun g => g.id = id

def erase (m : Memory) (id : GrantId) : Memory :=
  { m with grants := m.grants.filter fun g => g.id ≠ id }

-- The time of the record with this number.
def timeOf (number : Nat) : String :=
  "2026-03-01T10:00:00." ++ String.ofList (Text.Decimal.padded 3 number) ++ "Z"

def keep (m : Memory) (attempt : Attempt) : Memory :=
  let number := m.attempts.length + 1
  { m with attempts := m.attempts ++ [⟨attempt, number, timeOf number⟩] }

-- Whether a record passes a filter; no filter passes everything.
def passes {α : Type} [DecidableEq α] (filter : Option α) (value : Option α) : Bool :=
  filter.isNone || filter = value

def matching (q : Attempt.Query) (a : LoggedAttempt) : Bool :=
  passes q.drive a.drive && passes q.item a.item && passes q.outcome (some a.outcome)

-- The window of the matching records that a query asks for, newest first.
def window (q : Attempt.Query) (attempts : List LoggedAttempt) : List LoggedAttempt :=
  ((attempts.reverse.filter (matching q)).drop q.offset).take q.limit

def services : Services (StateM Memory) where
  fetchGrant id := call .fetch (.fetch id) fun m =>
    match m.find? id with
    | some g => (.ok g, m)
    | none => (.error (notFound id), m)
  removeGrant id := call .remove (.remove id) fun m => (.ok (), m.erase id)
  forgetGrant id := call .forget (.forget id) fun m => (.ok (), m)
  appendAudit event := call .audit (.audit event) fun m => (.ok (), m)
  appendAttempt attempt := call .log (.log attempt) fun m => (.ok (), m.keep attempt)
  listAttempts query := call .list (.list query) fun m => (.ok (window query m.attempts), m)

theorem call_of_fault {α : Type} {service : Service} {note : Call}
    {act : Memory → Except Failure α × Memory} {m : Memory} {f : Failure}
    (h : m.faults service = some f) :
    call service note act m = (.error f, { m with calls := m.calls ++ [note] }) := by
  simp [call, h]

theorem call_of_no_fault {α : Type} {service : Service} {note : Call}
    {act : Memory → Except Failure α × Memory} {m : Memory} (h : m.faults service = none) :
    call service note act m = act { m with calls := m.calls ++ [note] } := by
  simp [call, h]

end Memory

end Unshare
