import Unshare.Json.Basic

namespace Unshare

inductive Database.Param
  | null
  | text (value : String)
  | number (value : Int)
  | json (value : Json)

structure Database.Statement where
  sql : String
  params : List Database.Param

-- Why a statement failed.
inductive Database.Fault
  | closedPool
  | unreachable
  | refused (message : String)
  | missingValue (column : String)
deriving DecidableEq, Repr

-- One row of the attempt log. A column without a value is missing.
structure Database.Row where
  id : Option Int
  -- microseconds from the start of 1970
  occurredAt : Option Int
  actorOid : Option String
  actorUpn : Option String
  actorName : Option String
  drive : Option String
  item : Option String
  permission : Option String
  outcome : Option String
  reason : Option String
  warning : Option String
  source : Option String
  details : Json

structure Database where
  isOpen : Bool
  -- beginnings of statements, each with the message with which such a statement fails
  failing : List (String × String)
  rows : List Database.Row
  -- the statements so far, the first one first
  statements : List Database.Statement

namespace Database

def Fault.message : Fault → String
  | .closedPool => "attempted to acquire a connection on a closed pool"
  | .unreachable =>
    "error communicating with database: Network is unreachable (os error 101)"
  | .refused message => "error returned from database: " ++ message
  | .missingValue column =>
    "error occurred while decoding column \"" ++ column ++
      "\": unexpected null; try decoding as an `Option`"

def closed : Database :=
  ⟨false, [], [], []⟩

def prepared (failing : List (String × String)) (rows : List Row) : Database :=
  ⟨true, failing, rows, []⟩

def Param.ofText (s : Option String) : Param :=
  s.elim .null .text

-- A statement without parameters.
def plain (sql : String) : Statement :=
  ⟨sql, []⟩

def startsWith (start s : String) : Bool :=
  start.toList.isPrefixOf s.toList

-- The message with which a statement is set to fail.
def failure? (db : Database) (s : Statement) : Option String :=
  (db.failing.find? fun (start, _) => startsWith start s.sql).map Prod.snd

def note (db : Database) (s : Statement) : Database :=
  { db with statements := db.statements ++ [s] }

-- Issues a statement.
def issue (s : Statement) (db : Database) : Except Fault Unit × Database :=
  if db.isOpen then
    match db.failure? s with
    | some message => (.error (.refused message), db.note s)
    | none => (.ok (), db.note s)
  else (.error .closedPool, db)

-- Issues statements up to the first that fails, each with what is said if it does.
def issueAll : List (Statement × String) → Database → Except String Unit × Database
  | [], db => (.ok (), db)
  | (s, label) :: rest, db =>
    match issue s db with
    | (.ok (), after) => issueAll rest after
    | (.error fault, after) => (.error (label ++ ": " ++ fault.message), after)

def beginStatement : Statement := plain "BEGIN"
def commitStatement : Statement := plain "COMMIT"
def rollbackStatement : Statement := plain "ROLLBACK"

def beginLabel : String := "failed to begin transaction"
def commitLabel : String := "failed to commit transaction"

-- Issues statements within a transaction, which stops at the first that fails and is rolled back
-- unless its commit succeeded.
def transaction (statements : List (Statement × String)) (db : Database) :
    Except String Unit × Database :=
  match issueAll [(beginStatement, beginLabel)] db with
  | (.error message, after) => (.error message, after)
  | (.ok (), started) =>
    match issueAll (statements ++ [(commitStatement, commitLabel)]) started with
    | (.ok (), after) => (.ok (), after)
    | (.error message, after) => (.error message, after.note rollbackStatement)

end Database

end Unshare
