import Unshare.Json.Basic

namespace Unshare

inductive Failure.Kind
  | validation
  | notFound
  | conflict
  | unauthorized
  | forbidden
  -- a service this one depends on failed or answered nonsense
  | dependency
  | internal
deriving DecidableEq, Repr

structure Failure where
  kind : Failure.Kind
  detail : String
deriving DecidableEq, Repr

namespace Failure

def validation (detail : String) : Failure := ⟨.validation, detail⟩
def notFound (detail : String) : Failure := ⟨.notFound, detail⟩
def unauthorized (detail : String) : Failure := ⟨.unauthorized, detail⟩
def forbidden (detail : String) : Failure := ⟨.forbidden, detail⟩
def dependency (detail : String) : Failure := ⟨.dependency, detail⟩
def internal (detail : String) : Failure := ⟨.internal, detail⟩

def Kind.label : Kind → String
  | .validation => "validation error"
  | .notFound => "not found"
  | .conflict => "conflict"
  | .unauthorized => "unauthorized"
  | .forbidden => "forbidden"
  | .dependency => "upstream error"
  | .internal => "internal error"

def Kind.status : Kind → Nat
  | .validation => 400
  | .notFound => 404
  | .conflict => 409
  | .unauthorized => 401
  | .forbidden => 403
  | .dependency => 502
  | .internal => 500

-- The line shown for a failure.
def display (f : Failure) : String :=
  f.kind.label ++ ": " ++ f.detail

-- The body that tells a client of a failure; the kind is in the status alone.
def body (f : Failure) : Json :=
  .object [("ok", .bool false), ("error", .string f.detail)]

end Failure

-- The end of an action that does not survive to report a failure.
structure Crash where
  reason : String
deriving DecidableEq, Repr

-- What ends an action early: a failure it reports, or a crash.
inductive Abort
  | failure (f : Failure)
  | crash (c : Crash)
deriving DecidableEq, Repr

end Unshare
