namespace Unshare.Api

inductive Route
  | health
  | permissions
  | revoke
  | attempts
deriving DecidableEq, Repr

namespace Route

def path : Route → String
  | .health => "/health"
  | .permissions => "/api/permissions"
  | .revoke => "/api/permissions/revoke"
  | .attempts => "/api/permissions/revoke-attempts"

def all : List Route :=
  [.health, .permissions, .revoke, .attempts]

-- Paths are compared as written, escapes and all.
def ofPath? (path : String) : Option Route :=
  all.find? fun route => route.path == path

-- The methods a route answers; where it answers GET it answers HEAD too.
def methods : Route → List String
  | .health | .attempts => ["GET", "HEAD"]
  | .permissions => ["DELETE"]
  | .revoke => ["POST"]

def isProtected : Route → Bool
  | .health => false
  | .permissions | .revoke | .attempts => true

-- The value of the header that names the methods a route answers.
def allowed (route : Route) : String :=
  ",".intercalate route.methods

theorem ofPath?_path (route : Route) : ofPath? route.path = some route := by
  cases route <;> rfl

end Route

end Unshare.Api
