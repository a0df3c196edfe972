import Unshare.Failure
import Unshare.Text.Blank
import Unshare.Url.Parser

namespace Unshare

-- The values of the variables that are set and hold text.
abbrev Environment := String → Option String

-- Variables as bytes; one whose bytes are no text counts as not set.
def Environment.ofBytes (bindings : List (String × List UInt8)) : Environment := fun name =>
  (bindings.lookup name).bind Text.Utf8.decode?

namespace Settings

structure Database where
  migrateOnly : Bool
  url : String
  maxConnections : Nat
deriving DecidableEq, Repr

structure Graph where
  baseUrl : Url
  authorityUrl : Url
  tenantId : String
  clientId : String
  clientSecret : String
  timeoutSeconds : Nat
deriving DecidableEq, Repr

structure Service where
  frontendUrl : String
  adminToken : String
  host : String
  portNumber : Nat
  logSource : Option String
  graph : Graph
deriving DecidableEq, Repr

def required (env : Environment) (name : String) : Except Failure String :=
  match env name with
  | some value => .ok value
  | none => .error (.validation (name ++ " is required"))

def requiredVisible (env : Environment) (name : String) : Except Failure String := do
  let value ← required env name
  if Text.isBlank value then throw (.validation (name ++ " must not be empty"))
  return value

-- The number a variable holds if it holds one up to `bound`.
def number? (env : Environment) (bound : Nat) (name : String) : Option Nat :=
  (env name).bind (Text.Decimal.read? bound)

def positive? (env : Environment) (bound : Nat) (name : String) : Option Nat :=
  (number? env bound name).filter (0 < ·)

-- A URL of the web; a blank value gives way to the standard one.
def webUrl (env : Environment) (name standard : String) : Except Failure Url :=
  let value := (Text.nonBlank (env name)).getD standard
  match Url.read (Text.trim value) with
  | .error fault => .error (.validation ("invalid " ++ name ++ ": " ++ fault.message))
  | .ok url =>
    if url.hasSegments ∧ url.isWeb then .ok url
    else .error (.validation (name ++ " must be an absolute http(s) URL"))

def standardBaseUrl : String := "https://graph.microsoft.com/v1.0"
def standardAuthorityUrl : String := "https://login.microsoftonline.com"

def Database.load (migrateOnly : Bool) (env : Environment) : Except Failure Database := do
  let url ← required env "DATABASE_URL"
  return ⟨migrateOnly, url, (positive? env Text.maxWord32 "DATABASE_MAX_CONNECTIONS").getD 10⟩

-- The admin token has at least this many bytes.
def minTokenSize : Nat := 32

def readAdminToken (env : Environment) : Except Failure String := do
  let token ← requiredVisible env "ADMIN_API_TOKEN"
  if (Text.Utf8.encode token).length < minTokenSize then
    throw (.validation "ADMIN_API_TOKEN must be at least 32 characters")
  return token

def Graph.load (env : Environment) : Except Failure Graph := do
  let baseUrl ← webUrl env "GRAPH_BASE_URL" standardBaseUrl
  let authorityUrl ← webUrl env "GRAPH_AUTHORITY_URL" standardAuthorityUrl
  let tenantId ← requiredVisible env "GRAPH_TENANT_ID"
  let clientId ← requiredVisible env "GRAPH_CLIENT_ID"
  let clientSecret ← requiredVisible env "GRAPH_CLIENT_SECRET"
  return ⟨baseUrl, authorityUrl, tenantId, clientId, clientSecret,
    (positive? env Text.maxWord64 "GRAPH_TIMEOUT_SECONDS").getD 20⟩

def Service.load (env : Environment) : Except Failure Service := do
  let token ← readAdminToken env
  let graph ← Graph.load env
  return {
    frontendUrl := (env "FRONTEND_URL").getD "http://localhost:3000"
    adminToken := token
    host := (env "API_HOST").getD "127.0.0.1"
    portNumber := (number? env Text.maxWord16 "API_PORT").getD 3001
    logSource := Text.present (env "REVOKE_LOG_SOURCE")
    graph := graph }

-- The name of the socket the service listens on.
def Service.socketName (s : Service) : Except Failure String :=
  match Net.Address.read? s.host with
  | some address => .ok (address.socketName s.portNumber)
  | none =>
    .error (.internal ("invalid API_HOST '" ++ s.host ++ "': invalid IP address syntax"))

end Settings

end Unshare
