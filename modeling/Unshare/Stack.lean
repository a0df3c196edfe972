import Unshare.Api.Basic
import Unshare.Database.Stores
import Unshare.Graph.Client
import Unshare.Remote.Server
import Unshare.Settings
import Unshare.Token.Provider

namespace Unshare

structure Stack where
  server : Remote.Server
  token : Option Token.Cached
  database : Database
  -- the second it is
  clock : Nat

namespace Stack

abbrev Action := ExceptT Crash (StateM Stack)

def wire : Remote.Wire Action := fun r =>
  modifyGet fun s =>
    let (reply, server) := s.server.exchange r
    (reply, { s with server := server })

-- Does something with the database.
def onDatabase {α : Type} (act : Database → α × Database) : Action α :=
  modifyGet fun s =>
    let (result, database) := act s.database
    (result, { s with database := database })

-- A token, taken from what is kept or asked for.
def accessToken (p : Token.Provider) : Action (Except Abort String) := do
  let s ← get
  let (result, token) ← p.access wire s.clock s.token
  modify fun s => { s with token := token }
  return result

-- Hands on a failure as a result; a crash ends everything.
def settle {α : Type} : Except Abort α → Action (Except Failure α)
  | .ok value => return .ok value
  | .error (.failure f) => return .error f
  | .error (.crash c) => throw c

def services (client : Graph.Client Action) : Services Action where
  fetchGrant id := do settle (← client.fetch id)
  removeGrant id := do settle (← client.remove id)
  forgetGrant id := onDatabase (Database.forgetGrant id)
  appendAudit event := onDatabase (Database.appendAudit event)
  appendAttempt attempt := onDatabase (Database.appendAttempt attempt)
  listAttempts query := onDatabase (Database.listAttempts query)

def provider (g : Settings.Graph) : Except Failure Token.Provider :=
  Token.Provider.of? g.authorityUrl g.tenantId g.clientId g.clientSecret

def client (g : Settings.Graph) (p : Token.Provider) : Graph.Client Action :=
  ⟨g.baseUrl, accessToken p, wire⟩

-- Sets the service up.
def build (settings : Settings.Service) : Except Abort (Api Action) :=
  match provider settings.graph with
  | .error f => .error (.failure f)
  | .ok p =>
    match Api.Origin.of? settings.frontendUrl with
    | .error abort => .error abort
    | .ok origin => .ok {
        services := services (client settings.graph p)
        defaultSource := settings.logSource.getD Report.standardSource
        adminToken := settings.adminToken
        origin := origin
        databaseFault := onDatabase Database.check }

theorem build_inv {settings : Settings.Service} {api : Api Action}
    (h : build settings = .ok api) : ∃ p origin, provider settings.graph = .ok p ∧
      Api.Origin.of? settings.frontendUrl = .ok origin ∧
      api = ⟨services (client settings.graph p), settings.logSource.getD Report.standardSource,
        settings.adminToken, origin, onDatabase Database.check⟩ := by
  rw [build] at h
  split at h
  · cases h
  · split at h
    · cases h
    · cases h
      exact ⟨_, _, ‹_›, ‹_›, rfl⟩

-- Sets the service up from the environment.
def load (env : Environment) : Except Abort (Api Action) :=
  match Settings.Service.load env with
  | .error f => .error (.failure f)
  | .ok settings => build settings

-- What one request finds outside the service.
structure Surroundings where
  toPosts : List Remote.Reply
  toOthers : List Remote.Reply
  failing : List (String × String)
  rows : List Database.Row

-- The state in which a request with these surroundings starts: nothing is noted yet.
def prepare (o : Surroundings) (s : Stack) : Stack :=
  { s with
    server := { s.server with toPosts := o.toPosts, toOthers := o.toOthers, received := [] }
    database := { s.database with failing := o.failing, rows := o.rows, statements := [] } }

-- Answers one request. What the server received and the database was told afterwards is this
-- request's.
def serve (api : Api Action) (correlation : String) (o : Surroundings) (r : Http.Request)
    (s : Stack) : Except Crash Http.Response × Stack :=
  (api.answer correlation r).run.run (prepare o s)

end Stack

end Unshare
