import Unshare.Proofs.Numerals
import Unshare.Proofs.Sourcing
import Unshare.Proofs.Startup

namespace Unshare

theorem Text.trim_of_present {s : Option String} {t : String} (h : present s = some t) :
    trim t = t := by
  obtain ⟨hmapped, -⟩ := Option.filter_eq_some_iff.mp h
  obtain ⟨given, -, rfl⟩ := Option.map_eq_some_iff.mp hmapped
  exact trim_idem given

namespace Settings

-- The variable holds a numeral of this number, and the number is within the bounds.
def HoldsNumber (env : Environment) (name : String) (low high n : Nat) : Prop :=
  ∃ text, env name = some text ∧ Text.Decimal.Denotes text n ∧ low ≤ n ∧ n ≤ high

-- The number that the variable holds, and the standard one if it holds none.
def IsSetBy (env : Environment) (name : String) (low high standard n : Nat) : Prop :=
  HoldsNumber env name low high n ∨ n = standard ∧ ∀ m, ¬HoldsNumber env name low high m

section

variable {env : Environment} {name : String} {low high standard n : Nat}

theorem number?_eq_some_iff : number? env high name = some n ↔ HoldsNumber env name 0 high n := by
  simp only [number?, Option.bind_eq_some_iff, Text.Decimal.read?_eq_some_iff, HoldsNumber,
    Nat.zero_le, true_and]

theorem positive?_eq_some_iff :
    positive? env high name = some n ↔ HoldsNumber env name 1 high n := by
  rw [positive?, Option.filter_eq_some_iff, number?_eq_some_iff, decide_eq_true_eq]
  constructor
  · rintro ⟨⟨text, htext, hdenotes, -, hhigh⟩, hpositive⟩
    exact ⟨text, htext, hdenotes, hpositive, hhigh⟩
  · rintro ⟨text, htext, hdenotes, hpositive, hhigh⟩
    exact ⟨⟨text, htext, hdenotes, Nat.zero_le n, hhigh⟩, hpositive⟩

theorem isSetBy_getD {read : Option Nat} (standard : Nat)
    (h : ∀ n, read = some n ↔ HoldsNumber env name low high n) :
    IsSetBy env name low high standard (read.getD standard) := by
  cases hread : read with
  | none =>
    refine .inr ⟨rfl, ?_⟩
    intro m hholds
    rw [← h m, hread] at hholds
    cases hholds
  | some n => exact .inl ((h n).mp hread)

theorem IsSetBy.low_le (h : IsSetBy env name low high standard n) (hstandard : low ≤ standard) :
    low ≤ n := by
  rcases h with ⟨_, -, -, hlow, -⟩ | ⟨rfl, -⟩
  · exact hlow
  · exact hstandard

end

-- What those who run the service rely on. The place for tokens and the place of every permission
-- can be told, and no record is left without a source.
structure Service.IsFit (env : Environment) (settings : Service) : Prop where
  timeout_pos : 1 ≤ settings.graph.timeoutSeconds
  timeout :
    IsSetBy env "GRAPH_TIMEOUT_SECONDS" 1 0xFFFFFFFFFFFFFFFF 20 settings.graph.timeoutSeconds
  port : IsSetBy env "API_PORT" 0 0xFFFF 3001 settings.portNumber
  source : ∀ source, settings.logSource = some source →
    Text.trim source = source ∧ Text.isBlank source = false
  provider : ∃ p, Stack.provider settings.graph = .ok p
  permissionUrl : ∀ id, ∃ url, Graph.permissionUrl settings.graph.baseUrl id = .ok url
  records : ∀ api, Stack.build settings = .ok api → ∀ visits s,
    ∀ step ∈ Stack.steps api visits s, ∀ q ∈ step.2.database.statements, Database.NamesSource q

structure Database.IsFit (env : Environment) (database : Database) : Prop where
  connections_pos : 1 ≤ database.maxConnections
  connections : IsSetBy env "DATABASE_MAX_CONNECTIONS" 1 0xFFFFFFFF 10 database.maxConnections

theorem numbers_of_load {env : Environment} {settings : Service}
    (h : Service.load env = .ok settings) :
    IsSetBy env "GRAPH_TIMEOUT_SECONDS" 1 0xFFFFFFFFFFFFFFFF 20 settings.graph.timeoutSeconds ∧
      IsSetBy env "API_PORT" 0 0xFFFF 3001 settings.portNumber := by
  obtain ⟨token, graph, -, hgraph, rfl⟩ := Service.load_inv h
  obtain ⟨_, _, _, _, _, -, -, rfl⟩ := Graph.load_inv hgraph
  exact ⟨isSetBy_getD 20 fun _ => positive?_eq_some_iff,
    isSetBy_getD 3001 fun _ => number?_eq_some_iff⟩

theorem logSource_of_load {env : Environment} {settings : Service} {source : String}
    (h : Service.load env = .ok settings) (hsource : settings.logSource = some source) :
    Text.trim source = source ∧ Text.isBlank source = false := by
  obtain ⟨token, graph, -, -, rfl⟩ := Service.load_inv h
  exact ⟨Text.trim_of_present hsource, Text.isBlank_of_present hsource⟩

theorem isFit_of_databaseLoad {env : Environment} {migrateOnly : Bool} {database : Database}
    (h : Database.load migrateOnly env = .ok database) : database.IsFit env := by
  obtain ⟨url, -, hrest⟩ := bind_eq_ok_iff.mp h
  cases hrest
  have hset : IsSetBy env "DATABASE_MAX_CONNECTIONS" 1 0xFFFFFFFF 10
      ((positive? env Text.maxWord32 "DATABASE_MAX_CONNECTIONS").getD 10) :=
    isSetBy_getD 10 fun _ => positive?_eq_some_iff
  exact ⟨hset.low_le (by decide), hset⟩

-- Every environment that is accepted gives settings to run with.
theorem load_isFit (env : Environment) :
    (∀ migrateOnly database, Database.load migrateOnly env = .ok database → database.IsFit env) ∧
      ∀ settings, Service.load env = .ok settings → settings.IsFit env := by
  refine ⟨fun migrateOnly database h => isFit_of_databaseLoad h, ?_⟩
  intro settings h
  obtain ⟨htimeout, hport⟩ := numbers_of_load h
  exact {
    timeout_pos := htimeout.low_le (by decide)
    timeout := htimeout
    port := hport
    source := fun source hsource => logSource_of_load h hsource
    provider := Stack.provider_of_load h
    permissionUrl := Graph.permissionUrl_isOk (hasSegments_of_load h).1
    records := fun api hbuild => Stack.steps_nameSources hbuild
      fun source hsource => (logSource_of_load h hsource).2 }

-- Two of its numbers are out of range, and what it says of the source is given with blanks.
def looseEnvironment : Environment := fun name =>
  ([("DATABASE_URL", "postgres://[::1]/shares"), ("DATABASE_MAX_CONNECTIONS", "4294967296"),
    ("API_PORT", "+08080"), ("GRAPH_TIMEOUT_SECONDS", "0"),
    ("REVOKE_LOG_SOURCE", " console ")].lookup name).or
      (Stack.environmentWith Stack.plainToken name)

-- A revocation that names nothing to revoke.
def bareVisit : Stack.Visit :=
  ⟨0, "c", ⟨[], [], [], []⟩, Api.removal [("Authorization", "Bearer " ++ Stack.plainToken)]⟩

theorem load_isFit_looseEnvironment :
    ∃ database settings api, Database.load false looseEnvironment = .ok database ∧
      Service.load looseEnvironment = .ok settings ∧ Stack.build settings = .ok api ∧
      database.maxConnections = 10 ∧ settings.graph.timeoutSeconds = 20 ∧
      settings.portNumber = 8080 ∧ settings.logSource = some "console" ∧
      database.IsFit looseEnvironment ∧ settings.IsFit looseEnvironment ∧
      (Stack.steps api [bareVisit] { Stack.idleHub with database := .prepared [] [] }).map
        (fun step => step.2.database.statements.length) = [1] := by
  obtain ⟨hdatabase, hservice⟩ := load_isFit looseEnvironment
  refine ⟨_, _, _, rfl, rfl, rfl, rfl, rfl, rfl, rfl, hdatabase false _ rfl, hservice _ rfl, ?_⟩
  decide +kernel

end Settings

end Unshare
