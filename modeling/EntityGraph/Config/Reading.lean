import EntityGraph.Config.Basic
import EntityGraph.Json.Decode
import EntityGraph.Text.Identifier
import EntityGraph.Toml.Parser

/-!
# Reading configurations

A configuration file may leave anything out. A section it does not know is refused, a key it does not know is not.
A section that is a list of values, rather than a table, must have one for each key.
-/
namespace EntityGraph.Config

open Json.Decode

/-- The names of the sections. -/
def sectionNames : List String := ["connection", "retry", "pagination", "tenancy", "api"]

/-- A table that may leave any of its keys out, or a list with a value for each of them. -/
def table? {α : Type} (keys : List String) (read : Members → Option α) : Reader α := fun v =>
  if v.items?.all (fun items => keys.length ≤ items.length) then structure? Toml.format keys read v else none

/-- The keys of connections. -/
def connectionKeys : List String :=
  ["uri", "user", "password", "database", "max_connections", "acquire_timeout_ms"]

/-- The section of connections. -/
def readConnection : Reader Connection := table? connectionKeys fun ms => do
  let base : Connection := default
  let uri ← member? ms "uri" string
  let user ← member? ms "user" string
  let password ← member? ms "password" string
  let database ← member? ms "database" string
  let maxConnections ← member? ms "max_connections" (natBelow 64)
  let acquireTimeout ← member? ms "acquire_timeout_ms" (natBelow 64)
  some ⟨uri.getD base.uri, user.getD base.user, password.getD base.password, database,
    maxConnections.getD base.maxConnections, acquireTimeout.getD base.acquireTimeout⟩

/-- The section of retries: how many attempts, and the wait after the first. -/
def readRetry : Reader (Nat × Nat) := table? ["max_attempts", "base_delay_ms"] fun ms => do
  let base : Config := default
  let maxAttempts ← member? ms "max_attempts" (natBelow 32)
  let baseDelay ← member? ms "base_delay_ms" (natBelow 64)
  some (maxAttempts.getD base.maxAttempts, baseDelay.getD base.baseDelay)

/-- The size of a page. -/
def readPagination : Reader Nat := table? ["default_take"] fun ms => do
  let take ← member? ms "default_take" (natBelow 64)
  some (take.getD Paging.defaultTake)

/-- The label of tenants and the type of memberships. -/
def readTenancy : Reader (String × String) := table? ["tenant_label", "membership_edge"] fun ms => do
  let base : Compile.Settings := default
  let label ← member? ms "tenant_label" string
  let edge ← member? ms "membership_edge" string
  some (label.getD base.tenantLabel, edge.getD base.membershipEdge)

/-- The section of links. -/
def readApi : Reader (Option String) := table? ["base_url"] fun ms => member? ms "base_url" string

/-- A section, or an empty one where it is missing. -/
def section? {α : Type} (ms : Members) (name : String) (read : Reader α) : Option α :=
  read ((ms.lookup name).getD .emptyObject)

/-- A configuration from the members of its file, unchecked. -/
def ofMembers? (origin : String) (ms : Members) : Option Config := do
  if ms.any (fun m => !sectionNames.contains m.1) then none
  let connection ← section? ms "connection" readConnection
  let (maxAttempts, baseDelay) ← section? ms "retry" readRetry
  let take ← section? ms "pagination" readPagination
  let (label, edge) ← section? ms "tenancy" readTenancy
  let baseUrl ← section? ms "api" readApi
  some ⟨some origin, connection, maxAttempts, baseDelay, ⟨label, edge, take⟩, baseUrl⟩

/-- A value that must hold for a key. -/
def require (field reason : String) (holds : Bool) : Except ConfigError Unit :=
  if holds then .ok () else .error (.invalid field reason)

/-- Refuses a configuration that nothing can run with. -/
def validate (c : Config) : Except ConfigError Unit := do
  let positive (n : Nat) (field : String) := require field "must be at least 1" (decide (0 < n))
  let identifier (s field : String) := require field "must be a plain identifier" (Text.isIdentifier s)
  positive c.connection.maxConnections "connection.max_connections"
  positive c.maxAttempts "retry.max_attempts"
  positive c.settings.defaultTake "pagination.default_take"
  identifier c.settings.tenantLabel "tenancy.tenant_label"
  identifier c.settings.membershipEdge "tenancy.membership_edge"
  c.base?.map (fun _ => ())

/-- The configuration of a file's text. -/
def ofToml (origin text : String) : Except ConfigError Config :=
  match (Toml.parse? text).bind (fun ms => ofMembers? origin (Toml.membersToJson ms)) with
  | none => .error (.unparsable origin)
  | some c => c.validate.map (fun _ => c)

end EntityGraph.Config
