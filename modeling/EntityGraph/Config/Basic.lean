import EntityGraph.Compile.Scope
import EntityGraph.Session.Client
import EntityGraph.Text.Quoted
import EntityGraph.Toml.Printer
import EntityGraph.Url.Parser

/-!
# Configurations

Everything that a deployment can set, in five sections. The password is never shown: neither the sections nor the
text of a connection have it.
-/
namespace EntityGraph

open Toml (Scalar Section)

namespace Config

/-- Where the database is, who connects, and how many sessions there may be at once. -/
structure Connection where
  uri : String
  user : String
  password : String
  database : Option String
  maxConnections : Nat
  /-- The longest wait for a session, in milliseconds. -/
  acquireTimeout : Nat
  deriving DecidableEq

instance : Inhabited Connection := ⟨⟨"bolt://localhost:7687", "neo4j", "", none, 16, 5000⟩⟩

/-- A text that may be missing. -/
def optionText : Option String → String
  | none => "None"
  | some s => s!"Some({Text.quoted s})"

/-- The connection without its password. -/
def Connection.text (c : Connection) : String :=
  "ConnectionConfig \x7b uri: " ++ Text.quoted c.uri ++ ", user: " ++ Text.quoted c.user ++
    ", password: \"<redacted>\", database: " ++ optionText c.database ++
    ", max_connections: " ++ Nat.repr c.maxConnections ++
    ", acquire_timeout_ms: " ++ Nat.repr c.acquireTimeout ++ " \x7d"

end Config

/-- A configuration. -/
structure Config where
  /-- The file that it was read from. -/
  origin : Option String
  connection : Config.Connection
  /-- How often a write is attempted. -/
  maxAttempts : Nat
  /-- The wait after the first attempt, in milliseconds. -/
  baseDelay : Nat
  settings : Compile.Settings
  /-- Where links of resources begin. -/
  baseUrl : Option String
  deriving DecidableEq

namespace Config

instance : Inhabited Config := ⟨⟨none, default, 3, 100, default, none⟩⟩

/-- A line that is written only if there is a text. -/
def optionalLine (key : String) (s : Option String) : List (String × Scalar) :=
  match s with
  | some s => [(key, .str s)]
  | none => []

variable (c : Config)

/-- What is shown of a configuration. -/
def sections : List Section :=
  [⟨"connection", [("uri", .str c.connection.uri), ("user", .str c.connection.user)] ++
      optionalLine "database" c.connection.database ++
      [("max_connections", .nat c.connection.maxConnections),
        ("acquire_timeout_ms", .nat c.connection.acquireTimeout)]⟩,
    ⟨"retry", [("max_attempts", .nat c.maxAttempts), ("base_delay_ms", .nat c.baseDelay)]⟩,
    ⟨"pagination", [("default_take", .nat c.settings.defaultTake)]⟩,
    ⟨"tenancy", [("tenant_label", .str c.settings.tenantLabel),
      ("membership_edge", .str c.settings.membershipEdge)]⟩,
    ⟨"api", optionalLine "base_url" c.baseUrl⟩]

/-- The configuration as a file. -/
def toToml : String := Toml.sectionsText c.sections

/-- The configuration as an object of sections. -/
def toJson : Json.Value := .obj (c.sections.map (fun s => (s.name, s.toJson)))

/-- What a client of the database is made with. -/
def clientOptions : Session.Options :=
  ⟨c.connection.maxConnections, .ofMillis c.connection.acquireTimeout,
    .ofAttempts c.maxAttempts (.ofMillis c.baseDelay)⟩

/-- The address where links of resources begin. -/
def base? : Except ConfigError (Option Url) :=
  match c.baseUrl with
  | none => .ok none
  | some text => (Url.parse text).map some |>.mapError (fun e => .invalid "api.base_url" e.message)

end Config
end EntityGraph
