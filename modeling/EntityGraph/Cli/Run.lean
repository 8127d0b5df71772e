import EntityGraph.Cli.Arguments
import EntityGraph.Compile.Read
import EntityGraph.Compile.Write
import EntityGraph.Config.Loading
import EntityGraph.Json.Parser
import EntityGraph.Schema.File

/-!
# Running commands

A run reads the configuration, then the schema file, and prints either what was asked for or one failure.
-/
namespace EntityGraph.Cli

open Compile (Compiler Criteria Input Settings)
open Cypher (Query)
open Json (Value)
open Schema (Registry)

/-- Why a command fails. -/
inductive Failure where
  | graph (e : GraphError)
  | noEntity (label : String)
  | inputNotObject
  | inputNotJson
  deriving Repr

/-- The text of a failed command. -/
def Failure.message : Failure → String
  | graph e => e.message
  | noEntity label => s!"schema declares no entity '{label}'"
  | inputNotObject => "--params must be a JSON object"
  | inputNotJson => "--params is not valid JSON"

namespace Explanation

variable (e : Explanation)

/-- Who asks. -/
def caller : Caller := if e.elevated then .exempt e.user else .member e.company e.user

/-- What is searched for. -/
def criteria : Criteria := ⟨e.term, none, ∅⟩

/-- The page that is asked for. -/
def page (settings : Settings) : Result Paging.Cursor :=
  let given (key : String) (value : Option String) : List (String × String) := (value.map (fun v => (key, v))).toList
  let fetchAll := if e.fetchAll then some "true" else none
  Paging.Cursor.ofQuery
    (.ofList (given "cursor" e.cursor ++ given "take" e.take ++ given "fetchAll" fetchAll)) settings.defaultTake

/-- The id, which some operations need. -/
def id? : Result String :=
  match e.id with
  | some id => .ok id
  | none => refuse .idRequired

/-- The input of a write; an id of its own goes before the one in the text. -/
def input : Except Failure Input := do
  let given ← match e.params with
    | none => pure ∅
    | some text =>
      match Value.parse? text with
      | none => .error .inputNotJson
      | some (.obj members) => pure (Dict.ofList members)
      | some _ => .error .inputNotObject
  match e.id with
  | none => return given
  | some id => return given.insert "id" (.str id)

/-- The queries of a read or a deletion. -/
def lookUp (c : Compiler) : Result (List Query) := do
  match e.operation with
  | .count => return ((← c.find e.caller e.criteria).count?.map (fun s => s.render .all)).toList
  | .findById => return [(← c.findById e.caller (← e.id?)).render .all]
  | .delete => return [(← c.delete e.caller (← e.id?)).render .all]
  | _ =>
    let statement ← c.find e.caller e.criteria
    return [statement.render (← (← e.page c.settings).window)]

/-- The queries of a write: the look-up of its links, if it has any, and the write. -/
def change (c : Compiler) (mode : Compile.WriteMode) : Except Failure (List Query) := do
  let plan ← (c.write e.caller (← e.input) mode).mapError .graph
  return (plan.precheck.toList ++ [plan.write]).map (fun s => s.render .all)

/-- The queries of an operation. -/
def queries (registry : Registry) (settings : Settings) : Except Failure (List Query) :=
  match registry.get? e.entity with
  | none => .error (.noEntity e.entity)
  | some d =>
    match e.operation with
    | .create => e.change ⟨d, settings⟩ .create
    | .put => e.change ⟨d, settings⟩ .put
    | .patch => e.change ⟨d, settings⟩ .patch
    | _ => (e.lookUp ⟨d, settings⟩).mapError .graph

end Explanation

/-- A query, and its parameters as a comment if it has any. -/
def queryText (q : Query) : String :=
  q.text ++ "\n" ++ (if q.params.isEmpty then "" else "// params: " ++ (Value.ofDict q.params).text ++ "\n")

/-- A value on lines of its own. -/
def indented (v : Value) : String := v.indentedText 0 ++ "\n"

namespace Format

/-- The statements of a schema. -/
def statements (f : Format) (statements : List String) : String :=
  match f with
  | json => indented (.ofStrings statements)
  | text => String.join (statements.map (· ++ ";\n"))

/-- Queries with an empty line between them. -/
def queries (f : Format) (queries : List Query) : String :=
  match f with
  | json => indented (.arr (queries.map Query.toJson))
  | text => "\n".intercalate (queries.map queryText)

/-- A configuration. -/
def config (f : Format) (c : Config) : String :=
  match f with
  | json => indented c.toJson
  | text => c.toToml

end Format

variable {m : Type → Type} [Monad m] (files : Files m)

/-- What a command prints under a configuration. -/
def Command.output (command : Command) (format : Format) (c : Config) : m (Except Failure String) := do
  match command with
  | .config => return .ok (format.config c)
  | .ddl path =>
    let registry ← Registry.load files path
    return (registry.map (fun r => format.statements r.ddl)).mapError .graph
  | .explain e =>
    match ← Registry.load files e.schema with
    | .error failure => return .error (.graph failure)
    | .ok registry => return (e.queries registry c.settings).map format.queries

/-- What the environment says. -/
structure Environment where
  /-- The file of the configuration. -/
  configFile : Option String
  /-- Where configurations are kept. -/
  configHome : Option String
  home : Option String

/-- The usual file of the configuration. A place that is not absolute does not count. -/
def Environment.usualFile (env : Environment) : Option String :=
  let place := (env.configHome.filter (fun s => s.startsWith "/")).or
    ((env.home.filter (fun s => s ≠ "")).map (· ++ "/.config"))
  place.map (· ++ "/penumbra/config.toml")

/-- How a run ends. -/
structure Outcome where
  code : Nat
  stdout : String
  stderr : String
  deriving Repr, DecidableEq

/-- The end of a run that failed. -/
def Outcome.failed (message : String) : Outcome := ⟨1, "", s!"error: {message}\n"⟩

/-- The end of a command. -/
def Outcome.ofResult : Except Failure String → Outcome
  | .ok text => ⟨0, text, ""⟩
  | .error e => .failed e.message

/-- Runs a command. -/
def Invocation.run (env : Environment) (i : Invocation) : m Outcome := do
  let config ← match i.configFile with
    | some path => Config.loadFile files path
    | none => Config.loadUsual files env.usualFile
  match config with
  | .error e => return .failed e.message
  | .ok c => return .ofResult (← i.command.output files i.format c)

/-- Runs what the arguments ask for. -/
def run (env : Environment) (args : List String) : m Outcome := do
  match wish? env.configFile args with
  | none => return ⟨2, "", "error: the arguments do not fit\n"⟩
  | some .version => return ⟨0, "penumbra 0.4.0\n", ""⟩
  | some (.run i) => i.run files env

end EntityGraph.Cli
