import EntityGraph.Cli.Options

/-!
# Arguments

Some options hold for every command and stand before or after its name; behind the name they win. The file of the
configuration may also be named by the environment.
-/
namespace EntityGraph.Cli

/-- How results are printed. -/
inductive Format where
  | text
  | json
  deriving Repr, DecidableEq, Inhabited

/-- What is explained. -/
inductive Operation where
  | find
  | findById
  | count
  | create
  | put
  | patch
  | delete
  deriving Repr, DecidableEq, Inhabited

/-- An operation on an entity of a schema file, and who asks for it. -/
structure Explanation where
  schema : String
  entity : String
  operation : Operation
  id : Option String
  term : Option String
  elevated : Bool
  company : String
  user : String
  /-- The input of a write, as JSON text. -/
  params : Option String
  cursor : Option String
  take : Option String
  fetchAll : Bool
  deriving Repr, DecidableEq

/-- What is asked for. -/
inductive Command where
  /-- The statements that set up a schema file. -/
  | ddl (schema : String)
  /-- The statements of one operation. -/
  | explain (e : Explanation)
  /-- The configuration. -/
  | config
  deriving Repr, DecidableEq

/-- A command with what holds for every command. -/
structure Invocation where
  /-- The file of the configuration, which must be there. -/
  configFile : Option String
  format : Format
  command : Command
  deriving Repr, DecidableEq

/-- What arguments ask for. -/
inductive Wish where
  | version
  | run (i : Invocation)
  deriving Repr, DecidableEq

def formats : List (String × Format) := [("text", .text), ("json", .json)]

def operations : List (String × Operation) :=
  [("find", .find), ("find-by-id", .findById), ("count", .count), ("create", .create), ("put", .put),
    ("patch", .patch), ("delete", .delete)]

/-- The options of every command. -/
def commonShapes : List (String × Shape) :=
  [("config", .path), ("log-level", .text), ("format", .choice (formats.map Prod.fst))]

/-- The options of each command. -/
def commandShapes : List (String × List (String × Shape)) :=
  [("ddl", [("schema", .path)]),
    ("explain", [("schema", .path), ("entity", .text), ("op", .choice (operations.map Prod.fst)), ("id", .text),
      ("term", .text), ("elevated", .flag), ("company", .text), ("user", .text), ("params", .text),
      ("cursor", .text), ("take", .text), ("fetch-all", .flag)]),
    ("config", [])]

/-- The command of its options, if those that it needs are there. -/
def commandOf? (name : String) (given : Given) : Option Command :=
  if name = "config" then some .config
  else if name = "ddl" then (given.get? "schema").map .ddl
  else do
    let schema ← given.get? "schema"
    let entity ← given.get? "entity"
    some (.explain {
      schema, entity
      operation := ((given.get? "op").bind (operations.lookup ·)).getD .find
      id := given.get? "id"
      term := given.get? "term"
      elevated := given.contains "elevated"
      company := (given.get? "company").getD "company-1"
      user := (given.get? "user").getD "user-1"
      params := given.get? "params"
      cursor := given.get? "cursor"
      take := given.get? "take"
      fetchAll := given.contains "fetch-all" })

/-- Whether the environment's name for the configuration fits. An empty one never does; it goes unseen only where
arguments name the file both before and after the command's name. -/
def namedFits (named : Option String) (outer inner : Given) : Bool :=
  named != some "" || (outer.contains "config" && inner.contains "config")

/-- The invocation of options, given before and after the command's name. -/
def invocation? (named : Option String) (outer inner : Given) (name : String) : Option Invocation := do
  if !namedFits named outer inner then none
  let given := outer.overlay inner
  let command ← commandOf? name inner
  some ⟨(given.get? "config").or named, ((given.get? "format").bind (formats.lookup ·)).getD .text, command⟩

/-- What the arguments ask for, none if they do not fit. `named` is the file of the configuration that the
environment names. -/
def wish? (named : Option String) (args : List String) : Option Wish :=
  match Level.read ⟨commonShapes, commandShapes.map Prod.fst⟩ ∅ args with
  | .version => some .version
  | .command outer name rest =>
    match Level.read ⟨commonShapes ++ (commandShapes.lookup name).getD [], []⟩ ∅ rest with
    | .finished inner => (invocation? named outer inner name).map .run
    | _ => none
  | _ => none

end EntityGraph.Cli
