import EntityGraph.Files
import EntityGraph.Schema.Codec
import EntityGraph.Schema.Registry
import EntityGraph.Toml.Parser

/-!
# Schema files

A schema file is a TOML document with a list of descriptors under `entities`; no list is an empty one.
-/
namespace EntityGraph.Schema

/-- The descriptors of a schema file. -/
def descriptors? (text : String) : Option (List Descriptor) := do
  let members ← Toml.parse? text
  Json.Decode.memberD (Toml.membersToJson members) "entities" [] (Json.Decode.list (Descriptor.read Toml.format))

/-- The registry of a schema file at a path. -/
def Registry.ofFile (path text : String) : Result Registry :=
  match descriptors? text with
  | some ds => ofList ds
  | none => .error (.config (.unparsable path))

/-- The registry of the schema file at a path, which must be there. -/
def Registry.load {m : Type → Type} [Monad m] (files : Files m) (path : String) : m (Result Registry) := do
  match ← files.read? path with
  | some text => return ofFile path text
  | none => return .error (.config (.unreadable path))

end EntityGraph.Schema
