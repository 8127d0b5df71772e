import EntityGraph.Config.Reading
import EntityGraph.Files

/-!
# Loading configurations

A file that was asked for must be there; one that is only usual may be missing.
-/
namespace EntityGraph.Config

variable {m : Type → Type} [Monad m] (files : Files m)

/-- The configuration in a file. -/
def loadFile (path : String) : m (Except ConfigError Config) := do
  match ← files.read? path with
  | some text => return ofToml path text
  | none => return .error (.unreadable path)

/-- The configuration in a file if it is there, the default one otherwise. -/
def loadUsual (path : Option String) : m (Except ConfigError Config) := do
  match path with
  | none => return .ok default
  | some path => if ← files.exists? path then loadFile files path else return .ok default

end EntityGraph.Config
