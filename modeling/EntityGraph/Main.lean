import EntityGraph.Cli.Run

/-!
# The command line

Runs the arguments on the files of the disk.
-/
namespace EntityGraph.Cli

/-- The files of the disk. -/
def disk : Files IO where
  exists? path := do
    try
      let _ ← IO.FS.realPath path
      return true
    catch _ => return false
  read? path := do
    try
      return some (← IO.FS.readFile path)
    catch _ => return none

/-- The environment of the process. -/
def environment : IO Environment := do
  return ⟨← IO.getEnv "PENUMBRA_CONFIG", ← IO.getEnv "XDG_CONFIG_HOME", ← IO.getEnv "HOME"⟩

end EntityGraph.Cli

open EntityGraph.Cli in
def main (args : List String) : IO UInt32 := do
  let outcome ← run disk (← environment) args
  (← IO.getStdout).putStr outcome.stdout
  (← IO.getStderr).putStr outcome.stderr
  return outcome.code.toUInt32
