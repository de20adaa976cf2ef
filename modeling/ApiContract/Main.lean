import ApiContract.Command.Run

/-
The program: reads the files and variables that a command line is about, and prints the report.
-/

set_option autoImplicit false

namespace ApiContract

/-- The contents of a file, if it can be read. -/
def readFile? (path : String) : IO (Option ByteArray) := do
  try
    return some (← IO.FS.readBinFile path)
  catch _ => return none

/-- A view of the files with the given paths. -/
def readFiles (paths : List String) : IO Files := do
  let contents ← paths.mapM fun path => do return (path, ← readFile? path)
  return fun path => (contents.lookup path).join

/-- The variables that settings are made of. -/
def readEnvironment : IO Environment := do
  let names := ["OARV_PATH_PREFIX", "OARV_API_VERSION", "OARV_PATH_BINDING"]
  let found ← names.mapM fun name => do return (name, ← IO.getEnv name)
  return fun name => (found.lookup name).join

/-- The advice for a command line that is not carried out. -/
def usage : String := "usage: oarv (check | lint | routes) --spec FILE [OPTIONS]\n"

/-- Carries out a command line. -/
def runArguments (arguments : List String) : IO UInt32 := do
  match Command.ofArguments arguments with
  | .error .version =>
    (← IO.getStdout).putStr versionLine
    return 0
  | .error e =>
    (← IO.getStderr).putStr usage
    return e.status.toUInt32
  | .ok command =>
    match command.run (← readFiles command.paths) (← readEnvironment) with
    | .ok report =>
      (← IO.getStdout).putStr report.output
      return report.status.toUInt32
    | .error e =>
      (← IO.getStderr).putStr (e.message ++ "\n")
      return 2

end ApiContract

def main (arguments : List String) : IO UInt32 := ApiContract.runArguments arguments
