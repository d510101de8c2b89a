/-
  The command line program.

  Everything is decided by `CommandLine.run`; here its arguments, the variables of the environment and
  the files that it may ask for are collected, and what it puts out is put out.
-/
import SearchQuery.CommandLine.Run

namespace SearchQuery.CommandLine

/-- The variables of the environment that the program looks at. -/
def variableNames : List String :=
  ["HOME", "XDG_CONFIG_HOME", "LUCENEQUERY_TERM_MODIFIER", "LUCENEQUERY_SPLIT",
    "LUCENEQUERY_DISJUNCT", "LUCENEQUERY_WILDCARDED", "LUCENEQUERY_FUZZINESS"]

/-- The variables of the environment that are set. -/
def readEnvironment : IO Environment := do
  let pairs ← variableNames.mapM fun name => do
    return (← IO.getEnv name).map fun value => (name.toList, value.toList)
  return pairs.filterMap id

/-- What lies at a path. -/
def readPath (p : FilePath) : IO (Except FileFault Text) := do
  try
    return .ok (← IO.FS.readFile (String.ofList p.text)).toList
  catch
    | .inappropriateType _ 21 _ => return .error .directory
    | .inappropriateType _ _ _ => return .error .notDirectory
    | _ => return .error .missing

/-- The files that the program may ask for. -/
def readFiles (paths : List FilePath) : IO Files := do
  let found ← paths.mapM fun p => do return (p, ← readPath p)
  return fun p => (found.lookup p).getD (.error .missing)

end SearchQuery.CommandLine

open SearchQuery CommandLine

/-- Runs the program. -/
def main (args : List String) : IO UInt32 := do
  let args := args.map String.toList
  let env ← readEnvironment
  let candidates := (FilePath.candidates env).toOption.getD []
  let files ← readFiles (candidates ++ askedFiles args)
  let outcome := run env files args
  for t in outcome.told do IO.eprintln (String.ofList t)
  IO.print (String.ofList outcome.output)
  if let some e := outcome.escaped then IO.eprintln (String.ofList e.message)
  return UInt32.ofNat outcome.code
