/-
  Loading the configuration.

  The sources are the files at the usual places as far as they exist, a file that is asked for, and
  the environment; each overrides what those before it made, and a file is only looked for when those
  before it are read.  A file that is empty, or holds nothing, adds nothing.  A file has to hold a
  mapping otherwise.
-/
import SearchQuery.Config.Files
import SearchQuery.Config.Merge
import SearchQuery.Config.ModifierSection
import SearchQuery.Yaml.Read

namespace SearchQuery

namespace Document

/-- The name of the kind of a document, where a mapping is expected. -/
def kind : Document → Text
  | .scalar (.date _) => "datetime.date"
  | .scalar (.moment _) => "datetime.datetime"
  | .scalar s => s.kind
  | .sequence _ => "list"
  | .set _ => "set"
  | .mapping _ => "dict"

/-- The entries of a document that holds a mapping or nothing. -/
def entries (d : Document) : Except ConfigError Configuration :=
  if !d.truthy then .ok []
  else match d with
    | .mapping es => .ok es
    | d => .error (.breakdown (.notMapping d.kind))

end Document

namespace Configuration

/-- What a file says. -/
def ofFile (files : Files) (p : FilePath) : Except ConfigError Configuration := do
  (← Yaml.read p.text (← files.read p)).entries

/-- A configuration overridden by what a file says. -/
def withFile (files : Files) (c : Configuration) (p : FilePath) :
    Except ConfigError Configuration := do
  return mergeAll [c, ← ofFile files p]

/-- A configuration overridden by what the file at one of the usual places says, if there is one. -/
def withCandidate (files : Files) (c : Configuration) (p : FilePath) :
    Except ConfigError Configuration := do
  if ← files.exist p then withFile files c p else return c

/-- The configuration that all sources make together. -/
def load (env : Environment) (files : Files) (asked : Option FilePath) :
    Except ConfigError Configuration := do
  let c ← (← FilePath.candidates env).foldlM (withCandidate files) []
  let c ← asked.toList.foldlM (withFile files) c
  return mergeAll [c, ← env.overrides]

end Configuration
end SearchQuery
