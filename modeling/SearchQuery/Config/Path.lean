/-
  Paths of files.

  A path is the slashes in front and the names between the slashes.  Names that are empty or a
  single dot say nothing and are dropped; two dots are kept, as where they lead depends on the files.
  A path of nothing is written as a single dot.
-/
import SearchQuery.Config.Environment

namespace SearchQuery

/-- A path of a file. -/
structure FilePath where
  root : Text := []
  names : List Text := []
  deriving DecidableEq, Repr

namespace FilePath

/-- The path that a text stands for.  Exactly two slashes in front are kept, any other number of
    them counts as one. -/
def ofText (t : Text) : FilePath :=
  let slashes := (t.takeWhile (· == '/')).length
  { root := if slashes = 0 then [] else if slashes = 2 then ['/', '/'] else ['/']
    names := (Text.pieces '/' t).filter fun n => !n.isEmpty && n != ['.'] }

/-- A path as it is written. -/
def text (p : FilePath) : Text :=
  match p.root ++ Text.join ['/'] p.names with
  | [] => ['.']
  | t => t

/-- A path with a relative path behind it. -/
def join (p q : FilePath) : FilePath := { p with names := p.names ++ q.names }

/-! ## Where configuration is looked for -/

/-- The home directory.  One that begins with a tilde says of no directory where it is. -/
def home (env : Environment) : Except ConfigError FilePath :=
  let t := (env.get? "HOME").getD []
  let t := (t.reverse.dropWhile (· == '/')).reverse
  if t.head? = some '~' then .error (.breakdown .noHome)
  else .ok (ofText (if t.isEmpty then ['/'] else t))

/-- The directory for configuration files.  The home directory has to be known in any case. -/
def configHome (env : Environment) : Except ConfigError FilePath := do
  let h ← home env
  match env.get? "XDG_CONFIG_HOME" with
  | some t => return ofText t
  | none => return h.join (ofText ".config")

/-- The places where configuration is looked for, in the order in which it is merged. -/
def candidates (env : Environment) : Except ConfigError (List FilePath) := do
  return [(← configHome env).join (ofText "lucenequery/config.yaml"),
    ofText ".lucenequery.yaml",
    ofText "lucenequery.yaml"]

example : (ofText "a//./b/../c/").text = "a/b/../c".toList := by decide
example : (ofText "///a").text = "/a".toList ∧ (ofText "//a").text = "//a".toList := by decide
example : (candidates [("XDG_CONFIG_HOME".toList, [])]).map (List.map text)
    = .ok ["lucenequery/config.yaml".toList, ".lucenequery.yaml".toList, "lucenequery.yaml".toList] := by
  rfl

end FilePath
end SearchQuery
