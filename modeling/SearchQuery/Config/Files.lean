/-
  Files: what can be found at a path.

  Reading configuration needs to know of a path only what lies there.  `Files` says so for every
  path; `Files.ofList` is the case of a working directory with a few files in it.
-/
import SearchQuery.Config.Error
import SearchQuery.Config.Path

namespace SearchQuery

/-- For every path, the text of the file there or why there is none. -/
abbrev Files := FilePath → Except FileFault Text

namespace Files

/-- Whether something lies at a path. -/
def exist (fs : Files) (p : FilePath) : Except ConfigError Bool :=
  if p.text.contains '\x00' then .ok false
  else match fs p with
    | .ok _ | .error .directory => .ok true
    | .error .tooLong => .error (.breakdown (.unreachable p.text .tooLong))
    | .error _ => .ok false

/-- The text of the file at a path. -/
def read (fs : Files) (p : FilePath) : Except ConfigError Text :=
  if p.text.contains '\x00' then .error .nullCharacter
  else match fs p with
    | .ok t => .ok t
    | .error f => .error (.unreadable p.text f)

/-! ## A working directory -/

/-- The files of a working directory, each with the names that lead to it. -/
abbrev Listing := List (List Text × Text)

/-- The number of bytes of a text. -/
def byteCount (t : Text) : Nat := t.foldl (fun n c => n + c.utf8Size) 0

/-- What lies where the names lead, from a directory; the names that lead to that directory come
    innermost first. -/
def find (files : Listing) : List Text → List Text → Except FileFault Text
  | _, [] => .error .directory
  | here, name :: names =>
    if name = ['.', '.'] then find files here.tail names
    else if 255 < byteCount name then .error .tooLong
    else
      match files.lookup (name :: here).reverse with
      | some content => if names.isEmpty then .ok content else .error .notDirectory
      | none =>
        if files.any fun (f, _) => (name :: here).reverse.isPrefixOf f then
          find files (name :: here) names
        else .error .missing

/-- The files of a working directory; nothing outside of it is known. -/
def ofList (files : List (Text × Text)) : Files := fun p =>
  if 4095 < byteCount p.text then .error .tooLong
  else if p.root.isEmpty then
    find (files.map fun (name, content) => ((FilePath.ofText name).names, content)) [] p.names
  else match p.names with
    | [] => .error .directory
    | name :: _ => .error (if 255 < byteCount name then .tooLong else .missing)

example : ofList [("a/b".toList, "x".toList)] (.ofText "a/../a/b") = .ok "x".toList := by rfl
example : ofList [("a/b".toList, "x".toList)] (.ofText "a/b/c") = .error .notDirectory := by rfl

end Files
end SearchQuery
