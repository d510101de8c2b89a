/-
  Positions in a YAML text, and what can be wrong there.

  1. **Fault** — something that is no YAML, or no document, at a position.
  2. **Refusal** — why a text is not read: a fault, a value that does not exist, or a breakdown.
-/
import SearchQuery.Config.Error
import SearchQuery.Text.Digit

namespace SearchQuery.Yaml

/-- A line and a column, both counted from zero. -/
structure Mark where
  line : Nat
  column : Nat
  deriving DecidableEq, Repr

/-- What is wrong with a text, where, and, if it is known, in which construct and where that begins. -/
structure Fault where
  context : Option (Text × Mark) := none
  problem : Text
  mark : Mark
  deriving DecidableEq, Repr

/-- A position in a file, as messages show it. -/
def Mark.text (file : Text) (m : Mark) : Text :=
  "  in \"".toList ++ file ++ "\", line ".toList ++ Text.ofNat (m.line + 1) ++ ", column ".toList
    ++ Text.ofNat (m.column + 1)

/-- The text of a fault in a file.  A construct that begins where the fault is has no position of
    its own. -/
def Fault.message (file : Text) (f : Fault) : Text :=
  let context : List Text := match f.context with
    | none => []
    | some (t, m) => if m = f.mark then [t] else [t, m.text file]
  Text.join ['\n'] (context ++ [f.problem, f.mark.text file])

/-- Why a text is not read. -/
inductive Refusal where
  | fault (f : Fault)
  /-- a value that does not exist -/
  | invalid (reason : Text)
  | breakdown (b : Breakdown)
  deriving DecidableEq, Repr

namespace Refusal

/-- A fault at a position. -/
def faultAt (mark : Mark) (problem : Text) : Refusal := .fault ⟨none, problem, mark⟩

/-- A fault at a position in a construct that begins somewhere. -/
def within (context : Text) (start : Mark) (problem : Text) (mark : Mark) : Refusal :=
  .fault ⟨some (context, start), problem, mark⟩

/-- The fault of a configuration file that is not read. -/
def configError (file : Text) : Refusal → ConfigError
  | .fault f => .malformed (f.message file)
  | .invalid reason => .invalid reason
  | .breakdown b => .breakdown b

end Refusal

example : Fault.message "f" ⟨some ("c".toList, ⟨0, 0⟩), "p".toList, ⟨1, 2⟩⟩
    = "c\n  in \"f\", line 1, column 1\np\n  in \"f\", line 2, column 3".toList := by decide

end SearchQuery.Yaml
