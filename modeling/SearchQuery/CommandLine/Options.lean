/-
  What the options of each command mean.

  A later option overrides an earlier one for the same thing, except where values are collected.
  Values that have to be numbers are read in the order in which the options were first given, so the
  first of them that cannot be read is the fault.
-/
import SearchQuery.CommandLine.Scan
import SearchQuery.Modifier.Basic

namespace SearchQuery.CommandLine

/-! ## Options of the program -/

/-- What the program may be asked for in place of a command. -/
inductive Inquiry where
  | version
  | help
  deriving DecidableEq, Repr

/-- The options in front of the command. -/
structure GlobalOptions where
  verbose : Bool := false
  quiet : Bool := false
  debug : Bool := false
  config : Option Text := none
  inquiry : Option Inquiry := none
  deriving DecidableEq, Repr

namespace GlobalOptions

/-- The names of the options in front of the command. -/
def table : OptionTable :=
  [("--verbose".toList, false), ("-v".toList, false), ("--quiet".toList, false),
   ("-q".toList, false), ("--no-color".toList, false), ("--debug".toList, false),
   ("--config".toList, true), ("-c".toList, true), ("--version".toList, false),
   ("--help".toList, false)]

/-- The options with one more option given. -/
def add (o : GlobalOptions) (g : Given) : GlobalOptions :=
  if g.name = "--verbose".toList || g.name = "-v".toList then { o with verbose := true }
  else if g.name = "--quiet".toList || g.name = "-q".toList then { o with quiet := true }
  else if g.name = "--debug".toList then { o with debug := true }
  else if g.name = "--config".toList || g.name = "-c".toList then { o with config := g.value }
  else if g.name = "--version".toList then { o with inquiry := o.inquiry.or (some .version) }
  else if g.name = "--help".toList then { o with inquiry := o.inquiry.or (some .help) }
  else o

/-- The options in front of the command, and the arguments from the command on. -/
def read (args : List Text) : Except UsageFault (GlobalOptions × List Text) := do
  let (given, rest) ← scan table false args
  return (given.foldl add {}, rest)

end GlobalOptions

/-! ## Building a query -/

/-- What is asked for when a query is built. -/
structure BuildOptions where
  terms : List Text := []
  fields : List Text := []
  ranges : List Text := []
  occurrence : Option Occurrence := none
  wildcarded : Option Bool := none
  split : Option Bool := none
  disjunct : Option Bool := none
  fuzziness : Option Double := none
  boost : Option Double := none
  raw : Bool := false
  help : Bool := false
  deriving Repr

namespace BuildOptions

/-- The names of the options for building a query. -/
def table : OptionTable :=
  [("--field".toList, true), ("-f".toList, true), ("--range".toList, true), ("-r".toList, true),
   ("--required".toList, false), ("--prohibited".toList, false), ("--wildcard".toList, false),
   ("--no-wildcard".toList, false), ("--split".toList, false), ("--no-split".toList, false),
   ("--disjunct".toList, false), ("--conjunct".toList, false), ("--fuzzy".toList, true),
   ("--boost".toList, true), ("--raw".toList, false), ("--help".toList, false)]

/-- The options with one more option given; those that hold numbers are left out. -/
def add (o : BuildOptions) (g : Given) : BuildOptions :=
  let value := g.value.getD []
  if g.name = "--field".toList || g.name = "-f".toList then { o with fields := o.fields ++ [value] }
  else if g.name = "--range".toList || g.name = "-r".toList then
    { o with ranges := o.ranges ++ [value] }
  else if g.name = "--required".toList then { o with occurrence := some .required }
  else if g.name = "--prohibited".toList then { o with occurrence := some .prohibited }
  else if g.name = "--wildcard".toList then { o with wildcarded := some true }
  else if g.name = "--no-wildcard".toList then { o with wildcarded := some false }
  else if g.name = "--split".toList then { o with split := some true }
  else if g.name = "--no-split".toList then { o with split := some false }
  else if g.name = "--disjunct".toList then { o with disjunct := some true }
  else if g.name = "--conjunct".toList then { o with disjunct := some false }
  else if g.name = "--raw".toList then { o with raw := true }
  else if g.name = "--help".toList then { o with help := true }
  else o

/-- The number that an option is given, which is the last one that it is given. -/
def number (given : List Given) (name : Text) : Except UsageFault (Option Double) :=
  match (given.filter (·.name = name)).getLast? with
  | none => .ok none
  | some g =>
    let raw := g.value.getD []
    match Numeral.double? raw with
    | some x => .ok (some x)
    | none => .error (.notNumber name raw)

/-- Whether the first of two options was given before the second. -/
def comesFirst (given : List Given) (first second : Text) : Bool :=
  (given.find? fun g => g.name = first || g.name = second).any (·.name = first)

/-- The options that hold numbers: the fuzziness and the boost. -/
def numbers (given : List Given) : Except UsageFault (Option Double × Option Double) := do
  if comesFirst given "--boost" "--fuzzy" then
    let b ← number given "--boost"
    let f ← number given "--fuzzy"
    return (f, b)
  else
    let f ← number given "--fuzzy"
    let b ← number given "--boost"
    return (f, b)

/-- What is asked for when a query is built. -/
def read (args : List Text) : Except UsageFault BuildOptions := do
  let (given, terms) ← scan table true args
  let o := given.foldl add { terms := terms }
  if o.help then return o
  let (fuzziness, boost) ← numbers given
  return { o with fuzziness, boost }

end BuildOptions

/-! ## Escaping a text -/

/-- What is asked for when a text is escaped. -/
structure EscapeOptions where
  text : Text := []
  keepBlanks : Bool := false
  strip : Bool := false
  help : Bool := false
  deriving DecidableEq, Repr

namespace EscapeOptions

/-- The names of the options for escaping a text. -/
def table : OptionTable :=
  [("--keep-blanks".toList, false), ("--strip".toList, false), ("--help".toList, false)]

/-- The options with one more option given. -/
def add (o : EscapeOptions) (g : Given) : EscapeOptions :=
  if g.name = "--keep-blanks".toList then { o with keepBlanks := true }
  else if g.name = "--strip".toList then { o with strip := true }
  else if g.name = "--help".toList then { o with help := true }
  else o

/-- What is asked for when a text is escaped. -/
def read (args : List Text) : Except UsageFault EscapeOptions := do
  let (given, operands) ← scan table true args
  let o := given.foldl add {}
  if o.help then return o
  match operands with
  | [] => throw (.missingArgument "TEXT")
  | [text] => return { o with text }
  | _ :: more => throw (.extraArguments more)

end EscapeOptions
end SearchQuery.CommandLine
