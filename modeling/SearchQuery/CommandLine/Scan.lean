/-
  Telling options and operands apart.

  Options begin with a dash; one dash alone is an operand, and two dashes alone end the options.  A
  long option may have its value behind an equals sign.  Short options may stand together behind one
  dash; the first of them that takes a value takes what is left, or else the next argument, whatever
  that looks like.  Where options and operands may not be mixed, the first operand ends the options.
-/
import SearchQuery.CommandLine.Usage

namespace SearchQuery.CommandLine

/-- The names of the options of a command, with whether they take a value. -/
abbrev OptionTable := List (Text × Bool)

/-- An option as it was given, with its value. -/
structure Given where
  name : Text
  value : Option Text := none
  deriving DecidableEq, Repr

/-- Options that stand together in one argument, and the one that takes the next argument. -/
abbrev Cluster := List Given × Option Text

/-- The short options that stand together behind a dash. -/
def shortOptions (table : OptionTable) : Text → Except UsageFault Cluster
  | [] => .ok ([], none)
  | c :: rest =>
    let name := ['-', c]
    match table.lookup name with
    | none => .error (.noSuchOption name [])
    | some false => do
      let (more, pending) ← shortOptions table rest
      return (⟨name, none⟩ :: more, pending)
    | some true => if rest.isEmpty then .ok ([], some name) else .ok ([⟨name, some rest⟩], none)

/-- The long names of the options of a command. -/
def longNames (table : OptionTable) : List Text :=
  (table.map Prod.fst).filter fun name => ['-', '-'].isPrefixOf name

/-- The options in an argument that begins with a dash. -/
def options (table : OptionTable) (arg : Text) : Except UsageFault Cluster :=
  let (name, value) := match Text.cut ['='] arg with
    | some (name, value) => (name, some value)
    | none => (arg, none)
  match arg with
  | '-' :: '-' :: _ =>
    match table.lookup name with
    | none => .error (.noSuchOption name (suggestions (longNames table) name))
    | some true =>
      match value with
      | some v => .ok ([⟨name, some v⟩], none)
      | none => .ok ([], some name)
    | some false => if value.isSome then .error (.takesNoValue name) else .ok ([⟨name, none⟩], none)
  | _ => shortOptions table (arg.drop 1)

/-- Whether an argument is read as options. -/
def isOption (arg : Text) : Bool := arg.head? = some '-' && 1 < arg.length

/-- The options and the operands among arguments. -/
def scan (table : OptionTable) (mixed : Bool) : List Text → Except UsageFault (List Given × List Text)
  | [] => .ok ([], [])
  | arg :: args =>
    if arg = ['-', '-'] then .ok ([], args)
    else if isOption arg then do
      match ← options table arg with
      | (given, none) =>
        let (more, operands) ← scan table mixed args
        return (given ++ more, operands)
      | (given, some name) =>
        match args with
        | [] => throw (.needsValue name)
        | value :: args =>
          let (more, operands) ← scan table mixed args
          return (given ++ ⟨name, some value⟩ :: more, operands)
    else if mixed then do
      let (given, operands) ← scan table mixed args
      return (given, arg :: operands)
    else .ok ([], arg :: args)

end SearchQuery.CommandLine
