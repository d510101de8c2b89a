/-
  What can be wrong with how the program is called, and how each fault is told.
-/
import SearchQuery.CommandLine.Operand
import SearchQuery.CommandLine.Suggestion

namespace SearchQuery.CommandLine

/-- A fault of the arguments that the program is called with. -/
inductive UsageFault where
  /-- an option that does not exist, with the names that may have been meant -/
  | noSuchOption (name : Text) (meant : List Text)
  /-- an option whose value is missing -/
  | needsValue (name : Text)
  /-- an option that is given a value but takes none -/
  | takesNoValue (name : Text)
  | missingArgument (name : Text)
  | extraArguments (args : List Text)
  | missingCommand
  /-- a command that does not exist, with the names that may have been meant -/
  | noSuchCommand (name : Text) (meant : List Text)
  | notNumber (option raw : Text)
  /-- a configuration file that does not exist -/
  | noSuchPath (raw : Text)
  /-- an option whose value says nothing that it can mean -/
  | operand (option : Text) (f : OperandFault)
  | exclusive
  | nothingToSearch
  deriving DecidableEq, Repr

/-- The text of a fault. -/
def UsageFault.message : UsageFault → Text
  | .noSuchOption name meant =>
    "No such option ".toList ++ Text.quoted name ++ ['.'] ++ suggestionText meant
  | .needsValue name => "Option ".toList ++ Text.quoted name ++ " requires an argument.".toList
  | .takesNoValue name => "Option ".toList ++ Text.quoted name ++ " does not take a value.".toList
  | .missingArgument name => "Missing argument ".toList ++ Text.quoted name ++ ['.']
  | .extraArguments args =>
    (if args.length = 1 then "Got unexpected extra argument (" else "Got unexpected extra arguments (")
      ++ Text.join [' '] args ++ [')']
  | .missingCommand => "Missing command."
  | .noSuchCommand name meant =>
    "No such command ".toList ++ Text.quoted name ++ ['.'] ++ suggestionText meant
  | .notNumber option raw =>
    "Invalid value for ".toList ++ Text.quoted option ++ ": ".toList ++ Text.quoted raw
      ++ " is not a valid float.".toList
  | .noSuchPath raw =>
    "Invalid value for '--config' / '-c': Path ".toList ++ Text.quoted raw
      ++ " does not exist.".toList
  | .operand option f => "Invalid value for ".toList ++ option ++ ": ".toList ++ f.message
  | .exclusive => "--keep-blanks and --strip are mutually exclusive"
  | .nothingToSearch => "Nothing to search for: give terms, --field or --range"

end SearchQuery.CommandLine
