/-
  The program as a whole: from arguments, environment and files to what is put out.

  1. The options in front of the command are read first, then the command is looked up, then the
     configuration is loaded, and only then the options of the command are read.
  2. A fault of the arguments ends with the code 2; a fault of the configuration or of the query ends
     with the code 1, the former told on the error output, the latter on the output.  When debugging,
     the last two are handed on to whoever runs the program, as are at any time a configuration that
     cannot be looked at, and a path with a null character in it.
-/
import SearchQuery.CommandLine.Build
import SearchQuery.CommandLine.Console
import SearchQuery.Config.Load
import SearchQuery.Text.Escape

namespace SearchQuery.CommandLine

/-- A fault that is handed on. -/
inductive Escaped where
  | query (e : QueryError)
  | config (e : ConfigError)
  deriving DecidableEq, Repr

/-- The text of a fault that is handed on. -/
def Escaped.message : Escaped → Text
  | .query e => e.message
  | .config e => e.message

/-- What a run of the program puts out, and how it ends. -/
structure Outcome where
  code : Nat := 0
  output : Text := []
  /-- what is told on the error output, piece by piece -/
  told : List Text := []
  escaped : Option Escaped := none
  deriving DecidableEq, Repr

namespace Outcome

/-- A run that ends with a fault of the arguments. -/
def usage (f : UsageFault) : Outcome :=
  { code := 2, told := [withoutSequences ("Error: ".toList ++ f.message)] }

/-- A run that ends with something put out. -/
def put (t : Text) : Outcome := { output := t }

/-- A run that ends with a fault handed on. -/
def escape (e : Escaped) : Outcome := { code := 1, escaped := some e }

/-- A run before which something was told. -/
def after (o : Outcome) (told : List Text) : Outcome := { o with told := told ++ o.told }

end Outcome

/-- How the program is used. -/
def help : Text :=
  "Usage: lucenequery [OPTIONS] COMMAND [ARGS]...\n\nCommands:\n  build   Build a query.\n  escape  Escape a text.\n"

/-- The commands. -/
inductive Command where
  | build
  | escape
  deriving DecidableEq, Repr

/-- The commands by their names. -/
def Command.table : List (Text × Command) :=
  [("build".toList, .build), ("escape".toList, .escape)]

/-- The command with a name. -/
def Command.ofName? (name : Text) : Option Command := table.lookup name

/-- The names of the commands that may have been meant by a word. -/
def Command.suggestions (word : Text) : List Text :=
  CommandLine.suggestions (table.map Prod.fst) word

/-- A message that is told when the program is asked to tell what it does. -/
def tell (o : GlobalOptions) (t : Text) : List Text :=
  if o.quiet || !(o.verbose || o.debug) then [] else ["DEBUG: ".toList ++ t]

/-- Builds a query. -/
def runBuild (o : GlobalOptions) (m : Modifier) (args : List Text) : Outcome :=
  match BuildOptions.read args with
  | .error f => .usage f
  | .ok options =>
    if options.help then .put help
    else
      let (r, notes) := build m options
      let outcome : Outcome := match r with
        | .ok t => .put (if options.raw then plain t else laidOut t)
        | .error (.usage f) => .usage f
        | .error (.query e) =>
          if o.debug then .escape (.query e)
          else { code := 1, output := laidOut ("Error: ".toList ++ e.message) }
      outcome.after (notes.flatMap fun n => tell o n.message)

/-- Escapes a text. -/
def runEscape (args : List Text) : Outcome :=
  match EscapeOptions.read args with
  | .error f => .usage f
  | .ok options =>
    if options.help then .put help
    else if options.keepBlanks && options.strip then .usage .exclusive
    else
      let escaping : Text.Escaping :=
        if options.strip then .stripSpecials else if options.keepBlanks then .keepBlanks else .all
      .put (plain (escaping.apply (some options.text)))

/-- Runs a command with the configured modifier. -/
def runCommand (o : GlobalOptions) (m : Modifier) (args : List Text) : Command → Outcome
  | .build => runBuild o m args
  | .escape => runEscape args

/-- The configured default modifier. -/
def configured (env : Environment) (files : Files) (o : GlobalOptions) :
    Except ConfigError Modifier := do
  (← Configuration.load env files (o.config.map FilePath.ofText)).modifier

/-- A run that ends with a fault of the configuration. -/
def refused (o : GlobalOptions) (e : ConfigError) : Outcome :=
  if o.debug || !e.isValueFault then .escape (.config e)
  else
    { code := 1, told := [withoutSequences ("Error loading configuration: ".toList ++ e.message)] }

/-- Whether something lies where a path leads; a slash behind its last name asks for a directory. -/
def pathExists (files : Files) (raw : Text) : Bool :=
  match files (.ofText raw) with
  | .error .directory => !raw.isEmpty
  | .ok _ => raw.getLast? != some '/' && !(['/', '.'].isSuffixOf raw)
  | .error _ => false

/-- The options in front of the command, checked, and the arguments from the command on; or how the
    run ends if it ends here. -/
def globalOptions (files : Files) (args : List Text) : Except Outcome (GlobalOptions × List Text) := do
  match GlobalOptions.read args with
  | .error f => throw (.usage f)
  | .ok (o, rest) =>
    match o.inquiry with
    | some .version => throw (.put (plain "lucenequery version 1.0.0"))
    | some .help => throw (.put help)
    | none =>
      match o.config with
      | some raw =>
        if raw.contains '\x00' then throw (.escape (.config .nullCharacter))
        else if pathExists files raw then return (o, rest)
        else throw (.usage (.noSuchPath raw))
      | none => return (o, rest)

/-- How a run ends whose command is not known.  A command that looks like an option is read as one
    before. -/
def unknownCommand (files : Files) (name : Text) (args : List Text) : Outcome :=
  match globalOptions files (name :: args) with
  | .error outcome => outcome
  | .ok _ => .usage (.noSuchCommand name (Command.suggestions name))

/-- The configuration file that the arguments ask for. -/
def askedFiles (args : List Text) : List FilePath :=
  match GlobalOptions.read args with
  | .ok (o, _) => (o.config.map FilePath.ofText).toList
  | .error _ => []

/-- Runs the program. -/
def run (env : Environment) (files : Files) (args : List Text) : Outcome :=
  if args.isEmpty then { code := 2, told := [help] }
  else match globalOptions files args with
    | .error outcome => outcome
    | .ok (_, []) => .usage .missingCommand
    | .ok (o, name :: rest) =>
      match Command.ofName? name with
      | none => unknownCommand files name rest
      | some command =>
        match configured env files o with
        | .error e => refused o e
        | .ok m =>
          (runCommand o m rest command).after (tell o ("Default modifier: ".toList ++ m.description))

end SearchQuery.CommandLine
