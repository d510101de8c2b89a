/-
  The environment as a source of configuration.

  Five variables describe the default modifier.  A name is taken in lower case and without blanks
  around it, and an empty one counts as not set; a truth value is one of a few words; a fuzziness is
  a number, or one of the words for none.  They are looked at in a fixed order, and the first one
  that cannot be understood is the fault.
-/
import SearchQuery.Config.Document
import SearchQuery.Config.Error
import SearchQuery.Double.Numeral
import SearchQuery.Text.Blank
import SearchQuery.Text.Lowercase

namespace SearchQuery

/-- Names and values of variables. -/
abbrev Environment := List (Text × Text)

namespace Environment

/-- The value of a variable. -/
def get? (env : Environment) (name : Text) : Option Text := env.lookup name

/-- A value without the blanks around it, in lower case. -/
def word (raw : Text) : Text := Text.lower (Text.strip raw)

/-- The truth value that a word stands for. -/
def flag? (raw : Text) : Option Bool :=
  if ["1".toList, "true".toList, "yes".toList, "on".toList].contains (word raw) then some true
  else if ["0".toList, "false".toList, "no".toList, "off".toList, []].contains (word raw) then
    some false
  else none

/-- The fuzziness that a value stands for, or that there is none. -/
def fuzziness? (raw : Text) : Option Document :=
  if [[], "none".toList, "off".toList].contains (word raw) then some .null
  else (Numeral.double? raw).map fun x => .scalar (.number (.double x))

/-- The variable that sets the occurrence. -/
def occurrenceVariable : Text := "LUCENEQUERY_TERM_MODIFIER"

/-- The variable that sets the fuzziness. -/
def fuzzinessVariable : Text := "LUCENEQUERY_FUZZINESS"

/-- The fields that hold truth values, each with its variable. -/
def flagVariables : List (Text × Text) :=
  [("split".toList, "LUCENEQUERY_SPLIT".toList),
   ("disjunct".toList, "LUCENEQUERY_DISJUNCT".toList),
   ("wildcarded".toList, "LUCENEQUERY_WILDCARDED".toList)]

/-- The occurrence that the environment sets. -/
def occurrenceField (env : Environment) : Configuration :=
  match env.get? occurrenceVariable with
  | none | some [] => []
  | some raw => [(.text "term_modifier", .text (word raw))]

/-- A truth value that the environment sets. -/
def flagField (env : Environment) (field name : Text) : Except ConfigError Configuration :=
  match env.get? name with
  | none => .ok []
  | some raw =>
    match flag? raw with
    | some b => .ok [(.text field, .flag b)]
    | none => .error (.environmentFlag field raw)

/-- The fuzziness that the environment sets. -/
def fuzzinessField (env : Environment) : Except ConfigError Configuration :=
  match env.get? fuzzinessVariable with
  | none => .ok []
  | some raw =>
    match fuzziness? raw with
    | some d => .ok [(.text "fuzziness", d)]
    | none => .error (.environmentFuzziness raw)

/-- What the environment says of the default modifier. -/
def overrides (env : Environment) : Except ConfigError Configuration := do
  let flags ← flagVariables.mapM fun (field, name) => flagField env field name
  let fuzziness ← fuzzinessField env
  match occurrenceField env ++ flags.flatten ++ fuzziness with
  | [] => return []
  | fields => return [(.text "modifier", .mapping fields)]

end Environment
end SearchQuery
