/-
  The section of a configuration that describes the default modifier.

  A section that is missing or empty describes the standard modifier.  Otherwise it is a mapping of
  field names: its entries are looked at in order, the first one that is wrong is the fault, and only
  then is the fuzziness compared with its limits.  A field that is left out keeps its standard value.
-/
import SearchQuery.Config.Document
import SearchQuery.Config.Error
import SearchQuery.Modifier.Basic

namespace SearchQuery

namespace Document

/-- The name of the kind of a document, where a value of some kind is expected. -/
def dataKind : Document → Text
  | .scalar .null => "null"
  | .scalar s => s.kind
  | .sequence _ | .set _ => "array"
  | .mapping _ => "object"

end Document

namespace ModifierSection

/-- A truth value in a field. -/
def flag (field : Text) : Document → Except SectionFault Bool
  | .scalar (.number (.flag b)) => .ok b
  | d => .error (.wrongKind "bool" d.dataKind field)

/-- An occurrence in a field. -/
def occurrence (field : Text) : Document → Except SectionFault Occurrence
  | .scalar (.text t) =>
    match Occurrence.ofName? t with
    | some o => .ok o
    | none => .error (.unknownName t field)
  | d => .error (.wrongKind "str" d.dataKind field)

/-- A fuzziness in a field.  An integer has to be in the range of double precision. -/
def fuzziness (field : Text) : Document → Except SectionFault (Option Number)
  | .scalar .null => .ok none
  | .scalar (.number (.int n)) =>
    match Double.ofInt n with
    | .infinity _ => .error (.outOfRange field)
    | x => .ok (some (.double x))
  | .scalar (.number (.double x)) => .ok (some (.double x))
  | .scalar .undefined => .ok (some (.double .nan))
  | d => .error (.wrongKind "float | null" d.dataKind field)

/-- A modifier with one field set by an entry of the section. -/
def setField (m : Modifier) (entry : Scalar × Document) : Except SectionFault Modifier :=
  match entry.1 with
  | .text name =>
    if name = "term_modifier".toList then do
      return { m with occurrence := ← occurrence name entry.2 }
    else if name = "split".toList then do return { m with split := ← flag name entry.2 }
    else if name = "disjunct".toList then do return { m with disjunct := ← flag name entry.2 }
    else if name = "wildcarded".toList then do return { m with wildcarded := ← flag name entry.2 }
    else if name = "fuzziness".toList then do
      return { m with fuzziness := ← fuzziness name entry.2 }
    else .error (.unknownField name)
  | _ => .error .keyNotText

/-- The modifier that the entries of a section describe. -/
def read (entries : Configuration) : Except SectionFault Modifier := do
  let m ← entries.foldlM setField {}
  match m.checked with
  | .ok m => return m
  | .error e => throw (.invalid e)

end ModifierSection

namespace Configuration

/-- The section that describes the default modifier, if there is anything in it. -/
def modifierSection? (c : Configuration) : Option Document :=
  (Entries.get? (.text "modifier") c).filter Document.truthy

/-- The default modifier that a configuration describes. -/
def modifier (c : Configuration) : Except ConfigError Modifier :=
  match c.modifierSection? with
  | none => .ok {}
  | some (.mapping entries) => (ModifierSection.read entries).mapError .modifierSection
  | some _ => .error .sectionNotMapping

end Configuration
end SearchQuery
