/-
  What can be wrong with a configuration, and how each fault is told.
-/
import SearchQuery.Query.Error
import SearchQuery.Text.Quoted

namespace SearchQuery

/-- Why a file cannot be read. -/
inductive FileFault where
  | missing
  | notDirectory
  | directory
  /-- the path, or one of its names, is longer than paths and names can be -/
  | tooLong
  deriving DecidableEq, Repr

/-- The text of a fault of a file, with the path that was asked for. -/
def FileFault.message (path : Text) (f : FileFault) : Text :=
  let reason : Text := match f with
    | .missing => "[Errno 2] No such file or directory: "
    | .notDirectory => "[Errno 20] Not a directory: "
    | .directory => "[Errno 21] Is a directory: "
    | .tooLong => "[Errno 36] File name too long: "
  reason ++ Text.quoted path

/-- What can be wrong with the description of a modifier. -/
inductive SectionFault where
  /-- a value of the wrong kind for a field -/
  | wrongKind (expected got field : Text)
  /-- a name that no occurrence has -/
  | unknownName (name field : Text)
  /-- a field that modifiers do not have -/
  | unknownField (name : Text)
  /-- a number beyond the numbers of double precision -/
  | outOfRange (field : Text)
  /-- a key that is no text -/
  | keyNotText
  /-- the fields are fine, but the modifier is not -/
  | invalid (e : QueryError)
  deriving DecidableEq, Repr

/-- The text of a fault in the description of a modifier. -/
def SectionFault.message : SectionFault → Text
  | .wrongKind expected got field =>
    "Expected `".toList ++ expected ++ "`, got `".toList ++ got ++ "` - at `$.".toList ++ field
      ++ "`".toList
  | .unknownName name field =>
    "Invalid enum value ".toList ++ Text.quoted name ++ " - at `$.".toList ++ field ++ "`".toList
  | .unknownField name => "Object contains unknown field `".toList ++ name ++ "`".toList
  | .outOfRange field => "Number out of range - at `$.".toList ++ field ++ "`".toList
  | .keyNotText => "Expected `str` - at `key` in `$`"
  | .invalid e => e.message

/-- Why the configuration cannot be looked at, where no value in it is at fault. -/
inductive Breakdown where
  /-- a file that holds a document of another kind than a mapping -/
  | notMapping (kind : Text)
  /-- a scalar that is said to be a truth value and is none of the words for them -/
  | unknownWord (word : Text)
  /-- a scalar that is said to be a number and has no characters -/
  | emptyNumber
  /-- a scalar that is said to be a point in time and does not look like one -/
  | notTime
  /-- a node with parts that is said to be a point in time -/
  | timeOfParts
  /-- the number of a character is beyond all numbers of characters -/
  | hugeCharacter
  /-- a place value is beyond the numbers of double precision -/
  | hugePlace
  /-- the home directory begins with a tilde -/
  | noHome
  /-- nothing can be said of what lies at a path -/
  | unreachable (path : Text) (f : FileFault)
  deriving DecidableEq, Repr

/-- The text of a breakdown. -/
def Breakdown.message : Breakdown → Text
  | .notMapping kind => ['\''] ++ kind ++ "' object has no attribute 'items'".toList
  | .unknownWord word => Text.quoted word
  | .emptyNumber => "string index out of range"
  | .notTime => "'NoneType' object has no attribute 'groupdict'"
  | .timeOfParts => "expected string or bytes-like object, got 'list'"
  | .hugeCharacter => "Python int too large to convert to C int"
  | .hugePlace => "int too large to convert to float"
  | .noHome => "Could not determine home directory."
  | .unreachable path f => f.message path

/-- What can be wrong with a configuration. -/
inductive ConfigError where
  | unreadable (path : Text) (f : FileFault)
  /-- a file that is no document, with what is wrong -/
  | malformed (reason : Text)
  /-- a value that does not exist, such as a day that the calendar does not have -/
  | invalid (reason : Text)
  | breakdown (b : Breakdown)
  | environmentFlag (field raw : Text)
  | environmentFuzziness (raw : Text)
  | sectionNotMapping
  | modifierSection (f : SectionFault)
  deriving DecidableEq, Repr

namespace ConfigError

/-- The fault of a path with a null character in it. -/
def nullCharacter : ConfigError := .invalid "embedded null byte"

/-- The text of a fault. -/
def message : ConfigError → Text
  | .unreadable path f => "Error reading config file: ".toList ++ f.message path
  | .malformed reason => "Invalid YAML in config file: ".toList ++ reason
  | .invalid reason => reason
  | .breakdown b => b.message
  | .environmentFlag field raw =>
    "Invalid boolean for ".toList ++ field ++ " in environment: ".toList ++ Text.quoted raw
  | .environmentFuzziness raw => "Invalid fuzziness in environment: ".toList ++ Text.quoted raw
  | .sectionNotMapping => "The 'modifier' section must be a mapping"
  | .modifierSection f => "Invalid modifier configuration: ".toList ++ f.message

/-- Whether a fault is one of the values that the configuration holds. -/
def isValueFault : ConfigError → Bool
  | .breakdown _ => false
  | _ => true

end ConfigError
end SearchQuery
