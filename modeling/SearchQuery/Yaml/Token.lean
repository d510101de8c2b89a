/-
  Tokens: the smallest parts of a YAML text.

  Some tokens are signs that stand in the text.  Others are made of how it is laid out: that a sequence
  or a mapping begins or ends by its indentation, and that what follows is the key of a mapping.
-/
import SearchQuery.Yaml.Fault

namespace SearchQuery.Yaml

/-- A line for the reader, in front of a document. -/
inductive Directive where
  /-- the version of YAML that the document is written in -/
  | version (major minor : Nat)
  /-- what a handle in front of a tag stands for -/
  | handle (name stem : Text)
  /-- one that means nothing here -/
  | unknown
  deriving DecidableEq, Repr

/-- A token without its position. -/
inductive TokenKind where
  | directive (d : Directive)
  | documentStart
  | documentEnd
  | streamEnd
  | blockSequenceStart
  | blockMappingStart
  | blockEnd
  | sequenceStart
  | sequenceEnd
  | mappingStart
  | mappingEnd
  | key
  | value
  | item
  | separator
  | alias (name : Text)
  | anchor (name : Text)
  /-- a tag: a handle, if there is one, and what follows it -/
  | tag (handle : Option Text) (suffix : Text)
  | scalar (text : Text) (isPlain : Bool)
  deriving DecidableEq, Repr

/-- A token, with where it begins and where it ends. -/
structure Token where
  kind : TokenKind
  start : Mark
  stop : Mark
  deriving DecidableEq, Repr

/-- The name of a token, as messages call it. -/
def TokenKind.name : TokenKind → Text
  | .directive _ => "<directive>"
  | .documentStart => "<document start>"
  | .documentEnd => "<document end>"
  | .streamEnd => "<stream end>"
  | .blockSequenceStart => "<block sequence start>"
  | .blockMappingStart => "<block mapping start>"
  | .blockEnd => "<block end>"
  | .sequenceStart => ['[']
  | .sequenceEnd => [']']
  | .mappingStart => ['\x7b']
  | .mappingEnd => ['\x7d']
  | .key => ['?']
  | .value => [':']
  | .item => ['-']
  | .separator => [',']
  | .alias _ => "<alias>"
  | .anchor _ => "<anchor>"
  | .tag _ _ => "<tag>"
  | .scalar _ _ => "<scalar>"

end SearchQuery.Yaml
