/-
  Tags: what a node is said to be, and what a plain scalar is.

  A plain scalar is no text if it looks like something else: nothing, a truth value, an integer, a number
  with a point, a time, or one of two signs for keys.  Integers may be written to the bases 2, 8, 10, 16
  and 60; numbers with an exponent need a point, and the exponent needs a sign.
-/
import SearchQuery.Double.Numeral
import SearchQuery.Yaml.Time

namespace SearchQuery.Yaml

/-! ## Tags -/

/-- What a node is said to be. -/
inductive Tag where
  | null
  | flag
  | integer
  | double
  | bytes
  | time
  | text
  | sequence
  | mapping
  | set
  /-- a sequence of mappings with one entry each, whose keys differ -/
  | orderedMapping
  /-- a sequence of mappings with one entry each -/
  | pairs
  /-- the key whose value is merged into the mapping -/
  | merge
  /-- the key whose value stands for the whole mapping where a scalar is wanted -/
  | value
  /-- something that is not known -/
  | unknown (name : Text)
  deriving DecidableEq, Repr

namespace Tag

/-- What the names of the known tags begin with. -/
def stem : Text := "tag:yaml.org,2002:"

/-- The known tags by what their names end in. -/
def table : List (Text × Tag) :=
  [("null".toList, .null), ("bool".toList, .flag), ("int".toList, .integer), ("float".toList, .double),
   ("binary".toList, .bytes), ("timestamp".toList, .time), ("str".toList, .text),
   ("seq".toList, .sequence), ("map".toList, .mapping), ("set".toList, .set),
   ("omap".toList, .orderedMapping), ("pairs".toList, .pairs), ("merge".toList, .merge),
   ("value".toList, .value)]

/-- The tag with a name. -/
def ofName (name : Text) : Tag :=
  ((Text.dropLead? stem name).bind fun ending => table.lookup ending).getD (.unknown name)

/-- The name of a tag that stands for nothing by itself. -/
def name : Tag → Text
  | .unknown name => name
  | t => stem ++ ((table.find? fun (_, u) => u = t).map Prod.fst).getD []

end Tag

/-! ## Digits -/

/-- Whether a text is nonempty and all its characters are of a class. -/
def nonemptyAll (p : Char → Bool) (t : Text) : Bool := !t.isEmpty && t.all p

/-- Whether a text begins with a digit of a class and goes on with decimal digits and underscores. -/
def isDigits (first : Char → Bool) : Text → Bool
  | [] => false
  | c :: t => first c && t.all fun d => Numeral.isDigit d || d = '_'

/-- A text without the sign that it may begin with. -/
def withoutSign : Text → Text
  | '-' :: t => t
  | '+' :: t => t
  | t => t

/-- Whether a text is a place of a number to the base 60, behind the first place. -/
def isSixtieth (t : Text) : Bool :=
  match t with
  | [a] => Numeral.isDigit a
  | [a, b] => '0' ≤ a && a ≤ '5' && Numeral.isDigit b
  | _ => false

/-- Whether a text is made of two places or more of a number to the base 60. -/
def isSixties (first : Char → Bool) (t : Text) : Bool :=
  match Text.pieces ':' t with
  | d :: e :: places => isDigits first d && (e :: places).all isSixtieth
  | _ => false

/-! ## What scalars look like -/

/-- Whether a text looks like an integer. -/
def looksInteger (t : Text) : Bool :=
  let isFirst (c : Char) : Bool := '1' ≤ c && c ≤ '9'
  match withoutSign t with
  | ['0'] => true
  | '0' :: 'b' :: d => nonemptyAll (fun c => c = '0' || c = '1' || c = '_') d
  | '0' :: 'x' :: d =>
    nonemptyAll (fun c => Numeral.isDigit c || ('a' ≤ c && c ≤ 'f') || ('A' ≤ c && c ≤ 'F') || c = '_') d
  | '0' :: d => nonemptyAll (fun c => ('0' ≤ c && c ≤ '7') || c = '_') d
  | t => isDigits isFirst t || isSixties isFirst t

/-- Whether a text is empty or an exponent: a mark, a sign and digits. -/
def looksExponent : Text → Bool
  | [] => true
  | e :: s :: d => (e = 'e' || e = 'E') && (s = '+' || s = '-') && nonemptyAll Numeral.isDigit d
  | _ => false

/-- Whether a text looks like a number with a point. -/
def looksDouble (t : Text) : Bool :=
  let u := withoutSign t
  if [".inf".toList, ".Inf".toList, ".INF".toList].contains u then true
  else if [".nan".toList, ".NaN".toList, ".NAN".toList].contains t then true
  else
    match Text.cut ['.'] u with
    | none => false
    | some (before, rest) =>
      let isInner (c : Char) : Bool := Numeral.isDigit c || c = '_'
      let behind := rest.takeWhile isInner
      let rest := rest.dropWhile isInner
      (isDigits Numeral.isDigit before && looksExponent rest)
        || (t.head? = some '.' && isDigits Numeral.isDigit behind && looksExponent rest)
        || (isSixties Numeral.isDigit before && rest.isEmpty)

/-- Whether a text is one of the words for truth values. -/
def looksFlag (t : Text) : Bool :=
  ["yes", "Yes", "YES", "no", "No", "NO", "true", "True", "TRUE", "false", "False", "FALSE",
    "on", "On", "ON", "off", "Off", "OFF"].any fun word => word.toList = t

/-- Whether a text stands for nothing. -/
def looksNull (t : Text) : Bool := ["~", "null", "Null", "NULL"].any fun word => word.toList = t

/-- A text without the line feed that it may end in. -/
def withoutLastBreak (t : Text) : Text := if t.getLast? = some '\n' then t.dropLast else t

/-- What a plain scalar is.  A line feed at its end does not count. -/
def implicitTag (t : Text) : Tag :=
  let u := withoutLastBreak t
  if t.isEmpty || looksNull u then .null
  else if looksFlag u then .flag
  else if looksDouble u then .double
  else if looksInteger u then .integer
  else if (time? true u).isSome then .time
  else if u = ['<', '<'] then .merge
  else if u = ['='] then .value
  else if [['!'], ['&'], ['*']].contains u then .unknown (Tag.stem ++ "yaml".toList)
  else .text

example : implicitTag "1e-1" = .text ∧ implicitTag "1.0e-1" = .double := by decide +kernel
example : implicitTag "0x1F" = .integer ∧ implicitTag "1:30" = .integer ∧ implicitTag "1:60" = .text := by
  decide +kernel
example : Tag.ofName "tag:yaml.org,2002:seq" = .sequence := by decide +kernel

end SearchQuery.Yaml
