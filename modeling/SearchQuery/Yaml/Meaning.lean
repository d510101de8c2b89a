/-
  What nodes stand for by themselves.

  A scalar with a tag stands for a value of that kind, and is refused if its text does not say one.
  Sequences, mappings and sets are made of their parts, whatever those are.  A mapping in place of a scalar
  stands for the scalar whose key is an equals sign.
-/
import SearchQuery.Text.Base64
import SearchQuery.Yaml.Node
import SearchQuery.Yaml.Number

namespace SearchQuery.Yaml

/-! ## Values of texts -/

/-- The truth value that a text stands for. -/
def flagOf (t : Text) : Except Refusal Scalar :=
  let word := Text.lower t
  if ["yes", "true", "on"].any fun w => w.toList = word then .ok (.number (.flag true))
  else if ["no", "false", "off"].any fun w => w.toList = word then .ok (.number (.flag false))
  else .error (.breakdown (.unknownWord word))

/-- The time that a text stands for. -/
def timeOf (t : Text) : Except Refusal Scalar :=
  match time? false (withoutLastBreak t) with
  | none => .error (.breakdown .notTime)
  | some time => time.scalar.mapError fun f => .invalid f.message

/-- The fault of the first characters beyond ASCII in a text. -/
def beyondAscii (t : Text) : Text :=
  let isAscii (c : Char) : Bool := c.toNat < 128
  let position := (t.takeWhile isAscii).length
  let run := (t.dropWhile isAscii).takeWhile fun c => !isAscii c
  let place : Text := match run with
    | [c] => "character '".toList ++ Text.codePoint c ++ "' in position ".toList ++ Text.ofNat position
    | cs => "characters in position ".toList ++ Text.ofNat position ++ '-'
        :: Text.ofNat (position + cs.length - 1)
  "'ascii' codec can't encode ".toList ++ place ++ ": ordinal not in range(128)".toList

/-- The bytes that a text stands for, which begins at a position. -/
def bytesOf (start : Mark) (t : Text) : Except Refusal Scalar :=
  if t.any fun c => 128 ≤ c.toNat then
    .error (.faultAt start ("failed to convert base64 data into ascii: ".toList ++ beyondAscii t))
  else
    match Text.Base64.decode t with
    | .ok bytes => .ok (.bytes bytes)
    | .error f => .error (.faultAt start ("failed to decode base64 data: ".toList ++ f.message))

/-- The value of a kind that a text stands for, which begins at a position. -/
def scalarOf (start : Mark) (tag : Tag) (t : Text) : Except Refusal Scalar :=
  match tag with
  | .null => .ok .null
  | .flag => flagOf t
  | .integer => (integerOf t).map fun n => .number (.int n)
  | .double => doubleOf t
  | .bytes => bytesOf start t
  | .time => timeOf t
  | _ => .ok (.text t)

/-! ## Nodes -/

/-- Whether what is said to be of a kind is made of its parts. -/
def Tag.hasParts : Tag → Bool
  | .sequence | .mapping | .set | .orderedMapping | .pairs => true
  | _ => false

/-- Whether nothing is known of a kind by itself. -/
def Tag.isUnknown : Tag → Bool
  | .merge | .value | .unknown _ => true
  | _ => false

namespace Node

/-- The fault of a node of another kind than is wanted. -/
def wrongKind (wanted : Text) (n : Node) : Refusal :=
  .faultAt n.start ("expected a ".toList ++ wanted ++ " node, but found ".toList ++ n.kind)

mutual

/-- The text of a node in place of a scalar. -/
def text : Node → Except Refusal Text
  | .scalar _ _ t => .ok t
  | .mapping m tag entries => valueText (wrongKind "scalar" (.mapping m tag [])) entries
  | n => .error (wrongKind "scalar" n)

/-- The text of the entry whose key is an equals sign, or a refusal if there is none. -/
def valueText (refusal : Refusal) : List (Node × Node) → Except Refusal Text
  | [] => .error refusal
  | (k, v) :: rest => if k.tag = .value then v.text else valueText refusal rest

end

/-- The scalar that a node stands for, unless it is made of its parts. -/
def scalar? (n : Node) : Except Refusal (Option Scalar) :=
  if n.tag.hasParts then .ok none
  else if n.tag.isUnknown then
    .error (.faultAt n.start
      ("could not determine a constructor for the tag ".toList ++ Text.quoted n.tag.name))
  else do
    let t ← n.text
    match n.tag, n with
    | .time, .mapping _ _ _ => throw (.breakdown .timeOfParts)
    | tag, _ => return some (← scalarOf n.start tag t)

end Node

example : (flagOf "Yes").toOption = some (.number (.flag true)) := by decide +kernel
example : (timeOf "2001-02-29").mapError (fun _ => ()) = .error () := by rfl

end SearchQuery.Yaml
