/-
  Writing one literal.

  A literal becomes a clause `mark(alternatives) `.  The alternatives are separated by blanks: the
  whole text as a phrase of double weight and as a beginning of words, if the modifier is
  wildcarded; the text with a fuzziness, if there is one; the text alone, if there is neither.

  A modifier that splits adds one more alternative to a text with a blank in it: the clauses of its
  tokens, at half the weight.  Tokens are combined like members of a group and never split again.
-/
import SearchQuery.Query.Basic
import SearchQuery.Text.Escape

namespace SearchQuery

/-- A text as a phrase: in double quotes, with quotes and backslashes escaped. -/
def phrase (v : Text) : Text :=
  '"' :: Text.escapeQuotes (Text.escapeIf (· == '\\') v) ++ ['"']

namespace Modifier

/-- The alternatives for one literal. -/
def alternatives (m : Modifier) (v : Text) : List Text :=
  let escaped := Text.escapeAll v
  let wildcarded := if m.wildcarded then [phrase v ++ ['^', '2'], escaped ++ ['*']] else []
  let fuzzy := match m.fuzziness with
    | some f => [escaped ++ '~' :: f.text]
    | none => []
  match wildcarded ++ fuzzy with
  | [] => [escaped]
  | as => as

/-- The alternatives for one literal, separated by blanks. -/
def body (m : Modifier) (v : Text) : Text := Text.join [' '] (m.alternatives v)

/-- Whether a literal is also written token by token. -/
def splits (m : Modifier) (v : Text) : Bool := m.split && (Text.strip v).contains ' '

/-- The alternatives for one literal, one case for each way of matching it. -/
theorem alternatives_eq (m : Modifier) (v : Text) :
    m.alternatives v = match m.wildcarded, m.fuzziness with
      | false, none => [Text.escapeAll v]
      | false, some f => [Text.escapeAll v ++ '~' :: f.text]
      | true, none => [phrase v ++ ['^', '2'], Text.escapeAll v ++ ['*']]
      | true, some f =>
        [phrase v ++ ['^', '2'], Text.escapeAll v ++ ['*'], Text.escapeAll v ++ '~' :: f.text] := by
  unfold alternatives
  cases m.wildcarded <;> cases m.fuzziness <;> rfl

end Modifier

namespace Query

/-- Writes a literal without splitting it; a blank one is skipped. -/
def writeWhole (q : Query) (v : Text) (m : Modifier) : Query :=
  if Text.isBlank v then q.skipped
  else (q.append [m.mark, ['('], m.body v, [')', ' ']]).done

/-- Writes the clauses of the tokens of a literal, at half the weight. -/
def writeTokens (q : Query) (v : Text) (m : Modifier) : Query :=
  ((Text.pieces ' ' v).foldl (fun q t => q.writeWhole t m.token) (q.append [[' ', '(']])).append
    [[')', '^', '0', '.', '5']]

/-- Writes a literal; a blank one is skipped. -/
def writeLiteral (q : Query) (v : Text) (m : Modifier) : Query :=
  if Text.isBlank v then q.skipped
  else
    let q := q.append [m.mark, ['('], m.body v]
    let q := if m.splits v then q.writeTokens v m else q
    (q.append [[')', ' ']]).done

example : ((({} : Query).writeLiteral "a b" { split := true }).text)
    = "(a\\ b (+(a) +(b) )^0.5) ".toList := by decide +kernel
example : ((({} : Query).writeLiteral "x" { wildcarded := true }).text)
    = "(\"x\"^2 x*) ".toList := by decide +kernel

end Query
end SearchQuery
