/-
  How text is put out.

  1. `plain` — as it is, except that control sequences are taken out: an escape character, an opening
     bracket, parameters, intermediate characters, and a final character.
  2. `laidOut` — emoji stand in place of their codes, a few control characters are taken out, and tabs
     become blanks up to the next of the columns that are multiples of eight, one blank at least.
-/
import SearchQuery.Text.Emoji
import SearchQuery.Text.Width

namespace SearchQuery.CommandLine

/-! ## Control sequences -/

/-- What follows a control sequence whose escape character and bracket are read, if it is one. -/
def sequenceEnd? (t : Text) : Option Text :=
  let body := t.dropWhile fun c => '0' ≤ c && c ≤ '?'
  match body.dropWhile fun c => ' ' ≤ c && c ≤ '/' with
  | [] => none
  | c :: rest => if '@' ≤ c && c ≤ '~' then some rest else none

/-- A text without control sequences, with `fuel` bounding its length. -/
def dropSequences : Nat → Text → Text
  | 0, t => t
  | _ + 1, [] => []
  | fuel + 1, c :: t =>
    match c, t with
    | '\x1b', '[' :: body =>
      match sequenceEnd? body with
      | some rest => dropSequences fuel rest
      | none => c :: dropSequences fuel t
    | _, _ => c :: dropSequences fuel t

/-- A text without control sequences. -/
def withoutSequences (t : Text) : Text := dropSequences t.length t

/-- A text as it is put out unchanged, with a line end. -/
def plain (t : Text) : Text := withoutSequences t ++ ['\n']

/-! ## Laying out -/

/-- Whether a control character is taken out before text is laid out. -/
def isDropped (c : Char) : Bool := ['\x07', '\x08', '\x0b', '\x0c', '\x0d'].contains c

/-- The parts of a line between its tabs with blanks for these, when the first begins in a column.  A
    tab counts as a blank with the part before it, and blanks fill up to the next stop. -/
def expandParts : Nat → List Text → Text
  | _, [] => []
  | _, [part] => part
  | column, part :: parts =>
    let part := part ++ [' ']
    let column := column + Text.columns part
    let blanks := (8 - column % 8) % 8
    part ++ List.replicate blanks ' ' ++ expandParts (column + blanks) parts

/-- A text with blanks for its tabs. -/
def expandTabs (t : Text) : Text :=
  Text.join ['\n'] ((Text.lines t).map fun line => expandParts 0 (Text.pieces '\t' line))

/-- A text as it is laid out, with a line end. -/
def laidOut (t : Text) : Text :=
  expandTabs ((Text.withEmoji t).filter fun c => !isDropped c) ++ ['\n']

example : expandTabs "a\tb" = "a       b".toList := by decide +kernel
example : expandTabs "aaaaaaa\tb\n\tc" = "aaaaaaa b\n        c".toList := by decide +kernel
example : plain "a\x1b[31mb\x1b[5 ~c" = "abc\n".toList := by decide

end SearchQuery.CommandLine
