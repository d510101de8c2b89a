/-
  Reading a YAML text as a document.

  A text is read in parts, the first one as long as two of the others, and a part is only looked at when
  the parts before it are read.  A character that may not stand in a text makes its whole part unreadable,
  so a fault in front of the part is told instead.

  A text without a document is the absent document.
-/
import SearchQuery.Yaml.Document
import SearchQuery.Yaml.Grammar

namespace SearchQuery.Yaml

/-! ## Characters that may not stand in a text -/

/-- Whether a character may stand in a YAML text. -/
def isAllowed (c : Char) : Bool :=
  let n := c.toNat
  n = 0x9 || n = 0xA || n = 0xD || n = 0x85 || (0x20 ≤ n && n ≤ 0x7E) || (0xA0 ≤ n && n ≤ 0xFFFD)
    || 0x10000 ≤ n

/-- The first character that may not stand in a text, with the number of those before it. -/
def forbidden? (t : Text) : Option (Char × Nat) :=
  match t.dropWhile isAllowed with
  | [] => none
  | c :: _ => some (c, (t.takeWhile isAllowed).length)

/-- The length of a part of a text. -/
def partLength : Nat := 4096

/-- The number of characters in front of the part that a position is in. -/
def partStart (position : Nat) : Nat :=
  if position < 2 * partLength then 0 else position / partLength * partLength

/-- A number in hexadecimal digits, at least four of them. -/
def hexText (n : Nat) : Text := Text.hex (if n < 0x10000 then 4 else if n < 0x100000 then 5 else 6) n

/-- The fault of a character that may not stand in a file. -/
def forbiddenCharacter (file : Text) (c : Char) (position : Nat) : ConfigError :=
  .malformed ("unacceptable character #x".toList ++ hexText c.toNat
    ++ ": special characters are not allowed\n  in \"".toList ++ file ++ "\", position ".toList
    ++ Text.ofNat position)

/-! ## Documents -/

/-- The node of a text that goes on in an unreadable part, which is refused, unless there is a fault in
    front of that. -/
def refusalBefore (unreadable : ConfigError) (file t : Text) : ConfigError :=
  let stop := (Cursor.mk t 0 0 0).advance t.length
  match node? t with
  | .error (.fault f) => if f.mark = stop.mark then unreadable else .malformed (f.message file)
  | .error r => r.configError file
  | .ok _ => unreadable

/-- The document of a text all of whose characters may stand in it. -/
def documentOf (t : Text) : Except Refusal Document := do
  match ← node? t with
  | none => return .null
  | some n => n.document (t.length + 1)

/-- The document that a file holds, or what is wrong with it. -/
def read (file t : Text) : Except ConfigError Document :=
  let t := unixLines t
  match forbidden? t with
  | none => (documentOf t).mapError fun r => r.configError file
  | some (c, position) =>
    let unreadable := forbiddenCharacter file c position
    match partStart position with
    | 0 => .error unreadable
    | start => .error (refusalBefore unreadable file (t.take start))

end SearchQuery.Yaml
