/-
  Texts and byte strings in quotes, as messages show them.

  Single quotes enclose the text, unless it holds a single quote and no double one.  Inside, the
  enclosing quote and the backslash take a backslash in front; line feed, carriage return and tab
  are `\n`, `\r` and `\t`; any other character that cannot be shown is given by its code point in
  hexadecimal, `\x` with two digits, `\u` with four or `\U` with eight.  A byte string is shown the
  same way behind the letter b, with every byte beyond ASCII in hexadecimal.
-/
import SearchQuery.Text.Printable

namespace SearchQuery.Text

/-- A hexadecimal digit. -/
def hexChar (n : Nat) : Char := if n < 10 then Char.ofNat (48 + n) else Char.ofNat (87 + n)

/-- The last `width` hexadecimal digits of a number. -/
def hex : Nat → Nat → Text
  | 0, _ => []
  | width + 1, n => hex width (n / 16) ++ [hexChar (n % 16)]

/-- The quote that encloses a text. -/
def quoteFor (t : Text) : Char := if t.contains '\'' && !t.contains '"' then '"' else '\''

/-- A character by its code point. -/
def codePoint (c : Char) : Text :=
  if c.toNat < 0x100 then '\\' :: 'x' :: hex 2 c.toNat
  else if c.toNat < 0x10000 then '\\' :: 'u' :: hex 4 c.toNat
  else '\\' :: 'U' :: hex 8 c.toNat

/-- A character inside quotes; `shown` says which characters stand as they are. -/
def quotedChar (shown : Char → Bool) (quote c : Char) : Text :=
  if c = quote || c = '\\' then ['\\', c]
  else if c = '\n' then ['\\', 'n']
  else if c = '\r' then ['\\', 'r']
  else if c = '\t' then ['\\', 't']
  else if shown c then [c]
  else codePoint c

/-- A text enclosed in quotes. -/
def quotedWith (shown : Char → Bool) (t : Text) : Text :=
  let quote := quoteFor t
  quote :: t.flatMap (quotedChar shown quote) ++ [quote]

/-- A text in quotes. -/
def quoted (t : Text) : Text := quotedWith isPrintable t

/-- A byte string in quotes. -/
def quotedBytes (bytes : List UInt8) : Text :=
  let shown (c : Char) : Bool := 0x20 ≤ c.toNat && c.toNat < 0x7F
  'b' :: quotedWith shown (bytes.map fun b => Char.ofNat b.toNat)

example : quoted "it's" = "\"it's\"".toList := by decide +kernel
example : quoted "a\n\u00a0" = "'a\\n\\xa0'".toList := by decide +kernel
example : quotedBytes [97, 0, 39] = "b\"a\\x00'\"".toList := by decide +kernel

end SearchQuery.Text
