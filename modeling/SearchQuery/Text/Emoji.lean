/-
  Emoji codes: the names of emoji between two colons.

  A code is a colon, a name without blanks, and a colon; the name may be followed by a dash and the word
  `emoji` or `text`, which asks for one of the two forms of the picture.  Case does not matter.  A code
  whose name is not known stays as it is, its second colon included.

  A skin tone stands behind the first character of an emoji, in place of a form selector there.
-/
import SearchQuery.Text.Blank
import SearchQuery.Text.EmojiNames
import SearchQuery.Text.Lowercase

namespace SearchQuery.Text

/-! ## Names -/

/-- An emoji. -/
structure Emoji where
  picture : Text
  /-- whether it also comes in the five skin tones -/
  toned : Bool := false
  deriving DecidableEq, Repr

/-- The number that hexadecimal digits in capitals stand for. -/
def ofHex (digits : Text) : Nat :=
  digits.foldl (fun n c => n * 16 + (c.toNat - (if c.isDigit then 48 else 55))) 0

/-- An entry of the table of names. -/
def emojiEntry? (entry : Text) : Option (Text × Emoji) :=
  (cut ['='] entry).map fun (name, codes) =>
    let picture := (pieces '-' (codes.filter (· != '+'))).map fun d => Char.ofNat (ofHex d)
    (name, ⟨picture, codes.getLast? = some '+'⟩)

/-- The emoji by their names. -/
def emojiTable : List (Text × Emoji) :=
  (emojiNames.flatMap fun line => pieces ' ' line.toList).filterMap emojiEntry?

/-- The skin tones, each with what names of emoji in that tone end in. -/
def skinTones : List (Text × Char) :=
  [("_light_skin_tone".toList, Char.ofNat 0x1F3FB),
   ("_medium-light_skin_tone".toList, Char.ofNat 0x1F3FC),
   ("_medium_skin_tone".toList, Char.ofNat 0x1F3FD),
   ("_medium-dark_skin_tone".toList, Char.ofNat 0x1F3FE),
   ("_dark_skin_tone".toList, Char.ofNat 0x1F3FF)]

/-- An emoji in a skin tone. -/
def Emoji.inTone (e : Emoji) (tone : Char) : Text :=
  match e.picture with
  | [] => []
  | c :: '\ufe0f' :: t => c :: tone :: t
  | c :: t => c :: tone :: t

/-- The emoji with a name that ends in a skin tone. -/
def tonedEmoji? (name : Text) : Option Text :=
  skinTones.findSome? fun (ending, tone) =>
    if ending.isSuffixOf name then
      match emojiTable.lookup (name.take (name.length - ending.length)) with
      | some e => if e.toned then some (e.inTone tone) else none
      | none => none
    else none

/-- The emoji with a name in small letters. -/
def emoji? (name : Text) : Option Text :=
  ((emojiTable.lookup name).map Emoji.picture).or (tonedEmoji? name)

/-! ## Codes -/

/-- An emoji code behind its first colon: the name, the form selector, and what follows the code. -/
structure EmojiCode where
  name : Text
  form : Text := []
  rest : Text

/-- The emoji code whose first colon is read, if it is one; the part of its name that is read comes
    last character first. -/
def emojiCode? (read : Text) : Text → Option EmojiCode
  | [] => none
  | c :: t =>
    match dropLead? "-emoji:" (c :: t), dropLead? "-text:" (c :: t) with
    | some rest, _ => some ⟨read.reverse, ['\ufe0f'], rest⟩
    | none, some rest => some ⟨read.reverse, ['\ufe0e'], rest⟩
    | none, none =>
      if c = ':' then some ⟨read.reverse, [], t⟩
      else if isBlankChar c then none
      else emojiCode? (c :: read) t

/-- A text with emoji in place of their codes, with `fuel` bounding its length. -/
def replaceEmojiCodes : Nat → Text → Text
  | 0, t => t
  | _ + 1, [] => []
  | fuel + 1, c :: t =>
    match if c = ':' then emojiCode? [] t else none with
    | none => c :: replaceEmojiCodes fuel t
    | some code =>
      let shown := match emoji? (lower code.name) with
        | some picture => picture ++ code.form
        | none => c :: t.take (t.length - code.rest.length)
      shown ++ replaceEmojiCodes fuel code.rest

/-- A text with emoji in place of their codes. -/
def withEmoji (t : Text) : Text := replaceEmojiCodes t.length t

example : emojiEntry? "boy=1F466+" = some ("boy".toList, ⟨[Char.ofNat 0x1F466], true⟩) := by decide
example : (emojiCode? [] "smile-text: x").map (·.name) = some "smile".toList := by decide

end SearchQuery.Text
