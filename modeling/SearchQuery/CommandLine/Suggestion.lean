/-
  Names that may have been meant by a word that is none of them.

  1. **Matching** — the longest block that two texts have in common matches, the first one in the first
     text, and then in the second, if there are several; so do, in turn, the blocks of what is before it
     and of what is behind it.
  2. **Likeness** — the matching characters of both texts over all their characters.  A name is alike
     to a word from three fifths on.
  3. **Suggestions** — of the names that are alike to a word the three that are most alike, of two equally
     alike ones the last in order; they are listed in order.
-/
import SearchQuery.Text.Quoted

namespace SearchQuery.CommandLine

/-! ## Matching -/

/-- The length of what two texts begin with in common. -/
def commonLead : Text → Text → Nat
  | c :: s, d :: t => if c = d then commonLead s t + 1 else 0
  | _, _ => 0

/-- A block that two texts have in common. -/
structure Block where
  inFirst : Nat
  inSecond : Nat
  length : Nat
  deriving DecidableEq, Repr

/-- The longer one of two blocks, the first one if they are equally long. -/
def Block.longer (a b : Block) : Block := if a.length < b.length then b else a

/-- The longest block at the start of the first text; `i` and `j` are where the texts begin. -/
def blockFrom (i : Nat) (s : Text) : Nat → Text → Block
  | j, [] => ⟨i, j, 0⟩
  | j, d :: t => Block.longer ⟨i, j, commonLead s (d :: t)⟩ (blockFrom i s (j + 1) t)

/-- The longest block; `i` is where the first text begins. -/
def longestBlock : Nat → Text → Text → Block
  | i, [], _ => ⟨i, 0, 0⟩
  | i, c :: s, t => Block.longer (blockFrom i (c :: s) 0 t) (longestBlock (i + 1) s t)

/-- How many characters of two texts match, with `fuel` bounding the length of the first. -/
def matching : Nat → Text → Text → Nat
  | 0, _, _ => 0
  | fuel + 1, s, t =>
    let b := longestBlock 0 s t
    if b.length = 0 then 0
    else
      b.length + matching fuel (s.take b.inFirst) (t.take b.inSecond)
        + matching fuel (s.drop (b.inFirst + b.length)) (t.drop (b.inSecond + b.length))

/-! ## Likeness -/

/-- A name with how many of its characters match a word, and the length of both. -/
structure Likeness where
  name : Text
  same : Nat
  total : Nat
  deriving DecidableEq, Repr

/-- The likeness of a name to a word. -/
def likeness (word name : Text) : Likeness :=
  ⟨name, matching name.length name word, name.length + word.length⟩

/-- Whether twice the matching characters are three fifths of all characters or more. -/
def Likeness.isAlike (l : Likeness) : Bool := 3 * l.total ≤ 10 * l.same

/-- Whether the first text does not come behind the second in alphabetical order. -/
def inOrder : Text → Text → Bool
  | [], _ => true
  | _ :: _, [] => false
  | c :: s, d :: t => c.toNat < d.toNat || (c == d && inOrder s t)

/-- Whether the first name does not come behind the second among suggestions. -/
def Likeness.precedes (a b : Likeness) : Bool :=
  b.same * a.total < a.same * b.total
    || (b.same * a.total == a.same * b.total && inOrder b.name a.name)

/-! ## Suggestions -/

/-- The names that may have been meant by a word. -/
def suggestions (names : List Text) (word : Text) : List Text :=
  let alike := (names.map (likeness word)).filter Likeness.isAlike
  (((alike.mergeSort Likeness.precedes).take 3).map Likeness.name).mergeSort inOrder

/-- What names that may have been meant add to a message. -/
def suggestionText : List Text → Text
  | [] => []
  | [name] => " Did you mean ".toList ++ Text.quoted name ++ ['?']
  | names =>
    " (Did you mean one of: ".toList ++ Text.join [',', ' '] (names.map Text.quoted) ++ "?)".toList

example : matching 5 "build" "buidl" = 4 := by decide
example : (likeness "buil" "build").isAlike = true ∧ (likeness "sugar" "build").isAlike = false := by
  decide

end SearchQuery.CommandLine
