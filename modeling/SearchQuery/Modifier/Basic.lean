/-
  Modifiers: how a clause is written.

  A modifier says whether a clause is required, prohibited or neither, whether a value is also
  split into its tokens, whether any or all members of a group have to match, whether values also
  match as a beginning of words, and how fuzzy they also match.

  1. **Validity** — a fuzziness lies in 0 ≤ f < 1.  `ofFields?` is the way to make a modifier, and
     refuses any other.
  2. **Derived modifiers** — the members of a group are each required unless any may match
     (`element`); a value inside a field carries no mark, since the field has it already (`nested`).
  3. **Equality** — two modifiers are equal when their fields are, a fuzziness being compared as a
     number: its kind, and the sign of zero, do not count.
-/
import SearchQuery.Query.Error
import SearchQuery.Text.Quoted

namespace SearchQuery

/-- Whether a clause has to match, must not match, or neither. -/
inductive Occurrence where
  | plain
  | required
  | prohibited
  deriving DecidableEq, Repr

namespace Occurrence

/-- The mark in front of a clause. -/
def mark : Occurrence → Text
  | .plain => []
  | .required => ['+']
  | .prohibited => ['-']

/-- The name of an occurrence. -/
def name : Occurrence → Text
  | .plain => "none"
  | .required => "required"
  | .prohibited => "prohibited"

/-- The occurrence with a name. -/
def ofName? (t : Text) : Option Occurrence :=
  if t = "none".toList then some .plain
  else if t = "required".toList then some .required
  else if t = "prohibited".toList then some .prohibited
  else none

/-- An occurrence as descriptions show it. -/
def description (o : Occurrence) : Text :=
  let label : Text := match o with
    | .plain => "NONE"
    | .required => "REQUIRED"
    | .prohibited => "PROHIBITED"
  "<TermModifier.".toList ++ label ++ ": ".toList ++ Text.quoted o.name ++ ">".toList

theorem ofName?_name (o : Occurrence) : ofName? o.name = some o := by
  cases o <;> decide

end Occurrence

/-- How a clause is written. -/
structure Modifier where
  occurrence : Occurrence := .plain
  split : Bool := false
  disjunct : Bool := false
  wildcarded : Bool := false
  fuzziness : Option Number := none
  deriving DecidableEq, Repr

namespace Modifier

/-! ## Validity -/

/-- Whether a number is a fuzziness. -/
def isFuzziness (f : Number) : Bool := (Number.int 0).le f && f.lt (.int 1)

/-- Refuses a number that is no fuzziness. -/
def checkFuzziness : Option Number → Except QueryError Unit
  | none => .ok ()
  | some f => if isFuzziness f then .ok () else .error (.invalidFuzziness f)

/-- A modifier whose fuzziness, if it has one, is a fuzziness. -/
def Valid (m : Modifier) : Prop := ∀ f, m.fuzziness = some f → isFuzziness f = true

instance (m : Modifier) : Decidable m.Valid :=
  match h : m.fuzziness with
  | none => .isTrue (by simp [Valid, h])
  | some f => decidable_of_iff (isFuzziness f = true) (by simp [Valid, h])

/-- The modifier itself, if it is valid. -/
def checked (m : Modifier) : Except QueryError Modifier := do
  checkFuzziness m.fuzziness
  return m

/-- An occurrence as a caller gives it: it may be absent, or something else, of which the kind and
    the form in messages are kept. -/
inductive OccurrenceArg where
  | given (o : Occurrence)
  | absent
  | other (kind shown : Text)
  deriving DecidableEq, Repr

/-- The occurrence that was given. -/
def OccurrenceArg.get : OccurrenceArg → Except QueryError Occurrence
  | .given o => .ok o
  | .absent => .error .missingOccurrence
  | .other kind _ => .error (.notOccurrence kind)

/-- The modifier with the given fields; a wrong occurrence is found before a wrong fuzziness. -/
def ofFields? (occurrence : OccurrenceArg) (split disjunct wildcarded : Bool)
    (fuzziness : Option Number) : Except QueryError Modifier := do
  let o ← occurrence.get
  checked ⟨o, split, disjunct, wildcarded, fuzziness⟩

/-! ## Derived modifiers -/

/-- The mark in front of a clause. -/
def mark (m : Modifier) : Text := m.occurrence.mark

/-- The modifier for the members of a group: each is required, unless any of them may match. -/
def element (m : Modifier) : Modifier :=
  { m with occurrence := if m.disjunct then .plain else .required }

/-- The modifier for a value inside a field, which carries the mark already. -/
def nested (m : Modifier) : Modifier := { m with occurrence := .plain }

/-- The modifier for a token of a split value, which is not split again. -/
def token (m : Modifier) : Modifier := { m.element with split := false }

/-! ## Equality and description -/

/-- Whether two fuzzinesses are equal as numbers. -/
def equalFuzziness : Option Number → Option Number → Bool
  | none, none => true
  | some f, some g => f.equal g
  | _, _ => false

/-- Whether two modifiers are equal. -/
def equal (a b : Modifier) : Bool :=
  a.occurrence == b.occurrence && a.split == b.split && a.disjunct == b.disjunct &&
    a.wildcarded == b.wildcarded && equalFuzziness a.fuzziness b.fuzziness

/-- A modifier with all its fields, as messages show it. -/
def description (m : Modifier) : Text :=
  "QueryModifier(term_modifier=".toList ++ m.occurrence.description
    ++ ", split=".toList ++ Number.flagText m.split
    ++ ", disjunct=".toList ++ Number.flagText m.disjunct
    ++ ", wildcarded=".toList ++ Number.flagText m.wildcarded
    ++ ", fuzziness=".toList ++ (m.fuzziness.map Number.text).getD "None".toList
    ++ ")".toList

/-! ## Derived modifiers stay valid -/

theorem checked_eq_ok_iff {m n : Modifier} : m.checked = .ok n ↔ m.Valid ∧ n = m := by
  rw [checked, Valid]
  cases h : m.fuzziness with
  | none =>
    constructor
    · intro he; cases he; exact ⟨fun _ hf => absurd hf (by simp), rfl⟩
    · rintro ⟨_, rfl⟩; rfl
  | some f =>
    rw [checkFuzziness]
    split
    · rename_i hf
      constructor
      · intro he; cases he; exact ⟨fun g hg => by cases hg; exact hf, rfl⟩
      · rintro ⟨_, rfl⟩; rfl
    · rename_i hf
      constructor
      · intro he; cases he
      · rintro ⟨hv, _⟩; exact absurd (hv f rfl) hf

theorem Valid.element {m : Modifier} (h : m.Valid) : m.element.Valid := h

theorem Valid.nested {m : Modifier} (h : m.Valid) : m.nested.Valid := h

theorem Valid.token {m : Modifier} (h : m.Valid) : m.token.Valid := h

example : isFuzziness (.double (.ofRatio false 1 2)) = true := by decide +kernel
example : isFuzziness (.double .nan) = false ∧ isFuzziness (.flag true) = false := by decide +kernel

end Modifier
end SearchQuery
