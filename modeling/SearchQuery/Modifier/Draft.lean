/-
  Drafts: modifiers in the making.

  A draft holds the five fields of a modifier and is changed field by field.  A change may be
  refused, and the draft is then what it was; a finished draft is checked once more when the
  modifier is made of it.
-/
import SearchQuery.Modifier.Basic

namespace SearchQuery

/-- A modifier in the making. -/
structure Draft where
  occurrence : Occurrence := .plain
  split : Bool := false
  disjunct : Bool := false
  wildcarded : Bool := false
  fuzziness : Option Number := none
  deriving DecidableEq, Repr

namespace Draft

/-- The draft with the fields of a modifier. -/
def ofModifier (m : Modifier) : Draft :=
  ⟨m.occurrence, m.split, m.disjunct, m.wildcarded, m.fuzziness⟩

/-- The draft with the fields of a modifier that has to be given. -/
def copyOf? : Option Modifier → Except QueryError Draft
  | none => .error .missingModifier
  | some m => .ok (ofModifier m)

/-- The modifier that the draft describes. -/
def build (d : Draft) : Except QueryError Modifier :=
  Modifier.checked ⟨d.occurrence, d.split, d.disjunct, d.wildcarded, d.fuzziness⟩

/-! ## Changing a field -/

/-- A change of one field. -/
inductive Change where
  | occurrence (o : Modifier.OccurrenceArg)
  | split (on : Bool)
  | disjunct (on : Bool)
  | wildcarded (on : Bool)
  | fuzziness (f : Option Number)
  /-- a fraction as the fuzziness -/
  | fraction (q : Rat)
  deriving DecidableEq, Repr

/-- Makes a change, or refuses it and leaves the draft as it is.  A fuzziness is kept in double
    precision.  It is compared before, so a fraction below one may be kept as one. -/
def change (d : Draft) : Change → Except QueryError Unit × Draft
  | .occurrence (.given o) => (.ok (), { d with occurrence := o })
  | .occurrence .absent => (.error .missingOccurrence, d)
  | .occurrence (.other _ shown) => (.error (.unknownOccurrence shown), d)
  | .split on => (.ok (), { d with split := on })
  | .disjunct on => (.ok (), { d with disjunct := on })
  | .wildcarded on => (.ok (), { d with wildcarded := on })
  | .fuzziness f =>
    match Modifier.checkFuzziness f with
    | .ok () => (.ok (), { d with fuzziness := f.map fun g => .double g.toDouble })
    | .error e => (.error e, d)
  | .fraction q =>
    if 0 ≤ q ∧ q < 1 then (.ok (), { d with fuzziness := some (.double (.ofRat q)) })
    else (.error (.invalidFraction q), d)

/-- The names of the changes that need no argument. -/
def Change.named? (name : Text) : Option Change :=
  if name = "required".toList then some (.occurrence (.given .required))
  else if name = "prohibited".toList || name = "excluded".toList then
    some (.occurrence (.given .prohibited))
  else if name = "optional".toList then some (.occurrence (.given .plain))
  else if name = "wildcarded".toList then some (.wildcarded true)
  else if name = "not_wildcarded".toList then some (.wildcarded false)
  else if name = "do_split".toList then some (.split true)
  else if name = "dont_split".toList then some (.split false)
  else if name = "disjunct".toList then some (.disjunct true)
  else if name = "conjunct".toList then some (.disjunct false)
  else if name = "no_fuzziness".toList then some (.fuzziness none)
  else none

end Draft

namespace Modifier

/-- A modifier with the fuzziness replaced. -/
def withFuzziness (m : Modifier) (f : Option Number) : Except QueryError Modifier :=
  match (Draft.ofModifier m).change (.fuzziness f) with
  | (.ok (), d) => d.build
  | (.error e, _) => .error e

/-- A modifier with the occurrence replaced. -/
def withOccurrence (m : Modifier) (o : Occurrence) : Except QueryError Modifier :=
  ((Draft.ofModifier m).change (.occurrence (.given o))).2.build

/-- A modifier with the choice between any and all members replaced. -/
def withDisjunct (m : Modifier) (on : Bool) : Except QueryError Modifier :=
  ((Draft.ofModifier m).change (.disjunct on)).2.build

/-- A modifier with the choice of matching beginnings replaced. -/
def withWildcarded (m : Modifier) (on : Bool) : Except QueryError Modifier :=
  ((Draft.ofModifier m).change (.wildcarded on)).2.build

end Modifier
end SearchQuery
