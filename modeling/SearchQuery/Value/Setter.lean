/-
  Setters: how a caller changes a draft.

  A setter is called by its name.  Five setters take an argument: the one of the occurrence reads its
  name, those of the flags ask whether there is something in it, and that of the fuzziness wants a
  number or nothing.  The other setters stand for a change of their own and take nothing.  A call
  that is refused leaves the draft as it is.

  Nothing keeps a caller from giving a fraction, which is none of the values to search for but
  compares with numbers like one.
-/
import SearchQuery.Modifier.Draft
import SearchQuery.Value.Limit

namespace SearchQuery

/-- Why a call of a setter is refused. -/
inductive SetterFault where
  | query (e : QueryError)
  /-- a value that does not compare with numbers, of which the kind is kept -/
  | notNumber (kind : Text)
  /-- a name that no setter has -/
  | unknown (name : Text)
  deriving DecidableEq, Repr

/-- The text of a fault. -/
def SetterFault.message : SetterFault → Text
  | .query e => e.message
  | .notNumber kind => "'<=' not supported between instances of 'int' and '".toList ++ kind ++ ['\'']
  | .unknown name => "'ModifierBuilder' object has no attribute '".toList ++ name ++ ['\'']

/-- What a setter is given. -/
inductive SetterArg where
  | value (v : Value)
  | fraction (q : Rat)
  deriving Repr

/-- The kind of a value as it is named where it is compared with a number. -/
def Value.comparedKind : Value → Text
  | .scalar (.date _) => "datetime.date"
  | .scalar (.moment _) => "datetime.datetime"
  | v => v.kind

/-- The fuzziness that a value stands for: none, or a number. -/
def Value.asFuzziness : Value → Except SetterFault (Option Number)
  | .scalar .null => .ok none
  | .scalar (.number f) => .ok (some f)
  | .scalar .undefined => .ok (some (.double .nan))
  | v => .error (.notNumber v.comparedKind)

namespace SetterArg

/-- Whether what is given may be written. -/
def isWritable : SetterArg → Bool
  | .value v => v.isWritable
  | .fraction _ => true

/-- What may name an occurrence. -/
def namedOccurrence (qs : Queries) : SetterArg → Modifier.OccurrenceArg
  | .value v => v.namedOccurrence qs
  | .fraction q =>
    .other "Fraction" ("Fraction(".toList ++ Text.ofInt q.num ++ ", ".toList ++ Text.ofNat q.den
      ++ ")".toList)

/-- Whether there is something in what is given. -/
def truthy (qs : Queries) : SetterArg → Bool
  | .value v => v.truthy qs
  | .fraction q => q ≠ 0

/-- The change of the fuzziness that is asked for. -/
def asFuzziness : SetterArg → Except SetterFault Draft.Change
  | .value v => v.asFuzziness.map .fuzziness
  | .fraction q => .ok (.fraction q)

end SetterArg

namespace Draft

/-- The change that a setter makes, by its name and what it is given. -/
def Change.ofCall (qs : Queries) (name : Text) (a : SetterArg) : Except SetterFault Change :=
  if name = "term_modifier".toList then
    if a.isWritable then .ok (.occurrence (a.namedOccurrence qs)) else .error (.query .unwritable)
  else if name = "set_split".toList then .ok (.split (a.truthy qs))
  else if name = "set_disjunct".toList then .ok (.disjunct (a.truthy qs))
  else if name = "set_wildcarded".toList then .ok (.wildcarded (a.truthy qs))
  else if name = "set_fuzziness".toList then a.asFuzziness
  else match Change.named? name with
    | some c => .ok c
    | none => .error (.unknown name)

/-- Calls a setter. -/
def set (d : Draft) (qs : Queries) (name : Text) (a : SetterArg) : Except SetterFault Unit × Draft :=
  match Change.ofCall qs name a with
  | .error e => (.error e, d)
  | .ok c => ((d.change c).1.mapError fun e => .query e.told, (d.change c).2)

end Draft
end SearchQuery
