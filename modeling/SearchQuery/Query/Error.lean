/-
  What can be wrong with a call on a query, and how each fault is told.
-/
import SearchQuery.Number

namespace SearchQuery

/-- A fault of a call. -/
inductive QueryError where
  /-- a fuzziness outside of 0 ≤ f < 1 -/
  | invalidFuzziness (f : Number)
  /-- a fraction outside of 0 ≤ f < 1 in the place of a fuzziness -/
  | invalidFraction (q : Rat)
  /-- a boost factor outside of 0 < f < 10000000 -/
  | invalidBoost (f : Number)
  /-- a modifier that has to be given is absent -/
  | missingModifier
  /-- the occurrence of a modifier is absent -/
  | missingOccurrence
  /-- a bound of a range is absent; both are kept as they are written -/
  | invalidRange (start stop : Text)
  /-- the template takes no more changes -/
  | locked
  /-- no field is open that could be closed -/
  | noOpenField
  /-- the text of an empty query is asked for -/
  | emptyQuery
  /-- something else stands where a modifier is expected -/
  | notModifier (kind : Text)
  /-- something else stands where an occurrence is expected -/
  | notOccurrence (kind : Text)
  /-- a name, as it is shown, that no occurrence has -/
  | unknownOccurrence (shown : Text)
  /-- an integer has too many digits to be written -/
  | unwritable
  deriving DecidableEq, Repr

/-- A fraction as it is written. -/
def fractionText (q : Rat) : Text :=
  Text.ofInt q.num ++ if q.den = 1 then [] else '/' :: Text.ofNat q.den

/-- The text of a fault. -/
def QueryError.message : QueryError → Text
  | .invalidFuzziness f =>
    "Fuzziness must be between 0 (inclusive) and 1 (exclusive), got ".toList ++ f.text
  | .invalidFraction q =>
    "Fuzziness must be between 0 (inclusive) and 1 (exclusive), got ".toList ++ fractionText q
  | .invalidBoost f =>
    "Boost factor must be greater than 0 and less than 10000000, got ".toList ++ f.text
  | .missingModifier => "The given modifier must not be None"
  | .missingOccurrence => "The given term modifier must not be None"
  | .invalidRange start stop =>
    "Invalid range [".toList ++ start ++ " TO ".toList ++ stop ++ "]: both bounds are required".toList
  | .locked => "Query builder has been locked, no changes possible"
  | .noOpenField => "end_field() called without an open field"
  | .emptyQuery => "The resulting query is empty, no argument or field was added"
  | .notModifier kind => "modifier must be a QueryModifier, bool or None, got ".toList ++ kind
  | .notOccurrence kind => "term_modifier must be a TermModifier, got ".toList ++ kind
  | .unknownOccurrence shown => shown ++ " is not a valid TermModifier".toList
  | .unwritable =>
    "Exceeds the limit (".toList ++ Text.ofNat Numeral.maxDigits
      ++ " digits) for integer string conversion; ".toList
      ++ "use sys.set_int_max_str_digits() to increase the limit".toList

/-- A fault as it gets told: where its text would show a number that may not be written, that is the
    fault. -/
def QueryError.told : QueryError → QueryError
  | .invalidFuzziness f => if f.isWritable then .invalidFuzziness f else .unwritable
  | .invalidBoost f => if f.isWritable then .invalidBoost f else .unwritable
  | e => e

end SearchQuery
