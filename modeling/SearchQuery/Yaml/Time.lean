/-
  Days and points in time in YAML texts.

  A day is a year of four digits, a month and a day, with dashes in between.  A time of day may follow
  behind the letter T or behind blanks: hour, minute and second with colons in between, a fraction of the
  second, and an offset from universal time, for which the letter Z stands as well.
-/
import SearchQuery.Double.Numeral
import SearchQuery.Scalar
import SearchQuery.Yaml.Fault

namespace SearchQuery.Yaml

/-! ## Parts -/

/-- The number at the start of a text, whose digits are at least `least` and at most `most`, with what
    follows it. -/
def number? (least most : Nat) (t : Text) : Option (Nat × Text) :=
  let digits := t.takeWhile Numeral.isDigit
  if least ≤ digits.length && digits.length ≤ most then
    some (Numeral.digitsValue digits, t.drop digits.length)
  else none

/-- The number behind a sign. -/
def numberBehind? (sign : Char) (least most : Nat) : Text → Option (Nat × Text)
  | c :: t => if c = sign then number? least most t else none
  | [] => none

/-- The fraction of a second at the start of a text, in millionths, with what follows it. -/
def fraction : Text → Nat × Text
  | '.' :: t =>
    let digits := t.takeWhile Numeral.isDigit
    (Numeral.digitsValue ((digits ++ List.replicate 6 '0').take 6), t.drop digits.length)
  | t => (0, t)

/-- The offset from universal time behind a sign, in minutes. -/
def signedOffset? (negative : Bool) (t : Text) : Option (Option Int) := do
  let (hours, t) ← number? 1 2 t
  let (minutes, t) ← match t with
    | [] => some (0, t)
    | _ => numberBehind? ':' 2 2 t
  let n : Int := hours * 60 + minutes
  if t.isEmpty then some (some (if negative then -n else n)) else none

/-- The offset from universal time that a text is, in minutes; an empty one says nothing of it. -/
def offset? (t : Text) : Option (Option Int) :=
  if t.isEmpty then some none
  else match t.dropWhile fun c => c = ' ' || c = '\t' with
    | ['Z'] => some (some 0)
    | '+' :: t => signedOffset? false t
    | '-' :: t => signedOffset? true t
    | _ => none

/-- The time of day that a text is, on a day. -/
def timeOfDay? (d : Date) (t : Text) : Option Moment := do
  let (hour, t) ← number? 1 2 t
  let (minute, t) ← numberBehind? ':' 2 2 t
  let (second, t) ← numberBehind? ':' 2 2 t
  let (microsecond, t) := fraction t
  return ⟨d, hour, minute, second, microsecond, ← offset? t⟩

/-! ## Times -/

/-- What a text that looks like a time says. -/
inductive Time where
  | day (d : Date)
  | moment (m : Moment)
  deriving DecidableEq, Repr

/-- The time that a text looks like, whether the calendar has it or not.  If `strict`, month and day have
    two digits unless a time of day follows. -/
def time? (strict : Bool) (t : Text) : Option Time := do
  let (year, t) ← number? 4 4 t
  let (month, u) ← numberBehind? '-' 1 2 t
  let (day, v) ← numberBehind? '-' 1 2 u
  let d : Date := ⟨year, month, day⟩
  match v with
  | [] => if strict && t.length < 6 then none else return .day d
  | c :: rest =>
    if c = 'T' || c = 't' then return .moment (← timeOfDay? d rest)
    else if c = ' ' || c = '\t' then
      return .moment (← timeOfDay? d (rest.dropWhile fun c => c = ' ' || c = '\t'))
    else none

/-- A time as a scalar, if the calendar has it. -/
def Time.scalar (t : Time) : Except CalendarFault Scalar :=
  match t with
  | .day d => d.check.map .date
  | .moment m => m.check.map .moment

example : time? true "2001-1-1" = none ∧ time? false "2001-1-1" = some (.day ⟨2001, 1, 1⟩) := by
  decide
example : time? true "2001-1-1 1:02:03.5 +1"
    = some (.moment ⟨⟨2001, 1, 1⟩, 1, 2, 3, 500000, some 60⟩) := by decide

end SearchQuery.Yaml
