/-
  Days and points in time.

  1. **Days** — year, month and day.  `Date.check` says whether the calendar has such a day.
  2. **Points in time** — a day and a time of day, at an offset from universal time if one is known.
     `Moment.check` says whether there is such a time.  Two points with known offsets are the same when
     they are the same in universal time.
-/
import SearchQuery.Text.Digit

namespace SearchQuery

/-! ## Days -/

/-- A day. -/
structure Date where
  year : Nat
  month : Nat
  day : Nat
  deriving DecidableEq, Repr

/-- Why there is no such day or time. -/
inductive CalendarFault where
  | year (n : Nat)
  | month
  | day
  | hour
  | minute
  | second
  /-- an offset, in minutes, of a whole day or more -/
  | offset (minutes : Int)
  deriving DecidableEq, Repr

namespace Date

/-- A number in decimal digits, with zeros in front up to a width. -/
def padded (width n : Nat) : Text :=
  let digits := Text.ofNat n
  List.replicate (width - digits.length) '0' ++ digits

/-- A day as year, month and day of four, two and two digits. -/
def text (d : Date) : Text :=
  padded 4 d.year ++ '-' :: padded 2 d.month ++ '-' :: padded 2 d.day

/-- A day as it is shown inside other values. -/
def shown (d : Date) : Text :=
  "datetime.date(".toList ++ Text.ofNat d.year ++ ", ".toList ++ Text.ofNat d.month
    ++ ", ".toList ++ Text.ofNat d.day ++ ")".toList

/-- Whether a year has a 29th of February. -/
def isLeap (year : Nat) : Bool := year % 4 = 0 && (year % 100 != 0 || year % 400 = 0)

/-- The number of days in a month. -/
def daysIn (year month : Nat) : Nat :=
  if month = 2 then (if isLeap year then 29 else 28)
  else if [4, 6, 9, 11].contains month then 30 else 31

/-- A day, if the calendar has it. -/
def check (d : Date) : Except CalendarFault Date :=
  if d.year = 0 then .error (.year d.year)
  else if d.month = 0 || 12 < d.month then .error .month
  else if d.day = 0 || daysIn d.year d.month < d.day then .error .day
  else .ok d

/-- The number of a day, counted from the first day of the year 1. -/
def number (d : Date) : Nat :=
  let y := d.year - 1
  365 * y + y / 4 - y / 100 + y / 400
    + (List.range (d.month - 1)).foldl (fun n m => n + daysIn d.year (m + 1)) 0 + d.day

end Date

/-! ## Points in time -/

/-- A point in time; the offset from universal time is in minutes. -/
structure Moment where
  date : Date
  hour : Nat
  minute : Nat
  second : Nat
  microsecond : Nat := 0
  offset : Option Int := none
  deriving DecidableEq, Repr

namespace Moment

/-- An offset as it stands behind a time. -/
def offsetText (minutes : Int) : Text :=
  (if minutes < 0 then '-' else '+') :: Date.padded 2 (minutes.natAbs / 60)
    ++ ':' :: Date.padded 2 (minutes.natAbs % 60)

/-- A point in time, with something between day and time. -/
def textWith (between : Char) (m : Moment) : Text :=
  m.date.text ++ between :: Date.padded 2 m.hour ++ ':' :: Date.padded 2 m.minute
    ++ ':' :: Date.padded 2 m.second
    ++ (if m.microsecond = 0 then [] else '.' :: Date.padded 6 m.microsecond)
    ++ (match m.offset with | none => [] | some minutes => offsetText minutes)

/-- A point in time as it is written. -/
def text (m : Moment) : Text := m.textWith ' '

/-- A span of minutes as it is shown inside other values. -/
def spanShown (minutes : Int) : Text :=
  let days := Int.fdiv minutes 1440
  let seconds := Int.fmod minutes 1440 * 60
  let parts : List Text :=
    (if days = 0 then [] else ["days=".toList ++ Text.ofInt days])
      ++ (if seconds = 0 then [] else ["seconds=".toList ++ Text.ofInt seconds])
  "datetime.timedelta(".toList ++ (if parts.isEmpty then ['0'] else Text.join [',', ' '] parts) ++ [')']

/-- A point in time as it is shown inside other values. -/
def shown (m : Moment) : Text :=
  let counts := [m.date.year, m.date.month, m.date.day, m.hour, m.minute]
    ++ (if m.second = 0 && m.microsecond = 0 then [] else [m.second])
    ++ (if m.microsecond = 0 then [] else [m.microsecond])
  let zone : Text := match m.offset with
    | none => []
    | some 0 => ", tzinfo=datetime.timezone.utc"
    | some minutes => ", tzinfo=datetime.timezone(".toList ++ spanShown minutes ++ [')']
  "datetime.datetime(".toList ++ Text.join [',', ' '] (counts.map Text.ofNat) ++ zone ++ [')']

/-- A point in time, if there is such a one.  The offset is looked at first. -/
def check (m : Moment) : Except CalendarFault Moment := do
  if let some minutes := m.offset then
    if 1440 ≤ minutes.natAbs then throw (.offset minutes)
  let _ ← m.date.check
  if 23 < m.hour then throw .hour
  else if 59 < m.minute then throw .minute
  else if 59 < m.second then throw .second
  else return m

/-- The number of minutes to a point in time, in universal time if its offset is known. -/
def minutes (m : Moment) : Int :=
  ((m.date.number * 24 + m.hour) * 60 + m.minute : Nat) - m.offset.getD 0

/-- Whether two points in time are the same. -/
def same (a b : Moment) : Bool :=
  a.offset.isSome == b.offset.isSome && a.minutes == b.minutes && a.second == b.second
    && a.microsecond == b.microsecond

end Moment

/-- The text of a fault. -/
def CalendarFault.message : CalendarFault → Text
  | .year n => "year ".toList ++ Text.ofNat n ++ " is out of range".toList
  | .month => "month must be in 1..12"
  | .day => "day is out of range for month"
  | .hour => "hour must be in 0..23"
  | .minute => "minute must be in 0..59"
  | .second => "second must be in 0..59"
  | .offset minutes =>
    "offset must be a timedelta strictly between -timedelta(hours=24) and timedelta(hours=24), not "
      ++ Moment.spanShown minutes ++ ['.']

example : (Date.mk 2024 2 29).check = .ok ⟨2024, 2, 29⟩ := by rfl
example : (Date.mk 2023 2 29).check = .error .day := by rfl
example : (Date.mk 1 1 1).number = 1 ∧ (Date.mk 2000 3 1).number = 730180 := by decide
example : (Moment.mk ⟨2001, 12, 14⟩ 21 59 43 100000 (some (-300))).text
    = "2001-12-14 21:59:43.100000-05:00".toList := by decide

end SearchQuery
