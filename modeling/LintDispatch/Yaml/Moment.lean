/-!
Calendar dates and times of day. A time may carry its distance from universal time; two times with
a distance are the same moment if they name the same instant.
-/

namespace LintDispatch

structure Date where
  year : Nat
  month : Nat
  day : Nat
  deriving DecidableEq, Repr, Inhabited

/-- A date with a time of day; `offset` is the distance from universal time in minutes. -/
structure DateTime where
  date : Date
  hour : Nat
  minute : Nat
  second : Nat
  microsecond : Nat
  offset : Option Int
  deriving DecidableEq, Repr, Inhabited

inductive Moment where
  | date (d : Date)
  | time (t : DateTime)
  deriving DecidableEq, Repr

namespace Date

def isLeap (year : Nat) : Bool :=
  year % 4 = 0 && (year % 100 != 0 || year % 400 = 0)

def daysInMonth (year month : Nat) : Nat :=
  if month = 2 then (if isLeap year then 29 else 28)
  else if month = 4 ∨ month = 6 ∨ month = 9 ∨ month = 11 then 30
  else 31

/-- Why three numbers are no date, the first fault first. -/
inductive Error where
  | year (n : Nat)
  | month
  | day
  deriving DecidableEq, Repr

def Error.message : Error → String
  | .year n => "year " ++ toString n ++ " is out of range"
  | .month => "month must be in 1..12"
  | .day => "day is out of range for month"

def ofNumbers (year month day : Nat) : Except Error Date :=
  if year = 0 then .error (.year year)
  else if month = 0 ∨ 12 < month then .error .month
  else if day = 0 ∨ daysInMonth year month < day then .error .day
  else .ok ⟨year, month, day⟩

/-- Days from the first of January of the year 1. -/
def ordinal (d : Date) : Int :=
  let y : Int := d.year - 1
  let before := (List.range (d.month - 1)).foldl (fun n m => n + daysInMonth d.year (m + 1)) 0
  y * 365 + y / 4 - y / 100 + y / 400 + before + d.day

def padded (width n : Nat) : String :=
  let digits := Nat.toDigits 10 n
  String.ofList (List.replicate (width - digits.length) '0' ++ digits)

def text (d : Date) : String :=
  padded 4 d.year ++ "-" ++ padded 2 d.month ++ "-" ++ padded 2 d.day

end Date

namespace DateTime

/-- Microseconds of the instant, universal time where a distance is given. -/
def instant (t : DateTime) : Int :=
  (((t.date.ordinal * 24 + t.hour) * 60 + t.minute - t.offset.getD 0) * 60 + t.second) * 1000000
    + t.microsecond

def same (t u : DateTime) : Bool :=
  t.offset.isSome == u.offset.isSome && t.instant == u.instant

def offsetText (minutes : Int) : String :=
  let n := minutes.natAbs
  (if minutes < 0 then "-" else "+") ++ Date.padded 2 (n / 60) ++ ":" ++ Date.padded 2 (n % 60)

def text (t : DateTime) : String :=
  t.date.text ++ "T" ++ Date.padded 2 t.hour ++ ":" ++ Date.padded 2 t.minute ++ ":"
    ++ Date.padded 2 t.second
    ++ (if t.microsecond = 0 then "" else "." ++ Date.padded 6 t.microsecond)
    ++ (t.offset.map offsetText).getD ""

end DateTime

namespace Moment

def same : Moment → Moment → Bool
  | .date d, .date e => d == e
  | .time t, .time u => t.same u
  | _, _ => false

def text : Moment → String
  | .date d => d.text
  | .time t => t.text

end Moment

end LintDispatch
