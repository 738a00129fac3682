import LintDispatch.Number.Numeral
import LintDispatch.Yaml.Error

/-!
Written dates and times: a date, and perhaps a time of day with a fraction of a second and a
distance from universal time.
-/

namespace LintDispatch.Yaml

/-- A written time of day. The distance is in minutes and is given for `Z` too. -/
structure WrittenTime where
  hour : Nat
  minute : Nat
  second : Nat
  fraction : List Char
  offset : Option Int
  deriving Repr

structure Timestamp where
  year : Nat
  month : Nat
  day : Nat
  /-- The month and the day have two digits each. -/
  padded : Bool
  time : Option WrittenTime
  deriving Repr

namespace Timestamp

/-- Reads at least `least` and at most `most` digits. -/
def digits? (least most : Nat) (s : List Char) : Option (List Char × List Char) :=
  let ds := (s.take most).takeWhile Char.isDigit
  if least ≤ ds.length then some (ds, s.drop ds.length) else none

def number (ds : List Char) : Nat :=
  (Numeral.digits? 10 ds).getD 0

def after? (c : Char) : List Char → Option (List Char)
  | [] => none
  | x :: s => if x = c then some s else none

def isSpace (c : Char) : Bool :=
  c = ' ' || c = '\t'

/-- What separates a time from its date. -/
def afterGap? : List Char → Option (List Char)
  | [] => none
  | c :: s =>
    if c = 'T' ∨ c = 't' then some s
    else if isSpace c then some (s.dropWhile isSpace)
    else none

/-- The distance from universal time, up to the end of the text. -/
def zone? (s : List Char) : Option (Option Int) :=
  if s.isEmpty then some none
  else
    match s.dropWhile isSpace with
    | ['Z'] => some (some 0)
    | sign :: s =>
      if sign = '+' ∨ sign = '-' then do
        let (hour, s) ← digits? 1 2 s
        let minutes ←
          if s.isEmpty then some 0
          else do
            let s ← after? ':' s
            let (minute, s) ← digits? 2 2 s
            if s.isEmpty then some (number minute) else none
        let n : Int := number hour * 60 + minutes
        return some (if sign = '-' then -n else n)
      else none
    | [] => none

def time? (s : List Char) : Option WrittenTime := do
  let (hour, s) ← digits? 1 2 s
  let (minute, s) ← (after? ':' s).bind (digits? 2 2)
  let (second, s) ← (after? ':' s).bind (digits? 2 2)
  let (fraction, s) :=
    match s with
    | '.' :: s => (s.takeWhile Char.isDigit, s.dropWhile Char.isDigit)
    | s => ([], s)
  let offset ← zone? s
  return ⟨number hour, number minute, number second, fraction, offset⟩

def ofText? (s : List Char) : Option Timestamp := do
  let (year, s) ← digits? 4 4 s
  let (month, s) ← (after? '-' s).bind (digits? 1 2)
  let (day, s) ← (after? '-' s).bind (digits? 1 2)
  let time ← if s.isEmpty then some none else ((afterGap? s).bind time?).map some
  return ⟨number year, number month, number day, month.length = 2 && day.length = 2, time⟩

/-- Six digits of a fraction, the rest cut off. -/
def microseconds (fraction : List Char) : Nat :=
  number ((fraction ++ List.replicate 6 '0').take 6)

/-- Distances have to be shorter than a day. -/
def checkOffset (offset : Option Int) : Except Error Unit :=
  match offset with
  | some n => if n ≤ -1440 ∨ 1440 ≤ n then .error (.offset n) else .ok ()
  | none => .ok ()

def checkTime (t : WrittenTime) : Except Error Unit :=
  if 23 < t.hour then .error .hour
  else if 59 < t.minute then .error .minute
  else if 59 < t.second then .error .second
  else .ok ()

def checkDate (t : Timestamp) : Except Error Date :=
  match Date.ofNumbers t.year t.month t.day with
  | .ok d => .ok d
  | .error e => .error (.date e)

/-- The moment that is written. -/
def moment (t : Timestamp) : Except Error Moment :=
  match t.time with
  | none => (checkDate t).map .date
  | some w => do
    checkOffset w.offset
    let d ← checkDate t
    checkTime w
    return .time ⟨d, w.hour, w.minute, w.second, microseconds w.fraction, w.offset⟩

end Timestamp

end LintDispatch.Yaml
