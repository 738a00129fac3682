import LintDispatch.Console.Report
import LintDispatch.Number.Shortest

/-!
Elapsed time. A clock reading is a whole number of seconds or a double; a duration is shown in
milliseconds, cut off after three decimal places.
-/

namespace LintDispatch

inductive Seconds where
  | whole (n : Int)
  | real (x : Double)
  deriving DecidableEq, Repr, Inhabited

namespace Seconds

/-- Why a duration has no milliseconds. -/
inductive Error where
  | undefined
  | infinite
  | tooLarge
  deriving DecidableEq, Repr

def Error.message : Error → String
  | .undefined => "cannot convert float NaN to integer"
  | .infinite => "cannot convert float infinity to integer"
  | .tooLarge => "int too large to convert to float"

def Error.report (e : Error) : Report :=
  .plain (if e = .undefined then "ValueError" else "OverflowError") e.message

def doubleOfInt (n : Int) : Except Error Double :=
  match Double.ofInt n with
  | .infinite _ => .error .tooLarge
  | x => .ok x

def toDouble : Seconds → Except Error Double
  | .whole n => doubleOfInt n
  | .real x => .ok x

/-- The time from reading `start` to reading `stop`. -/
def since (stop start : Seconds) : Except Error Seconds :=
  match stop, start with
  | .whole m, .whole n => .ok (.whole (m - n))
  | stop, start =>
    match stop.toDouble, start.toDouble with
    | .ok x, .ok y => .ok (.real (x.sub y))
    | .error e, _ => .error e
    | _, .error e => .error e

def thousand : Double := .ofInt 1000

/-- Whole microseconds, rounded toward zero. -/
def microseconds : Seconds → Except Error Int
  | .whole n => .ok (n * 1000 * 1000)
  | .real x =>
    match (x.mul thousand).mul thousand with
    | .nan => .error .undefined
    | .infinite _ => .error .infinite
    | y => .ok (y.truncate?.getD 0)

def milliseconds (duration : Seconds) : Except Error Double :=
  match duration.microseconds with
  | .error e => .error e
  | .ok n =>
    match doubleOfInt n with
    | .error e => .error e
    | .ok x => .ok (x.divNat 1000)

end Seconds

end LintDispatch
