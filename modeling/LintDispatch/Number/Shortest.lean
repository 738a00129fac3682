import LintDispatch.Number.Double

/-!
The text of a double: the fewest decimal digits that read back as the same number, and of those the
nearest. Exponents from -4 up to 15 are written positionally.
-/

namespace LintDispatch.Double

/-- The value is at least one tenth of the power of ten with this exponent, and below that power. -/
def decimalExponent (num den : Nat) : Int :=
  if den ≤ num then (Nat.toDigits 10 (num / den)).length
  else
    let q := (den + num - 1) / num
    if q ≤ 1 then 1 else 1 - (Nat.toDigits 10 (q - 1)).length

/-- `num / den` counted in units of `10 ^ place`, rounded down, with remainder and unit. -/
def onGrid (num den : Nat) (place : Int) : Nat × Nat × Nat :=
  let (n, d) :=
    if 0 ≤ place then (num, den * Nat.pow 10 place.toNat)
    else (num * Nat.pow 10 (-place).toNat, den)
  (n / d, n % d, d)

/-- The neighbours of the value on the grid of `10 ^ place` that read back, the nearer one first. -/
def gridHit? (m : Nat) (e : Int) (num den : Nat) (place : Int) : Option Nat :=
  let (low, rest, unit) := onGrid num den place
  let readsBack (n : Nat) : Bool := ofDecimal false n place == .finite false m e
  let preferHigh := unit < 2 * rest || (unit == 2 * rest && low % 2 == 1)
  let (first, second) := if preferHigh then (low + 1, low) else (low, low + 1)
  if readsBack first then some first
  else if readsBack second then some second
  else none

/-- The first grid, from coarse to fine, with a point that reads back: its point and its place. -/
def shortestFrom (m : Nat) (e : Int) (num den : Nat) : Nat → Int → Nat × Int
  | 0, place => (num / den, place)
  | tries + 1, place =>
    match gridHit? m e num den place with
    | some n => (n, place)
    | none => shortestFrom m e num den tries (place - 1)

/-- Digits of a positive finite number and the exponent of the power of ten just above it. -/
def shortestDigits (m : Nat) (e : Int) : List Char × Int :=
  let (num, den) := ratio m e
  let (n, place) := shortestFrom m e num den 17 (decimalExponent num den - 1)
  let digits := Nat.toDigits 10 n
  let kept := (digits.reverse.dropWhile (· = '0')).reverse
  (kept, digits.length + place)

/-- Digits with the point `point` places after their start. -/
def positional (digits : List Char) (point : Int) : List Char :=
  if point ≤ 0 then ['0', '.'] ++ List.replicate (-point).toNat '0' ++ digits
  else
    let whole := digits.take point.toNat
    let padding := List.replicate (point.toNat - digits.length) '0'
    let fraction := digits.drop point.toNat
    whole ++ padding ++ ['.'] ++ (if fraction.isEmpty then ['0'] else fraction)

/-- One digit, a point where more follow, and a signed exponent of at least two digits. -/
def scientific (digits : List Char) (exponent : Int) : List Char :=
  let lead := digits.take 1 ++ (if digits.length ≤ 1 then [] else '.' :: digits.drop 1)
  let size := Nat.toDigits 10 exponent.natAbs
  let padded := if size.length < 2 then '0' :: size else size
  lead ++ ['e', if exponent < 0 then '-' else '+'] ++ padded

def magnitudeText (m : Nat) (e : Int) : List Char :=
  if m = 0 then ['0', '.', '0']
  else
    let (digits, point) := shortestDigits m e
    if -4 < point ∧ point ≤ 16 then positional digits point else scientific digits (point - 1)

def text : Double → String
  | .nan => "nan"
  | .infinite negative => if negative then "-inf" else "inf"
  | .finite negative m e => String.ofList ((if negative then ['-'] else []) ++ magnitudeText m e)

end LintDispatch.Double
