import LintDispatch.Number.Double

/-!
Decimal text of a nonnegative ratio to a given number of places, after the point or behind the first
digit. The exact value is rounded to the nearest such number, a tie going to the even digit.
-/

namespace LintDispatch.Places

def digits (least n : Nat) : List Char :=
  let ds := Nat.toDigits 10 n
  List.replicate (least - ds.length) '0' ++ ds

/-- Text in which the last `places` digits stand behind the point. -/
def pointed (places : Nat) (ds : List Char) : List Char :=
  let whole := ds.length - places
  ds.take whole ++ if places = 0 then [] else '.' :: ds.drop whole

/-- `num / den` with `places` digits behind the point. -/
def fixed (places num den : Nat) : List Char :=
  pointed places (digits (places + 1) (Double.roundDiv (num * Nat.pow 10 places) den))

/-- `num / den` over the power of ten `e`, rounded to `places` digits. -/
def scaled (places num den : Nat) (e : Int) : Nat :=
  let shift := (places : Int) - e
  if 0 ≤ shift then Double.roundDiv (num * Nat.pow 10 shift.toNat) den
  else Double.roundDiv num (den * Nat.pow 10 (-shift).toNat)

/-- The power of ten of the first digit of a positive ratio. -/
def exponentOf (num den : Nat) : Int :=
  let e : Int := ((Nat.toDigits 10 num).length : Int) - (Nat.toDigits 10 den).length
  let reached := if 0 ≤ e then den * Nat.pow 10 e.toNat ≤ num else den ≤ num * Nat.pow 10 (-e).toNat
  if reached then e else e - 1

/-- The digits of `num / den` with `places` behind the first, and the power of ten of the first. -/
def leading (places num den : Nat) : List Char × Int :=
  if num = 0 then (digits (places + 1) 0, 0)
  else
    let e := exponentOf num den
    let n := scaled places num den e
    if Nat.pow 10 (places + 1) ≤ n then (digits (places + 1) (n / 10), e + 1)
    else (digits (places + 1) n, e)

/-- Digits with a point behind the first, and an exponent of two digits or more. -/
def scientific (mark : Char) (ds : List Char) (e : Int) : List Char :=
  pointed (ds.length - 1) ds ++ [mark, if e < 0 then '-' else '+'] ++ digits 2 e.natAbs

/-- Drops the zeros at the end of a fraction, and the point if nothing is left behind it. -/
def dropZeros (s : List Char) : List Char :=
  if s.contains '.' then
    let s := (s.reverse.dropWhile (· = '0')).reverse
    if s.getLast? = some '.' then s.dropLast else s
  else s

/-- The shorter way of writing `num / den` with at most `significant` digits: a power of ten below
`1e-4` or beyond the digits asks for an exponent. -/
def general (mark : Char) (keepZeros : Bool) (significant num den : Nat) : List Char :=
  let significant := max significant 1
  let (ds, e) := leading (significant - 1) num den
  let trimmed (s : List Char) : List Char := if keepZeros then s else dropZeros s
  if -4 ≤ e ∧ e < significant then trimmed (fixed (significant - 1 - e).toNat num den)
  else
    let body := pointed (ds.length - 1) ds
    trimmed body ++ [mark, if e < 0 then '-' else '+'] ++ digits 2 e.natAbs

end LintDispatch.Places
