/-!
Binary floating point with 53 significant bits, as exact data. A finite number is a sign, a
mantissa and a power of two; every operation rounds the exact rational result to the nearest
number, a tie going to the even mantissa.
-/

namespace LintDispatch

inductive Double where
  | nan
  | infinite (negative : Bool)
  | finite (negative : Bool) (mantissa : Nat) (exponent : Int)
  deriving DecidableEq, Repr, Inhabited

namespace Double

def minExponent : Int := -1074

def maxExponent : Int := 971

def zero (negative : Bool) : Double := .finite negative 0 minExponent

/-- The greatest `k` with `2 ^ k ≤ num / den`, for positive `num` and `den`. -/
def floorLog2 (num den : Nat) : Int :=
  let k : Int := (num.log2 : Int) - den.log2
  let reached := if 0 ≤ k then den * Nat.pow 2 k.toNat ≤ num else den ≤ num * Nat.pow 2 (-k).toNat
  if reached then k else k - 1

/-- The integer nearest to `num / den`, a tie going to the even one. -/
def roundDiv (num den : Nat) : Nat :=
  let q := num / den
  let r := num % den
  if 2 * r < den then q
  else if den < 2 * r then q + 1
  else if q % 2 = 0 then q else q + 1

/-- The double nearest to `num / den`. -/
def ofRatio (negative : Bool) (num den : Nat) : Double :=
  if num = 0 then zero negative
  else
    let e := max minExponent (floorLog2 num den - 52)
    let m :=
      if 0 ≤ e then roundDiv num (den * Nat.pow 2 e.toNat)
      else roundDiv (num * Nat.pow 2 (-e).toNat) den
    let (m, e) := if m = Nat.pow 2 53 then (Nat.pow 2 52, e + 1) else (m, e)
    if m = 0 then zero negative
    else if maxExponent < e then .infinite negative
    else .finite negative m e

def ofInt (n : Int) : Double :=
  ofRatio (n < 0) n.natAbs 1

/-- The double nearest to `± digits · 10 ^ exponent`. Exponents far outside the range of doubles are
settled without computing the power. -/
def ofDecimal (negative : Bool) (digits : Nat) (exponent : Int) : Double :=
  if digits = 0 then zero negative
  else if 310 < exponent then .infinite negative
  else if exponent + digits.log2 / 3 + 1 < -330 then zero negative
  else if 0 ≤ exponent then ofRatio negative (digits * Nat.pow 10 exponent.toNat) 1
  else ofRatio negative digits (Nat.pow 10 (-exponent).toNat)

def isNegative : Double → Bool
  | .nan => false
  | .infinite negative => negative
  | .finite negative _ _ => negative

def neg : Double → Double
  | .nan => .nan
  | .infinite negative => .infinite (!negative)
  | .finite negative m e => .finite (!negative) m e

/-- The magnitude of a finite number as a ratio. -/
def ratio (m : Nat) (e : Int) : Nat × Nat :=
  if 0 ≤ e then (m * Nat.pow 2 e.toNat, 1) else (m, Nat.pow 2 (-e).toNat)

/-- Numerator of a finite number over the common power `2 ^ low`, where `low ≤ e`. -/
def scaled (negative : Bool) (m : Nat) (e low : Int) : Int :=
  let n : Int := m * Nat.pow 2 (e - low).toNat
  if negative then -n else n

def add : Double → Double → Double
  | .nan, _ => .nan
  | _, .nan => .nan
  | .infinite a, .infinite b => if a = b then .infinite a else .nan
  | .infinite a, _ => .infinite a
  | _, .infinite b => .infinite b
  | .finite s m e, .finite t n f =>
    let low := min e f
    let sum := scaled s m e low + scaled t n f low
    if sum = 0 then zero (s && t)
    else
      let (num, den) := ratio sum.natAbs low
      ofRatio (sum < 0) num den

def sub (x y : Double) : Double :=
  add x (neg y)

def mul : Double → Double → Double
  | .nan, _ => .nan
  | _, .nan => .nan
  | .infinite a, .infinite b => .infinite (a != b)
  | .infinite a, .finite t n _ => if n = 0 then .nan else .infinite (a != t)
  | .finite s m _, .infinite b => if m = 0 then .nan else .infinite (s != b)
  | .finite s m e, .finite t n f =>
    let (num, den) := ratio (m * n) (e + f)
    ofRatio (s != t) num den

def divNat (x : Double) (d : Nat) : Double :=
  match x with
  | .nan => .nan
  | .infinite a => .infinite a
  | .finite s m e =>
    let (num, den) := ratio m e
    ofRatio s num (den * d)

/-- Rounds a finite number toward zero. -/
def truncate? : Double → Option Int
  | .finite s m e =>
    let (num, den) := ratio m e
    let n : Int := (num / den : Nat)
    some (if s then -n else n)
  | _ => none

def isFinite : Double → Bool
  | .finite _ _ _ => true
  | _ => false

/-- Numerical comparison with an integer: the number is finite and equal to it. -/
def equalsInt (x : Double) (n : Int) : Bool :=
  match x with
  | .finite s m e =>
    let (num, den) := ratio m e
    let v : Int := if s then -(num : Int) else num
    v == n * den
  | _ => false

def numEq : Double → Double → Bool
  | .infinite a, .infinite b => a == b
  | .finite s m e, .finite t n f =>
    let low := min e f
    scaled s m e low == scaled t n f low
  | _, _ => false

end Double

end LintDispatch
