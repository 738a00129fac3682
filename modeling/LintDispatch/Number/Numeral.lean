import LintDispatch.Number.Double
import LintDispatch.Text.Blank

/-!
Reading numerals. Whole numbers are read in a base, with letters for the digits from ten on and an
optional base mark; decimal numbers have an optional fraction and exponent, or are one of the names
of infinity and of the undefined number. Blanks around a numeral do not count.
-/

namespace LintDispatch.Numeral

/-- The zeros of the scripts with decimal digits; the digits 1 to 9 follow each of them. -/
def zeroDigits : List Nat :=
  [0x30, 0x660, 0x6f0, 0x7c0, 0x966, 0x9e6, 0xa66, 0xae6, 0xb66, 0xbe6, 0xc66, 0xce6, 0xd66,
   0xde6, 0xe50, 0xed0, 0xf20, 0x1040, 0x1090, 0x17e0, 0x1810, 0x1946, 0x19d0, 0x1a80, 0x1a90,
   0x1b50, 0x1bb0, 0x1c40, 0x1c50, 0xa620, 0xa8d0, 0xa900, 0xa9d0, 0xa9f0, 0xaa50, 0xabf0, 0xff10,
   0x104a0, 0x10d30, 0x11066, 0x110f0, 0x11136, 0x111d0, 0x112f0, 0x11450, 0x114d0, 0x11650,
   0x116c0, 0x11730, 0x118e0, 0x11950, 0x11c50, 0x11d50, 0x11da0, 0x16a60, 0x16ac0, 0x16b50,
   0x1d7ce, 0x1d7d8, 0x1d7e2, 0x1d7ec, 0x1d7f6, 0x1e140, 0x1e2f0, 0x1e950, 0x1fbf0]

def decimalDigit? (c : Char) : Option Nat :=
  (zeroDigits.find? fun z => z ≤ c.toNat && c.toNat ≤ z + 9).map (c.toNat - ·)

def digitValue? (c : Char) : Option Nat :=
  if 'a' ≤ c ∧ c ≤ 'z' then some (c.toNat - 87)
  else if 'A' ≤ c ∧ c ≤ 'Z' then some (c.toNat - 55)
  else decimalDigit? c

/-- The value of a non-empty run of digits below `base`, in front of which `value` was read. -/
def digitsFrom? (base : Nat) (value : Nat) : List Char → Option Nat
  | [] => some value
  | c :: s =>
    match digitValue? c with
    | some d => if d < base then digitsFrom? base (value * base + d) s else none
    | none => none

def digits? (base : Nat) (s : List Char) : Option Nat :=
  if s.isEmpty then none else digitsFrom? base 0 s

def isSpace (c : Char) : Bool :=
  c = ' ' || (9 ≤ c.toNat && c.toNat ≤ 13)

/-- Drops the blanks around a numeral; in ASCII these are the space and the five characters from
the tab on. -/
def strip (s : List Char) : List Char :=
  let blank (c : Char) : Bool := isSpace c || (128 ≤ c.toNat && Text.isBlank c)
  ((s.dropWhile blank).reverse.dropWhile blank).reverse

def splitSign : List Char → Bool × List Char
  | '-' :: s => (true, s)
  | '+' :: s => (false, s)
  | s => (false, s)

/-- Drops the mark of a base, such as `0x`, in front of its digits. -/
def dropMark (base : Nat) : List Char → List Char
  | '0' :: mark :: s =>
    let marks := if base = 16 then ['x', 'X'] else if base = 8 then ['o', 'O']
      else if base = 2 then ['b', 'B'] else []
    if mark ∈ marks then s else '0' :: mark :: s
  | s => s

def int? (base : Nat) (s : List Char) : Option Int :=
  let (negative, body) := splitSign (strip s)
  (digits? base (dropMark base body)).map fun n => if negative then -(n : Int) else n

/-- Splits off the leading decimal digits. -/
def spanDigits (s : List Char) : List Nat × List Char :=
  ((s.takeWhile fun c => (decimalDigit? c).isSome).filterMap decimalDigit?,
    s.dropWhile fun c => (decimalDigit? c).isSome)

def ofDigits (ds : List Nat) : Nat :=
  ds.foldl (fun n d => n * 10 + d) 0

/-- The exponent after the fraction: nothing, or a mark and a signed run of digits. -/
def exponent? : List Char → Option Int
  | [] => some 0
  | c :: s =>
    if c = 'e' ∨ c = 'E' then
      let (negative, body) := splitSign s
      match spanDigits body with
      | ([], _) => none
      | (ds, []) => some (if negative then -(ofDigits ds : Int) else ofDigits ds)
      | _ => none
    else none

def magnitude? (negative : Bool) (s : List Char) : Option Double :=
  let (whole, rest) := spanDigits s
  let (fraction, rest) :=
    match rest with
    | '.' :: rest => spanDigits rest
    | _ => ([], rest)
  if whole.isEmpty && fraction.isEmpty then none
  else
    (exponent? rest).map fun e =>
      .ofDecimal negative (ofDigits (whole ++ fraction)) (e - fraction.length)

def double? (s : List Char) : Option Double :=
  let (negative, body) := splitSign (strip s)
  let name := String.ofList (body.map Char.toLower)
  if name = "inf" ∨ name = "infinity" then some (.infinite negative)
  else if name = "nan" then some .nan
  else magnitude? negative body

end LintDispatch.Numeral
