import LintDispatch.Number.Numeral
import LintDispatch.Number.Places
import LintDispatch.Shell.Arithmetic

/-!
Formatted output. Backslash escapes stand for control characters or, by octal digits, for bytes; a
format holds text and directives, each of which shows one argument, and is used again until no
argument is left.
-/

namespace LintDispatch.Shell.Format

def isOctal (c : Char) : Bool :=
  '0' ≤ c && c ≤ '7'

def octal (digits : Octets) : Char :=
  Char.ofNat ((digits.foldl (fun n c => 8 * n + (c.toNat - 48)) 0) % 256)

/-- What the characters behind a backslash stand for, and the rest. -/
def escaped : Octets → Octets × Octets
  | 'a' :: rest => (['\x07'], rest)
  | 'b' :: rest => (['\x08'], rest)
  | 'e' :: rest => (['\x1b'], rest)
  | 'f' :: rest => (['\x0c'], rest)
  | 'n' :: rest => (['\n'], rest)
  | 'r' :: rest => (['\r'], rest)
  | 't' :: rest => (['\t'], rest)
  | 'v' :: rest => (['\x0b'], rest)
  | '\\' :: rest => (['\\'], rest)
  | s =>
    let digits := (s.take 3).takeWhile isOctal
    if digits.isEmpty then (['\\'], s) else ([octal digits], s.drop digits.length)

/-- A text with its escapes resolved; `true` says that it asks for nothing to follow. A zero may
stand before the octal digits. -/
def unescape : Nat → Octets → Octets × Bool
  | 0, s => (s, false)
  | _, [] => ([], false)
  | _, '\\' :: 'c' :: _ => ([], true)
  | n + 1, '\\' :: rest =>
    let rest := match rest with
      | '0' :: d :: more => if isOctal d then d :: more else rest
      | _ => rest
    let (shown, rest) := escaped rest
    let (tail, stop) := unescape n rest
    (shown ++ tail, stop)
  | n + 1, c :: rest =>
    let (tail, stop) := unescape n rest
    (c :: tail, stop)

def resolve (s : Octets) : Octets × Bool :=
  unescape (s.length + 1) s

/-- A width or a precision: none, one that is written, or one that an argument gives. -/
inductive Amount where
  | none
  | written (n : Nat)
  | given
  deriving DecidableEq, Repr

structure Directive where
  flags : List Char
  width : Amount
  precision : Amount
  kind : Char
  deriving DecidableEq, Repr

inductive Part where
  | text (text : Octets)
  | directive (d : Directive)
  | invalid (text : Octets)
  | missing
  deriving DecidableEq, Repr

def flagChars : List Char := ['-', '0', '+', ' ', '#']

def wholeKinds : List Char := ['d', 'i', 'u', 'o', 'x', 'X']

def realKinds : List Char := ['e', 'E', 'f', 'F', 'g', 'G', 'a', 'A']

def kinds : List Char := wholeKinds ++ realKinds ++ ['c', 's', 'b']

/-- Reads an amount, which nothing else than digits or a star is. -/
def amount (default : Amount) (s : Octets) : Amount × Octets :=
  match s with
  | '*' :: rest => (.given, rest)
  | _ =>
    let digits := s.takeWhile Char.isDigit
    (if digits.isEmpty then default else .written (Octets.number digits), s.dropWhile Char.isDigit)

def directive (s : Octets) : Part × Octets :=
  let flags := s.takeWhile flagChars.contains
  let (width, rest) := amount .none (s.dropWhile flagChars.contains)
  let (precision, rest) := match rest with
    | '.' :: more => amount (.written 0) more
    | _ => (.none, rest)
  match rest with
  | [] => (.missing, [])
  | kind :: rest =>
    if kinds.contains kind then (.directive ⟨flags, width, precision, kind⟩, rest)
    else (.invalid ('%' :: s.take (s.length - rest.length)), [])

def parts : Nat → Octets → List Part
  | 0, _ => []
  | _, [] => []
  | n + 1, '%' :: '%' :: rest => .text ['%'] :: parts n rest
  | n + 1, '%' :: rest =>
    let (part, rest) := directive rest
    part :: parts n rest
  | n + 1, '\\' :: rest =>
    let (shown, rest) := escaped rest
    .text shown :: parts n rest
  | n + 1, c :: rest => .text [c] :: parts n rest

/-- How one argument is laid out. -/
structure Layout where
  flags : List Char
  width : Nat
  precision : Option Nat
  deriving DecidableEq, Repr

namespace Layout

def has (l : Layout) (flag : Char) : Bool :=
  l.flags.contains flag

def fill (l : Layout) (front body : Octets) (zeros : Bool) : Octets :=
  let missing := l.width - (front.length + body.length)
  if l.has '-' then front ++ body ++ List.replicate missing ' '
  else if zeros then front ++ List.replicate missing '0' ++ body
  else List.replicate missing ' ' ++ front ++ body

def sign (l : Layout) (negative : Bool) : Octets :=
  if negative then ['-'] else if l.has '+' then ['+'] else if l.has ' ' then [' '] else []

end Layout

def digitsIn (base : Nat) (upper : Bool) (n : Nat) : Octets :=
  (Nat.toDigits base n).map fun c => if upper then c.toUpper else c

/-- What is wrong with an argument that should be a number. -/
inductive Flaw where
  | notNumeric
  | unfinished
  | outOfRange
  deriving DecidableEq, Repr

def Flaw.message : Flaw → String
  | .notNumeric => "expected numeric value"
  | .unfinished => "not completely converted"
  | .outOfRange => "Numerical result out of range"

/-- What follows the sign of a numeral, and whether it is negative. -/
def signed (s : Octets) : Bool × Octets :=
  match s.dropWhile Arithmetic.isSpace with
  | '-' :: rest => (true, rest)
  | '+' :: rest => (false, rest)
  | s => (false, s)

/-- The digits of an integer with the mark of its base, and what follows. -/
def integer (s : Octets) : Option (Nat × Octets) :=
  let (base, digits) := Arithmetic.base s
  let run := digits.takeWhile fun c => (Arithmetic.digit? base c).isSome
  let value := run.foldl (fun n c => base * n + (Arithmetic.digit? base c).getD 0) 0
  if run.isEmpty then (if base = 16 then some (0, s.drop 1) else none)
  else some (value, digits.drop run.length)

/-- The integer that an argument stands for, in the range of the directive. -/
def whole (isSigned : Bool) (s : Octets) : Int × Option Flaw :=
  match s with
  | [] => (0, none)
  | '\'' :: rest => ((rest.headD '\x00').toNat, none)
  | '"' :: rest => ((rest.headD '\x00').toNat, none)
  | _ =>
    let (negative, body) := signed s
    match integer body with
    | none => (0, some .notNumeric)
    | some (n, rest) =>
      let v : Int := if negative then -(n : Int) else n
      let inRange := if isSigned then -(Nat.pow 2 63) ≤ v ∧ v < Nat.pow 2 63 else n < Nat.pow 2 64
      let clamped : Int :=
        if inRange then v
        else if !isSigned then Nat.pow 2 64 - 1
        else if negative then -(Nat.pow 2 63) else Nat.pow 2 63 - 1
      (clamped, if !rest.isEmpty then some .unfinished
        else if inRange then none else some .outOfRange)

/-- The text of a decimal numeral at the start, and what follows. -/
def numeralText (s : Octets) : Octets × Octets :=
  let whole := s.takeWhile Char.isDigit
  let rest := s.dropWhile Char.isDigit
  let (fraction, rest) := match rest with
    | '.' :: more => ('.' :: more.takeWhile Char.isDigit, more.dropWhile Char.isDigit)
    | _ => ([], rest)
  if whole.isEmpty && fraction.length ≤ 1 then ([], s)
  else
    match rest with
    | e :: more =>
      let (mark, more) := match more with
        | '-' :: more => (['-'], more)
        | '+' :: more => (['+'], more)
        | more => ([], more)
      let digits := more.takeWhile Char.isDigit
      if (e = 'e' || e = 'E') && !digits.isEmpty then
        (whole ++ fraction ++ [e] ++ mark ++ digits, more.dropWhile Char.isDigit)
      else (whole ++ fraction, rest)
    | [] => (whole ++ fraction, rest)

/-- The longest of some words that a text starts with, in small letters or large. -/
def wordAt? (words : List String) (s : Octets) : Option Octets :=
  (words.find? fun w => (s.take w.length).map Char.toLower = w.toList).map fun w => s.drop w.length

def real (s : Octets) : Double × Option Flaw :=
  match s with
  | [] => (.zero false, none)
  | '\'' :: rest => (.ofInt (rest.headD '\x00').toNat, none)
  | '"' :: rest => (.ofInt (rest.headD '\x00').toNat, none)
  | _ =>
    let (negative, body) := signed s
    let flawOf (rest : Octets) : Option Flaw := if rest.isEmpty then none else some .unfinished
    match wordAt? ["infinity", "inf"] body, wordAt? ["nan"] body, Arithmetic.base body with
    | some rest, _, _ => (.infinite negative, flawOf rest)
    | _, some rest, _ => (.nan, flawOf rest)
    | _, _, (16, _) =>
      match integer body with
      | some (n, rest) => (.ofRatio negative n 1, flawOf rest)
      | none => (.zero negative, some .notNumeric)
    | _, _, _ =>
      let (text, rest) := numeralText body
      if text.isEmpty then (.zero false, some .notNumeric)
      else
        match Numeral.magnitude? negative text with
        | some (.infinite n) => (.infinite n, some ((flawOf rest).getD .outOfRange))
        | some x => (x, flawOf rest)
        | none => (.zero false, some .notNumeric)

def showWhole (l : Layout) (kind : Char) (n : Int) : Octets :=
  let isSigned := kind = 'd' || kind = 'i'
  let magnitude := if isSigned then n.natAbs else (n % Nat.pow 2 64).toNat
  let digits := match kind with
    | 'o' => digitsIn 8 false magnitude
    | 'x' => digitsIn 16 false magnitude
    | 'X' => digitsIn 16 true magnitude
    | _ => digitsIn 10 false magnitude
  let digits := if l.precision = some 0 && magnitude = 0 then [] else digits
  let digits := List.replicate (l.precision.getD 0 - digits.length) '0' ++ digits
  let marked := l.has '#'
  let digits :=
    if marked && kind = 'o' && digits.head? != some '0' then '0' :: digits else digits
  let front : Octets :=
    if isSigned then l.sign (n < 0)
    else if marked && magnitude != 0 && kind = 'x' then ['0', 'x']
    else if marked && magnitude != 0 && kind = 'X' then ['0', 'X']
    else []
  l.fill front digits (l.has '0' && l.precision.isNone)

/-- The digits of a magnitude as the kind of the directive says. -/
def realDigits (l : Layout) (kind : Char) (num den : Nat) : Octets :=
  let places := l.precision.getD 6
  let mark := if kind.isUpper then 'E' else 'e'
  let withPoint (s : Octets) : Octets :=
    if l.has '#' && !s.contains '.' then
      s.takeWhile Char.isDigit ++ ['.'] ++ s.dropWhile Char.isDigit
    else s
  match kind.toLower with
  | 'f' => withPoint (Places.fixed places num den)
  | 'e' =>
    let (ds, e) := Places.leading places num den
    withPoint (Places.scientific mark ds e)
  | _ => withPoint (Places.general mark (l.has '#') places num den)

/-- A nonzero number by its bits: the one in front of the point and the others in base sixteen. -/
def bitText (upper : Bool) (m : Nat) (e : Int) : Octets :=
  let (fraction, power) :=
    if m = 0 then (0, (0 : Int))
    else (m * Nat.pow 2 (52 - Nat.log2 m) - Nat.pow 2 52, e + Nat.log2 m)
  let digits := (List.replicate 13 '0' ++ digitsIn 16 upper fraction).reverse.take 13
  let digits := (digits.dropWhile (· = '0')).reverse
  let sign := if power < 0 then '-' else '+'
  (if m = 0 then ['0'] else ['1']) ++ (if digits.isEmpty then [] else '.' :: digits)
    ++ [if upper then 'P' else 'p', sign] ++ (toString power.natAbs).toList

def showReal (l : Layout) (kind : Char) (x : Double) : Octets :=
  let named (negative : Bool) (name : String) : Octets :=
    let name := if kind.isUpper then name.toUpper else name
    l.fill (l.sign negative) name.toList false
  match x with
  | .nan => named false "nan"
  | .infinite negative => named negative "inf"
  | .finite negative m e =>
    let (num, den) := Double.ratio m e
    if kind = 'a' || kind = 'A' then
      l.fill (l.sign negative ++ (if kind = 'A' then ['0', 'X'] else ['0', 'x']))
        (bitText (kind = 'A') m e) (l.has '0')
    else l.fill (l.sign negative) (realDigits l kind num den) (l.has '0')

/-- What formatting wrote, the complaints about it, and whether it goes on. -/
structure Shown where
  text : Octets
  complaints : List Octets
  goesOn : Bool

def complaint (s : Octets) (flaw : Option Flaw) : List Octets :=
  match flaw with
  | none => []
  | some f => [s ++ ": ".toList ++ f.message.toList]

def showText (l : Layout) (s : Octets) : Octets :=
  l.fill [] (match l.precision with
    | some p => s.take p
    | none => s) false

def showArgument (l : Layout) (kind : Char) (s : Octets) : Shown :=
  if kind = 's' then ⟨showText l s, [], true⟩
  else if kind = 'c' then ⟨l.fill [] [s.headD '\x00'] false, [], true⟩
  else if kind = 'b' then
    let (text, stop) := resolve s
    ⟨showText l text, [], !stop⟩
  else if realKinds.contains kind then
    let (x, flaw) := real s
    ⟨showReal l kind x, complaint s flaw, true⟩
  else
    let (n, flaw) := whole (kind = 'd' || kind = 'i') s
    ⟨showWhole l kind n, complaint s flaw, true⟩

/-- An amount as a number, the complaint about it, and the arguments left. -/
def settle (a : Amount) (args : List Octets) : Option Int × List Octets × List Octets :=
  match a with
  | .none => (none, [], args)
  | .written n => (some n, [], args)
  | .given =>
    let s := args.headD []
    let (n, flaw) := whole true s
    (some n, complaint s flaw, args.tail)

/-- The layout of a directive; a negative width sets to the left. -/
def layout (d : Directive) (args : List Octets) : Layout × List Octets × List Octets :=
  let (width, before, args) := settle d.width args
  let (precision, more, args) := settle d.precision args
  let flags := if (width.getD 0) < 0 then '-' :: d.flags else d.flags
  let precision := precision.bind fun p => if p < 0 then none else some p.toNat
  (⟨flags, (width.getD 0).natAbs, precision⟩, before ++ more, args)

/-- Goes through the format once; missing arguments are empty. -/
def pass : List Part → List Octets → Shown × List Octets
  | [], args => (⟨[], [], true⟩, args)
  | .text s :: rest, args =>
    let (shown, args) := pass rest args
    ({ shown with text := s ++ shown.text }, args)
  | .directive d :: rest, args =>
    let (l, complaints, args) := layout d args
    let first := showArgument l d.kind (args.headD [])
    let complaints := complaints ++ first.complaints
    if first.goesOn then
      let (shown, args) := pass rest args.tail
      (⟨first.text ++ shown.text, complaints ++ shown.complaints, shown.goesOn⟩, args)
    else ({ first with complaints }, [])
  | .invalid s :: _, _ => (⟨[], [s ++ ": invalid directive".toList], false⟩, [])
  | .missing :: _, _ => (⟨[], ["missing format character".toList], false⟩, [])

def passes (format : List Part) : Nat → List Octets → Shown
  | 0, _ => ⟨[], [], true⟩
  | n + 1, args =>
    let (shown, left) := pass format args
    if left.isEmpty || left.length = args.length || !shown.goesOn then shown
    else
      let more := passes format n left
      ⟨shown.text ++ more.text, shown.complaints ++ more.complaints, more.goesOn⟩

def apply (format : Octets) (args : List Octets) : Shown :=
  passes (parts (format.length + 1) format) (args.length + 1) args

end LintDispatch.Shell.Format
