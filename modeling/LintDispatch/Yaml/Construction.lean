import LintDispatch.Text.Base64
import LintDispatch.Text.Case
import LintDispatch.Text.Split
import LintDispatch.Yaml.Node

/-!
The values of scalar nodes: what the content of a scalar means under its kind, and why it may mean
nothing. Code points that are no characters fit into no form; characters that do not occur in the
text stand in for them while it is read.
-/

namespace LintDispatch.Yaml.Construction

def dropUnderscores (s : List Char) : List Char :=
  s.filter (· ≠ '_')

def points (s : List Char) : List Nat :=
  s.map Char.toNat

/-- An integer in a base. -/
def integer (base : Nat) (s : List Char) : Except Error Int :=
  match Numeral.int? base s with
  | some n =>
    let digits := (s.filter fun c => (Numeral.digitValue? c).isSome).length
    if base = 10 ∧ Error.maxDigits < digits then .error (.integerSize digits) else .ok n
  | none => .error (.integer base (points s))

/-- The value of numerals in base sixty, the highest first. -/
def baseSixty (parts : List Int) : Int :=
  parts.foldl (fun n part => n * 60 + part) 0

def splitColons (s : List Char) : List (List Char) :=
  Text.splitAt ':' s

def unsigned (s : List Char) : Except Error Int :=
  match s with
  | [] => .error .emptyNumber
  | ['0'] => .ok 0
  | '0' :: 'b' :: rest => integer 2 rest
  | '0' :: 'x' :: rest => integer 16 rest
  | '0' :: _ => integer 8 s
  | _ => if ':' ∈ s then ((splitColons s).mapM (integer 10)).map baseSixty else integer 10 s

def int (s : List Char) : Except Error Int :=
  match dropUnderscores s with
  | [] => .error .emptyNumber
  | '-' :: rest => (unsigned rest).map (- ·)
  | '+' :: rest => unsigned rest
  | s => unsigned s

def decimal (s : List Char) : Except Error Double :=
  match Numeral.double? s with
  | some x => .ok x
  | none => .error (.float (points s))

/-- The value of decimal numerals in base sixty, the lowest first; `base` belongs to the next. -/
def sumSixty (base : Nat) (total : Double) : List Double → Except Error Double
  | [] => .ok total
  | x :: rest =>
    let factor := Double.ofInt base
    if factor.isFinite then sumSixty (base * 60) (total.add (x.mul factor)) rest
    else .error .floatRange

def unsignedFloat (s : List Char) : Except Error Double :=
  if s = ".inf".toList then .ok (.infinite false)
  else if s = ".nan".toList then .ok .nan
  else if ':' ∈ s then
    ((splitColons s).mapM decimal).bind fun parts => sumSixty 1 (.zero false) parts.reverse
  else decimal s

def float (s : List Char) : Except Error Double :=
  match Text.lower (dropUnderscores s) with
  | [] => .error .emptyNumber
  | '-' :: rest => (unsignedFloat rest).map Double.neg
  | '+' :: rest => unsignedFloat rest
  | s => unsignedFloat s

def bool (s : List Char) : Except Error Bool :=
  let word := String.ofList (Text.lower s)
  if word ∈ ["yes", "true", "on"] then .ok true
  else if word ∈ ["no", "false", "off"] then .ok false
  else .error (.truth (points word.toList))

def binary (s : List Char) : Except Error (List UInt8) :=
  if s.all (·.toNat < 128) then (Text.Base64.decode? s).elim (.error .malformed) .ok
  else .error .malformed

def timestamp (s : List Char) : Except Error Moment :=
  match Timestamp.ofText? (Kind.dropFinalBreak s) with
  | some t => t.moment
  | none => .error .timestamp

/-- The undefined number in its standard form, with or without a sign. -/
def isStandardNan (c : Content) : Bool :=
  match c with
  | .chars s => Kind.dropSign (Text.lower (dropUnderscores s)) = ".nan".toList
  | .points _ => false

/-- Whether nodes of a kind are scalars, however they are written. -/
def isScalar : Kind → Bool
  | .null | .bool | .int | .float | .timestamp | .binary | .str => true
  | _ => false

/-- Whether nodes of a kind hold other nodes. -/
def isCollection : Kind → Bool
  | .seq | .map | .set | .omap | .pairs => true
  | _ => false

/-- Points that are no characters, each with a character that stands in for it. -/
def standIns (ps : List Nat) : List (Nat × Char) :=
  let strange := (ps.filter fun p => !decide p.isValidChar).eraseDups
  let free := ((List.range (ps.length + strange.length)).map (0xf0000 + ·)).filter fun p => p ∉ ps
  strange.zip (free.map Char.ofNat)

def standIn (ins : List (Nat × Char)) (p : Nat) : Char :=
  (ins.lookup p).getD (Char.ofNat p)

/-- The point that `p` stands for. -/
def standsFor (ins : List (Nat × Char)) (p : Nat) : Nat :=
  ((ins.find? fun i => i.2.toNat == p).map Prod.fst).getD p

/-- Reads a form from a content. -/
def form {α : Type} (read : List Char → Except Error α) : Content → Except Error α
  | .chars s => read s
  | .points ps =>
    let ins := standIns ps
    match read (ps.map (standIn ins)) with
    | .ok a => .ok a
    | .error e => .error (e.mapText (standsFor ins))

/-- The value of a scalar; kinds that are not scalar have none. -/
def scalar (k : Kind) (c : Content) : Except Error Scalar :=
  match k with
  | .null => .ok .null
  | .bool => (form bool c).map .bool
  | .int => (form int c).map .int
  | .float => (form float c).map .float
  | .timestamp => (form timestamp c).map .moment
  | .binary =>
    match c with
    | .chars s => (binary s).map .bytes
    | .points _ => .error .malformed
  | .str =>
    match c with
    | .chars s => .ok (.text (String.ofList s))
    | .points ps => .ok (.illFormed ps)
  | _ => .error .malformed

end LintDispatch.Yaml.Construction
