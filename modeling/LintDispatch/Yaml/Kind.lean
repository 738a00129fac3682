import LintDispatch.Yaml.Timestamp
import LintDispatch.Yaml.Token

/-!
What a node is. A tag says it outright; a plain scalar without a tag is told by its form. Truth
values, numbers, dates and nulls have forms of their own, and everything else is text.
-/

namespace LintDispatch.Yaml

inductive Kind where
  | null
  | bool
  | int
  | float
  | timestamp
  | binary
  | str
  | seq
  | map
  | set
  | omap
  | pairs
  | merge
  | value
  | unknown
  deriving DecidableEq, Repr, Inhabited

namespace Kind

def coreTag : List Char := "tag:yaml.org,2002:".toList

def named : List (String × Kind) :=
  [("null", .null), ("bool", .bool), ("int", .int), ("float", .float), ("timestamp", .timestamp),
   ("binary", .binary), ("str", .str), ("seq", .seq), ("map", .map), ("set", .set),
   ("omap", .omap), ("pairs", .pairs), ("merge", .merge), ("value", .value)]

def ofTag (tag : List Char) : Kind :=
  if coreTag.isPrefixOf tag then
    (named.lookup (String.ofList (tag.drop coreTag.length))).getD .unknown
  else .unknown

/-! Forms of plain scalars. A form takes the text and says whether all of it fits. -/

def isDigitOr (c : Char) : Bool :=
  c.isDigit || c = '_'

def dropSign : List Char → List Char
  | '+' :: s => s
  | '-' :: s => s
  | s => s

/-- Parts of at most two digits behind colons, up to a text that `rest` takes. -/
def sexagesimal (rest : List Char → Bool) : List Char → Bool
  | ':' :: a :: s =>
    a.isDigit &&
      match s with
      | b :: t => (a ≤ '5' && b.isDigit && (rest t || sexagesimal rest t))
          || rest (b :: t) || sexagesimal rest (b :: t)
      | [] => rest []
  | _ => false

def isBinaryForm : List Char → Bool
  | '0' :: 'b' :: s => !s.isEmpty && s.all fun c => c = '0' || c = '1' || c = '_'
  | _ => false

def isHexForm : List Char → Bool
  | '0' :: 'x' :: s =>
    !s.isEmpty && s.all fun c => isDigitOr c || ('a' ≤ c && c ≤ 'f') || ('A' ≤ c && c ≤ 'F')
  | _ => false

/-- Decimal and octal integers, and those in base sixty. -/
def isDecimalForm : List Char → Bool
  | ['0'] => true
  | '0' :: s => s.all fun c => ('0' ≤ c && c ≤ '7') || c = '_'
  | c :: s =>
    c.isDigit &&
      (s.all isDigitOr || sexagesimal List.isEmpty (s.dropWhile isDigitOr))
  | [] => false

def isIntForm (s : List Char) : Bool :=
  let s := dropSign s
  isBinaryForm s || isHexForm s || isDecimalForm s

/-- Nothing, or an exponent with a sign. -/
def isExponent : List Char → Bool
  | [] => true
  | e :: sign :: s =>
    (e = 'e' || e = 'E') && (sign = '+' || sign = '-') && !s.isEmpty && s.all Char.isDigit
  | _ => false

def infinityForms : List String := [".inf", ".Inf", ".INF"]

def undefinedForms : List String := [".nan", ".NaN", ".NAN"]

/-- The part of a number from its point on. -/
def isFraction : List Char → Bool
  | '.' :: s => isExponent (s.dropWhile isDigitOr)
  | _ => false

def isSexagesimalFraction : List Char → Bool
  | '.' :: s => s.all isDigitOr
  | _ => false

def startsWithDigit (s : List Char) : Bool :=
  (s.headD ' ').isDigit

def isFloatForm (s : List Char) : Bool :=
  let body := dropSign s
  let behind := body.dropWhile isDigitOr
  (startsWithDigit body && (isFraction behind || sexagesimal isSexagesimalFraction behind))
    || (startsWithDigit (s.drop 1) && isFraction s)
    || (String.ofList body) ∈ infinityForms
    || (String.ofList s) ∈ undefinedForms

def boolForms : List String :=
  ["yes", "Yes", "YES", "no", "No", "NO", "true", "True", "TRUE", "false", "False", "FALSE",
   "on", "On", "ON", "off", "Off", "OFF"]

def nullForms : List String := ["", "~", "null", "Null", "NULL"]

/-- Indicators that never stand for themselves in a plain scalar. -/
def indicatorForms : List String := ["!", "&", "*"]

/-- Dates alone have to be written with two digits each for month and day. -/
def isTimestampForm (s : List Char) : Bool :=
  (Timestamp.ofText? s).any fun t => t.padded || t.time.isSome

/-- A line break at the end does not keep a text from having a form. -/
def dropFinalBreak (s : List Char) : List Char :=
  if s.getLast? = some '\n' then s.dropLast else s

/-- What a plain scalar is by its form. -/
def ofForm (s : List Char) : Kind :=
  let body := dropFinalBreak s
  let text := String.ofList body
  if body.isEmpty && !s.isEmpty then .str
  else if text ∈ boolForms then .bool
  else if isFloatForm body then .float
  else if isIntForm body then .int
  else if text = "<<" then .merge
  else if text ∈ nullForms then .null
  else if isTimestampForm body then .timestamp
  else if text = "=" then .value
  else if text ∈ indicatorForms then .unknown
  else .str

def ofContent : Content → Kind
  | .chars s => ofForm s
  | .points _ => .str

end Kind

end LintDispatch.Yaml
