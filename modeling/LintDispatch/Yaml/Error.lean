import LintDispatch.Text.Printable
import LintDispatch.Yaml.Moment

/-!
Why a document has no value. Its bytes may encode no text, or the text may break the format; its
nodes may lead on deeper than the stack goes; otherwise a scalar in it does not hold what its tag
promises.
-/

namespace LintDispatch.Yaml

inductive Error where
  | encoding
  | malformed
  | recursion
  | codePoint (n : Nat)
  | integer (base : Nat) (text : List Nat)
  | integerSize (digits : Nat)
  | float (text : List Nat)
  | floatRange
  | emptyNumber
  | truth (text : List Nat)
  | timestamp
  | timestampShape
  | date (e : Date.Error)
  | hour
  | minute
  | second
  | offset (minutes : Int)
  deriving DecidableEq, Repr

namespace Error

/-- Changes the code points of the text that an error names. -/
def mapText (f : Nat → Nat) : Error → Error
  | .integer base text => .integer base (text.map f)
  | .float text => .float (text.map f)
  | .truth text => .truth (text.map f)
  | e => e

/-- How many decimal digits a numeral may have. -/
def maxDigits : Nat := 4300

/-- A distance of more than a day in days and seconds, the seconds never negative. -/
def offsetText (minutes : Int) : String :=
  let days := minutes.fdiv 1440
  let seconds := minutes.fmod 1440 * 60
  "datetime.timedelta(days=" ++ toString days
    ++ (if seconds = 0 then "" else ", seconds=" ++ toString seconds) ++ ")"

/-- What the error is called in a report. -/
def kind : Error → String
  | .encoding => "UnicodeDecodeError"
  | .malformed => "ConfigError"
  | .recursion => "RecursionError"
  | .codePoint n => if n < Nat.pow 2 31 then "ValueError" else "OverflowError"
  | .floatRange => "OverflowError"
  | .emptyNumber => "IndexError"
  | .truth _ => "KeyError"
  | .timestamp => "AttributeError"
  | .timestampShape => "TypeError"
  | _ => "ValueError"

def message : Error → String
  | .encoding => "bytes that are not UTF-8"
  | .malformed => "malformed document"
  | .recursion => "maximum recursion depth exceeded"
  | .codePoint n =>
    if n < Nat.pow 2 31 then "chr() arg not in range(0x110000)"
    else "Python int too large to convert to C int"
  | .integer base text =>
    "invalid literal for int() with base " ++ toString base ++ ": "
      ++ String.ofList ((Text.quotedPoints text).toList.take 200)
  | .integerSize digits =>
    "Exceeds the limit (" ++ toString maxDigits ++ " digits) for integer string conversion: "
      ++ "value has " ++ toString digits
      ++ " digits; use sys.set_int_max_str_digits() to increase the limit"
  | .float text => "could not convert string to float: " ++ Text.quotedPoints text
  | .floatRange => "int too large to convert to float"
  | .emptyNumber => "string index out of range"
  | .truth text => Text.quotedPoints text
  | .timestamp => "'NoneType' object has no attribute 'groupdict'"
  | .timestampShape => "expected string or bytes-like object, got 'list'"
  | .date e => e.message
  | .hour => "hour must be in 0..23"
  | .minute => "minute must be in 0..59"
  | .second => "second must be in 0..59"
  | .offset minutes =>
    "offset must be a timedelta strictly between -timedelta(hours=24) and timedelta(hours=24), not "
      ++ offsetText minutes ++ "."

end Error

/-- How far the stack goes: for collections in one another, for mappings that give the text of one
another under `=`, and for mappings merged into one another. -/
structure Depth where
  nodes : Nat
  texts : Nat
  merges : Nat

/-- What a stack of a thousand calls leaves for a configuration file; a call more or less in front
of the loading shifts it. -/
def Depth.usual : Depth :=
  ⟨488, 984, 988⟩

end LintDispatch.Yaml
