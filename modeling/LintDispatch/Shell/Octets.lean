import LintDispatch.Text.Utf8

/-!
Text as a shell sees it: bytes, each held as the character of that number. Names and options of
other parts are written in UTF-8 on the way in and read back on the way out.
-/

namespace LintDispatch.Shell

/-- A text of bytes: the number of every character is below 256. -/
abbrev Octets := List Char

namespace Octets

def ofBytes (bytes : List UInt8) : Octets :=
  bytes.map fun b => Char.ofNat b.toNat

def toBytes (s : Octets) : List UInt8 :=
  s.map fun c => UInt8.ofNat c.toNat

def ofText (s : List Char) : Octets :=
  ofBytes (Text.encodeUtf8 s)

def toText? (s : Octets) : Option (List Char) :=
  Text.decodeUtf8? s.toBytes

def number (digits : Octets) : Nat :=
  digits.foldl (fun n c => 10 * n + (c.toNat - 48)) 0

/-- A number of digits only. -/
def natural? (s : Octets) : Option Nat :=
  if !s.isEmpty && s.all Char.isDigit then some (number s) else none

def le (a b : Octets) : Bool :=
  !decide (b < a)

def sorted (texts : List Octets) : List Octets :=
  texts.mergeSort le

end Octets

end LintDispatch.Shell
