import LintDispatch.Number.Numeral
import LintDispatch.Yaml.Cursor
import LintDispatch.Yaml.Error
import LintDispatch.Yaml.Token

/-!
Scalars between quotes. A line break inside is folded: alone it is read as a space, and of several
the first is dropped. Between double quotes a backslash begins an escape.
-/

namespace LintDispatch.Yaml.Quoted

/-- The code point that a one-letter escape stands for. -/
def shortEscape? (c : Char) : Option Nat :=
  match c with
  | '0' => some 0x00
  | 'a' => some 0x07
  | 'b' => some 0x08
  | 't' => some 0x09
  | '\t' => some 0x09
  | 'n' => some 0x0a
  | 'v' => some 0x0b
  | 'f' => some 0x0c
  | 'r' => some 0x0d
  | 'e' => some 0x1b
  | ' ' => some 0x20
  | '"' => some 0x22
  | '\\' => some 0x5c
  | '/' => some 0x2f
  | 'N' => some 0x85
  | '_' => some 0xa0
  | 'L' => some 0x2028
  | 'P' => some 0x2029
  | _ => none

/-- How many digits follow the letter of a numeric escape. -/
def escapeLength? (c : Char) : Option Nat :=
  match c with
  | 'x' => some 2
  | 'u' => some 4
  | 'U' => some 8
  | _ => none

def isHexDigit (c : Char) : Bool :=
  c.isDigit || ('a' ≤ c && c ≤ 'f') || ('A' ≤ c && c ≤ 'F')

/-- The line breaks on blank lines; no document may begin or end between quotes. -/
def scanBlankLines : Nat → Cursor → Except Error (List Char × Cursor)
  | 0, _ => .error .recursion
  | fuel + 1, c =>
    if c.hasSeparator then .error .malformed
    else
      let c := c.skip fun x => x = ' ' || x = '\t'
      match c.lineBreak with
      | ([], c) => .ok ([], c)
      | (break_, c) => (scanBlankLines fuel c).map fun (more, c) => (break_ ++ more, c)

/-- A line break with the blank lines behind it, folded. -/
def scanFold (c : Cursor) : Except Error (List Char × Cursor) :=
  let (break_, c) := c.lineBreak
  (scanBlankLines (c.rest.length + 1) c).map fun (more, c) =>
    if break_ ≠ ['\n'] then (break_ ++ more, c)
    else if more.isEmpty then ([' '], c)
    else (more, c)

/-- White space, which is kept within a line and dropped around a line break. -/
def scanSpaces (c : Cursor) : Except Error (List Char × Cursor) :=
  let (spaces, c) := c.span fun x => x = ' ' || x = '\t'
  if c.peek = '\x00' then .error .malformed
  else if isBreak c.peek then scanFold c
  else .ok (spaces, c)

def scanEscape (c : Cursor) : Except Error (List Nat × Cursor) :=
  let x := c.peek
  match shortEscape? x, escapeLength? x with
  | some p, _ => .ok ([p], c.next)
  | none, some n =>
    let digits := c.next.rest.take n
    if digits.length = n && digits.all isHexDigit then
      let p := (Numeral.digits? 16 digits).getD 0
      if p < 0x110000 then .ok ([p], c.advance (n + 1)) else .error (.codePoint p)
    else .error .malformed
  | none, none =>
    if isBreak x then
      let c := c.lineBreak.2
      (scanBlankLines (c.rest.length + 1) c).map fun (more, c) => (more.map Char.toNat, c)
    else .error .malformed

def points (r : Except Error (List Char × Cursor)) : Except Error (List Nat × Cursor) :=
  r.map fun (s, c) => (s.map Char.toNat, c)

def scanPiece (double : Bool) (c : Cursor) : Except Error (Option (List Nat × Cursor)) :=
  let x := c.peek
  if x = ' ' ∨ x = '\t' ∨ isBreakOrEnd x then (points (scanSpaces c)).map some
  else if double then
    if x = '"' then .ok none
    else if x = '\\' then (scanEscape c.next).map some
    else .ok (some ([x.toNat], c.next))
  else if x = '\'' then
    if c.peekAt 1 = '\'' then .ok (some ([x.toNat], c.advance 2)) else .ok none
  else .ok (some ([x.toNat], c.next))

def scanPieces (double : Bool) : Nat → List Nat → Cursor → Except Error (List Nat × Cursor)
  | 0, _, _ => .error .recursion
  | fuel + 1, acc, c =>
    match scanPiece double c with
    | .error e => .error e
    | .ok none => .ok (acc.reverse, c.next)
    | .ok (some (ps, c)) => scanPieces double fuel (ps.reverse ++ acc) c

/-- A scalar whose opening quote is here. -/
def scan (double : Bool) (c : Cursor) : Except Error (Token × Cursor) :=
  (scanPieces double (c.rest.length + 1) [] c.next).map fun (ps, c) =>
    (.scalar (.ofPoints ps) false, c)

end LintDispatch.Yaml.Quoted
