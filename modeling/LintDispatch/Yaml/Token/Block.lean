import LintDispatch.Yaml.Cursor
import LintDispatch.Yaml.Token.Name

/-!
Scalars whose lines stand indented below an indicator. Literal ones keep their line breaks, folded
ones read a break between two lines of text as a space. The header says how deep the lines are
indented and what becomes of the breaks at the end.
-/

namespace LintDispatch.Yaml.Block

/-- What becomes of the line breaks at the end: all dropped, one kept, or all kept. -/
inductive Chomping where
  | strip
  | clip
  | keep
  deriving DecidableEq, Repr

structure Header where
  chomping : Chomping
  increment : Option Nat
  deriving Repr

def chomping? (c : Char) : Option Chomping :=
  if c = '+' then some .keep else if c = '-' then some .strip else none

def increment? (c : Char) : Option Nat :=
  if c.isDigit then some (c.toNat - 48) else none

/-- The two optional signs of a header, in either order; an increment of zero is refused. -/
def scanHeader (c : Cursor) : Except Error (Header × Cursor) :=
  let (header, c) : Header × Cursor :=
    match chomping? c.peek, increment? c.peek with
    | some k, _ =>
      match increment? c.next.peek with
      | some n => (⟨k, some n⟩, c.advance 2)
      | none => (⟨k, none⟩, c.next)
    | none, some n =>
      match chomping? c.next.peek with
      | some k => (⟨k, some n⟩, c.advance 2)
      | none => (⟨.clip, some n⟩, c.next)
    | none, none => (⟨.clip, none⟩, c)
  if header.increment = some 0 || !isSpaceOrEnd c.peek then .error .malformed
  else (scanLineEnd c).map fun c => (header, c)

/-- The blank lines in front of the text, and the widest column met on them. -/
def leadingBlank : Nat → Nat → Cursor → List Char × Nat × Cursor
  | 0, widest, c => ([], widest, c)
  | fuel + 1, widest, c =>
    if c.peek = ' ' then leadingBlank fuel (max widest c.next.column) c.next
    else
      match c.lineBreak with
      | ([], c) => ([], widest, c)
      | (break_, c) =>
        let (more, widest, c) := leadingBlank fuel widest c
        (break_ ++ more, widest, c)

/-- Spaces up to the indentation. -/
def skipIndent (indent : Nat) : Nat → Cursor → Cursor
  | 0, c => c
  | fuel + 1, c =>
    if c.column < indent ∧ c.peek = ' ' then skipIndent indent fuel c.next else c

/-- Blank lines between lines of text, up to the start of the next text. -/
def blankLines (indent : Nat) : Nat → Cursor → List Char × Cursor
  | 0, c => ([], c)
  | fuel + 1, c =>
    let c := skipIndent indent (indent + 1) c
    match c.lineBreak with
    | ([], c) => ([], c)
    | (break_, c) =>
      let (more, c) := blankLines indent fuel c
      (break_ ++ more, c)

/-- What stands between two lines of text, which are `bare` if neither begins with white space. -/
def joint (folded bare : Bool) (break_ blank : List Char) : List Char :=
  if folded && bare && break_ = ['\n'] then (if blank.isEmpty then [' '] else []) else break_

def isBare (c : Cursor) : Bool :=
  c.peek ≠ ' ' && c.peek ≠ '\t'

def ending : Chomping → List Char → List Char → List Char
  | .strip, _, _ => []
  | .clip, break_, _ => break_
  | .keep, break_, blank => break_ ++ blank

/-- The lines of text from here on, behind the blank lines `blank`; the text before is `acc`, the
last character first. -/
def scanLines (folded : Bool) (k : Chomping) (indent : Nat) :
    Nat → List Char → List Char → Cursor → List Char × Cursor
  | 0, acc, _, c => (acc.reverse, c)
  | fuel + 1, acc, blank, c =>
    let (line, next) := c.span fun x => !isBreak x
    let acc := line.reverse ++ (blank.reverse ++ acc)
    let (break_, next) := next.lineBreak
    let (blank, next) := blankLines indent (next.rest.length + 1) next
    if next.column = indent ∧ next.peek ≠ '\x00' then
      let between := joint folded (isBare c && isBare next) break_ blank
      scanLines folded k indent fuel (between.reverse ++ acc) blank next
    else ((((ending k break_ blank).reverse) ++ acc).reverse, next)

/-- A block scalar whose indicator is here; its lines are indented to `least` at least. -/
def scan (folded : Bool) (least : Nat) (c : Cursor) : Except Error (Token × Cursor) := do
  let (header, c) ← scanHeader c.next
  let (indent, blank, c) : Nat × List Char × Cursor :=
    match header.increment with
    | some n =>
      let indent := least + n - 1
      let (blank, c) := blankLines indent (c.rest.length + 1) c
      (indent, blank, c)
    | none =>
      let (blank, widest, c) := leadingBlank (c.rest.length + 1) 0 c
      (max least widest, blank, c)
  let (text, c) :=
    if c.column = indent ∧ c.peek ≠ '\x00' then
      scanLines folded header.chomping indent (c.rest.length + 1) [] blank c
    else (ending header.chomping [] blank, c)
  return (.scalar (.chars text) false, c)

end LintDispatch.Yaml.Block
