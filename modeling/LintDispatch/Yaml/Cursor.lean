/-!
A place in the text of a document: what is still to be read, and how far into the text, into its
lines and into its line that is. The end of the text is read as the null character, which no
document holds.
-/

namespace LintDispatch.Yaml

structure Cursor where
  rest : List Char
  index : Nat
  line : Nat
  column : Nat
  deriving Repr

/-- Line breaks: the line feed, the next-line character and the two separators. -/
def isBreak (c : Char) : Bool :=
  c = '\n' || c = '\x85' || c = '\u2028' || c = '\u2029'

def isBreakOrEnd (c : Char) : Bool :=
  c = '\x00' || isBreak c

def isSpaceOrEnd (c : Char) : Bool :=
  c = ' ' || isBreakOrEnd c

/-- What may follow an indicator that stands alone. -/
def isGap (c : Char) : Bool :=
  c = '\t' || isSpaceOrEnd c

def byteOrderMark : Char := '\ufeff'

/-- Characters of anchors, of tag handles and of the names of directives. -/
def isNameChar (c : Char) : Bool :=
  c.isAlphanum || c = '-' || c = '_'

namespace Cursor

def start (text : List Char) : Cursor :=
  ⟨text, 0, 0, 0⟩

def peek (c : Cursor) : Char :=
  c.rest.headD '\x00'

def peekAt (c : Cursor) (n : Nat) : Char :=
  c.rest.getD n '\x00'

/-- Moves over one character. A line break begins a new line, and a byte order mark has no width. -/
def next (c : Cursor) : Cursor :=
  match c.rest with
  | [] => c
  | x :: rest =>
    if isBreak x then ⟨rest, c.index + 1, c.line + 1, 0⟩
    else if x = byteOrderMark then ⟨rest, c.index + 1, c.line, c.column⟩
    else ⟨rest, c.index + 1, c.line, c.column + 1⟩

def advance : Nat → Cursor → Cursor
  | 0, c => c
  | n + 1, c => advance n c.next

/-- Reads the longest run of characters of a class. -/
def span (p : Char → Bool) (c : Cursor) : List Char × Cursor :=
  let run := c.rest.takeWhile p
  (run, c.advance run.length)

def skip (p : Char → Bool) (c : Cursor) : Cursor :=
  (c.span p).2

def skipSpaces (c : Cursor) : Cursor :=
  c.skip (· = ' ')

/-- Reads over a comment, if one begins here. -/
def skipComment (c : Cursor) : Cursor :=
  if c.peek = '#' then c.skip fun x => !isBreak x else c

/-- Reads a line break. All but the separators are read as a line feed, and elsewhere nothing is
read. -/
def lineBreak (c : Cursor) : List Char × Cursor :=
  let x := c.peek
  if x = '\n' ∨ x = '\x85' then (['\n'], c.next)
  else if x = '\u2028' ∨ x = '\u2029' then ([x], c.next)
  else ([], c)

/-- Three characters that stand alone at this place. -/
def hasMarker (c : Cursor) (x : Char) : Bool :=
  c.peek = x && c.peekAt 1 = x && c.peekAt 2 = x && isGap (c.peekAt 3)

/-- A document begins or ends here, if this is the start of a line. -/
def hasSeparator (c : Cursor) : Bool :=
  c.hasMarker '-' || c.hasMarker '.'

theorem next_rest (c : Cursor) : c.next.rest = c.rest.tail := by
  unfold next
  split
  case h_1 h => simp [h]
  case h_2 h => simp only [h, List.tail_cons]; split <;> (try split) <;> rfl

theorem advance_rest (n : Nat) (c : Cursor) : (c.advance n).rest = c.rest.drop n := by
  induction n generalizing c with
  | zero => rfl
  | succ n ih => simp [advance, ih, next_rest]

end Cursor

end LintDispatch.Yaml
