import LintDispatch.Yaml.Cursor
import LintDispatch.Yaml.Token

/-!
Scalars without quotes. They end where a comment, a mapping value or, inside brackets, an indicator
begins; they may go on over several lines, which are folded, as long as these are indented.
-/

namespace LintDispatch.Yaml.Plain

/-- Indicators that end a plain scalar inside brackets. -/
def isFlowIndicator (c : Char) : Bool :=
  c = ',' || c = '[' || c = ']' || c = '\x7b' || c = '\x7d'

/-- The scalar ends in front of `c`, which `next` follows. -/
def endsAt (flow : Bool) (c next : Char) : Bool :=
  isGap c || (c = ':' && (isGap next || (flow && isFlowIndicator next)))
    || (flow && (c = '?' || isFlowIndicator c))

/-- The characters up to the end of the scalar or the next space. -/
def run (flow : Bool) : List Char → List Char
  | [] => []
  | c :: rest => if endsAt flow c (rest.headD '\x00') then [] else c :: run flow rest

/-- What lies between two runs: the characters it is read as, and whether a line ended. No
characters mean that the scalar ends. -/
structure Between where
  chars : List Char
  broken : Bool
  cursor : Cursor

/-- Blank lines; nothing is read as their breaks if a document begins or ends behind one of them. -/
def blankLines : Nat → Cursor → Option (List Char) × Cursor
  | 0, c => (none, c)
  | fuel + 1, c =>
    if c.peek = ' ' then blankLines fuel c.next
    else
      match c.lineBreak with
      | ([], c) => (some [], c)
      | (break_, c) =>
        if c.hasSeparator then (none, c)
        else
          match blankLines fuel c with
          | (some more, c) => (some (break_ ++ more), c)
          | (none, c) => (none, c)

def between (c : Cursor) : Between :=
  let (spaces, c) := c.span (· = ' ')
  match c.lineBreak with
  | ([], c) => ⟨spaces, false, c⟩
  | (break_, c) =>
    if c.hasSeparator then ⟨[], true, c⟩
    else
      match blankLines (c.rest.length + 1) c with
      | (none, c) => ⟨[], true, c⟩
      | (some more, c) =>
        ⟨if break_ ≠ ['\n'] then break_ ++ more else if more.isEmpty then [' '] else more, true, c⟩

/-- A plain scalar as it was read, and whether it ended behind a line break. -/
structure Reading where
  chars : List Char
  broken : Bool
  cursor : Cursor

/-- Goes on behind `b`, with the characters `acc` read before it, the last one first. -/
def readMore (flow : Bool) (indent : Nat) : Nat → List Char → Between → Reading
  | 0, acc, b => ⟨acc.reverse, b.broken, b.cursor⟩
  | fuel + 1, acc, b =>
    if b.chars.isEmpty || b.cursor.peek = '#' || (!flow && b.cursor.column < indent) then
      ⟨acc.reverse, b.broken, b.cursor⟩
    else
      match run flow b.cursor.rest with
      | [] => ⟨acc.reverse, b.broken, b.cursor⟩
      | word =>
        readMore flow indent fuel (word.reverse ++ (b.chars.reverse ++ acc))
          (between (b.cursor.advance word.length))

/-- A scalar that begins here; `indent` is the least column of its further lines. -/
def read (flow : Bool) (indent : Nat) (c : Cursor) : Reading :=
  let word := run flow c.rest
  readMore flow indent (c.rest.length + 1) word.reverse (between (c.advance word.length))

end LintDispatch.Yaml.Plain
