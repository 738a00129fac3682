import LintDispatch.Number.Numeral
import LintDispatch.Text.Lines
import LintDispatch.Text.Sequence
import LintDispatch.Text.Split
import LintDispatch.Text.Word

/-!
Filling paragraphs. A text is cut into words and the white space between them; a word may be cut
behind a hyphen and around a dash. Lines take as many pieces as fit, and a piece that fits on no
line is broken.
-/

namespace LintDispatch.Text

def isGap (c : Char) : Bool :=
  c = ' ' || (9 ≤ c.toNat && c.toNat ≤ 13)

def isLetter (c : Char) : Bool :=
  isWord c && (Numeral.decimalDigit? c).isNone

/-- Characters behind which a dash may stand. -/
def isWordEnd (c : Char) : Bool :=
  isWord c || "!\"'&.,?".toList.contains c

def headIs (p : Char → Bool) (s : List Char) : Bool :=
  match s with
  | c :: _ => p c
  | [] => false

/-- A dash of at least two hyphens between words is next; `back` is the text before, the last
character first. -/
def dashFollows (back s : List Char) : Bool :=
  headIs isWordEnd back && 2 ≤ (s.takeWhile (· = '-')).length
    && headIs isWord (s.dropWhile (· = '-'))

/-- A hyphen with letters around it is next. -/
def hyphenFollows (back s : List Char) : Bool :=
  match s with
  | '-' :: rest =>
    let before :=
      match back with
      | a :: b :: more => isLetter a && (isLetter b || (b = '-' && headIs isLetter more))
      | _ => false
    let after :=
      match rest with
      | a :: '-' :: more => isLetter a && headIs isLetter more
      | a :: b :: _ => isLetter a && isLetter b
      | _ => false
    before && after
  | _ => false

/-- The rest of a word that `back` ends in, and what follows. -/
def restOfWord (back : List Char) : List Char → List Char × List Char
  | [] => ([], [])
  | c :: s =>
    if hyphenFollows back (c :: s) then ([c], s)
    else if isGap c || dashFollows back (c :: s) then ([], c :: s)
    else
      let (word, rest) := restOfWord (c :: back) s
      (c :: word, rest)

def piece (back : List Char) : List Char → List Char × List Char
  | [] => ([], [])
  | c :: s =>
    if isGap c then ((c :: s).takeWhile isGap, (c :: s).dropWhile isGap)
    else if dashFollows back (c :: s) then
      ((c :: s).takeWhile (· = '-'), (c :: s).dropWhile (· = '-'))
    else
      let (word, rest) := restOfWord (c :: back) s
      (c :: word, rest)

def piecesFrom : Nat → List Char → List Char → List (List Char)
  | 0, _, _ => []
  | fuel + 1, back, s =>
    if s.isEmpty then []
    else
      let (p, rest) := piece back s
      p :: piecesFrom fuel (p.reverse ++ back) rest

def pieces (s : List Char) : List (List Char) :=
  piecesFrom s.length [] s

/-- As many pieces as fit into `room`, and the others. -/
def fitting (room : Int) : List (List Char) → List (List Char) × List (List Char)
  | [] => ([], [])
  | p :: rest =>
    if p.length ≤ room then
      let (line, others) := fitting (room - p.length) rest
      (p :: line, others)
    else ([], p :: rest)

def isBlankPiece (p : List Char) : Bool :=
  p.all isBlank

def totalLength (ps : List (List Char)) : Nat :=
  ps.flatten.length

/-- Breaks a piece that is wider than a line. -/
def breakWide (width : Int) (line others : List (List Char)) :
    List (List Char) × List (List Char) :=
  match others with
  | p :: rest =>
    if width < p.length then
      let room := (max (width - totalLength line) 1).toNat
      (line ++ [p.take room], p.drop room :: rest)
    else (line, others)
  | [] => (line, [])

def dropLastBlank (line : List (List Char)) : List (List Char) :=
  match line.getLast? with
  | some p => if isBlankPiece p then line.dropLast else line
  | none => line

/-- Lines of at most `width` characters; white space is dropped where a line ends, and in front of
all lines but the first. -/
def fillLines (width : Int) : Nat → Bool → List (List Char) → List (List Char)
  | 0, _, _ => []
  | _, _, [] => []
  | fuel + 1, first, p :: rest =>
    let ps := if !first && isBlankPiece p then rest else p :: rest
    let (line, others) := fitting width ps
    let (line, others) := breakWide width line others
    let line := dropLastBlank line
    if line.isEmpty then fillLines width fuel first others
    else line.flatten :: fillLines width fuel false others

/-- The lines of one paragraph, each behind `indent` spaces. -/
def fill (width indent : Nat) (s : List Char) : List (List Char) :=
  let room : Int := (width : Int) - indent
  (fillLines room (2 * s.length + 2) true (pieces (expandTabs s))).map
    (List.replicate indent ' ' ++ ·)

/-- A paragraph: its indentation and its lines, which are kept as they are if `raw`. -/
structure Paragraph where
  indent : Nat
  raw : Bool
  body : List (List Char)

/-- A paragraph from its lines; a first line of one backspace says to keep the others. -/
def paragraphOf (indent : Nat) (ls : List (List Char)) : Paragraph :=
  match ls with
  | first :: rest => if trim first = ['\x08'] then ⟨indent, true, rest⟩ else ⟨indent, false, ls⟩
  | [] => ⟨indent, false, []⟩

def paragraphIndent (line : List Char) : Nat :=
  visibleLength line - visibleLength (trimLeft line)

/-- The paragraphs of a text, which empty lines separate; `open_` is the one being read. -/
def paragraphsFrom (open_ : Option (Nat × List (List Char))) : List (List Char) → List Paragraph
  | [] =>
    match open_ with
    | some (indent, ls) => [paragraphOf indent ls]
    | none => []
  | line :: rest =>
    match open_, line with
    | some (indent, ls), [] => paragraphOf indent ls :: paragraphsFrom none rest
    | none, [] => paragraphsFrom none rest
    | some (indent, ls), line => paragraphsFrom (some (indent, ls ++ [line])) rest
    | none, line => paragraphsFrom (some (paragraphIndent line, [trimLeft line])) rest

def Paragraph.render (width : Nat) (p : Paragraph) : List Char :=
  if p.raw then
    joinWith '\n' ((lines (joinWith '\n' p.body)).map (List.replicate p.indent ' ' ++ ·))
  else joinWith '\n' (fill width p.indent (joinWith ' ' p.body))

def wrap (width : Nat) (s : List Char) : List Char :=
  let rendered := (paragraphsFrom none (lines (expandTabs s))).map (Paragraph.render width)
  (rendered.intersperse ['\n', '\n']).flatten

end LintDispatch.Text
