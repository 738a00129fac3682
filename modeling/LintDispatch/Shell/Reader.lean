import LintDispatch.Shell.Script
import LintDispatch.Shell.System

/-!
Reading scripts. The reader goes through the characters once; a word and a substitution inside it
are read where they stand, so that commands may be nested in words. Every step is given less fuel
than the one that called it, and a script gets more fuel than its length can use up.
-/

namespace LintDispatch.Shell

/-- What is still to be read, the line that it starts on, how many lines were taken out behind that
line, and the texts that names of commands stand for. -/
structure Source where
  line : Nat
  rest : Octets
  hidden : Nat
  aliases : List (Octets × Octets)
  deriving DecidableEq, Repr

def Source.after (src : Source) (consumed rest : Octets) : Source :=
  if '\n' ∈ consumed then
    { src with line := src.line + src.hidden + consumed.count '\n', rest, hidden := 0 }
  else { src with rest }

def Source.nextLine (src : Source) (rest : Octets) : Source :=
  src.after ['\n'] rest

inductive ReadError where
  | openQuote
  | openBrace
  | openArithmetic
  | openBackquote
  | unexpected (found : String) (expected : Option String)
  | badFunctionName
  | badLoopName
  | tooDeep
  deriving DecidableEq, Repr

structure Misread where
  line : Nat
  cause : ReadError
  deriving DecidableEq, Repr

/-- Reading from a source gives a value and what is left. -/
abbrev Reading := Except Misread

inductive Token where
  | word (word : Word)
  | operator (text : String)
  | redirect (redirect : Redirect)
  | newline
  | finish

namespace Reader

def isDelimiter (c : Char) : Bool :=
  c = ' ' || c = '\t' || c = '\n' || c = ';' || c = '&' || c = '|' || c = '<' || c = '>' || c = '('
    || c = ')'

/-- The character has a meaning of its own inside a word. -/
def isActive (c : Char) : Bool :=
  c = '\\' || c = '\'' || c = '"' || c = '$' || c = '\x60'

def isPlain (c : Char) : Bool :=
  !isDelimiter c && !isActive c

def isNameStart (c : Char) : Bool :=
  c.isAlpha || c = '_'

def isNameChar (c : Char) : Bool :=
  c.isAlphanum || c = '_'

def fail {α : Type} (src : Source) (cause : ReadError) : Reading (α × Source) :=
  .error ⟨src.line, cause⟩

/-- What stands before the first `mark`, and what behind it. -/
def before? (mark : Char) : Octets → Option (Octets × Octets)
  | [] => none
  | c :: rest =>
    if c = mark then some ([], rest) else (before? mark rest).map fun r => (c :: r.1, r.2)

/-- The text up to the closing backquote, with the escapes inside it taken away. -/
def beforeBackquote? : Octets → Option (Octets × Octets)
  | [] => none
  | '\x60' :: rest => some ([], rest)
  | '\\' :: c :: rest =>
    (beforeBackquote? rest).map fun r =>
      ((if c = '\x60' || c = '\\' || c = '$' then [c] else ['\\', c]) ++ r.1, r.2)
  | c :: rest => (beforeBackquote? rest).map fun r => (c :: r.1, r.2)

/-- The text of a word in which nothing is quoted or substituted. -/
def bare? : Word → Option Octets
  | [] => some []
  | .text false s :: rest => (bare? rest).map (s ++ ·)
  | _ => none

def reservedWords : List String :=
  ["if", "then", "elif", "else", "fi", "for", "while", "until", "do", "done", "case", "esac",
    "\x7b", "\x7d", "!"]

/-- The words that can only close what others opened. -/
def closingWords : List String :=
  ["then", "elif", "else", "fi", "do", "done", "esac", "\x7d"]

def reserved? (t : Token) : Option String :=
  match t with
  | .word w => (bare? w).bind fun s =>
      if reservedWords.contains (String.ofList s) then some (String.ofList s) else none
  | _ => none

/-- How a token is named; reserved words count only where a command may start. -/
def display (t : Token) : String :=
  match t, reserved? t with
  | .operator text, _ => "\"" ++ text ++ "\""
  | .newline, _ => "newline"
  | .finish, _ => "end of file"
  | .redirect _, _ => "redirection"
  | .word _, some name => "\"" ++ name ++ "\""
  | .word _, none => "word"

/-- The token that comes next has no place here. What was expected is quoted, unless any word would
do. -/
def unexpected {α : Type} (src : Source) (t : Token) (expected : Option String) :
    Reading (α × Source) :=
  let src := match t with
    | .newline => src.nextLine src.rest
    | _ => src
  fail src (.unexpected (display t) (expected.map fun e =>
    if e = "word" then e else "\"" ++ e ++ "\""))

/-- As `unexpected`, where reserved words have no meaning. -/
def unexpectedAsWord {α : Type} (src : Source) (t : Token) (expected : Option String) :
    Reading (α × Source) :=
  unexpected src (match t with
    | .word _ => .word []
    | t => t) expected

/-- Adjacent texts that are quoted alike as one. -/
def merge : Word → Word
  | [] => []
  | .text quoted s :: rest =>
    match merge rest with
    | .text other t :: more =>
      if quoted = other && !s.isEmpty && !t.isEmpty then .text quoted (s ++ t) :: more
      else .text quoted s :: .text other t :: more
    | more => .text quoted s :: more
  | piece :: rest => piece :: merge rest

/-- The home directory that a tilde with a name behind it stands for. -/
def home? (name : Octets) : Option Piece :=
  if name.isEmpty then
    some (.either true (.named "HOME".toList) ⟨false, .instead⟩ [.text false ['~']])
  else (System.home? name).map fun home => .text true home

/-- A tilde in front of a part of a word; `open_` says that more of its name may follow. -/
def tildePart (open_ : Bool) (s : Octets) : Word :=
  match s with
  | '~' :: more =>
    let name := more.takeWhile (· != '/')
    let rest := more.drop name.length
    match if rest.isEmpty && open_ then none else home? name with
    | some piece => piece :: if rest.isEmpty then [] else [.text false rest]
    | none => [.text false s]
  | [] => []
  | s => [.text false s]

/-- A tilde in front of a word stands for a home directory. -/
def tilde : Word → Word
  | .text false [] :: rest => .text false [] :: rest
  | .text false s :: rest => tildePart (!rest.isEmpty) s ++ rest
  | w => w

/-- So does one in front of a value and behind a colon in it; `front` says that the value starts
here. -/
def valueTildes (front : Bool) : Word → Word
  | [] => []
  | .text false s :: rest =>
    let parts := Text.splitAt ':' s
    let last := parts.length - 1
    (parts.zipIdx.flatMap fun p =>
      (if p.2 = 0 then [] else [.text false [':']])
        ++ if p.2 = 0 && !front then (if p.1.isEmpty then [] else [.text false p.1])
          else tildePart (p.2 = last && !rest.isEmpty) p.1) ++ valueTildes false rest
  | piece :: rest => piece :: valueTildes false rest

/-- The name and the value, if the word assigns a value to a name. -/
def assignment? : Word → Option (Octets × Word)
  | .text false s :: rest =>
    match s with
    | c :: _ =>
      if isNameStart c then
        match s.dropWhile isNameChar with
        | '=' :: value =>
          some (s.takeWhile isNameChar, valueTildes true (.text false value :: rest))
        | _ => none
      else none
    | [] => none
  | _ => none

/-- The token closes the list that it stands behind. -/
def closes (t : Token) : Bool :=
  match t with
  | .finish => true
  | .operator text => text = ")" || text = ";;"
  | _ => ((reserved? t).map closingWords.contains).getD false

def parameter? : Octets → Option (Parameter × Octets)
  | '?' :: rest => some (.lastStatus, rest)
  | '$' :: rest => some (.process, rest)
  | '!' :: rest => some (.lastJob, rest)
  | '-' :: rest => some (.flags, rest)
  | '#' :: rest => some (.count, rest)
  | '@' :: rest => some (.each, rest)
  | '*' :: rest => some (.joined, rest)
  | c :: rest =>
    if c.isDigit then some (.position (c.toNat - 48), rest)
    else if isNameStart c then
      some (.named (c :: rest.takeWhile isNameChar), rest.dropWhile isNameChar)
    else none
  | [] => none

/-- As `parameter?`, where positions may have several digits. -/
def parameterInBraces? (s : Octets) : Option (Parameter × Octets) :=
  let digits := s.takeWhile Char.isDigit
  if digits.isEmpty then parameter? s
  else
    let index := digits.foldl (fun n c => 10 * n + (c.toNat - 48)) 0
    some (.position index, s.drop digits.length)

def service? : Octets → Option (Service × Octets)
  | '-' :: rest => some (.instead, rest)
  | '+' :: rest => some (.besides, rest)
  | '=' :: rest => some (.assigned, rest)
  | '?' :: rest => some (.demanded, rest)
  | _ => none

/-- The sign between a parameter in braces and the word that serves it. -/
def fallback? : Octets → Option (Fallback × Octets)
  | ':' :: rest => (service? rest).map fun r => (⟨true, r.1⟩, r.2)
  | s => (service? s).map fun r => (⟨false, r.1⟩, r.2)

/-- The sign between a parameter in braces and the pattern that is cut off. -/
def cut? : Octets → Option (Cut × Octets)
  | '%' :: '%' :: rest => some (⟨true, true⟩, rest)
  | '%' :: rest => some (⟨true, false⟩, rest)
  | '#' :: '#' :: rest => some (⟨false, true⟩, rest)
  | '#' :: rest => some (⟨false, false⟩, rest)
  | _ => none

/-- Skips blanks, line continuations and a comment; the first result is what was skipped. -/
def skip : Octets → Octets × Octets
  | [] => ([], [])
  | '\\' :: '\n' :: rest => let r := skip rest; ('\n' :: r.1, r.2)
  | c :: rest =>
    if c = ' ' || c = '\t' then skip rest
    else if c = '#' then ([], rest.dropWhile (· != '\n'))
    else ([], c :: rest)

def skipBlanks (src : Source) : Source :=
  let (skipped, rest) := skip src.rest
  src.after skipped rest

/-- Puts pieces in front of what was read behind them. -/
def prepend (pieces : Word) (r : Reading (Word × Source)) : Reading (Word × Source) :=
  r.map fun p => (pieces ++ p.1, p.2)

/-- The operator at the start, the longer one first. -/
def operator? : Octets → Option (String × Octets)
  | ';' :: ';' :: rest => some (";;", rest)
  | ';' :: rest => some (";", rest)
  | '&' :: '&' :: rest => some ("&&", rest)
  | '&' :: rest => some ("&", rest)
  | '|' :: '|' :: rest => some ("||", rest)
  | '|' :: rest => some ("|", rest)
  | '(' :: rest => some ("(", rest)
  | ')' :: rest => some (")", rest)
  | _ => none

/-- A sign of redirection and the stream that it stands for by itself. -/
def redirection? : Octets → Option ((Nat → Word → Redirect) × Nat × Octets)
  | '>' :: '>' :: rest => some (.append, 1, rest)
  | '>' :: '&' :: rest => some (.copy, 1, rest)
  | '>' :: '|' :: rest => some (fun stream => .write stream true, 1, rest)
  | '>' :: rest => some (fun stream => .write stream false, 1, rest)
  | '<' :: '<' :: _ => none
  | '<' :: '&' :: rest => some (.copy, 0, rest)
  | '<' :: '>' :: rest => some (.update, 0, rest)
  | '<' :: rest => some (.read, 0, rest)
  | _ => none

/-- As `redirection?`, with the number of a stream in front of the sign. -/
def numberedRedirection? : Octets → Option ((Word → Redirect) × Octets)
  | [] => none
  | d :: rest =>
    match redirection? (d :: rest) with
    | some (make, stream, rest) => some (make stream, rest)
    | none =>
      if d.isDigit then (redirection? rest).map fun r => (r.1 (d.toNat - 48), r.2.2) else none

/-- The sign of a text that stands on the lines below: the stream that reads it, whether tabs in
front of its lines are dropped, and what follows the sign. -/
def hereSign? : Octets → Option (Nat × Bool × Octets)
  | '<' :: '<' :: '-' :: rest => some (0, true, rest)
  | '<' :: '<' :: rest => some (0, false, rest)
  | d :: '<' :: '<' :: '-' :: rest => if d.isDigit then some (d.toNat - 48, true, rest) else none
  | d :: '<' :: '<' :: rest => if d.isDigit then some (d.toNat - 48, false, rest) else none
  | _ => none

/-- The lines of a text in front of the line `mark`: their text, how many lines they are with the
mark, and what follows. -/
def linesBefore (untab : Bool) (mark : Octets) : Nat → Octets → Octets × Nat × Octets
  | 0, _ => ([], 0, [])
  | _, [] => ([], 0, [])
  | n + 1, s =>
    let line := s.takeWhile (· != '\n')
    let rest := s.drop (line.length + 1)
    let line := if untab then line.dropWhile (· = '\t') else line
    if line = mark then ([], 1, rest)
    else
      let ended := if s.contains '\n' then ['\n'] else []
      let (more, count, rest) := linesBefore untab mark n rest
      (line ++ ended ++ more, count + 1, rest)

/-- Takes the text that ends at the line `mark` out of the lines below this one. -/
def takeLines (untab : Bool) (mark : Octets) (src : Source) : Octets × Source :=
  let line := src.rest.takeWhile (· != '\n')
  let below := src.rest.drop (line.length + 1)
  let (text, count, rest) := linesBefore untab mark (below.length + 1) below
  (text, { src with rest := line ++ '\n' :: rest, hidden := src.hidden + count })

def plainText (w : Word) : Octets :=
  w.flatMap fun
    | .text _ s => s
    | _ => []

def isQuoted (w : Word) : Bool :=
  w.any fun
    | .text quoted _ => quoted
    | _ => false

/-- A parameter whose size is asked for. -/
def sized? : Octets → Option (Parameter × Octets)
  | '#' :: rest =>
    match parameterInBraces? rest with
    | some (p, '\x7d' :: rest) => some (p, rest)
    | _ => none
  | _ => none

def isName (s : Octets) : Bool :=
  (s.head?.map isNameStart).getD false && s.all isNameChar

/-- Commands that a function cannot stand for, and before which assignments last. -/
def specialNames : List String :=
  [".", ":", "break", "continue", "eval", "exec", "exit", "export", "local", "readonly", "return",
    "set", "shift", "times", "trap", "unset"]

def functionName? (w : Word) : Option Octets :=
  (bare? w).bind fun s =>
    if isName s && !specialNames.contains (String.ofList s) then some s else none

def loopName? (t : Token) : Option Octets :=
  match t with
  | .word w => (bare? w).bind fun s => if isName s then some s else none
  | _ => none

def isWord (text : String) (t : Token) : Bool :=
  match t with
  | .word w => bare? w = some text.toList
  | _ => false

/-- The name that a word is and the text that it stands for, if it stands for one. -/
def alias? (src : Source) (t : Token) : Option (Octets × Octets) :=
  match t with
  | .word w => (bare? w).bind fun s => src.aliases.find? fun a => a.1 == s
  | _ => none

/-- Puts the text that a name stands for in front; inside it the name stands for itself. -/
def unfold (src : Source) (a : Octets × Octets) : Source :=
  { src with rest := a.2 ++ src.rest, aliases := src.aliases.filter fun b => b.1 != a.1 }

def started (separator : Token) (c : Command) : Command :=
  match separator with
  | .operator "&" => .background c
  | _ => c

mutual

def dollar : Nat → Bool → Source → Reading (Word × Source)
  | 0, _, src => fail src .tooDeep
  | n + 1, quoted, src =>
    match src.rest with
    | '(' :: '(' :: rest => do
      let (expression, src) ← inArithmetic n 0 { src with rest }
      .ok ([.arithmetic quoted expression], src)
    | '(' :: rest => do
      let (body, src) ← block n true { src with rest }
      let (t, after) ← token n src
      match t with
      | .operator ")" => .ok ([.output quoted body], after)
      | _ => unexpected src t (some ")")
    | '{' :: rest =>
      match sized? rest, parameterInBraces? rest with
      | some (p, rest), _ => .ok ([.size quoted p], { src with rest })
      | none, some (p, '}' :: rest) => .ok ([.value quoted p], { src with rest })
      | none, some (p, rest) =>
        match fallback? rest, cut? rest with
        | some (f, rest), _ => do
          let (other, src) ← inBraces n quoted { src with rest }
          let other := if quoted then other else tilde (merge other)
          .ok ([.either quoted p f other], src)
        | none, some (c, rest) => do
          let (pattern, src) ← inBraces n false { src with rest }
          .ok ([.cut quoted p c pattern], src)
        | none, none => (inBraces n quoted { src with rest }).map fun r => ([.illegal], r.2)
      | none, none => (inBraces n quoted { src with rest }).map fun r => ([.illegal], r.2)
    | rest =>
      match parameter? rest with
      | some (p, rest) => .ok ([.value quoted p], { src with rest })
      | none => .ok ([.text quoted ['$']], src)

def inQuotes : Nat → Source → Reading (Word × Source)
  | 0, src => fail src .tooDeep
  | n + 1, src =>
    match src.rest with
    | [] => fail src .openQuote
    | '"' :: rest => .ok ([], { src with rest })
    | '\\' :: '\n' :: rest => inQuotes n (src.nextLine rest)
    | '\\' :: c :: rest =>
      let kept := if c = '$' || c = '\x60' || c = '"' || c = '\\' then [c] else ['\\', c]
      prepend [.text true kept] (inQuotes n { src with rest })
    | '$' :: rest => do
      let (pieces, src) ← dollar n true { src with rest }
      prepend pieces (inQuotes n src)
    | '\x60' :: rest => do
      let (pieces, src) ← backquoted n true { src with rest }
      prepend pieces (inQuotes n src)
    | c :: rest => prepend [.text true [c]] (inQuotes n (src.after [c] rest))

def inBraces : Nat → Bool → Source → Reading (Word × Source)
  | 0, _, src => fail src .tooDeep
  | n + 1, quoted, src =>
    match src.rest with
    | [] => fail src .openBrace
    | '}' :: rest => .ok ([], { src with rest })
    | '\\' :: '\n' :: rest => inBraces n quoted (src.nextLine rest)
    | '\\' :: c :: rest =>
      let kept := if quoted && !"$\x60\"\\\x7d".toList.contains c then ['\\', c] else [c]
      prepend [.text true kept] (inBraces n quoted { src with rest })
    | '\'' :: rest =>
      if quoted then prepend [.text true ['\'']] (inBraces n quoted { src with rest })
      else
        match before? '\'' rest with
        | none => fail (src.after rest []) .openQuote
        | some (inner, rest) =>
          prepend [.text true inner] (inBraces n quoted (src.after inner rest))
    | '\x60' :: rest => do
      let (pieces, src) ← backquoted n quoted { src with rest }
      prepend pieces (inBraces n quoted src)
    | '"' :: rest => do
      let (pieces, src) ← inQuotes n { src with rest }
      prepend (.text true [] :: pieces) (inBraces n quoted src)
    | '$' :: rest => do
      let (pieces, src) ← dollar n quoted { src with rest }
      prepend pieces (inBraces n quoted src)
    | c :: rest => prepend [.text quoted [c]] (inBraces n quoted (src.after [c] rest))

/-- Reads a text on lines of its own, to its end. -/
def inHere : Nat → Source → Reading (Word × Source)
  | 0, src => fail src .tooDeep
  | n + 1, src =>
    match src.rest with
    | [] => .ok ([], src)
    | '\\' :: '\n' :: rest => inHere n (src.nextLine rest)
    | '\\' :: c :: rest =>
      let kept := if c = '$' || c = '\x60' || c = '\\' then [c] else ['\\', c]
      prepend [.text true kept] (inHere n { src with rest })
    | '$' :: rest => do
      let (pieces, src) ← dollar n true { src with rest }
      prepend pieces (inHere n src)
    | '\x60' :: rest => do
      let (pieces, src) ← backquoted n true { src with rest }
      prepend pieces (inHere n src)
    | c :: rest => prepend [.text true [c]] (inHere n (src.after [c] rest))

/-- Reads up to two closing parentheses that no inner one opens. -/
def inArithmetic : Nat → Nat → Source → Reading (Word × Source)
  | 0, _, src => fail src .tooDeep
  | n + 1, depth, src =>
    match src.rest with
    | [] => fail src .openArithmetic
    | ')' :: rest =>
      match depth, rest with
      | 0, ')' :: rest => .ok ([], { src with rest })
      | _, rest => prepend [.text true [')']] (inArithmetic n (depth - 1) { src with rest })
    | '(' :: rest => prepend [.text true ['(']] (inArithmetic n (depth + 1) { src with rest })
    | '$' :: rest => do
      let (pieces, src) ← dollar n true { src with rest }
      prepend pieces (inArithmetic n depth src)
    | c :: rest => prepend [.text true [c]] (inArithmetic n depth (src.after [c] rest))

def backquoted : Nat → Bool → Source → Reading (Word × Source)
  | 0, _, src => fail src .tooDeep
  | n + 1, quoted, src =>
    match beforeBackquote? src.rest with
    | none => fail src .openBackquote
    | some (inner, rest) => do
      let (body, left) ← block n true { src with rest := inner, hidden := 0 }
      let (t, _) ← token n left
      match t with
      | .finish => .ok ([.output quoted body], src.after inner rest)
      | _ => unexpected left t none

/-- Reads the pieces of a word up to a delimiter. -/
def word : Nat → Source → Reading (Word × Source)
  | 0, src => fail src .tooDeep
  | n + 1, src =>
    match src.rest with
    | [] => .ok ([], src)
    | '\\' :: '\n' :: rest => word n (src.nextLine rest)
    | '\\' :: c :: rest => prepend [.text true [c]] (word n { src with rest })
    | ['\\'] => .ok ([.text true ['\\']], { src with rest := [] })
    | '\'' :: rest =>
      match before? '\'' rest with
      | none => fail (src.after rest []) .openQuote
      | some (inner, rest) => prepend [.text true inner] (word n (src.after inner rest))
    | '"' :: rest => do
      let (pieces, src) ← inQuotes n { src with rest }
      prepend (.text true [] :: pieces) (word n src)
    | '$' :: rest => do
      let (pieces, src) ← dollar n false { src with rest }
      prepend pieces (word n src)
    | '\x60' :: rest => do
      let (pieces, src) ← backquoted n false { src with rest }
      prepend pieces (word n src)
    | c :: rest =>
      if isDelimiter c then .ok ([], src)
      else
        prepend [.text false (c :: rest.takeWhile isPlain)]
          (word n { src with rest := rest.dropWhile isPlain })

def target : Nat → Source → Reading (Word × Source)
  | 0, src => fail src .tooDeep
  | n + 1, src => do
    let src := skipBlanks src
    if (hereSign? src.rest).isSome || (numberedRedirection? src.rest).isSome then
      unexpected src (.redirect (.here 0 [])) none
    else
      let (w, after) ← word n src
      if w.isEmpty then
        let (t, _) ← token n after
        unexpected after t none
      else .ok (w, after)

def token : Nat → Source → Reading (Token × Source)
  | 0, src => fail src .tooDeep
  | n + 1, src =>
    let src := skipBlanks src
    match hereSign? src.rest, numberedRedirection? src.rest with
    | some (stream, untab, rest), _ => do
      let (mark, after) ← target n { src with rest }
      let (text, after) := takeLines untab (plainText mark) after
      if isQuoted mark then .ok (.redirect (.here stream [.text true text]), after)
      else do
        let (pieces, _) ← inHere n { after with rest := text, hidden := 0 }
        .ok (.redirect (.here stream pieces), after)
    | none, some (make, rest) => do
      let (w, after) ← target n { src with rest }
      .ok (.redirect (make (tilde w)), after)
    | none, none =>
      match operator? src.rest with
      | some (text, rest) => .ok (.operator text, { src with rest })
      | none =>
        match src.rest with
        | [] => .ok (.finish, src)
        | '\n' :: rest => .ok (.newline, src.nextLine rest)
        | _ => (word n src).map fun p => (.word (tilde p.1), p.2)

def skipLines : Nat → Source → Reading (Unit × Source)
  | 0, src => fail src .tooDeep
  | n + 1, src => do
    let (t, after) ← token n src
    match t with
    | .newline => skipLines n after
    | _ => .ok ((), src)

def expect : Nat → String → Source → Reading (Unit × Source)
  | 0, _, src => fail src .tooDeep
  | n + 1, name, src => do
    let (t, after) ← token n src
    if reserved? t = some name then .ok ((), after) else unexpected src t (some name)

def redirects : Nat → Source → Reading (List Redirect × Source)
  | 0, src => fail src .tooDeep
  | n + 1, src => do
    let (t, after) ← token n src
    match t with
    | .redirect r => do
      let (rest, src) ← redirects n after
      .ok (r :: rest, src)
    | _ => .ok ([], src)

def simple : Nat → Nat → List (Octets × Word) → List Word → List Redirect → Source →
    Reading (Command × Source)
  | 0, _, _, _, _, src => fail src .tooDeep
  | n + 1, line, assignments, words, redirs, src => do
    let (t, after) ← token n src
    match t with
    | .redirect r => simple n line assignments words (redirs ++ [r]) after
    | .word w =>
      match words, assignment? w, alias? src t with
      | [], some a, _ => simple n line (assignments ++ [a]) [] redirs after
      | [], none, some a =>
        (simple n line assignments [] redirs (unfold after a)).map fun r =>
          (r.1, { r.2 with aliases := src.aliases })
      | _, _, _ => simple n line assignments (words ++ [w]) redirs after
    | .operator "(" =>
      match assignments, words, redirs with
      | [], [name], [] => do
        let (t, after) ← token n after
        match t, functionName? name with
        | .operator ")", some name => do
          let (_, src) ← skipLines n after
          let (body, src) ← command n src
          .ok (.define name body, src)
        | .operator ")", none => fail after .badFunctionName
        | _, _ => unexpectedAsWord src t (some ")")
      | _, _, _ => .ok (.simple line assignments words redirs, src)
    | _ => .ok (.simple line assignments words redirs, src)

/-- Reads what follows the condition of a choice, up to its end. -/
def branches : Nat → Source → Reading (Command × Source)
  | 0, src => fail src .tooDeep
  | n + 1, src => do
    let (condition, src) ← block n false src
    let (_, src) ← expect n "then" src
    let (yes, src) ← block n false src
    let (t, after) ← token n src
    match reserved? t with
    | some "elif" => do
      let (no, src) ← branches n after
      .ok (.choose condition yes no, src)
    | some "else" => do
      let (no, src) ← block n false after
      let (_, src) ← expect n "fi" src
      .ok (.choose condition yes no, src)
    | _ => do
      let (_, src) ← expect n "fi" src
      .ok (.choose condition yes .nothing, src)

def loopWords : Nat → Source → Reading (List Word × Source)
  | 0, src => fail src .tooDeep
  | n + 1, src => do
    let (t, after) ← token n src
    match t with
    | .word w => do
      let (rest, src) ← loopWords n after
      .ok (w :: rest, src)
    | .operator ";" => .ok ([], after)
    | .newline => .ok ([], after)
    | _ => unexpected src t none

/-- Reads the patterns of a branch, up to the parenthesis that closes them. A token that is no word
stands for the word `last` before it. -/
def patterns : Nat → Word → Source → Reading (List Word × Source)
  | 0, _, src => fail src .tooDeep
  | n + 1, last, src => do
    let (t, src) ← token n src
    let w := match t with
      | .word w => w
      | _ => last
    let (t, after) ← token n src
    match t with
    | .operator "|" => do
      let (rest, src) ← patterns n w after
      .ok (w :: rest, src)
    | .operator ")" => .ok ([w], after)
    | _ => unexpectedAsWord src t (some ")")

def selections : Nat → Source → Reading (List (List Word × Command) × Source)
  | 0, src => fail src .tooDeep
  | n + 1, src => do
    let (_, src) ← skipLines n src
    let (t, after) ← token n src
    if reserved? t = some "esac" then .ok ([], after)
    else do
      let start := match t with
        | .operator "(" => after
        | _ => src
      let (ps, src) ← patterns n [.text false ['i', 'n']] start
      let (body, src) ← block n true src
      let (t, after) ← token n src
      match t with
      | .operator ";;" => do
        let (rest, src) ← selections n after
        .ok ((ps, body) :: rest, src)
      | t =>
        if reserved? t = some "esac" then .ok ([(ps, body)], after)
        else unexpected src t (some ";;")

/-- Reads the body of a loop that starts on the line `start`, and the redirections behind it. -/
def looped : Nat → Nat → (Command → Command) → Source → Reading (Command × Source)
  | 0, _, _, src => fail src .tooDeep
  | n + 1, start, make, src => do
    let (_, src) ← skipLines n src
    let (_, src) ← expect n "do" src
    let (body, src) ← block n false src
    let (_, src) ← expect n "done" src
    let (rs, src) ← redirects n src
    .ok (.group start (make body) rs, src)

def forLoop : Nat → Nat → Source → Reading (Command × Source)
  | 0, _, src => fail src .tooDeep
  | n + 1, start, src => do
    let (t, after) ← token n src
    match loopName? t with
    | none => fail after .badLoopName
    | some name => do
      let (_, src) ← skipLines n after
      let (t, after) ← token n src
      match t with
      | .word w =>
        if bare? w = some ['i', 'n'] then do
          let (words, src) ← loopWords n after
          looped n start (.forEach start name (some words)) src
        else looped n start (.forEach start name none) src
      | .operator ";" => looped n start (.forEach start name none) after
      | _ => looped n start (.forEach start name none) src

def command : Nat → Source → Reading (Command × Source)
  | 0, src => fail src .tooDeep
  | n + 1, src => do
    let start := (skipBlanks src).line
    let (t, after) ← token n src
    match t, reserved? t with
    | .operator "(", _ => do
      let (body, src) ← block n false after
      let (t, after) ← token n src
      match t with
      | .operator ")" => do
        let (rs, src) ← redirects n after
        .ok (.subshell start body rs, src)
      | _ => unexpected src t (some ")")
    | _, some "\x7b" => do
      let (body, src) ← block n false after
      let (_, src) ← expect n "\x7d" src
      let (rs, src) ← redirects n src
      .ok (.group start body rs, src)
    | _, some "if" => do
      let (body, src) ← branches n after
      let (rs, src) ← redirects n src
      .ok (.group start body rs, src)
    | _, some "for" => forLoop n start after
    | _, some "while" => do
      let (condition, src) ← block n false after
      looped n start (.loop false condition) src
    | _, some "until" => do
      let (condition, src) ← block n false after
      looped n start (.loop true condition) src
    | _, some "case" => do
      let (t, subjectEnd) ← token n after
      match t with
      | .word subject => do
        let (_, src) ← skipLines n subjectEnd
        let (t, after) ← token n src
        if isWord "in" t then do
          let (branches, src) ← selections n after
          let (rs, src) ← redirects n src
          .ok (.group start (.select start subject branches) rs, src)
        else unexpected src t (some "in")
      | _ => unexpectedAsWord after t (some "word")
    | .word _, none =>
      match alias? src t with
      | some a =>
        (command n (unfold after a)).map fun r => (r.1, { r.2 with aliases := src.aliases })
      | none => simple n src.line [] [] [] src
    | .redirect _, _ => simple n src.line [] [] [] src
    | _, _ => unexpected src t none

def pipeline : Nat → Source → Reading (Command × Source)
  | 0, src => fail src .tooDeep
  | n + 1, src => do
    let (t, after) ← token n src
    if reserved? t = some "!" then do
      let (first, src) ← command n after
      let (body, src) ← piped n first src
      .ok (.negated body, src)
    else do
      let (first, src) ← command n src
      piped n first src

/-- Reads the further commands of a pipe. -/
def piped : Nat → Command → Source → Reading (Command × Source)
  | 0, _, src => fail src .tooDeep
  | n + 1, first, src => do
    let (t, after) ← token n src
    match t with
    | .operator "|" => do
      let (_, src) ← skipLines n after
      let (second, src) ← command n src
      piped n (.pipe first second) src
    | _ => .ok (first, src)

/-- Reads the pipes that are joined to `first` by their success or failure. -/
def joined : Nat → Command → Source → Reading (Command × Source)
  | 0, _, src => fail src .tooDeep
  | n + 1, first, src => do
    let (t, after) ← token n src
    match t with
    | .operator "&&" => do
      let (_, src) ← skipLines n after
      let (second, src) ← pipeline n src
      joined n (.both first second) src
    | .operator "||" => do
      let (_, src) ← skipLines n after
      let (second, src) ← pipeline n src
      joined n (.oneOf first second) src
    | _ => .ok (first, src)

/-- Reads a list of commands over several lines up to a token that closes it; only a list that may
be `empty` can be closed at once. -/
def block : Nat → Bool → Source → Reading (Command × Source)
  | 0, _, src => fail src .tooDeep
  | n + 1, empty, src => do
    let (_, src) ← skipLines n src
    let (t, _) ← token n src
    let ends := match t with
      | .finish => true
      | _ => empty && closes t
    if ends then .ok (.nothing, src)
    else do
      let (first, src) ← pipeline n src
      let (first, src) ← joined n first src
      let (t, after) ← token n src
      let goesOn := match t with
        | .newline => true
        | .operator text => text = ";" || text = "&"
        | _ => false
      if goesOn then do
        let (rest, src) ← block n true after
        .ok (.sequence (started t first) rest, src)
      else .ok (first, src)

end

def line : Nat → Source → Reading (Command × Source)
  | 0, src => fail src .tooDeep
  | n + 1, src => do
    let (t, after) ← token n src
    match t with
    | .finish => .ok (.nothing, after)
    | .newline => .ok (.nothing, after)
    | _ => do
      let (first, src) ← pipeline n src
      let (first, src) ← joined n first src
      let (t, after) ← token n src
      match t with
      | .finish => .ok (first, after)
      | .newline => .ok (first, after)
      | .operator text =>
        if text = ";" || text = "&" then do
          let (rest, src) ← line n after
          .ok (.sequence (started t first) rest, src)
        else unexpected src t none
      | _ => unexpected src t none

end Reader

/-- Reads one line of a script: the command on it and what follows. -/
def readLine (src : Source) : Reading (Command × Source) :=
  Reader.line (10 * src.rest.length + 20) src

end LintDispatch.Shell
