import LintDispatch.Shell.Program.Expression
import LintDispatch.Shell.Program.Lines

/-!
Editing lines by a script. Every line goes through the commands in order, each for all lines or for
those that its addresses choose; between lines one text is held back.
-/

namespace LintDispatch.Shell.Program.Edit

inductive Address where
  | line (n : Nat)
  | step (first every : Nat)
  | last
  | fits (e : Option Expression) (folds : Bool)
  deriving Repr

inductive Stop where
  | address (a : Address)
  | further (n : Nat)
  deriving Repr

structure Choice where
  first : Option Address
  stop : Option Stop
  negated : Bool
  deriving Repr

/-- A part of the text that is put for a match. -/
inductive Part where
  | chars (s : List Char)
  | group (index : Nat)
  | upper
  | lower
  | upperOnce
  | lowerOnce
  | plain
  deriving Repr

structure Substitution where
  expression : Option Expression
  folds : Bool
  parts : List Part
  everywhere : Bool
  count : Nat
  shows : Bool
  target : Option Octets
  deriving Repr

inductive Action where
  | open_ (stop : Nat)
  | close
  | append (s : Octets)
  | insert (s : Octets)
  | change (s : Octets)
  | branch (label : Octets)
  | branchIf (label : Octets)
  | branchUnless (label : Octets)
  | label (name : Octets)
  | delete
  | deleteFirst
  | number
  | get
  | getMore
  | hold
  | holdMore
  | exchange
  | list
  | next
  | nextMore
  | show_
  | showFirst
  | quit (status : Nat) (shows : Bool)
  | substitute (s : Substitution)
  | translate (sources targets : List Char)
  | readFile (name : Octets)
  | writeFile (name : Octets)
  deriving Repr

structure Instruction where
  choice : Choice
  action : Action
  deriving Repr

/-- What is wrong with a script, and how far it was read. -/
structure Refusal where
  left : Nat
  problem : String

abbrev Reading := Except Refusal

def refuse {α : Type} (rest : List Char) (problem : String) : Except Refusal α :=
  .error ⟨rest.length, problem⟩

def skipBlanks (s : List Char) : List Char :=
  s.dropWhile isSpace

/-- The text up to a mark that is not escaped; an escaped mark stands for itself. -/
def untilMark (mark : Char) (isExpression : Bool) : Nat → Bool → List Char →
    Option (List Char × List Char)
  | 0, _, _ => none
  | _, _, [] => none
  | n + 1, inBracket, '\\' :: c :: rest =>
    let kept :=
      if inBracket then ['\\', c]
      else if c = mark then
        (if isExpression && "()|+?\x7b\x7d*.[]^$".toList.contains c then ['\\', c] else [c])
      else if c = '\n' && isExpression then ['\\', 'n']
      else ['\\', c]
    (untilMark mark isExpression n inBracket rest).map fun r => (kept ++ r.1, r.2)
  | n + 1, inBracket, c :: rest =>
    if c = mark && !inBracket then some ([], rest)
    else
      let opens := isExpression && !inBracket && c = '['
      let closes := inBracket && c = ']'
      match opens, rest with
      | true, '^' :: ']' :: more =>
        (untilMark mark isExpression n true more).map fun r => (['[', '^', ']'] ++ r.1, r.2)
      | true, ']' :: more =>
        (untilMark mark isExpression n true more).map fun r => (['[', ']'] ++ r.1, r.2)
      | _, rest =>
        (untilMark mark isExpression n ((inBracket || opens) && !closes) rest).map fun r =>
          (c :: r.1, r.2)

/-- Reads an expression; an empty one stands for the one used last. -/
def expression (extended : Bool) (rest : List Char) (s : List Char) :
    Except Refusal (Option Expression) :=
  if s.isEmpty then .ok none
  else match Expression.ofText extended s with
    | .ok e => .ok (some e)
    | .error e => refuse rest e.message

def digitsOf (s : List Char) : List Char × List Char :=
  (s.takeWhile Char.isDigit, s.dropWhile Char.isDigit)

def address? (extended : Bool) (s : List Char) : Reading (Option Address × List Char) :=
  match s with
  | '$' :: rest => .ok (some .last, rest)
  | '/' :: rest => pattern '/' rest
  | '\\' :: mark :: rest => pattern mark rest
  | c :: _ =>
    if c.isDigit then
      let (ds, rest) := digitsOf s
      match rest with
      | '~' :: rest =>
        let (every, rest) := digitsOf rest
        .ok (some (.step (Octets.number ds) (Octets.number every)), rest)
      | rest => .ok (some (.line (Octets.number ds)), rest)
    else .ok (none, s)
  | [] => .ok (none, s)
where
  pattern (mark : Char) (rest : List Char) : Reading (Option Address × List Char) :=
    match untilMark mark true (rest.length + 1) false rest with
    | none => refuse [] "unterminated address regex"
    | some (text, rest) => do
      let (folds, rest) := match rest with
        | 'I' :: rest => (true, rest)
        | rest => (false, rest)
      let e ← expression extended rest text
      .ok (some (.fits e folds), rest)

def choice (extended : Bool) (s : List Char) : Reading (Choice × List Char) := do
  let (first, rest) ← address? extended s
  let rest := skipBlanks rest
  let (stop, rest) ← match first, rest with
    | some _, ',' :: rest => do
      let rest := skipBlanks rest
      match rest with
      | '+' :: more =>
        let (ds, rest) := digitsOf more
        pure (some (Stop.further (Octets.number ds)), rest)
      | rest => do
        let (a, rest) ← address? extended rest
        match a with
        | some a => pure (some (Stop.address a), rest)
        | none => refuse (rest.drop 1) "unexpected \x60,'"
    | _, rest => pure (none, rest)
  let rest := skipBlanks rest
  match rest with
  | '!' :: rest => return (⟨first, stop, true⟩, (rest.dropWhile (· = '!')).dropWhile (· = ' '))
  | rest => return (⟨first, stop, false⟩, rest)

def partsOf : List Char → List Part
  | [] => []
  | '\\' :: c :: rest =>
    (if c.isDigit then .group (c.toNat - 48)
    else match c with
      | 'n' => .chars ['\n']
      | 't' => .chars ['\t']
      | 'r' => .chars ['\r']
      | 'U' => .upper
      | 'L' => .lower
      | 'u' => .upperOnce
      | 'l' => .lowerOnce
      | 'E' => .plain
      | c => .chars [c]) :: partsOf rest
  | '&' :: rest => .group 0 :: partsOf rest
  | c :: rest => .chars [c] :: partsOf rest

def highest (parts : List Part) : Nat :=
  (parts.map fun
    | .group i => i
    | _ => 0).foldl max 0

def flags : Nat → Substitution → List Char → Reading (Substitution × List Char)
  | 0, s, rest => .ok (s, rest)
  | n + 1, s, rest =>
    match rest with
    | 'g' :: rest =>
      if s.everywhere then refuse rest "multiple \x60g' options to \x60s' command"
      else flags n { s with everywhere := true } rest
    | 'p' :: rest =>
      if s.shows then refuse rest "multiple \x60p' options to \x60s' command"
      else flags n { s with shows := true } rest
    | 'i' :: rest => flags n { s with folds := true } rest
    | 'I' :: rest => flags n { s with folds := true } rest
    | 'm' :: rest => flags n s rest
    | 'M' :: rest => flags n s rest
    | 'w' :: rest =>
      let name := skipBlanks rest |>.takeWhile (· != '\n')
      .ok ({ s with target := some name }, (skipBlanks rest).drop name.length)
    | c :: more =>
      if c.isDigit then
        let (ds, rest) := digitsOf (c :: more)
        if Octets.number ds = 0 then refuse rest "number option to \x60s' command may not be zero"
        else flags n { s with count := Octets.number ds } rest
      else if c = ' ' || c = '\t' then flags n s more
      else if c = '\n' || c = ';' || c = '}' || c = '#' then .ok (s, c :: more)
      else refuse more "unknown option to \x60s'"
    | [] => .ok (s, [])

/-- A text argument: up to the end of its line, where a backslash takes in the next line. -/
def textArgument (s : List Char) : Octets × List Char :=
  let s := match skipInline s with
    | '\\' :: rest =>
      match skipInline rest with
      | '\n' :: more => skipInline more
      | _ => rest
    | rest => rest
  let rec take : List Char → List Char × List Char
    | [] => ([], [])
    | '\n' :: rest => ([], rest)
    | '\\' :: c :: rest => let r := take rest; (c :: r.1, r.2)
    | c :: rest => let r := take rest; (c :: r.1, r.2)
  take s
where
  skipInline (s : List Char) : List Char := s.dropWhile fun c => c = ' ' || c = '\t'

def labelOf (s : List Char) : Octets × List Char :=
  let s := s.dropWhile fun c => c = ' ' || c = '\t'
  let name := s.takeWhile fun c => c != '\n' && c != ';' && c != '}'
  ((name.reverse.dropWhile isSpace).reverse, s.drop name.length)

def fileOf (s : List Char) : Octets × List Char :=
  let s := s.dropWhile fun c => c = ' ' || c = '\t'
  let name := s.takeWhile (· != '\n')
  (name, s.drop name.length)

/-- What follows a command has to end it. -/
def ended (action : Action) (s : List Char) : Reading (Action × List Char) :=
  match s.dropWhile fun c => c = ' ' || c = '\t' with
  | [] => .ok (action, [])
  | '\n' :: rest => .ok (action, rest)
  | ';' :: rest => .ok (action, rest)
  | '}' :: rest => .ok (action, '}' :: rest)
  | '#' :: rest => .ok (action, '#' :: rest)
  | _ :: rest => refuse rest "extra characters after command"

def status (s : List Char) : Nat × List Char :=
  let s := s.dropWhile fun c => c = ' ' || c = '\t'
  let (ds, rest) := digitsOf s
  (Octets.number ds % 256, rest)

def substitution (extended : Bool) (s : List Char) : Reading (Action × List Char) :=
  let unterminated {α : Type} : Except Refusal α := refuse [] "unterminated \x60s' command"
  match s with
  | [] => unterminated
  | mark :: rest =>
    if mark = '\n' || mark = '\\' then unterminated
    else match untilMark mark true (rest.length + 1) false rest with
      | none => unterminated
      | some (pattern, rest) =>
        match untilMark mark false (rest.length + 1) false rest with
        | none => unterminated
        | some (replacement, rest) => do
          let parts := partsOf replacement
          let (s, rest) ← flags (rest.length + 1)
            ⟨none, false, parts, false, 1, false, none⟩ rest
          let e ← expression extended rest pattern
          match e with
          | some e =>
            if e.groupCount < highest parts then
              refuse rest ("invalid reference \\" ++ toString (highest parts)
                ++ " on \x60s' command's RHS")
            else ended (.substitute { s with expression := some e }) rest
          | none => ended (.substitute s) rest

/-- The characters of one side of a translation. -/
def plainChars : List Char → List Char
  | [] => []
  | '\\' :: c :: rest =>
    (match c with
      | 'n' => '\n'
      | 't' => '\t'
      | c => c) :: plainChars rest
  | c :: rest => c :: plainChars rest

def translation (s : List Char) : Reading (Action × List Char) :=
  let unterminated {α : Type} : Except Refusal α := refuse [] "unterminated \x60y' command"
  match s with
  | [] => unterminated
  | mark :: rest =>
    match untilMark mark false (rest.length + 1) false rest with
    | none => unterminated
    | some (sources, rest) =>
      match untilMark mark false (rest.length + 1) false rest with
      | none => unterminated
      | some (targets, rest) =>
        let sources := plainChars sources
        let targets := plainChars targets
        if sources.length != targets.length then
          refuse rest "strings for \x60y' command are different lengths"
        else ended (.translate sources targets) rest

def action (extended : Bool) (c : Char) (s : List Char) : Reading (Action × List Char) :=
  let text (f : Octets → Action) : Reading (Action × List Char) :=
    if (skipBlanks s).isEmpty then refuse [] "expected \\ after \x60a', \x60c' or \x60i'"
    else let (t, rest) := textArgument s; .ok (f (line (Octets.ofText t)), rest)
  match c with
  | '{' => .ok (.open_ 0, s)
  | '}' => ended .close s
  | 'a' => text .append
  | 'i' => text .insert
  | 'c' => text .change
  | ':' =>
    let (name, rest) := labelOf s
    if name.isEmpty then refuse rest "\":\" lacks a label" else ended (.label name) rest
  | 'b' => let (name, rest) := labelOf s; ended (.branch name) rest
  | 't' => let (name, rest) := labelOf s; ended (.branchIf name) rest
  | 'T' => let (name, rest) := labelOf s; ended (.branchUnless name) rest
  | 'd' => ended .delete s
  | 'D' => ended .deleteFirst s
  | '=' => ended .number s
  | 'g' => ended .get s
  | 'G' => ended .getMore s
  | 'h' => ended .hold s
  | 'H' => ended .holdMore s
  | 'x' => ended .exchange s
  | 'l' => ended .list s
  | 'n' => ended .next s
  | 'N' => ended .nextMore s
  | 'p' => ended .show_ s
  | 'P' => ended .showFirst s
  | 'q' => let (n, rest) := status s; ended (.quit n true) rest
  | 'Q' => let (n, rest) := status s; ended (.quit n false) rest
  | 's' => substitution extended s
  | 'y' => translation s
  | 'r' => let (name, rest) := fileOf s; .ok (.readFile (Octets.ofText name), rest)
  | 'w' => let (name, rest) := fileOf s; .ok (.writeFile (Octets.ofText name), rest)
  | c => refuse s ("unknown command: \x60" ++ String.singleton c ++ "'")

def instructions (extended : Bool) : Nat → List Char → Except Refusal (List Instruction)
  | 0, _ => .ok []
  | n + 1, s =>
    match s.dropWhile fun c => isSpace c || c = ';' with
    | [] => .ok []
    | '#' :: rest => instructions extended n (rest.dropWhile (· != '\n'))
    | s => do
      let (choice, rest) ← choice extended s
      match rest with
      | [] => refuse [] "missing command"
      | c :: rest => do
        let (action, rest) ← action extended c rest
        let more ← instructions extended n rest
        return ⟨choice, action⟩ :: more

/-- Tells every opening brace where its closing one stands. -/
def closed (all : List Instruction) : Except String (List Instruction) :=
  let rec go : Nat → List Instruction → Except String (List Instruction × List Nat)
    | _, [] => .ok ([], [])
    | i, x :: rest => do
      let (done, stops) ← go (i + 1) rest
      match x.action, stops with
      | .close, stops => return (x :: done, i :: stops)
      | .open_ _, stop :: stops => return ({ x with action := .open_ stop } :: done, stops)
      | .open_ _, [] => .error "unmatched \x60\x7b'"
      | _, stops => return (x :: done, stops)
  do
    let (done, stops) ← go 0 all
    if stops.isEmpty then return done else .error "unexpected \x60\x7d'"

/-- The state of an edit: what is left to read, the text at hand and the one that is held. -/
structure State where
  rest : List Octets
  number : Nat
  text : Octets
  held : Octets
  output : Octets
  appended : Octets
  replaced : Bool
  last : Option Expression
  /-- Which ranges are open, with the line at which each may end. -/
  ranges : List (Nat × Option Nat)
  written : List (Octets × Octets)
  ending : Option Nat

structure Settings where
  program : Array Instruction
  quiet : Bool
  read : Octets → Octets

def isLast (s : State) : Bool := s.rest.isEmpty

def subjectOf (folds : Bool) (text : Octets) : Expression.Subject × Bool :=
  let (chars, isText) := readable text
  (⟨chars.toArray, folds⟩, isText)

/-- Whether an address chooses the line at hand. -/
def fits (s : State) : Address → State × Bool
  | .line n => (s, s.number = n)
  | .step first every =>
    (s, if every = 0 then s.number = first
      else first ≤ s.number && (s.number - first) % every = 0)
  | .last => (s, isLast s)
  | .fits e folds =>
    match e.orElse fun _ => s.last with
    | none => (s, false)
    | some e =>
      ({ s with last := some e }, ((e.first? (subjectOf folds s.text).1 0).isSome))

/-- Whether an instruction is for the line at hand; ranges stay open from line to line. -/
def chosen (i : Nat) (c : Choice) (s : State) : State × Bool :=
  let close (s : State) : State := { s with ranges := s.ranges.filter fun r => r.1 != i }
  let open_ (s : State) (stop : Option Nat) : State :=
    { close s with ranges := (i, stop) :: (close s).ranges }
  let (s, b) := match c.first, c.stop with
    | none, _ => (s, true)
    | some a, none => fits s a
    | some a, some stop =>
      match s.ranges.lookup i with
      | some (some stop) => (if stop ≤ s.number then close s else s, s.number ≤ stop)
      | some none =>
        match stop with
        | .address b =>
          let (s, ends) := fits s b
          (if ends then close s else s, true)
        | .further _ => (close s, true)
      | none =>
        let zero := match a with
          | .line 0 => true
          | _ => false
        let (s, starts) := if zero && s.number = 1 then (s, true) else fits s a
        if !starts then (s, false)
        else match stop with
          | .address (.line n) => (if s.number < n then open_ s (some n) else s, true)
          | .further n => (if n = 0 then s else open_ s (some (s.number + n)), true)
          | .address b =>
            if zero then
              let (s, ends) := fits s b
              (if ends then s else open_ s none, true)
            else (open_ s none, true)
  (s, b != c.negated)

/-- How letters are changed while a replacement is put together. -/
structure Casing where
  all : Option Bool
  once : Option Bool

/-- Adds characters in the case that is asked for. -/
def Casing.apply (c : Casing) : List Char → List Char × Casing
  | [] => ([], c)
  | x :: rest =>
    let turn (up : Bool) (x : Char) : Char := if up then x.toUpper else x.toLower
    let whole (x : Char) : Char := match c.all with
      | some up => turn up x
      | none => x
    let front := match c.once with
      | some up => turn up x
      | none => whole x
    (front :: rest.map whole, { c with once := none })

def replacement (f : Expression.Subject) (start : Nat) (spot : Expression.Spot)
    (parts : List Part) : List Char :=
  (parts.foldl (fun (acc : List Char × Casing) p =>
    let add (s : List Char) : List Char × Casing :=
      let (s, c) := acc.2.apply s
      (acc.1 ++ s, c)
    match p with
    | .chars s => add s
    | .group 0 => add (f.slice start spot.index)
    | .group i =>
      match spot.groups.find? fun g => g.1 == i with
      | some (_, a, b) => add (f.slice a b)
      | none => acc
    | .upper => (acc.1, { acc.2 with all := some true })
    | .lower => (acc.1, { acc.2 with all := some false })
    | .upperOnce => (acc.1, { acc.2 with once := some true })
    | .lowerOnce => (acc.1, { acc.2 with once := some false })
    | .plain => (acc.1, ⟨none, none⟩)) ([], ⟨none, none⟩)).1

/-- Replaces matches from an index on, the first of them the `n`-th; says whether there was one. -/
def replaceFrom (e : Expression) (f : Expression.Subject) (s : Substitution) :
    Nat → Nat → Nat → Option Nat → List Char × Bool
  | 0, _, i, _ => (f.slice i f.text.size, false)
  | fuel + 1, n, i, before =>
    match e.first? f i with
    | none => (f.slice i f.text.size, false)
    | some (start, spot) =>
      if start = spot.index && before = some start then
        -- an empty match right behind another one does not count
        if f.text.size ≤ start then (f.slice i f.text.size, false)
        else
          let (rest, done) := replaceFrom e f s fuel n (start + 1) none
          (f.slice i (start + 1) ++ rest, done)
      else
        let counts := s.count ≤ n
        let here := if counts then replacement f start spot s.parts else f.slice start spot.index
        let front := f.slice i start ++ here
        if counts && !s.everywhere then (front ++ f.slice spot.index f.text.size, true)
        else if start = spot.index then
          if f.text.size ≤ start then (front, counts)
          else
            let (rest, done) := replaceFrom e f s fuel (n + 1) (start + 1) none
            (front ++ f.slice start (start + 1) ++ rest, done || counts)
        else
          let (rest, done) := replaceFrom e f s fuel (n + 1) spot.index (some spot.index)
          (front ++ rest, done || counts)

def substitute (s : State) (sub : Substitution) : State :=
  match sub.expression.orElse fun _ => s.last with
  | none => s
  | some e =>
    let (f, isText) := subjectOf sub.folds s.text
    let (text, done) := replaceFrom e f sub (f.text.size + 3) 1 0 none
    let s := { s with last := some e }
    if !done then s
    else
      let text := written isText text
      let s := { s with text, replaced := true }
      let s := if sub.shows then { s with output := s.output ++ line text } else s
      match sub.target with
      | some name => { s with written := s.written ++ [(name, line text)] }
      | none => s

/-- The text at hand with all that cannot be printed in signs. -/
def listed (text : Octets) : Octets :=
  text.flatMap (fun c =>
    match c with
    | '\\' => ['\\', '\\']
    | '\x07' => ['\\', 'a']
    | '\x08' => ['\\', 'b']
    | '\x0c' => ['\\', 'f']
    | '\n' => ['\\', 'n']
    | '\r' => ['\\', 'r']
    | '\t' => ['\\', 't']
    | '\x0b' => ['\\', 'v']
    | c =>
      if 32 ≤ c.toNat && c.toNat < 127 then [c]
      else '\\' :: Places.digits 3 (Octets.number (Nat.toDigits 8 c.toNat))) ++ ['$', '\n']

/-- Ends the work on a line: shows it, and what was to follow it. -/
def flush (t : Settings) (s : State) : State :=
  let shown := if t.quiet then [] else line s.text
  { s with output := s.output ++ shown ++ s.appended, appended := [] }

def advance (s : State) : State :=
  match s.rest with
  | [] => s
  | l :: rest => { s with rest, number := s.number + 1, text := l }

inductive Outcome where
  | finished
  | deleted
  | again
  deriving DecidableEq

def indexOf (t : Settings) (name : Octets) : Nat :=
  (t.program.findIdx? fun x => match x.action with
    | .label l => l == name
    | _ => false).getD t.program.size

def run (t : Settings) : Nat → Nat → State → State × Outcome
  | 0, _, s => (s, .finished)
  | fuel + 1, i, s =>
    match t.program[i]? with
    | none => (s, .finished)
    | some x =>
      let (s, applies) := chosen i x.choice s
      let go (s : State) : State × Outcome := run t fuel (i + 1) s
      let jump (name : Octets) (s : State) : State × Outcome :=
        run t fuel (if name.isEmpty then t.program.size else indexOf t name) s
      if !applies then
        match x.action with
        | .open_ stop => run t fuel (stop + 1) s
        | _ => go s
      else match x.action with
        | .open_ _ => go s
        | .close => go s
        | .label _ => go s
        | .append text => go { s with appended := s.appended ++ text }
        | .insert text => go { s with output := s.output ++ text }
        | .change text =>
          let isOpen := (s.ranges.lookup i).isSome
          let s := if isOpen && !x.choice.negated then s else { s with output := s.output ++ text }
          (s, .deleted)
        | .branch name => jump name s
        | .branchIf name =>
          if s.replaced then jump name { s with replaced := false } else go s
        | .branchUnless name =>
          if s.replaced then go { s with replaced := false } else jump name s
        | .delete => (s, .deleted)
        | .deleteFirst =>
          if s.text.contains '\n' then
            ({ s with text := (s.text.dropWhile (· != '\n')).drop 1 }, .again)
          else (s, .deleted)
        | .number => go { s with output := s.output ++ line (Machine.decimal s.number) }
        | .get => go { s with text := s.held }
        | .getMore => go { s with text := s.text ++ '\n' :: s.held }
        | .hold => go { s with held := s.text }
        | .holdMore => go { s with held := s.held ++ '\n' :: s.text }
        | .exchange => go { s with text := s.held, held := s.text }
        | .list => go { s with output := s.output ++ listed s.text }
        | .next =>
          if isLast s then
            ((flush t s), .deleted)
          else go (advance (flush t s))
        | .nextMore =>
          if isLast s then (s, .finished)
          else
            let text := s.text
            let s := { s with output := s.output ++ s.appended, appended := [] }
            let s := advance s
            go { s with text := text ++ '\n' :: s.text }
        | .show_ => go { s with output := s.output ++ line s.text }
        | .showFirst => go { s with output := s.output ++ line (s.text.takeWhile (· != '\n')) }
        | .quit status shows =>
          let s := { s with ending := some status }
          (s, if shows then .finished else .deleted)
        | .substitute sub => go (substitute s sub)
        | .translate sources targets =>
          let (chars, isText) := readable s.text
          let map (c : Char) : Char :=
            ((sources.idxOf? c).bind fun k => targets[k]?).getD c
          go { s with text := written isText (chars.map map) }
        | .readFile name => go { s with appended := s.appended ++ t.read name }
        | .writeFile name => go { s with written := s.written ++ [(name, line s.text)] }

/-- Goes through the lines; a text of which only the first line was deleted is looked at again. -/
def runAll (t : Settings) : Nat → Bool → State → State
  | 0, _, s => s
  | fuel + 1, again, s =>
    if !again && isLast s then s
    else
      let s := if again then s else { advance s with replaced := false }
      let (s, outcome) := run t (1000 * (t.program.size + 1)) 0 s
      let s := match outcome with
        | .finished => flush t s
        | _ => { s with output := s.output ++ s.appended, appended := [] }
      if s.ending.isSome then s else runAll t fuel (outcome = .again) s

def edit (t : Settings) (text : Octets) : State :=
  let lines := bareLines text
  let start : State := ⟨lines, 0, [], [], [], [], false, none, [], [], none⟩
  let s := runAll t (4 * text.length + 16) false start
  let s := { s with output := s.output }
  if text.getLast?.any (· != '\n') && s.output.getLast? = some '\n' && s.rest.isEmpty then
    { s with output := s.output.dropLast }
  else s

def sedArguments : Known :=
  ⟨"nErsuz", "efi", [("quiet", 'n'), ("silent", 'n'), ("regexp-extended", 'E'), ("expression", 'e'),
    ("in-place", 'i'), ("separate", 's'), ("file", 'f')]⟩

/-- Takes the option for editing files in place out of one argument: the argument without it, and
what is put behind the name of a file to keep its old text. -/
def inPlaceOption (s : Octets) : Option (Option Octets × Octets) :=
  match s with
  | '-' :: '-' :: _ =>
    if s = "--in-place".toList then some (none, [])
    else if "--in-place=".toList.isPrefixOf s then some (none, s.drop 11)
    else none
  | '-' :: letters =>
    let before := letters.takeWhile (· != 'i')
    if letters.contains 'i' && before.all fun c => "nErsuz".toList.contains c then
      some (if before.isEmpty then none else some ('-' :: before), letters.drop (before.length + 1))
    else none
  | _ => none

/-- The arguments without the option for editing files in place, and its value if it was there. -/
def inPlace : List Octets → List Octets × Option Octets
  | [] => ([], none)
  | s :: rest =>
    let (others, found) := inPlace rest
    match inPlaceOption s with
    | some (kept, ending) => (kept.toList ++ others, some ending)
    | none => (s :: others, found)

def refused (script : Octets) (r : Refusal) (m : Machine) : Machine :=
  let place := (readable script).1.length - r.left
  finish m [] (("sed: -e expression #1, char " ++ toString place ++ ": " ++ r.problem
    ++ "\n").toList) 1

def lostLabel? (all : List Instruction) : Option Octets :=
  let labels := all.filterMap fun x => match x.action with
    | .label name => some name
    | _ => none
  (all.filterMap fun x => match x.action with
    | .branch name | .branchIf name | .branchUnless name =>
      if name.isEmpty || labels.contains name then none else some name
    | _ => none).head?

def usage : Octets :=
  ("Usage: sed [OPTION]... \x7bscript-only-if-no-other-script\x7d [input-file]...\n").toList

/-- Adds what commands wrote to files. -/
def keepWritten (s : State) (m : Machine) : Machine :=
  let names := (s.written.map Prod.fst).eraseDups
  names.foldl (fun m name =>
    let text := (s.written.filter fun w => w.1 == name).flatMap Prod.snd
    match m.openFile name false with
    | .ok (m, channel) => m.write channel text
    | .error _ => m) m

def program : Program := fun args m =>
  let (args, places) := inPlace args
  withArguments "sed" sedArguments 1 (fun a m =>
    let given := (a.options.filter fun o => o.1 == 'e').map Prod.snd
    let (script, files) := match given, a.operands with
      | [], s :: files => (some s, files)
      | [], [] => (none, [])
      | ss, files => (some (['\n'].intercalate ss), files)
    match script with
    | none => finish m [] usage 1
    | some script =>
      let extended := a.has 'E' || a.has 'r'
      let chars := (readable script).1
      match instructions extended (chars.length + 1) chars with
      | .error r => refused script r m
      | .ok all =>
        match closed all with
        | .error problem => refused script ⟨if problem.startsWith "unm" then chars.length else 0,
            problem⟩ m
        | .ok all => match lostLabel? all with
        | some name =>
          finish m [] ("sed: can't find label for jump to \x60".toList ++ line (name ++ ['\''])) 1
        | none =>
          let isQuiet := a.has 'n' || chars.take 3 = ['#', 'n', '\n'] || chars = ['#', 'n']
          let t : Settings := ⟨all.toArray, isQuiet, fun name =>
            (m.content (Octets.ofText name)).toOption.getD []⟩
          let complaint (file : Octets) (o : Disk.Obstacle) : Octets :=
            if o = .isDirectory then
              if places.isSome then
                "sed: couldn't edit ".toList ++ file ++ ": not a regular file\n".toList
              else "sed: read error on ".toList ++ file ++ ": Is a directory\n".toList
            else "sed: can't read ".toList ++ file ++ reason o
          let (found, errors, m) := contents complaint files m
          match places with
          | some ending =>
            let m := found.foldl (fun m s =>
              let done := edit t s.2
              let m := if ending.isEmpty then m else
                match m.openFile (if ending.contains '*' then
                    ending.flatMap fun c => if c = '*' then s.1 else [c] else s.1 ++ ending) false
                with
                | .ok (m, channel) => m.write channel s.2
                | .error _ => m
              match m.openFile s.1 false with
              | .ok (m, channel) =>
                keepWritten done (m.write channel (done.output ++ done.rest.flatMap line))
              | .error _ => m) m
            finish m [] errors (if errors.isEmpty then 0 else 4)
          | none =>
            let code :=
              if errors.isEmpty then 0
              else if "sed: read error".toList.isPrefixOf errors then 4 else 2
            let texts := if a.has 's' then found.map Prod.snd else [found.flatMap Prod.snd]
            let all := texts.map (edit t)
            let ending := (all.filterMap State.ending).head?
            finish (all.foldl (fun m done => keepWritten done m) m) (all.flatMap State.output)
              errors (ending.getD code)) args m

def editPrograms : List (String × Program) := [("sed", program)]

end LintDispatch.Shell.Program.Edit
