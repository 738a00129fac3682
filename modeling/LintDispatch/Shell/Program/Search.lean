import LintDispatch.Shell.Program.Expression
import LintDispatch.Shell.Program.Files

/-!
Searching files for lines that match, and showing them with their file, their number, only what
matched, or some lines around them.
-/

namespace LintDispatch.Shell.Program

structure Query where
  expressions : List Expression
  folds : Bool
  whole : Bool
  wordwise : Bool

namespace Query

/-- The next match in a line from an index on, as its start and end. -/
def next (q : Query) (text : Array Char) : Nat → Nat → Option (Nat × Nat)
  | 0, _ => none
  | n + 1, i =>
    let f : Expression.Subject := ⟨text, q.folds⟩
    let better (best : Option (Nat × Nat)) (found : Option (Nat × Nat)) : Option (Nat × Nat) :=
      match best, found with
      | some b, some c => if c.1 < b.1 || (c.1 = b.1 && b.2 < c.2) then found else best
      | none, _ => found
      | _, none => best
    let found := q.expressions.foldl (fun best e =>
      better best ((e.first? f i).map fun r => (r.1, r.2.index))) none
    match found with
    | none => none
    | some (start, stop) =>
      let isWord := !f.isWordBefore start && !f.isWord stop
      if q.wordwise && !isWord then next q text n (start + 1) else some (start, stop)

def all (q : Query) (text : Array Char) : Nat → Nat → List (Nat × Nat)
  | 0, _ => []
  | n + 1, i =>
    match q.next text (text.size + 2) i with
    | none => []
    | some (start, stop) =>
      if text.size < stop then []
      else (start, stop) :: all q text n (if start = stop then stop + 1 else stop)

def holds (q : Query) (line : Octets) : Bool :=
  let text := (readable line).1.toArray
  (q.next text (text.size + 2) 0).isSome

def parts (q : Query) (line : Octets) : List Octets :=
  let (text, isText) := readable line
  let text := text.toArray
  (q.all text (text.size + 2) 0).filterMap fun (start, stop) =>
    if start = stop then none else some (written isText (text.extract start stop).toList)

end Query

def grepArguments : Known :=
  ⟨"EFGPivnclLqowxshHrRazbTyUZ", "emABCfI", [("ignore-case", 'i'), ("invert-match", 'v'),
    ("line-number", 'n'), ("count", 'c'), ("files-with-matches", 'l'),
    ("files-without-match", 'L'), ("quiet", 'q'), ("silent", 'q'), ("only-matching", 'o'),
    ("word-regexp", 'w'), ("line-regexp", 'x'), ("no-messages", 's'), ("no-filename", 'h'),
    ("with-filename", 'H'), ("recursive", 'r'), ("extended-regexp", 'E'), ("fixed-strings", 'F'),
    ("regexp", 'e'), ("max-count", 'm'), ("after-context", 'A'), ("before-context", 'B'),
    ("context", 'C'), ("text", 'a')]⟩

def grepTitle (file : Octets) : Octets :=
  if file = ['-'] then "(standard input)".toList else file

/-- What is shown of one file: its lines, and whether one was found. -/
def grepFile (a : Arguments) (q : Query) (titled : Bool) (file text : Octets) : Octets × Bool :=
  let number (letter : Char) : Option Nat := (a.value? letter).bind Octets.natural?
  let all := (bareLines text).zipIdx.map fun p => (p.1, p.2 + 1)
  let hits := all.filter fun p => q.holds p.1 != a.has 'v'
  let hits := match number 'm' with
    | some n => hits.take n
    | none => hits
  let title (mark : Char) : Octets := if titled then grepTitle file ++ [mark] else []
  let front (mark : Char) (n : Nat) : Octets :=
    title mark ++ if a.has 'n' then Machine.decimal n ++ [mark] else []
  let around := (number 'C').getD 0
  let before := (number 'B').getD around
  let after := (number 'A').getD around
  if a.has 'q' then ([], !hits.isEmpty)
  else if a.has 'l' then (if hits.isEmpty then [] else line (grepTitle file), !hits.isEmpty)
  else if a.has 'L' then (if hits.isEmpty then line (grepTitle file) else [], hits.isEmpty)
  else if a.has 'c' then (line (title ':' ++ Machine.decimal hits.length), !hits.isEmpty)
  else if a.has 'o' then
    (if a.has 'v' then [] else hits.flatMap fun (l, n) =>
      (q.parts l).flatMap fun part => line (front ':' n ++ part), !hits.isEmpty)
  else if before = 0 && after = 0 then
    (hits.flatMap fun (l, n) => line (front ':' n ++ l), !hits.isEmpty)
  else
    let isHit (n : Nat) : Bool := hits.any fun h => h.2 = n
    let isNear (n : Nat) : Bool := hits.any fun h => h.2 ≤ n + before && n ≤ h.2 + after
    let shown := all.filter fun p => isNear p.2
    let (_, output) := shown.foldl (fun (acc : Nat × Octets) (l, n) =>
      let gap := if acc.1 != 0 && acc.1 + 1 != n then "--\n".toList else []
      (n, acc.2 ++ gap ++ line (front (if isHit n then ':' else '-') n ++ l))) (0, [])
    (output, !hits.isEmpty)

def filesBelow (m : Machine) (name : Octets) : List Octets :=
  match m.arrive name with
  | .ok ⟨_, place, .directory⟩ =>
    (walkFrom m (m.disk.entries.length + 2) 0 name place).filterMap fun e =>
      match e.2.2.2 with
      | .file _ => some e.1
      | _ => none
  | _ => [name]

def grepUsage : Octets :=
  ("Usage: grep [OPTION]... PATTERNS [FILE]...\n"
    ++ "Try 'grep --help' for more information.\n").toList

def grepWith (extended fixed : Bool) : Program :=
  fun args m => match argumentsFrom grepArguments (args.length + 1) args with
  | .error e => finish m [] ("grep: ".toList ++ line e.message ++ grepUsage) 2
  | .ok a =>
    let given := (a.options.filter fun o => o.1 == 'e').map Prod.snd
    let (patterns, files) := match given, a.operands with
      | [], p :: files => (some [p], files)
      | [], [] => (none, [])
      | ps, files => (some ps, files)
    match patterns with
    | none =>
      finish m [] grepUsage 2
    | some patterns =>
      let patterns := patterns.flatMap fun p => if p.isEmpty then [[]] else bareLines p
      let fixed := (fixed || a.has 'F') && !a.has 'E'
      let extended := extended || a.has 'E' || a.has 'P'
      let read (p : Octets) : Except Expression.Error Expression :=
        let (text, _) := readable p
        if fixed then .ok (.literal text) else Expression.ofText extended text
      match patterns.mapM read with
      | .error e => finish m [] (("grep: " ++ e.message ++ "\n").toList) 2
      | .ok es =>
        let wrap (e : Expression) : Expression :=
          if a.has 'x' then .both (.edge .start) (.both e (.edge .stop)) else e
        let q : Query := ⟨es.map wrap, a.has 'i', a.has 'x', a.has 'w'⟩
        let deep := a.has 'r' || a.has 'R'
        let files := if deep && files.isEmpty then [['.']] else files
        let files' := if deep then files.flatMap (filesBelow m) else files
        let titled := (a.has 'H' || files'.length > 1 || (deep && !a.has 'h')) && !a.has 'h'
        let shorten (f : Octets) : Octets :=
          if deep && a.operands.length ≤ 1 then
            match f with
            | '.' :: '/' :: rest => rest
            | f => f
          else f
        let (found, m) := sources files' m
        let isBrief := ['q', 'c', 'l', 'L'].any a.has || (a.value? 'm').any fun n =>
          (Octets.natural? n).any (· ≤ 1)
        let rows := found.map fun s => match s.2 with
          | .ok text =>
            if !isBrief && takesOutput m s.1 then
              ([], "grep: ".toList ++ s.1 ++ line ": input file is also the output".toList, false)
            else
              let (output, hit) := grepFile a q titled (shorten s.1) text
              (output, [], hit)
          | .error o =>
            let complaint := "grep: ".toList ++ (if s.1 = ['-'] then grepTitle s.1 else s.1)
              ++ reason o
            ([], if a.has 's' then [' '] else complaint, false)
        let failed := rows.any fun r => !r.2.1.isEmpty
        let hit := rows.any fun r => r.2.2
        let errors := if a.has 's' then [] else rows.flatMap fun r => r.2.1
        let status := if failed && !(a.has 'q' && hit) then 2 else if hit then 0 else 1
        finish m (rows.flatMap Prod.fst) errors status

/-- A context given by digits alone. -/
def grepDigits (args : List Octets) : List Octets :=
  args.map fun
    | '-' :: d :: rest =>
      if d.isDigit && rest.all Char.isDigit then ['-', 'C'] ++ d :: rest else '-' :: d :: rest
    | s => s

def grep (extended fixed : Bool) : Program := fun args m =>
  grepWith extended fixed (grepDigits args) m

def searchPrograms : List (String × Program) :=
  [("grep", grep false false), ("egrep", grep true false), ("fgrep", grep false true)]

end LintDispatch.Shell.Program
