import LintDispatch.Shell.Condition
import LintDispatch.Shell.Program.Expression
import LintDispatch.Shell.Program.Lines

/-!
Programs that need no files: numbers in a row, formulas, texts, conditions and what is known of the
machine.
-/

namespace LintDispatch.Shell.Program

/-- A number with a fixed number of decimal places: its value times the power of ten. -/
structure Decimal where
  units : Int
  places : Nat
  /-- How wide it was written. -/
  width : Nat

namespace Decimal

def ofText? (s : Octets) : Option Decimal :=
  let text := s.dropWhile isSpace
  let (negative, unsigned) := match text with
    | '-' :: rest => (true, rest)
    | '+' :: rest => (false, rest)
    | rest => (false, rest)
  let whole := unsigned.takeWhile Char.isDigit
  let rest := unsigned.drop whole.length
  let (fraction, rest) := match rest with
    | '.' :: more => (more.takeWhile Char.isDigit, more.dropWhile Char.isDigit)
    | rest => ([], rest)
  let exponent? : Option Int := match rest with
    | [] => some 0
    | e :: more =>
      if e = 'e' || e = 'E' then
        match more with
        | '-' :: ds => (Octets.natural? ds).map fun n => -(n : Int)
        | '+' :: ds => (Octets.natural? ds).map Int.ofNat
        | ds => (Octets.natural? ds).map Int.ofNat
      else none
  if whole.isEmpty && fraction.isEmpty then none
  else exponent?.map fun e =>
    let units : Int := Octets.number (whole ++ fraction)
    let units := if negative then -units else units
    let places := (fraction.length : Int) - e
    if 0 ≤ places then ⟨units, places.toNat, text.length⟩
    else ⟨units * Nat.pow 10 (-places).toNat, 0, text.length⟩

/-- The units that a number has with more places. -/
def scaled (d : Decimal) (places : Nat) : Int :=
  d.units * Nat.pow 10 (places - d.places)

def show_ (places width : Nat) (units : Int) : Octets :=
  let body := Places.pointed places (Places.digits (places + 1) units.natAbs)
  let sign : Octets := if units < 0 then ['-'] else []
  sign ++ List.replicate (width - sign.length - body.length) '0' ++ body

end Decimal

def progression (step last : Int) : Nat → Int → List Int
  | 0, _ => []
  | n + 1, x =>
    if (0 < step && last < x) || (step < 0 && x < last) then []
    else x :: progression step last n (x + step)

/-- Options in front of numbers, which may be negative. -/
def seqOptions : Nat → List Octets → Except OptionError Arguments
  | 0, rest => .ok ⟨[], rest⟩
  | n + 1, args =>
    match args with
    | ('-' :: c :: letters) :: rest =>
      if c.isDigit || c = '.' then .ok ⟨[], args⟩
      else if c = '-' && letters.isEmpty then .ok ⟨[], rest⟩
      else do
        let k : Known := ⟨"w", "sf", [("equal-width", 'w'), ("separator", 's'), ("format", 'f')]⟩
        let (found, rest) ← if c = '-' then longOption k letters rest
          else cluster k (c :: letters) rest
        let a ← seqOptions n rest
        return { a with options := found ++ a.options }
    | args => .ok ⟨[], args⟩

def seq : Program := fun args m =>
  match seqOptions (args.length + 1) args with
  | .error e => misuse "seq" e.message 1 m
  | .ok a =>
    let wrong (problem : Octets) : Machine := misuse "seq" problem 1 m
    match a.operands, a.operands.find? fun s => (Decimal.ofText? s).isNone with
    | [], _ => wrong "missing operand".toList
    | _ :: _ :: _ :: extra :: _, _ => wrong ("extra operand ".toList ++ marked m extra)
    | _, some bad => wrong ("invalid floating point argument: ".toList ++ marked m bad)
    | texts, none =>
      let one : Decimal := ⟨1, 0, 1⟩
      match texts.filterMap Decimal.ofText? with
      | [] => m
      | [last] => run a one one last m
      | [first, last] => run a first one last m
      | first :: step :: last :: _ =>
        if step.units = 0 then
          wrong ("invalid Zero increment value: ".toList ++ marked m (texts.getD 1 []))
        else run a first step last m
where
  run (a : Arguments) (first step last : Decimal) (m : Machine) : Machine :=
    let places := max first.places step.places
    let scale := max places last.places
    let wide (d : Decimal) : Nat :=
      if d.places = 0 && 0 < places then d.width + 1 + places
      else if 0 < d.places && places = 0 then d.width - 1 - d.places
      else d.width + places - d.places
    let width := if a.has 'w' then max (wide first) (wide last) else 0
    let start := first.scaled scale
    let stride := step.scaled scale
    let stop := last.scaled scale
    let count := ((stop - start).natAbs / max 1 stride.natAbs) + 2
    let unscale (x : Int) : Int := Int.tdiv x (Nat.pow 10 (scale - places))
    let text (x : Int) : Octets :=
      let plain := Decimal.show_ places width (unscale x)
      match a.value? 'f' with
      | some format => (Format.apply format [plain]).text
      | none => plain
    let all := (progression stride stop count start).map text
    let separator := (a.value? 's').getD ['\n']
    finish m (if all.isEmpty then [] else line (separator.intercalate all)) [] 0

inductive FormulaError where
  | missingArgument (before : Octets)
  | unexpected (word : Octets)
  | notClosed (before : Octets)
  | notInteger
  | divisionByZero
  | badExpression (cause : Expression.Error)

def FormulaError.message (m : Machine) : FormulaError → Octets
  | .missingArgument before => "syntax error: missing argument after ".toList ++ marked m before
  | .unexpected word => "syntax error: unexpected argument ".toList ++ marked m word
  | .notClosed before => "syntax error: expecting ')' after ".toList ++ marked m before
  | .notInteger => "non-integer argument".toList
  | .divisionByZero => "division by zero".toList
  | .badExpression cause => cause.message.toList

namespace Formula

/-- A value, the words that are left and the last one that was read. -/
abbrev Read := Except FormulaError (Octets × List Octets)

def integer? (s : Octets) : Option Int :=
  match s with
  | '-' :: ds => (Octets.natural? ds).map fun n => -(n : Int)
  | ds => (Octets.natural? ds).map Int.ofNat

def integer (s : Octets) : Except FormulaError Int :=
  match integer? s with
  | some n => .ok n
  | none => .error .notInteger

/-- An empty text and zero are false. -/
def isFalse (s : Octets) : Bool :=
  s.isEmpty || integer? s = some 0

def truth (b : Bool) : Octets :=
  if b then ['1'] else ['0']

/-- The operators with how tightly they bind. -/
def operator? (s : Octets) : Option Nat :=
  match String.ofList s with
  | "|" => some 0
  | "&" => some 1
  | "<" | "<=" | "=" | "==" | "!=" | ">=" | ">" => some 2
  | "+" | "-" => some 3
  | "*" | "/" | "%" => some 4
  | ":" => some 5
  | _ => none

/-- What the start of a text matches: the group in it, or how long the match is. -/
def fit (text pattern : Octets) : Except FormulaError Octets :=
  let (chars, isText) := readable text
  match Expression.ofText false (readable pattern).1 with
  | .error e => .error (.badExpression e)
  | .ok e =>
    let f : Expression.Subject := ⟨chars.toArray, false⟩
    let hasGroup := e.groupCount != 0
    match e.matchAt f 0 with
    | none => .ok (if hasGroup then [] else ['0'])
    | some spot =>
      if hasGroup then
        match spot.groups.find? fun g => g.1 == 1 with
        | some (_, a, b) => .ok (written isText (f.slice a b))
        | none => .ok []
      else .ok (Machine.decimal spot.index)

def apply (operator a b : Octets) : Except FormulaError Octets :=
  let compared (p : Ordering → Bool) : Octets :=
    truth (p (match integer? a, integer? b with
      | some x, some y => compare x y
      | _, _ => compareOfLessAndEq a b))
  let computed (f : Int → Int → Except FormulaError Int) : Except FormulaError Octets := do
    let x ← integer a
    let y ← integer b
    return (toString (← f x y)).toList
  match String.ofList operator with
  | "|" => .ok (if !isFalse a then a else if !isFalse b then b else ['0'])
  | "&" => .ok (if isFalse a || isFalse b then ['0'] else a)
  | "<" => .ok (compared (· == .lt))
  | "<=" => .ok (compared (· != .gt))
  | "=" | "==" => .ok (compared (· == .eq))
  | "!=" => .ok (compared (· != .eq))
  | ">=" => .ok (compared (· != .lt))
  | ">" => .ok (compared (· == .gt))
  | "+" => computed fun x y => .ok (x + y)
  | "-" => computed fun x y => .ok (x - y)
  | "*" => computed fun x y => .ok (x * y)
  | "/" => computed fun x y => if y = 0 then .error .divisionByZero else .ok (Int.tdiv x y)
  | "%" => computed fun x y => if y = 0 then .error .divisionByZero else .ok (Int.tmod x y)
  | _ => fit a b

mutual

/-- Reads operators that bind at least as tightly as `level`. -/
def operations : Nat → Nat → Octets → List Octets → Read
  | 0, _, before, _ => .error (.missingArgument before)
  | n + 1, level, before, words => do
    let (a, rest) ← primary n before words
    further n level a rest

def further : Nat → Nat → Octets → List Octets → Read
  | 0, _, a, words => .ok (a, words)
  | n + 1, level, a, words =>
    match words with
    | sign :: rest =>
      match operator? sign with
      | some tightness =>
        if tightness < level then .ok (a, words)
        else do
          let (b, rest) ← operations n (tightness + 1) sign rest
          let a ← apply sign a b
          further n level a rest
      | none => .ok (a, words)
    | [] => .ok (a, [])

def primary : Nat → Octets → List Octets → Read
  | 0, before, _ => .error (.missingArgument before)
  | n + 1, before, words =>
    match words with
    | [] => .error (.missingArgument before)
    | ['('] :: rest => do
      let (a, rest) ← operations n 0 ['('] rest
      match rest with
      | [')'] :: rest => return (a, rest)
      | w :: _ => .error (.unexpected w)
      | [] => .error (.notClosed a)
    | [')'] :: _ => .error (.unexpected [')'])
    | ['+'] :: word :: rest => .ok (word, rest)
    | word :: rest =>
      match String.ofList word with
      | "length" => do
        let (a, rest) ← primary n word rest
        return (Machine.decimal (readable a).1.length, rest)
      | "match" => do
        let (a, rest) ← primary n word rest
        let (b, rest) ← primary n word rest
        return (← fit a b, rest)
      | "index" => do
        let (a, rest) ← primary n word rest
        let (b, rest) ← primary n word rest
        return (Machine.decimal (((a.findIdx? b.contains).map (· + 1)).getD 0), rest)
      | "substr" => do
        let (a, rest) ← primary n word rest
        let (b, rest) ← primary n word rest
        let (c, rest) ← primary n word rest
        match integer? b, integer? c with
        | some i, some k =>
          let part := if i < 1 || k < 1 then [] else (a.drop (i.toNat - 1)).take k.toNat
          return (part, rest)
        | _, _ => return ([], rest)
      | _ => .ok (word, rest)

end

end Formula

def expr : Program := fun args m =>
  let args := match args with
    | ['-', '-'] :: rest => rest
    | args => args
  if args.isEmpty then misuse "expr" "missing operand".toList 2 m
  else
    let fault (e : FormulaError) : Machine :=
      finish m [] ("expr: ".toList ++ line (e.message m)) 2
    match Formula.operations (10 * args.length + 20) 0 [] args with
    | .error e => fault e
    | .ok (value, []) => finish m (line value) [] (if Formula.isFalse value then 1 else 0)
    | .ok (_, word :: _) => fault (.unexpected word)

def echo : Program := fun args m =>
  let isOption (s : Octets) : Bool :=
    s.head? = some '-' && 1 < s.length && (s.drop 1).all fun c => c = 'n' || c = 'e' || c = 'E'
  let options := (args.takeWhile isOption).flatMap (·.drop 1)
  let text := [' '].intercalate (args.dropWhile isOption)
  let resolves := (options.filter (· != 'n')).getLast? = some 'e'
  let (text, stopped) := if resolves then Format.resolve text else (text, false)
  finish m (text ++ if options.contains 'n' || stopped then [] else ['\n']) [] 0

/-- Complaints in the name of a program without a place in a script. -/
def printf : Program := fun args m =>
  match args with
  | [] => misuse "printf" "missing operand".toList 1 m
  | format :: args =>
    let shown := Format.apply format args
    let errors := shown.complaints.flatMap fun problem =>
      line ("printf: ".toList ++ problem)
    finish m shown.text errors (if errors.isEmpty then 0 else 1)

def condition (inBrackets : Bool) : Program := fun args m =>
  if inBrackets && args.getLast? != some [']'] then finish m [] "[: missing ']'\n".toList 2
  else match Condition.evaluate m (if inBrackets then args.dropLast else args) with
    | .ok b => finish m [] [] (if b then 0 else 1)
    | .error problem =>
      finish m [] ((if inBrackets then "[: ".toList else "test: ".toList) ++ line problem) 2

def always (status : Nat) : Program := fun _ m => { m with status }

def sleep : Program := fun args m =>
  if args.isEmpty then misuse "sleep" "missing operand".toList 1 m
  else
    let isSpan (s : Octets) : Bool :=
      let s := if s.getLast?.any fun c => "smhd".toList.contains c then s.dropLast else s
      (Decimal.ofText? s).isSome && s.head? != some '-'
    match args.find? (!isSpan ·) with
    | some bad => misuse "sleep" ("invalid time interval ".toList ++ marked m bad) 1 m
    | none => { m with status := 0 }

/-- As many lines as any reader takes. -/
def yes : Program := fun args m =>
  let text := if args.isEmpty then ['y'] else [' '].intercalate args
  finish m ((List.replicate 5000 (line text)).flatten) [] 0

def printenv : Program := fun args m =>
  if args.isEmpty then finish m m.environmentText [] 0
  else
    let values := args.map fun name => m.environment.lookup name
    finish m (values.flatMap fun v => (v.map line).getD []) []
      (if values.all Option.isSome then 0 else 1)

def pwd : Program := fun _ m =>
  finish m (line (Octets.ofText m.here.text)) [] 0

def fixed (text : String) : Program := fun _ m => finish m (line text.toList) [] 0

def plainPrograms : List (String × Program) :=
  [("seq", seq), ("expr", expr), ("echo", echo), ("printf", printf), ("test", condition false),
    ("[", condition true), ("true", always 0), ("false", always 1), ("sleep", sleep), ("yes", yes),
    ("printenv", printenv), ("pwd", pwd), ("uname", fixed "Linux"), ("whoami", fixed "root"),
    ("sync", always 0)]

end LintDispatch.Shell.Program
