import LintDispatch.Shell.Condition
import LintDispatch.Shell.Field
import LintDispatch.Shell.Format

/-!
The commands that a shell carries out itself: output, variables and arguments, ways out of loops
and functions, changing place, signals and conditions.
-/

namespace LintDispatch.Shell.Builtin

def succeed (m : Machine) : Machine :=
  { m with status := 0 }

def fail (m : Machine) : Machine :=
  { m with status := 1 }

def echo : Program := fun args m =>
  let (ended, args) := match args with
    | ['-', 'n'] :: rest => (false, rest)
    | _ => (true, args)
  let (text, stop) := Format.resolve ([' '].intercalate args)
  succeed (m.say 1 (text ++ if ended && !stop then ['\n'] else []))

def printf : Program := fun args m =>
  match (match args with
    | ['-', '-'] :: rest => rest
    | _ => args) with
  | [] => m.complainFor "printf" "usage: printf format [arg ...]".toList 2
  | format :: args =>
    let shown := Format.apply format args
    let status :=
      if (Format.parts (format.length + 1) format).any fun
        | .invalid _ => true
        | .missing => true
        | _ => false
      then 2 else 1
    let m := shown.complaints.foldl (fun m problem => m.complainFor "printf" problem status)
      (succeed m)
    m.say 1 shown.text

def illegalNumber (text : Octets) : Octets :=
  "Illegal number: ".toList ++ text

def exit : Program := fun args m =>
  match args with
  | [] => m.quit (m.held.getD m.status)
  | text :: _ =>
    match Octets.natural? text with
    | some status => m.quit status
    | none => m.abortFor "exit" (illegalNumber text)

def return' : Program := fun args m =>
  match args with
  | [] => { m with departure := some .returned }
  | text :: _ =>
    match Octets.natural? text with
    | some status => { m with departure := some .returned, status }
    | none => m.abortFor "return" (illegalNumber text)

/-- Leaves loops by `way`, as many as are given but no more than there are. -/
def leaveLoops (name : String) (way : Nat → Departure) : Program := fun args m =>
  let leave (count : Nat) : Machine :=
    let count := min count m.loops
    succeed (if count = 0 then m else { m with departure := some (way count) })
  match args with
  | [] => leave 1
  | text :: _ =>
    match Octets.natural? text with
    | some (n + 1) => leave (n + 1)
    | _ => m.abortFor name (illegalNumber text)

def shift : Program := fun args m =>
  let drop (n : Nat) : Machine :=
    if m.arguments.length < n then m.abortFor "shift" "can't shift that many".toList
    else succeed (m.takeArguments (m.arguments.drop n))
  match args with
  | [] => drop 1
  | text :: _ =>
    match Octets.natural? text with
    | some n => drop n
    | none => m.abortFor "shift" (illegalNumber text)

def optionNames : List (String × Char) :=
  [("errexit", 'e'), ("noglob", 'f'), ("ignoreeof", 'I'), ("interactive", 'i'), ("monitor", 'm'),
    ("noexec", 'n'), ("stdin", 's'), ("xtrace", 'x'), ("verbose", 'v'), ("vi", 'V'),
    ("emacs", 'E'), ("noclobber", 'C'), ("allexport", 'a'), ("notify", 'b'), ("nounset", 'u'),
    ("privileged", 'p'), ("nolog", '\x01'), ("debug", '\x02')]

def setOption (on : Bool) (m : Machine) (c : Char) : Machine :=
  let rest := m.options.filter (· != c)
  { m with options := if on then c :: rest else rest }

def setOptions (on : Bool) : List Char → Machine → Machine
  | [], m => m
  | c :: rest, m =>
    if optionNames.any fun o => o.2 == c then setOptions on rest (setOption on m c)
    else m.abortFor "set" ("Illegal option -".toList ++ [c])

/-- Switches options, and takes the arguments behind them as its own. -/
def setFrom : Nat → List Octets → Machine → Machine
  | 0, _, m => m
  | _, [], m => m
  | n + 1, arg :: rest, m =>
    if m.departed then m
    else match arg with
      | ['-'] =>
        let m := setOptions false ['x', 'v'] m
        if rest.isEmpty then m else m.takeArguments rest
      | ['-', '-'] => m.takeArguments rest
      | sign :: 'o' :: [] =>
        if sign = '-' || sign = '+' then
          match rest with
          | [] => m
          | name :: rest =>
            match optionNames.lookup (String.ofList name) with
            | some c => setFrom n rest (setOption (sign = '-') m c)
            | none => m.abortFor "set" ("Illegal option -o ".toList ++ name)
        else m.takeArguments (arg :: rest)
      | '-' :: letters => setFrom n rest (setOptions true letters m)
      | '+' :: letters => setFrom n rest (setOptions false letters m)
      | _ => m.takeArguments (arg :: rest)

/-- A text in quotes, as the shell would read it. -/
def quoted (s : Octets) : Octets :=
  let rec parts : Octets → List Octets
    | [] => [[]]
    | c :: rest =>
      match parts rest with
      | [] => [[c]]
      | p :: more => if c = '\'' then [] :: p :: more else (c :: p) :: more
  let inner := (parts s).map fun p => if p.isEmpty then [] else ['\''] ++ p ++ ['\'']
  if s.isEmpty then ['\'', '\''] else "\"'\"".toList.intercalate inner

def listing (leader : String) (names : List Octets) (m : Machine) : Octets :=
  (Octets.sorted names).flatMap fun name =>
    leader.toList ++ name ++ (match m.value? name with
      | some value => '=' :: quoted value
      | none => []) ++ ['\n']

/-- The options with their state, as a table or as commands that set them. -/
def optionTable (asCommands : Bool) (m : Machine) : Octets :=
  let row (o : String × Char) : Octets :=
    let on := m.options.contains o.2
    if asCommands then ((if on then "set -o " else "set +o ") ++ o.1 ++ "\n").toList
    else
      o.1.toList ++ List.replicate (16 - o.1.length) ' '
        ++ (if on then "on\n" else "off\n").toList
  (if asCommands then [] else "Current option settings\n".toList) ++ optionNames.flatMap row

def set : Program := fun args m =>
  if args.isEmpty then
    succeed (m.say 1 (listing "" (m.bindings.map Prod.fst) m))
  else if args = [['-', 'o']] || args = [['+', 'o']] then
    succeed (m.say 1 (optionTable (args = [['+', 'o']]) m))
  else
    let m := setFrom (args.length + 1) args m
    if m.departed then m else succeed m

def assignment (arg : Octets) : Octets × Option Octets :=
  let name := arg.takeWhile (· != '=')
  (name, if arg.contains '=' then some (arg.drop (name.length + 1)) else none)

/-- Does something for each argument that is a name or an assignment. -/
def forNames (command : String) (f : Octets → Option Octets → Machine → Machine)
    (args : List Octets) (m : Machine) : Machine :=
  args.foldl (fun m arg =>
    if m.departed then m
    else
      let (name, value) := assignment arg
      if Reader.isName name then f name value m
      else m.abortFor command (name ++ ": bad variable name".toList)) (succeed m)

def assignIf (name : Octets) (value : Option Octets) (m : Machine) : Machine :=
  match value with
  | some v => m.assign name v
  | none => m

def export' : Program := fun args m =>
  match args with
  | [] => succeed (m.say 1 (listing "export " m.exported m))
  | ['-', 'p'] :: _ => succeed (m.say 1 (listing "export " m.exported m))
  | _ =>
    forNames "export" (fun name value m =>
      let m := assignIf name value m
      { m with exported := if m.exported.contains name then m.exported else name :: m.exported })
      args m

def readonly : Program := fun args m =>
  match args with
  | [] => succeed (m.say 1 (listing "readonly " m.fixed m))
  | ['-', 'p'] :: _ => succeed (m.say 1 (listing "readonly " m.fixed m))
  | _ =>
    forNames "readonly" (fun name value m =>
      let m := assignIf name value m
      if m.departed then m else { m with fixed := name :: m.fixed.filter (· != name) }) args m

/-- Keeps the meaning of a name for the end of the function. -/
def keep (name : Octets) (m : Machine) : Machine :=
  match m.scopes with
  | [] => m
  | scope :: outer =>
    if scope.any fun s => s.1 == name then m
    else { m with scopes := ((name, m.value? name) :: scope) :: outer }

def local' : Program := fun args m =>
  if m.scopes.isEmpty then m.abortFor "local" "not in a function".toList
  else forNames "local" (fun name value m => assignIf name value (keep name m)) args m

/-- Gives the names of a scope their former meaning. -/
def restore (scope : List (Octets × Option Octets)) (m : Machine) : Machine :=
  scope.foldl (fun m s =>
    match s.2 with
    | some value =>
      { m with bindings := (s.1, value) :: m.bindings.filter fun v => v.1 != s.1 }
    | none => { m with bindings := m.bindings.filter fun v => v.1 != s.1 }) m

def unset : Program := fun args m =>
  match args with
  | ['-', 'f'] :: names =>
    succeed { m with functions := m.functions.filter fun f => !names.contains f.1 }
  | _ =>
    let names := match args with
      | ['-', 'v'] :: names => names
      | _ => args
    forNames "unset" (fun name _ m =>
      if m.fixed.contains name then m.abortFor "unset" (name ++ ": is read only".toList)
      else if name = "OPTIND".toList then m.abortFor "unset" (illegalNumber [])
      else m.unbind name) names m

/-- Whether the last leading option asks for the way without links, and what follows the options. -/
def withoutLinks : Bool → List Octets → Except Char (Bool × List Octets)
  | physical, ['-', '-'] :: rest => .ok (physical, rest)
  | _, ('-' :: c :: letters) :: rest =>
    match (c :: letters).find? fun c => c != 'L' && c != 'P' with
    | some c => .error c
    | none => withoutLinks (letters.getLast?.getD c = 'P') rest
  | physical, rest => .ok (physical, rest)

/-- The directory that a name means, unless there is none. Along links it is what the text says. -/
def destination? (m : Machine) (physical : Bool) (name : Octets) : Option Path :=
  match Octets.toText? name with
  | none => none
  | some text =>
    let path := m.here.join text
    match if physical then m.disk.arriveAt m.here text else m.disk.arrive path.names with
    | .ok ⟨_, place, .directory⟩ => some (if physical then (Path.top false).along place else path)
    | _ => none

/-- The first directory of the search path that has one of this name, and whether to tell of it. -/
def searched? (m : Machine) (physical : Bool) (name : Octets) : Option (Path × Bool) :=
  match Text.splitAt '/' name with
  | [] :: _ :: _ => none
  | part :: _ =>
    if part = ['.'] || part = ['.', '.'] then none
    else
      (m.value? "CDPATH".toList).bind fun path =>
        (Text.splitAt ':' path).findSome? fun d =>
          (destination? m physical (if d.isEmpty then name else d ++ '/' :: name)).map fun path =>
            (path, !d.isEmpty)
  | [] => none

def cd : Program := fun args m =>
  match withoutLinks false args with
  | .error c => m.complainFor "cd" ("Illegal option -".toList ++ [c]) 2
  | .ok (physical, operands) =>
    let (name, back) := match operands with
      | [] => (m.textNamed "HOME", false)
      | ['-'] :: _ => (m.textNamed "OLDPWD", true)
      | name :: _ => (name, false)
    let target := if name.isEmpty then ['.'] else name
    let found := (searched? m physical target).or
      ((destination? m physical target).map fun path => (path, false))
    match found with
    | none => m.complainFor "cd" ("can't cd to ".toList ++ name) 2
    | some (here, tells) =>
      let old := Octets.ofText m.here.text
      let new := Octets.ofText here.text
      let m := m.assign "OLDPWD".toList old
      if m.departed then m
      else
        let m := { m with here }.assign "PWD".toList new
        let exported := ["OLDPWD".toList, "PWD".toList].filter fun name => !m.exported.contains name
        let m := { m with exported := exported ++ m.exported }
        if m.departed then m
        else succeed (if back || tells then m.say 1 (new ++ ['\n']) else m)

def pwd : Program := fun args m =>
  match withoutLinks false args with
  | .error c => m.complainFor "pwd" ("Illegal option -".toList ++ [c]) 2
  | .ok (physical, _) =>
    let here := if physical then (destination? m true ['.']).getD m.here else m.here
    succeed (m.say 1 (Octets.ofText here.text ++ ['\n']))

def signalNames : List String :=
  ["HUP", "INT", "QUIT", "ILL", "TRAP", "ABRT", "BUS", "FPE", "KILL", "USR1", "SEGV", "USR2",
    "PIPE", "ALRM", "TERM", "16", "CHLD", "CONT", "STOP", "TSTP", "TTIN", "TTOU", "URG",
    "XCPU", "XFSZ", "VTALRM", "PROF", "WINCH", "IO", "PWR", "SYS"]

def signalName (n : Nat) : String :=
  if n = 0 then "EXIT" else signalNames.getD (n - 1) (toString n)

/-- Signals that a shell does not mind. -/
def harmlessSignals : List Nat := [0, 17, 18, 23, 28]

/-- Signals that no command can be set for. -/
def fatalSignals : List Nat := [9, 19]

def signal? (s : Octets) : Option Nat :=
  match Octets.natural? s with
  | some n => if n < 65 then some n else none
  | none =>
    if s = "EXIT".toList then some 0
    else (signalNames.idxOf? (String.ofList s)).map (· + 1)

/-- The number that stands for the shell itself. -/
def processNumber : Octets := "4242".toList

/-- A signal ends the first shell; others go on. -/
def perish (signal : Nat) (m : Machine) : Machine :=
  if m.firstTraps.isSome then { m with doom := some (m.doom.getD signal) }
  else { m with departure := some (.killed signal) }

/-- What a signal to the first shell does. -/
def receive (signal : Nat) (m : Machine) : Machine :=
  if fatalSignals.contains signal then perish signal m
  else
    match (m.firstTraps.getD m.traps).lookup signal, harmlessSignals.contains signal with
    | some [], _ => m
    | some _, _ => if signal = 0 then m else { m with pending := m.pending ++ [signal] }
    | none, true => m
    | none, false => perish signal m

def killUsage : Octets :=
  ("Usage: kill [-s sigspec | -signum | -sigspec] [pid | job]... or\n"
    ++ "kill -l [exitstatus]").toList

def kill : Program := fun args m =>
  let (signal, targets) := match args with
    | ['-', 's'] :: name :: rest => (signal? name, rest)
    | ['-', '-'] :: rest => (some 15, rest)
    | ('-' :: name) :: rest => (signal? name, rest)
    | _ => (some 15, args)
  match args with
  | [['-', 'l']] =>
    let all := "0" :: signalNames ++ ["32", "33"]
      ++ (List.range 16).map (fun i => if i = 0 then "RTMIN" else "RTMIN+" ++ toString i)
      ++ (List.range 15).map (fun i => if i = 14 then "RTMAX" else "RTMAX-" ++ toString (14 - i))
    succeed (m.say 1 (all.flatMap fun name => name.toList ++ ['\n']))
  | [['-', 'l'], n] => succeed (m.say 1 ((signalName ((Octets.natural? n).getD 0)).toList ++ ['\n']))
  | _ =>
    match signal, targets with
    | some signal, target :: _ =>
      if target != processNumber then m.complainFor "kill" "No such process\n".toList 1
      else receive signal (succeed m)
    | none, _ =>
      m.complainFor "kill" ("Illegal option ".toList ++ (args.headD []).take 2) 2
    | _, [] => m.complainFor "kill" killUsage 2

def trap : Program := fun args m =>
  let line (t : Nat × Octets) : Octets :=
    "trap -- ".toList ++ quoted t.2 ++ ' ' :: (signalName t.1).toList ++ ['\n']
  let args := match args with
    | ['-', '-'] :: rest => rest
    | _ => args
  match args with
  | [] =>
    succeed (m.say 1 ((m.traps.mergeSort fun a b => a.1 ≤ b.1).flatMap line))
  | action :: signals =>
    let (action, signals) :=
      if signals.isEmpty then (['-'], [action])
      else if (Octets.natural? action).isSome then (['-'], args)
      else (action, signals)
    signals.foldl (fun m s =>
      match signal? s with
      | some n =>
        let others := m.traps.filter fun t => t.1 != n
        { m with traps := if action = ['-'] then others else (n, action) :: others }
      | none =>
        fail (m.say 2 ("trap: ".toList ++ s ++ ": bad trap\n".toList))) (succeed m)

def report (name : String) (m : Machine) (r : Except Octets Bool) : Machine :=
  match r with
  | .ok b => { m with status := if b then 0 else 1 }
  | .error problem => m.complainFor name problem 2

def test : Program := fun args m =>
  report "test" m (Condition.evaluate m args)

def bracket : Program := fun args m =>
  if args.getLast? = some [']'] then report "[" m (Condition.evaluate m args.dropLast)
  else m.complainFor "[" "missing ]".toList 2

/-- The next line of the input with what it joins, the last glyph first, and whether it ends. -/
def readLine (raw : Bool) : List Glyph → Octets → List Glyph × Bool × Octets
  | line, [] => (line, false, [])
  | line, '\n' :: rest => (line, true, rest)
  | line, '\x00' :: rest => readLine raw line rest
  | line, '\\' :: c :: rest =>
    if raw then readLine raw (.char .computed '\\' :: line) (c :: rest)
    else if c = '\n' then readLine raw line rest
    else readLine raw (.char .quoted c :: line) rest
  | line, c :: rest => readLine raw (.char .computed c :: line) rest
termination_by _ s => s.length

def dropBlanks (separators : Octets) (gs : List Glyph) : List Glyph :=
  gs.dropWhile fun g => (Glyph.separator? separators g).any Glyph.isBlank

/-- A text for each of `count` names: fields, and for the last name all that is left. -/
def shares (separators : Octets) : Nat → List Glyph → List Octets
  | 0, _ => []
  | 1, gs =>
    let gs := (dropBlanks separators (dropBlanks separators gs).reverse).reverse
    match Glyph.split separators gs with
    | [field] => [Glyph.text field]
    | _ => [Glyph.text gs]
  | n + 1, gs =>
    let gs := dropBlanks separators gs
    let isInner (g : Glyph) : Bool := (Glyph.separator? separators g).isNone
    let field := gs.takeWhile isInner
    let rest := dropBlanks separators (gs.dropWhile isInner)
    let rest := match gs.dropWhile isInner with
      | g :: more =>
        if (Glyph.separator? separators g).any Glyph.isBlank then
          match rest with
          | g :: more =>
            if (Glyph.separator? separators g).isSome then dropBlanks separators more else rest
          | [] => []
        else dropBlanks separators more
      | [] => []
    Glyph.text field :: shares separators n rest

/-- Reads a line: a field for every name, and all that is left for the last. -/
def read : Program := fun args m =>
  let raw := args.contains ['-', 'r']
  let args := match args with
    | ['-', 'r'] :: ['-', 'p'] :: _ :: rest => rest
    | ['-', 'p'] :: _ :: ['-', 'r'] :: rest => rest
    | ['-', 'p'] :: _ :: rest => rest
    | ['-', 'r'] :: rest => rest
    | _ => args
  match args with
  | [] => m.complainFor "read" "arg count".toList 2
  | ('-' :: c :: _) :: _ => m.complainFor "read" ("Illegal option -".toList ++ [c]) 2
  | names =>
    match names.find? fun name => !Reader.isName name with
    | some name => m.complainFor "read" (name ++ ": bad variable name".toList) 2
    | none =>
      let (line, ended, rest) := readLine raw [] m.input.text
      let texts := shares (Field.separators m) names.length line.reverse
      let m := (names.zip texts).foldl (fun m p => m.assign p.1 p.2) m
      let m := m.leaveInput rest
      if m.departed then m else { m with status := if ended then 0 else 1 }

/-- Whether an option letter is among the known ones, and whether a value belongs to it. -/
def takesValue? (letter : Char) : Octets → Option Bool
  | [] => none
  | c :: ':' :: rest => if c = letter then some true else takesValue? letter rest
  | c :: rest => if c = letter then some false else takesValue? letter rest

/-- An option letter among arguments, what follows it in its argument, and the number of the
argument behind. Without an option it is the number of the first operand. -/
def optionAt (place : OptionPlace) (args : List Octets) : Except Nat (Char × Octets × Nat) :=
  let begun := match place.character with
    | some k => if place.argument ≤ 1 then [] else (args.getD (place.argument - 2) []).drop k
    | none => []
  match begun with
  | c :: rest => .ok (c, rest, place.argument)
  | [] =>
    match args[place.argument - 1]? with
    | some ['-', '-'] => .error (place.argument + 1)
    | some ('-' :: c :: rest) => .ok (c, rest, place.argument + 1)
    | _ => .error place.argument

def getopts : Program := fun args m =>
  match args with
  | letters :: name :: args =>
    let args := if args.isEmpty then m.arguments else args
    let place := if args.length + 1 < m.optionPlace.argument then .start else m.optionPlace
    let optArg := "OPTARG".toList
    let silent := letters.head? = some ':'
    let found (status : Nat) (letter : Char) (place : OptionPlace) (m : Machine) : Machine :=
      let m := m.bind "OPTIND".toList (Machine.decimal place.argument)
      let m := if Reader.isName name then m.assign name [letter]
        else m.abortFor "getopts" (name ++ ": bad variable name".toList)
      let m := { m with optionPlace := place }
      if m.departed then m else { m with status }
    match optionAt place args with
    | .error argument => found 1 '?' ⟨argument, none⟩ m
    | .ok (c, rest, argument) =>
      let within : OptionPlace :=
        ⟨argument, some ((args.getD (argument - 2) []).length - rest.length)⟩
      match takesValue? c letters with
      | none =>
        let m := if silent then m.assign optArg [c]
          else (m.say 2 ("Illegal option -".toList ++ [c, '\n'])).unbind optArg
        found 0 '?' within m
      | some false => found 0 c within (m.assign optArg [])
      | some true =>
        match rest, args[argument - 1]? with
        | _ :: _, _ => found 0 c ⟨argument, none⟩ (m.assign optArg rest)
        | [], some value => found 0 c ⟨argument + 1, none⟩ (m.assign optArg value)
        | [], none =>
          if silent then found 0 ':' ⟨argument, none⟩ (m.assign optArg [c])
          else
            let m := m.say 2 ("No arg for -".toList ++ [c] ++ " option\n".toList)
            found 0 '?' ⟨argument, none⟩ (m.unbind optArg)
  | _ => m.complainFor "getopts" "Usage: getopts optstring var [arg...]".toList 2

def firstJob : Nat := 4243

/-- Waits for a command in the background, which has ended long since. -/
def wait : Program := fun args m =>
  match args.getLast? with
  | none => succeed m
  | some text =>
    match (Octets.natural? text).bind fun n => if firstJob ≤ n then m.jobs[n - firstJob]? else none with
    | some status => { m with status := status }
    | none => { m with status := 127 }

def alias' : Program := fun args m =>
  let shown (a : Octets × Octets) : Octets := a.1 ++ '=' :: quoted a.2 ++ ['\n']
  if args.isEmpty then
    succeed (m.say 1 ((m.aliases.mergeSort fun a b => Octets.le a.1 b.1).flatMap shown))
  else
    args.foldl (fun m arg =>
      let name := arg.takeWhile (· != '=')
      if arg.contains '=' && !name.isEmpty then
        let others := m.aliases.filter fun a => a.1 != name
        { m with aliases := (name, arg.drop (name.length + 1)) :: others }
      else match m.aliases.lookup arg with
        | some text => m.say 1 (shown (arg, text))
        | none => fail (m.say 2 ("alias: ".toList ++ arg ++ " not found\n".toList))) (succeed m)

def unalias : Program := fun args m =>
  if args = [['-', 'a']] then succeed { m with aliases := [] }
  else
    args.foldl (fun m name =>
      if m.aliases.any fun a => a.1 == name then
        { m with aliases := m.aliases.filter fun a => a.1 != name }
      else fail (m.say 2 ("unalias: ".toList ++ name ++ " not found\n".toList))) (succeed m)

def permissions (mask : Nat) : Octets :=
  let part (who : Char) (bits : Nat) : Octets :=
    [who, '='] ++ (if bits / 4 % 2 = 0 then ['r'] else [])
      ++ (if bits / 2 % 2 = 0 then ['w'] else []) ++ (if bits % 2 = 0 then ['x'] else [])
  part 'u' (mask / 64) ++ ',' :: part 'g' (mask / 8) ++ ',' :: part 'o' mask

def umask : Program := fun args m =>
  match args with
  | [] =>
    let digits := Nat.toDigits 8 m.mask
    succeed (m.say 1 (List.replicate (4 - digits.length) '0' ++ digits ++ ['\n']))
  | [['-', 'S']] => succeed (m.say 1 (permissions m.mask ++ ['\n']))
  | text :: _ =>
    if text.all Format.isOctal then
      succeed { m with mask := text.foldl (fun n c => 8 * n + (c.toNat - 48)) 0 % 512 }
    else if text.any Char.isDigit then m.complainFor "umask" (illegalNumber text) 2
    else m.complainFor "umask" ("Illegal mode: ".toList ++ text) 2

def quiet : Program := fun _ m => succeed m

/-- The greatest size of a file is not limited. -/
def ulimit : Program := fun args m =>
  if args.isEmpty || args = [['-', 'f']] then succeed (m.say 1 "unlimited\n".toList)
  else succeed m

def all : List (String × Program) :=
  [("echo", echo), ("printf", printf), ("exit", exit), ("return", return'),
    ("break", leaveLoops "break" .broken), ("continue", leaveLoops "continue" .continued),
    ("shift", shift), ("set", set), ("export", export'), ("readonly", readonly),
    ("local", local'), ("unset", unset), ("cd", cd), ("pwd", pwd), ("kill", kill),
    ("trap", trap), ("test", test), ("[", bracket), ("read", read), ("getopts", getopts),
    ("umask", umask), ("true", quiet), (":", quiet), ("false", fun _ => fail), ("wait", wait),
    ("jobs", quiet), ("times", quiet), ("alias", alias'), ("unalias", unalias),
    ("ulimit", ulimit), ("bg", quiet), ("fg", quiet)]

/-- Builtins that run other commands or look for them. -/
def running : List String := ["eval", ".", "exec", "command", "type", "hash"]

def find? (name : Octets) : Option Program :=
  all.lookup (String.ofList name)

def isBuiltin (name : Octets) : Bool :=
  (find? name).isSome || running.contains (String.ofList name)

def isSpecial (name : Octets) : Bool :=
  Reader.specialNames.contains (String.ofList name)

end LintDispatch.Shell.Builtin
