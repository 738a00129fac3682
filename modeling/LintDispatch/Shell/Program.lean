import LintDispatch.Shell.Builtin

/-!
What programs have in common: options in front of and between their operands, names in complaints,
and reading the files that are named or else what comes in.
-/

namespace LintDispatch.Shell

namespace Machine

/-- The order of variables in a listing of them all: by a number made of the name. -/
def rank (name : Octets) : Nat :=
  (name.foldl (fun n c => n + c.toNat) (16 * (name.headD '\x00').toNat)) % 39

/-- As a process of its own sees it: nothing but the environment, in the order of a listing. -/
def asProcess (m : Machine) : Machine :=
  { m with bindings := m.environment.reverse.mergeSort fun a b => rank a.1 ≤ rank b.1 }

def environmentText (m : Machine) : Octets :=
  m.environment.flatMap fun v => v.1 ++ '=' :: v.2 ++ ['\n']

end Machine

namespace Program

def finish (m : Machine) (output errors : Octets) (status : Nat) : Machine :=
  { (m.say 2 errors).say 1 output with status := status }

def line (s : Octets) : Octets :=
  s ++ ['\n']

def total (numbers : List Nat) : Nat :=
  numbers.foldl (· + ·) 0

/-- The options that were given, by letter and with their values, and the operands. -/
structure Arguments where
  options : List (Char × Octets)
  operands : List Octets

namespace Arguments

def has (a : Arguments) (letter : Char) : Bool :=
  a.options.any fun o => o.1 == letter

def value? (a : Arguments) (letter : Char) : Option Octets :=
  (a.options.reverse.find? fun o => o.1 == letter).map Prod.snd

end Arguments

inductive OptionError where
  | unknown (letter : Char)
  | unknownLong (option : Octets)
  | noValue (letter : Char)

def OptionError.message : OptionError → Octets
  | .unknown letter => "invalid option -- '".toList ++ [letter, '\'']
  | .unknownLong option => "unrecognized option '".toList ++ option ++ ['\'']
  | .noValue letter => "option requires an argument -- '".toList ++ [letter, '\'']

/-- The options that a program knows: letters, those with a value, and letters by long names. -/
structure Known where
  letters : String
  valued : String
  long : List (String × Char)

/-- Reads a cluster of letters; the last of them may take a value from the arguments behind. -/
def cluster (k : Known) : List Char → List Octets →
    Except OptionError (List (Char × Octets) × List Octets)
  | [], rest => .ok ([], rest)
  | c :: letters, rest =>
    if k.valued.toList.contains c then
      if !letters.isEmpty then .ok ([(c, letters)], rest)
      else match rest with
        | v :: rest => .ok ([(c, v)], rest)
        | [] => .error (.noValue c)
    else if k.letters.toList.contains c then
      (cluster k letters rest).map fun r => ((c, []) :: r.1, r.2)
    else .error (.unknown c)

def longOption (k : Known) (option : Octets) (rest : List Octets) :
    Except OptionError (List (Char × Octets) × List Octets) :=
  let name := option.takeWhile (· != '=')
  match k.long.find? fun l => name.isPrefixOf l.1.toList with
  | none => .error (.unknownLong ("--".toList ++ option))
  | some (_, c) =>
    if option.contains '=' then .ok ([(c, option.drop (name.length + 1))], rest)
    else if k.valued.toList.contains c then
      match rest with
      | v :: rest => .ok ([(c, v)], rest)
      | [] => .error (.noValue c)
    else .ok ([(c, [])], rest)

def argumentsFrom (k : Known) : Nat → List Octets → Except OptionError Arguments
  | 0, _ => .ok ⟨[], []⟩
  | _, [] => .ok ⟨[], []⟩
  | _, ['-', '-'] :: rest => .ok ⟨[], rest⟩
  | n + 1, ('-' :: '-' :: option) :: rest => do
    let (found, rest) ← longOption k option rest
    let a ← argumentsFrom k n rest
    return { a with options := found ++ a.options }
  | n + 1, ('-' :: c :: letters) :: rest => do
    let (found, rest) ← cluster k (c :: letters) rest
    let a ← argumentsFrom k n rest
    return { a with options := found ++ a.options }
  | n + 1, operand :: rest => do
    let a ← argumentsFrom k n rest
    return { a with operands := operand :: a.operands }

/-- As `argumentsFrom`, with no options behind the first operand. -/
def leadingFrom (k : Known) : Nat → List Octets → Except OptionError Arguments
  | n + 1, ('-' :: c :: letters) :: rest =>
    if c = '-' && letters.isEmpty then .ok ⟨[], rest⟩
    else do
      let (found, rest) ← if c = '-' then longOption k letters rest
        else cluster k (c :: letters) rest
      let a ← leadingFrom k n rest
      return { a with options := found ++ a.options }
  | _, rest => .ok ⟨[], rest⟩

def hint (name : String) : Octets :=
  ("Try '" ++ name ++ " --help' for more information.\n").toList

def misuse (name : String) (problem : Octets) (status : Nat) (m : Machine) : Machine :=
  finish m [] (name.toList ++ ": ".toList ++ line problem ++ hint name) status

/-- A program that starts from its arguments. -/
def withArguments (name : String) (k : Known) (status : Nat) (f : Arguments → Machine → Machine) :
    Program := fun args m =>
  match argumentsFrom k (args.length + 1) args with
  | .ok a => f a m
  | .error e => misuse name e.message status m

/-- Names are quoted with marks of their own where text is UTF-8. -/
def hasMarks (m : Machine) : Bool :=
  let locale := [m.textNamed "LC_ALL", m.textNamed "LC_CTYPE", m.textNamed "LANG"].find? fun s =>
    !s.isEmpty
  locale.any fun s => "C.UTF-8".toList = s || "C.utf8".toList = s

def marked (m : Machine) (s : Octets) : Octets :=
  if hasMarks m then Octets.ofText ['‘'] ++ s ++ Octets.ofText ['’'] else ['\''] ++ s ++ ['\'']

/-- A name in quotes, as a shell would read it. -/
def quoted (s : Octets) : Octets :=
  if s.contains '\'' && !s.any fun c => "\"$\x60\\".toList.contains c then
    ['"'] ++ s ++ ['"']
  else Builtin.quoted s

/-- A name that a shell would read as it stands is left so. -/
def named (s : Octets) : Octets :=
  let isSafe (c : Char) : Bool :=
    c.isAlphanum || 128 ≤ c.toNat || "_-./:,+=@%~^\x7b\x7d".toList.contains c
  if !s.isEmpty && s.all isSafe then s else quoted s

def reason (o : Disk.Obstacle) : Octets :=
  ": ".toList ++ o.text.toList ++ ['\n']

/-- What comes in; a directory cannot be read. -/
def inputText (m : Machine) : Except Disk.Obstacle Octets :=
  match m.streams.channel? 0 with
  | some .directory => .error .isDirectory
  | _ => .ok m.input.text

/-- The name is that of the file that the output goes to. -/
def takesOutput (m : Machine) (name : Octets) : Bool :=
  match m.streams.channel? 1, m.arrive name with
  | some (.file place), .ok arrival => arrival.place = place
  | _, _ => false

/-- An operand and what can be read of it. -/
abbrev Source := Octets × Except Disk.Obstacle Octets

/-- The operands in order with what they hold; without any, and for a dash, the input. -/
def sources (operands : List Octets) (m : Machine) : List Source × Machine :=
  (if operands.isEmpty then [['-']] else operands).foldl (fun (found, m) name =>
    if name = ['-'] then (found ++ [(name, inputText m)], m.leaveInput [])
    else (found ++ [(name, m.content name)], m)) ([], m)

/-- The contents of the operands. A complaint stands for what cannot be read. -/
def contents (complaint : Octets → Disk.Obstacle → Octets) (operands : List Octets) (m : Machine) :
    List (Octets × Octets) × Octets × Machine :=
  let (found, m) := sources operands m
  (found.filterMap fun s => s.2.toOption.map fun text => (s.1, text),
    found.flatMap fun s => match s.2 with
      | .ok _ => []
      | .error o => complaint s.1 o, m)

/-- A complaint that begins with the name of the file. -/
def plainly (name : String) (file : Octets) (o : Disk.Obstacle) : Octets :=
  (name ++ ": ").toList ++ named file ++ reason o

/-- A complaint that says what could not be done with the file. -/
def saying (name verb : String) (file : Octets) (o : Disk.Obstacle) : Octets :=
  (name ++ ": " ++ verb ++ " ").toList ++ quoted file ++ reason o

def lines : Octets → List Octets
  | [] => []
  | c :: rest =>
    if c = '\n' then ['\n'] :: lines rest
    else
      match lines rest with
      | [] => [[c]]
      | l :: more => (c :: l) :: more

def bareLines (s : Octets) : List Octets :=
  (lines s).map fun l => if l.getLast? = some '\n' then l.dropLast else l

def isBlank (c : Char) : Bool :=
  c = ' ' || c = '\t'

/-- A number with a letter behind it that stands for a power of 1024, or of 1000 where a `B`
follows. -/
def amount? (s : Octets) : Option Nat :=
  let digits := s.takeWhile Char.isDigit
  let scale? : Option Nat := match String.ofList (s.drop digits.length) with
    | "" => some 1
    | "b" => some 512
    | "kB" => some 1000
    | "k" | "K" | "KiB" => some 1024
    | "MB" => some (1000 * 1000)
    | "m" | "M" | "MiB" => some (1024 * 1024)
    | "G" | "GiB" => some (1024 * 1024 * 1024)
    | _ => none
  (Octets.natural? digits).bind fun n => scale?.map fun scale => n * scale

def placeFor (m : Machine) (name : Octets) : Except Disk.Obstacle (List FileName) :=
  match Octets.toText? name with
  | none => .error .missing
  | some text =>
    let parts := (Path.toFollow m.here text).filter fun p => p != []
    match m.disk.arrive parts.dropLast, parts.getLast? with
    | .ok ⟨_, place, .directory⟩, some last =>
      if Disk.maxNameSize < Disk.size last then .error .nameTooLong else .ok (place ++ [last])
    | .ok _, _ => .error .notDirectory
    | .error o, _ => .error o

def lastComponent (s : Octets) : Octets :=
  let s := (s.reverse.dropWhile (· = '/')).reverse
  (s.reverse.takeWhile (· != '/')).reverse

def inside (directory name : Octets) : Octets :=
  if directory.getLast? = some '/' then directory ++ name else directory ++ '/' :: name

end Program

end LintDispatch.Shell
