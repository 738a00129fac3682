import LintDispatch.Shell.Program

/-!
How programs are called that run others: a shell of its own, a command with another environment, and
a command for what comes in.
-/

namespace LintDispatch.Shell.Program

/-- What a shell is told to run: a script, or the file of one, or else what comes in. -/
structure Invocation where
  options : List Char
  script : Option Octets
  file : Option Octets
  name : Octets
  arguments : List Octets

inductive InvocationError where
  | illegalOption (text : Octets)
  | noScript

def InvocationError.message : InvocationError → Octets
  | .illegalOption text => "Illegal option ".toList ++ text
  | .noScript => "-c requires an argument".toList

namespace Invocation

def switch (on : Bool) (c : Char) (options : List Char) : List Char :=
  let rest := options.filter (· != c)
  if on then c :: rest else rest

/-- Switches the options of one argument; the letter `c` is one of them here. -/
def switchAll (on : Bool) (letters options : List Char) : Except InvocationError (List Char) :=
  letters.foldlM (fun options c =>
    if c = 'c' || (Builtin.optionNames.any fun o => o.2 == c) then .ok (switch on c options)
    else .error (.illegalOption [if on then '-' else '+', c])) options

def front : Nat → List Char → List Octets → Except InvocationError (List Char × List Octets)
  | 0, options, rest => .ok (options, rest)
  | n + 1, options, args =>
    match args with
    | ['-'] :: rest => .ok (options, rest)
    | ['-', '-'] :: rest => .ok (options, rest)
    | [sign, 'o'] :: name :: rest =>
      if sign = '-' || sign = '+' then
        match Builtin.optionNames.lookup (String.ofList name) with
        | some c => front n (switch (sign = '-') c options) rest
        | none => .error (.illegalOption ([sign, 'o', ' '] ++ name))
      else .ok (options, args)
    | ('-' :: letters) :: rest => do front n (← switchAll true letters options) rest
    | ('+' :: letters) :: rest => do front n (← switchAll false letters options) rest
    | _ => .ok (options, args)

def ofArguments (called : Octets) (args : List Octets) : Except InvocationError Invocation := do
  let (options, rest) ← front args.length [] args
  let own := options.filter fun c => c != 'c'
  if options.contains 'c' then
    match rest with
    | [] => .error .noScript
    | script :: rest => return ⟨own, some script, none, rest.headD called, rest.drop 1⟩
  else
    match options.contains 's', rest with
    | false, file :: rest => return ⟨own, none, some file, file, rest⟩
    | _, rest => return ⟨own, none, none, called, rest⟩

end Invocation

def envArguments : Known :=
  ⟨"i0v", "uCS", [("ignore-environment", 'i'), ("unset", 'u'), ("null", '0'), ("chdir", 'C')]⟩

def withEnvironment (a : Arguments) (m : Machine) : Machine :=
  let m := if a.has 'i' then { m with bindings := [], exported := [] } else m
  a.options.foldl (fun m o => if o.1 = 'u' then m.unbind o.2 else m) m

/-- Gives a name a value in the environment, where it stands or behind all others. -/
def setInPlace (m : Machine) (name value : Octets) : Machine :=
  if m.exported.contains name then
    { m with bindings := m.bindings.map fun v => if v.1 = name then (name, value) else v }
  else
    { m with bindings := (m.bindings.filter fun v => v.1 != name) ++ [(name, value)]
             exported := name :: m.exported }

def assigning (m : Machine) : List Octets → Machine × List Octets
  | [] => (m, [])
  | word :: rest =>
    if word.contains '=' then
      let name := word.takeWhile (· != '=')
      assigning (setInPlace m name (word.drop (name.length + 1))) rest
    else (m, word :: rest)

def xargsArguments : Known :=
  ⟨"r0tx", "nIdLPs", [("no-run-if-empty", 'r'), ("null", '0'), ("max-args", 'n'), ("verbose", 't'),
    ("delimiter", 'd'), ("max-lines", 'L'), ("max-procs", 'P')]⟩

/-- The items of a text, between blanks that are not quoted. -/
def items : Option Char → Option Octets → Octets → List Octets
  | _, item, [] => item.toList
  | some quote, item, c :: rest =>
    if c = quote then items none item rest else items (some quote) (some (item.getD [] ++ [c])) rest
  | none, item, '\\' :: c :: rest => items none (some (item.getD [] ++ [c])) rest
  | none, item, c :: rest =>
    if c = '\'' || c = '"' then items (some c) (some (item.getD [])) rest
    else if c = ' ' || c = '\t' || c = '\n' then item.toList ++ items none none rest
    else items none (some (item.getD [] ++ [c])) rest

/-- The parts of a text that a mark ends. -/
def partsBefore (mark : Char) (s : Octets) : List Octets :=
  let parts := Text.splitAt mark s
  if parts.getLast? = some [] then parts.dropLast else parts

def groups (count : Nat) : Nat → List Octets → List (List Octets)
  | 0, _ => []
  | _, [] => []
  | n + 1, all => all.take (max count 1) :: groups count n (all.drop (max count 1))

def replaceMark (mark text : Octets) : Nat → Octets → Octets
  | 0, s => s
  | _, [] => []
  | n + 1, c :: rest =>
    if !mark.isEmpty && mark.isPrefixOf (c :: rest) then
      text ++ replaceMark mark text n ((c :: rest).drop mark.length)
    else c :: replaceMark mark text n rest

/-- The commands that are to run for an input. -/
def commandsFor (a : Arguments) (input : Octets) : List (List Octets) :=
  let words := if a.operands.isEmpty then ["echo".toList] else a.operands
  match a.value? 'I' with
  | some mark =>
    let lines := ((bareLines input).map fun l => l.dropWhile isBlank).filter fun l => !l.isEmpty
    lines.map fun l => words.map fun w => replaceMark mark l (w.length + 1) w
  | none =>
    let all :=
      if a.has '0' then partsBefore '\x00' input
      else match a.value? 'd' with
        | some mark => partsBefore ((Format.resolve mark).1.headD '\n') input
        | none => items none none input
    let groups := match a.value? 'L', (a.value? 'n').bind Octets.natural? with
      | some count, _ =>
        (groups ((Octets.natural? count).getD 1) input.length
          ((bareLines input).filter fun l => !(items none none l).isEmpty)).map
            fun (lines : List Octets) => lines.flatMap (items none none)
      | none, some count => groups count all.length all
      | none, none => if all.isEmpty then [] else [all]
    if groups.isEmpty then (if a.has 'r' then [] else [words])
    else groups.map fun g => words ++ g

end LintDispatch.Shell.Program
