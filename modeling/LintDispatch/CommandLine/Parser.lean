import LintDispatch.CommandLine.Command
import LintDispatch.Text.Similarity

/-!
Reading an argument list. An argument that begins with a known leader is an option: first it is
looked up whole, then, behind a single leader, as a cluster of short options. A value is the rest of
its argument or the next argument, whatever that looks like. All else is a path, and so is
everything behind a double dash.
-/

namespace LintDispatch.CommandLine

/-- What an option string does. -/
inductive Effect where
  | turn (parameter : String) (on : Bool)
  | take (parameter : String)
  | version
  | help
  deriving DecidableEq, Repr

/-- The option strings that are known: whole ones, short ones, and the leaders of all. -/
structure Options where
  long : Bindings Effect
  short : Bindings Effect
  leaders : List (List Char)
  deriving Repr

inductive UsageError where
  | unknown (option : String) (suggestions : List String)
  | valueMissing (option : String)
  | valueUnexpected (option : String)
  deriving DecidableEq, Repr

def UsageError.message : UsageError → String
  | .unknown option [] => "No such option: " ++ option
  | .unknown option [one] => "No such option: " ++ option ++ " Did you mean " ++ one ++ "?"
  | .unknown option several =>
    "No such option: " ++ option ++ " (Possible options: "
      ++ ", ".intercalate (several.mergeSort fun x y => decide (x ≤ y)) ++ ")"
  | .valueMissing option => "Option " ++ Text.quoted option ++ " requires an argument."
  | .valueUnexpected option => "Option " ++ Text.quoted option ++ " does not take a value."

namespace Options

def empty : Options := ⟨[], [], []⟩

/-- Registers an option string; a later one replaces an earlier one. -/
def register (o : Options) (option : String) (e : Effect) : Except DeclarationError Options :=
  match leader option with
  | [] => .error (.noLeader option)
  | c :: more =>
    if isShort option then
      .ok { o with short := o.short.set option e, leaders := [c] :: o.leaders }
    else .ok { o with long := o.long.set option e, leaders := [c] :: (c :: more) :: o.leaders }

/-- What the strings of a parameter do. -/
def effects (p : Parameter) : List (String × Effect) :=
  match p.role with
  | .toggle => p.on.map (·, .turn p.name true) ++ p.off.map (·, .turn p.name false)
  | .value => p.on.map (·, .take p.name)
  | .version => p.on.map (·, .version)
  | .help => p.on.map (·, .help)

def ofParameters (ps : List Parameter) : Except DeclarationError Options :=
  (ps.flatMap effects).foldlM (fun o x => o.register x.1 x.2) empty

def unknown (o : Options) (option : String) : UsageError :=
  .unknown option (Text.closeMatches option o.long.names)

/-- The argument is read as an option. -/
def isOption (o : Options) (arg : List Char) : Bool :=
  2 ≤ arg.length && o.leaders.contains (arg.take 1)

end Options

/-- What the next argument is read as. -/
inductive Expecting where
  | any
  | value (parameter option : String)
  | path
  deriving DecidableEq, Repr

inductive Request where
  | version
  | help
  deriving DecidableEq, Repr

/-- What has been read so far. -/
structure Reading where
  expecting : Expecting
  values : Bindings Value
  requests : List Request
  paths : List String
  deriving Repr

namespace Reading

def start : Reading := ⟨.any, [], [], []⟩

def store (r : Reading) (parameter : String) (v : Value) : Reading :=
  { r with values := r.values.set parameter v }

def addPath (r : Reading) (path : String) : Reading :=
  { r with paths := r.paths ++ [path] }

def expectValue (r : Reading) (parameter option : String) : Reading :=
  { r with expecting := .value parameter option }

/-- An option that takes no value. -/
def perform (r : Reading) : Effect → Reading
  | .turn parameter on => r.store parameter (.bool on)
  | .version => { r with requests := r.requests ++ [.version] }
  | .help => { r with requests := r.requests ++ [.help] }
  | .take _ => r

/-- The short options `cs` behind the leader `lead`. -/
def cluster (o : Options) (lead : Char) : List Char → Reading → Except UsageError Reading
  | [], r => .ok r
  | c :: cs, r =>
    let option := String.ofList [lead, c]
    match o.short.find? option with
    | none => .error (.unknown option [])
    | some (.take parameter) =>
      if cs.isEmpty then .ok (r.expectValue parameter option)
      else .ok (r.store parameter (.text (String.ofList cs)))
    | some e => cluster o lead cs (r.perform e)

/-- An option that was found whole; `given` is the value written behind its equals sign. -/
def whole (r : Reading) (option : String) (given : Option (List Char)) :
    Effect → Except UsageError Reading
  | .take parameter =>
    match given with
    | some v => .ok (r.store parameter (.text (String.ofList v)))
    | none => .ok (r.expectValue parameter option)
  | e => if given.isSome then .error (.valueUnexpected option) else .ok (r.perform e)

def option (o : Options) (arg : List Char) (r : Reading) : Except UsageError Reading :=
  let (name, given) :=
    match cutAt? '=' arg with
    | some (name, given) => (String.ofList name, some given)
    | none => (String.ofList arg, none)
  match o.long.find? name with
  | some e => r.whole name given e
  | none =>
    if o.leaders.contains (arg.take 2) then .error (o.unknown name)
    else
      match arg with
      | lead :: cs => cluster o lead cs r
      | [] => .ok r

def read (o : Options) (r : Reading) (arg : String) : Except UsageError Reading :=
  match r.expecting with
  | .path => .ok (r.addPath arg)
  | .value parameter _ => .ok { r.store parameter (.text arg) with expecting := .any }
  | .any =>
    if arg = "--" then .ok { r with expecting := .path }
    else if o.isOption arg.toList then option o arg.toList r
    else .ok (r.addPath arg)

/-- A value must not be missing at the end. -/
def finish (r : Reading) : Except UsageError Reading :=
  match r.expecting with
  | .value _ option => .error (.valueMissing option)
  | _ => .ok r

end Reading

/-- What an argument list asks for: one of the requests, or a run with the values of all parameters
(null where none was given) and the paths. -/
inductive Parsed where
  | request (r : Request)
  | run (values : Bindings Value) (paths : List String)
  deriving Repr

/-- Values of all parameters, those that were given first, in their order. -/
def allValues (c : Command) (given : Bindings Value) : Bindings Value :=
  let missing := (c.valued.map Parameter.name).filter fun name => !given.names.contains name
  given ++ missing.map (·, .null)

def parse (c : Command) (o : Options) (args : List String) : Except UsageError Parsed :=
  ((args.foldlM (Reading.read o) .start).bind Reading.finish).map fun r =>
    match r.requests with
    | request :: _ => .request request
    | [] => .run (allValues c r.values) r.paths

end LintDispatch.CommandLine
