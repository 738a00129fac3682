import LintDispatch.Shell.Machine

/-!
Conditions on texts, numbers and files, as `test` reads them. "Or" binds weaker than "and", and a
word is an operator only where its neighbours let it be one.
-/

namespace LintDispatch.Shell.Condition

inductive Operator where
  | unary (sign : String)
  | binary (sign : String)
  | not
  | and
  | or
  | open_
  | close
  deriving DecidableEq, Repr

def unarySigns : List String :=
  ["-r", "-w", "-x", "-e", "-f", "-d", "-c", "-b", "-p", "-u", "-g", "-k", "-s", "-t", "-z", "-n",
    "-h", "-O", "-G", "-L", "-S"]

def binarySigns : List String :=
  ["=", "!=", "<", ">", "-eq", "-ne", "-ge", "-gt", "-le", "-lt", "-nt", "-ot", "-ef"]

def named? (s : Octets) : Option Operator :=
  let sign := String.ofList s
  if unarySigns.contains sign then some (.unary sign)
  else if binarySigns.contains sign then some (.binary sign)
  else match sign with
    | "!" => some .not
    | "-a" => some .and
    | "-o" => some .or
    | "(" => some .open_
    | ")" => some .close
    | _ => none

def isBinary (s : Octets) : Bool :=
  match named? s with
  | some (.binary _) => true
  | _ => false

/-- The sign in front of these words is an operand itself. -/
def standsAlone : List Octets → Bool
  | [] => true
  | [_] => false
  | s :: _ => isBinary s

/-- The operator that the first word is where it stands. -/
def operator? : List Octets → Option Operator
  | [] => none
  | s :: rest =>
    match named? s with
    | some (.unary sign) => if standsAlone rest then none else some (.unary sign)
    | some .open_ => if rest.isEmpty then none else some .open_
    | o => o

/-- The entry that a name leads to. -/
def seen? (m : Machine) (name : Octets) : Option Entry :=
  (m.arrive name).toOption.map Disk.Arrival.entry

def isNull (m : Machine) (name : Octets) : Bool :=
  match m.arrive name with
  | .ok arrival => arrival.place = System.nullPlace
  | .error _ => false

def isLink (m : Machine) (name : Octets) : Bool :=
  match m.arriveAtLink name with
  | .ok (_, .link _) => true
  | _ => false

def number (s : Octets) : Except Octets Int :=
  match Arithmetic.number? s with
  | some n => .ok n
  | none => .error ("Illegal number: ".toList ++ s)

def unary (m : Machine) (sign : String) (s : Octets) : Except Octets Bool :=
  match sign with
  | "-n" => .ok (s != [])
  | "-z" => .ok (s == [])
  | "-t" => (number s).map fun _ => false
  | "-h" => .ok (isLink m s)
  | "-L" => .ok (isLink m s)
  | "-d" => .ok (seen? m s == some .directory)
  | "-x" => .ok (match m.arrive s with
    | .ok ⟨_, _, .directory⟩ => true
    | .ok ⟨_, place, _⟩ => System.programPlace.isPrefixOf place
    | .error _ => false)
  | "-f" => .ok (!isNull m s && (seen? m s).any (· != .directory))
  | "-c" => .ok (isNull m s)
  | "-s" => .ok (match seen? m s with
    | some (.file bytes) => !bytes.isEmpty
    | some _ => true
    | none => false)
  | sign =>
    if ["-e", "-r", "-w", "-O", "-G"].contains sign then .ok (seen? m s).isSome else .ok false

def samePlace (m : Machine) (a b : Octets) : Bool :=
  match m.arrive a, m.arrive b with
  | .ok x, .ok y => x.place == y.place
  | _, _ => false

def binary (m : Machine) (sign : String) (a b : Octets) : Except Octets Bool :=
  let numbers (p : Int → Int → Bool) : Except Octets Bool := do
    let x ← number a
    let y ← number b
    return p x y
  match sign with
  | "=" => .ok (a == b)
  | "!=" => .ok (a != b)
  | "<" => .ok (a < b)
  | ">" => .ok (b < a)
  | "-eq" => numbers fun x y => x == y
  | "-ne" => numbers fun x y => x != y
  | "-lt" => numbers fun x y => x < y
  | "-le" => numbers fun x y => x ≤ y
  | "-gt" => numbers fun x y => y < x
  | "-ge" => numbers fun x y => y ≤ x
  | "-ef" => .ok (samePlace m a b)
  | _ => .ok ((seen? m a).isSome && (seen? m b).isNone && sign == "-nt")

/-- A condition that was read, and the words from its last one on. -/
abbrev Result := Except Octets (Bool × List Octets)

mutual

def either (m : Machine) : Nat → Bool → List Octets → Result
  | 0, _, ws => .ok (false, ws)
  | n + 1, before, ws => do
    let (b, ws) ← both m n true ws
    if operator? ws.tail = some .or then either m n (before || b) (ws.drop 2)
    else return (before || b, ws)

def both (m : Machine) : Nat → Bool → List Octets → Result
  | 0, _, ws => .ok (false, ws)
  | n + 1, before, ws => do
    let (b, ws) ← negation m n ws
    if operator? ws.tail = some .and then both m n (before && b) (ws.drop 2)
    else return (before && b, ws)

def negation (m : Machine) : Nat → List Octets → Result
  | 0, ws => .ok (false, ws)
  | n + 1, ws =>
    if operator? ws = some .not then do
      let (b, ws) ← negation m n ws.tail
      return (!b, ws)
    else primary m n ws

def primary (m : Machine) : Nat → List Octets → Result
  | 0, ws => .ok (false, ws)
  | n + 1, ws =>
    match ws, operator? ws with
    | [], _ => .ok (false, [])
    | _ :: rest, some .open_ =>
      if operator? rest = some .close then .ok (false, rest)
      else do
        let (b, ws) ← either m n false rest
        if operator? ws.tail = some .close then return (b, ws.tail)
        else .error "closing paren expected".toList
    | sign :: rest, some (.unary name) =>
      match rest with
      | [] => .error (sign ++ ": argument expected".toList)
      | s :: _ => (unary m name s).map fun b => (b, rest)
    | s :: rest, _ =>
      match rest, operator? rest with
      | sign :: more, some (.binary name) =>
        match more with
        | [] => .error (sign ++ ": argument expected".toList)
        | t :: _ => (binary m name s t).map fun b => (b, more)
      | _, _ => .ok (s != [], ws)

end

/-- Says what is wrong at a word. -/
def problemAt (word : Octets) (problem : String) : Octets :=
  if word.isEmpty then problem.toList else word ++ ": ".toList ++ problem.toList

def whole (m : Machine) (ws : List Octets) : Except Octets Bool := do
  let (b, left) ← either m (4 * ws.length + 8) false ws
  match left with
  | a :: _ :: _ => .error (problemAt a "unexpected operator")
  | _ => return b

/-- Few words are read by their number first: with an operator between two, they are compared, and
parentheses around one or two are dropped. -/
def evaluate (m : Machine) (ws : List Octets) : Except Octets Bool :=
  match ws with
  | [] => .ok false
  | [a, sign, b] =>
    match named? sign with
    | some (.binary name) => binary m name a b
    | _ => whole m (if a = ['('] && b = [')'] then [sign] else ws)
  | [a, b, c, d] => whole m (if a = ['('] && d = [')'] then [b, c] else ws)
  | _ => whole m ws

end LintDispatch.Shell.Condition
