import LintDispatch.Number.Double
import LintDispatch.Yaml.Moment

/-!
Data as a document holds it: scalars, lists, mappings and sets. Keys of mappings and members of sets
are scalars, kept in the order in which they first came.
-/

namespace LintDispatch

inductive Scalar where
  | null
  | bool (b : Bool)
  | int (n : Int)
  | float (x : Double)
  | text (s : String)
  /-- A text in which some code points are no characters. -/
  | illFormed (points : List Nat)
  | bytes (bs : List UInt8)
  | moment (m : Moment)
  deriving DecidableEq, Repr, Inhabited

inductive Value where
  | scalar (s : Scalar)
  | list (items : List Value)
  | map (entries : List (Scalar × Value))
  | set (members : List Scalar)
  deriving Repr, Inhabited

namespace Scalar

/-- The whole number that a truth value or an integer stands for. -/
def whole? : Scalar → Option Int
  | .bool b => some (if b then 1 else 0)
  | .int n => some n
  | _ => none

/-- Two scalars are the same key: numbers by value, moments by instant, all else by form. -/
def sameKey (a b : Scalar) : Bool :=
  match a, b with
  | .float x, .float y => x == y || x.numEq y
  | .float x, b => b.whole?.any (x.equalsInt ·)
  | a, .float y => a.whole?.any (y.equalsInt ·)
  | .moment m, .moment n => m.same n
  | a, b =>
    match a.whole?, b.whole? with
    | some m, some n => m == n
    | _, _ => a == b

end Scalar

namespace Value

def null : Value := .scalar .null

def bool (b : Bool) : Value := .scalar (.bool b)

def text (s : String) : Value := .scalar (.text s)

def isNull : Value → Bool
  | .scalar .null => true
  | _ => false

/-- The value stored under `key`, which among entries with one key is the last one's. -/
def lookup? (key : String) (entries : List (Scalar × Value)) : Option Value :=
  (entries.find? fun e => e.1.sameKey (.text key)).map Prod.snd

/-- Stores under a key; a key that is there keeps its form and its place. -/
def putBy {α β : Type} (same : α → α → Bool) (entries : List (α × β)) (key : α) (value : β) :
    List (α × β) :=
  if entries.any fun e => same e.1 key then
    entries.map fun e => if same e.1 key then (e.1, value) else e
  else entries ++ [(key, value)]

def put (entries : List (Scalar × Value)) (key : Scalar) (value : Value) : List (Scalar × Value) :=
  putBy Scalar.sameKey entries key value

def addBy {α : Type} (same : α → α → Bool) (members : List α) (m : α) : List α :=
  if members.any (same · m) then members else members ++ [m]

/-- Everything counts as true but null, false, zero and what is empty. -/
def isTrue : Value → Bool
  | .scalar .null => false
  | .scalar (.bool b) => b
  | .scalar (.int n) => n != 0
  | .scalar (.float (.finite _ m _)) => m != 0
  | .scalar (.float _) => true
  | .scalar (.text s) => !s.isEmpty
  | .scalar (.illFormed _) => true
  | .scalar (.bytes bs) => !bs.isEmpty
  | .scalar (.moment _) => true
  | .list items => !items.isEmpty
  | .map entries => !entries.isEmpty
  | .set members => !members.isEmpty

end Value

end LintDispatch
