import LintDispatch.Config.Issue
import LintDispatch.Text.Utf8
import LintDispatch.Yaml.Value

/-!
Checks of single values. Texts are taken as they are or as UTF-8 bytes, lists as lists or sets, and
truth values also as the numbers zero and one or as one of the usual words.
-/

namespace LintDispatch.Config

def text : Value → Checked String
  | .scalar (.text s) => .good s
  | .scalar (.illFormed _) => .fail .notUnicode
  | .scalar (.bytes bs) =>
    match Text.decodeUtf8? bs with
    | some s => .good (String.ofList s)
    | none => .fail .notUnicode
  | _ => .fail .notText

/-- A text or nothing at all. -/
def optionalText : Value → Checked (Option String)
  | .scalar .null => .good none
  | v => some <$> text v

def items : Value → Checked (List Value)
  | .list xs => .good xs
  | .set members => .good (members.map .scalar)
  | _ => .fail .notList

def listOf {α : Type} (check : Value → Checked α) (v : Value) : Checked (List α) :=
  match items v with
  | .good xs => Checked.each check xs
  | .faulty issues => .faulty issues

def falseWords : List String := ["0", "off", "f", "false", "n", "no"]

def trueWords : List String := ["1", "on", "t", "true", "y", "yes"]

def truthOfWord (s : String) : Checked Bool :=
  let word := String.ofList (s.toList.map Char.toLower)
  if word ∈ falseWords then .good false
  else if word ∈ trueWords then .good true
  else .fail .unclearTruth

/-- Whole numbers of 64 bits, from `least` on, are read as truth values where they are zero or
one. -/
def truthOfWhole (least n : Int) : Checked Bool :=
  if n = 0 then .good false
  else if n = 1 then .good true
  else if least ≤ n ∧ n < Nat.pow 2 63 then .fail .unclearTruth
  else .fail .notTruth

def truth : Value → Checked Bool
  | .scalar (.bool b) => .good b
  | .scalar (.int n) => truthOfWhole (-(Nat.pow 2 63)) n
  | .scalar (.float x) =>
    match x.truncate? with
    | some n => if x.equalsInt n then truthOfWhole (1 - Nat.pow 2 63) n else .fail .notTruth
    | none => .fail .notTruth
  | .scalar (.text s) => truthOfWord s
  | .scalar (.bytes bs) =>
    match Text.decodeUtf8? bs with
    | some s => truthOfWord (String.ofList s)
    | none => .fail .unclearTruth
  | .scalar (.illFormed _) => .fail .notUnicode
  | _ => .fail .notTruth

/-- The entries of a mapping that stands for a record. -/
def record {α : Type} (name : String) (check : List (Scalar × Value) → Checked α) :
    Value → Checked α
  | .map entries => check entries
  | _ => .fail (.notRecord name)

/-- A field that has to be there. -/
def required {α : Type} (name : String) (check : Value → Checked α)
    (entries : List (Scalar × Value)) : Checked α :=
  Checked.inside (.field name) <|
    match Value.lookup? name entries with
    | some v => check v
    | none => .fail .missing

/-- A field that takes a default where it is absent. -/
def optional {α : Type} (name : String) (check : Value → Checked α) (default : α)
    (entries : List (Scalar × Value)) : Checked α :=
  match Value.lookup? name entries with
  | some v => (check v).inside (.field name)
  | none => .good default

/-- An assignment to something that a record works out by itself. -/
structure Computed where
  record : String
  name : String
  deriving DecidableEq, Repr

def Computed.message (c : Computed) : String :=
  "property '" ++ c.name ++ "' of '" ++ c.record ++ "' object has no setter"

def computedNames : List String := ["model_extra", "model_fields_set", "__fields_set__"]

/-- Assigns through `change` to a field of `x`. Names with a leading underscore are private: they
belong to no field, and the record stays as it is. -/
def assigned {α : Type} (record : String) (change : α → String → Value → Checked α) (x : α)
    (name : String) (value : Value) : Except Computed (Checked α) :=
  if name ∈ computedNames then .error ⟨record, name⟩
  else if name.toList.head? = some '_' then .ok (.good x)
  else .ok (change x name value)

end LintDispatch.Config
