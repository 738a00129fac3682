/-!
What can be wrong with configured data. A check goes over all of the data and reports every issue it
meets, each with the place where it lies.
-/

namespace LintDispatch.Config

/-- One step from a record or a list to something in it. -/
inductive Step where
  | field (name : String)
  | index (i : Nat)
  deriving DecidableEq, Repr

inductive Fault where
  | missing
  | notText
  | notUnicode
  | notList
  | notTruth
  | unclearTruth
  | notRecord (record : String)
  | noSuchField (name : String)
  deriving DecidableEq, Repr

def Fault.message : Fault → String
  | .missing => "Field required"
  | .notText => "Input should be a valid string"
  | .notUnicode => "Input should be a valid string, unable to parse raw data as a unicode string"
  | .notList => "Input should be a valid list"
  | .notTruth => "Input should be a valid boolean"
  | .unclearTruth => "Input should be a valid boolean, unable to interpret input"
  | .notRecord record => "Input should be a valid dictionary or instance of " ++ record
  | .noSuchField name => "Object has no attribute '" ++ name ++ "'"

def Step.text : Step → String
  | .field name => name
  | .index i => toString i

structure Issue where
  location : List Step
  fault : Fault
  deriving DecidableEq, Repr

def Issue.text (i : Issue) : String :=
  ".".intercalate (i.location.map Step.text) ++ ": " ++ i.fault.message

def Issue.listing (issues : List Issue) : String :=
  "; ".intercalate (issues.map Issue.text)

def Issue.under (step : Step) (issue : Issue) : Issue :=
  { issue with location := step :: issue.location }

/-- The outcome of a check: a value, or the issues in the order of the data. -/
inductive Checked (α : Type) where
  | good (value : α)
  | faulty (issues : List Issue)
  deriving Repr

namespace Checked

variable {α β : Type}

def issues : Checked α → List Issue
  | .good _ => []
  | .faulty issues => issues

def fail (fault : Fault) : Checked α :=
  .faulty [⟨[], fault⟩]

/-- Applies a checked function; the issues of both sides are kept. -/
def apply (f : Checked (α → β)) (x : Checked α) : Checked β :=
  match f, x with
  | .good f, .good value => .good (f value)
  | f, x => .faulty (f.issues ++ x.issues)

instance : Applicative Checked where
  pure := .good
  seq f x := f.apply (x ())

theorem seq_eq_good {f : Checked (α → β)} {x : Checked α} {value : β} :
    f <*> x = .good value ↔ ∃ g v, f = .good g ∧ x = .good v ∧ g v = value := by
  change f.apply x = _ ↔ _
  cases f <;> cases x <;> simp [apply]

theorem map_eq_good {f : α → β} {x : Checked α} {value : β} :
    f <$> x = .good value ↔ ∃ v, x = .good v ∧ f v = value := by
  change (good f).apply x = _ ↔ _
  cases x <;> simp [apply]

theorem map_eq_faulty {f : α → β} {x : Checked α} {issues : List Issue} :
    f <$> x = .faulty issues ↔ x = .faulty issues := by
  change (good f).apply x = _ ↔ _
  cases x <;> simp [apply, Checked.issues]

/-- Puts a check in its place: every issue lies one step deeper. -/
def inside (step : Step) : Checked α → Checked α
  | .good value => .good value
  | .faulty issues => .faulty (issues.map (·.under step))

/-- Checks the members of a list one by one, counting from `i`. -/
def eachFrom (check : α → Checked β) (i : Nat) : List α → Checked (List β)
  | [] => .good []
  | x :: xs => List.cons <$> (check x).inside (.index i) <*> eachFrom check (i + 1) xs

def each (check : α → Checked β) (xs : List α) : Checked (List β) :=
  eachFrom check 0 xs

end Checked

end LintDispatch.Config
