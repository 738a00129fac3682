import LintDispatch.Console.Report
import LintDispatch.Text.Blank
import LintDispatch.Text.Printable
import LintDispatch.Text.Split
import LintDispatch.Text.Word

/-!
Declarations of options. A declaration is an option string, or two of them with a slash between: the
one that switches something on and the one that switches it off. An option string begins with a
leader, one character or the same one twice, that is neither a letter nor a digit.
-/

namespace LintDispatch.CommandLine

/-- Why option strings cannot be used. -/
inductive DeclarationError where
  | sameString (declaration : String)
  | noLeader (option : String)
  deriving DecidableEq, Repr

def DeclarationError.message : DeclarationError → String
  | .sameString declaration =>
    "Boolean option " ++ Text.quoted declaration ++ " cannot use the same flag for true/false."
  | .noLeader option => "Invalid start character for option (" ++ option ++ ")"

def DeclarationError.report (e : DeclarationError) : Report :=
  .plain "ValueError" e.message

/-- The leader of an option string and the rest; the leader is empty where there is none. -/
def splitLeader : List Char → List Char × List Char
  | [] => ([], [])
  | c :: s =>
    if Text.isAlphanumeric c then ([], c :: s)
    else if s.head? = some c then ([c, c], s.drop 1)
    else ([c], s)

def leader (option : String) : List Char :=
  (splitLeader option.toList).1

/-- A leader of one character with one character behind it. -/
def isShort (option : String) : Bool :=
  let (lead, rest) := splitLeader option.toList
  lead.length = 1 && rest.length = 1

/-- What stands before and behind the first separator. -/
def cutAt? (sep : Char) : List Char → Option (List Char × List Char)
  | [] => none
  | c :: s =>
    if c = sep then some ([], s)
    else (cutAt? sep s).map fun (before, behind) => (c :: before, behind)

/-- The option strings that a declaration gives. -/
structure Declared where
  on : List String
  off : List String
  deriving DecidableEq, Repr

def nonEmpty (s : List Char) : List String :=
  if s.isEmpty then [] else [String.ofList s]

/-- Reads a declaration. One that begins with a slash has a semicolon between its two strings. -/
def declare (declaration : String) : Except DeclarationError Declared :=
  let s := declaration.toList
  match cutAt? (if s.head? = some '/' then ';' else '/') s with
  | none => .ok ⟨[declaration], []⟩
  | some (first, second) =>
    let first := Text.trimRight first
    let second := Text.trimLeft second
    if first = second then .error (.sameString declaration)
    else .ok ⟨nonEmpty first, nonEmpty second⟩

/-- The option strings of several declarations together. -/
def declareAll (declarations : List String) : Except DeclarationError Declared := do
  let ds ← declarations.mapM declare
  return ⟨ds.flatMap Declared.on, ds.flatMap Declared.off⟩

theorem cutAt?_eq_none_iff {sep : Char} {s : List Char} : cutAt? sep s = none ↔ sep ∉ s := by
  induction s with
  | nil => simp [cutAt?]
  | cons c s ih =>
    rw [cutAt?, List.mem_cons, not_or]
    split
    · rename_i hc
      simp [hc]
    · rename_i hc
      simp [ih, Ne.symm hc]

theorem cutAt?_eq_some_iff {sep : Char} {s before behind : List Char} :
    cutAt? sep s = some (before, behind) ↔ s = before ++ sep :: behind ∧ sep ∉ before := by
  induction s generalizing before with
  | nil => simp [cutAt?]
  | cons c s ih =>
    rw [cutAt?]
    split
    · rename_i hc
      subst hc
      cases before with
      | nil => simp
      | cons d before =>
        simp only [Option.some.injEq, Prod.mk.injEq, List.cons_append, List.cons.injEq,
          List.mem_cons, not_or]
        grind
    · rename_i hc
      simp only [Option.map_eq_some_iff, Prod.exists, Prod.mk.injEq]
      constructor
      · rintro ⟨first, second, h, rfl, rfl⟩
        obtain ⟨rfl, hn⟩ := ih.mp h
        simp [hn, Ne.symm hc]
      · rintro ⟨h, hn⟩
        cases before with
        | nil => simp [hc] at h
        | cons d before =>
          obtain ⟨rfl, rfl⟩ := List.cons.inj h
          exact ⟨before, behind, ih.mpr ⟨rfl, fun hm => hn (List.mem_cons_of_mem _ hm)⟩, rfl, rfl⟩

theorem leader_ne_nil_iff {option : String} :
    leader option ≠ [] ↔ ∃ c ∈ option.toList.head?, Text.isAlphanumeric c = false := by
  rw [leader]
  cases option.toList with
  | nil => simp [splitLeader]
  | cons c s =>
    simp only [splitLeader, List.head?_cons, Option.mem_some_iff, exists_eq_left']
    cases Text.isAlphanumeric c
    · simp only [Bool.false_eq_true, if_false]
      split <;> simp
    · simp

end LintDispatch.CommandLine
