import LintDispatch.Text.Split

/-!
The extension of a file: the last dot of its name and what follows. The dots at the start of a name
begin no extension, and neither does a name made of dots alone.
-/

namespace LintDispatch.Linter

/-- The last component of a path as it is written, empty behind a final separator. -/
def baseName (path : List Char) : List Char :=
  (Text.splitAt '/' path).getLast?.getD []

/-- What stands before and behind the last dot. -/
def splitLastDot? : List Char → Option (List Char × List Char)
  | [] => none
  | c :: s =>
    match splitLastDot? s with
    | some (stem, suffix) => some (c :: stem, suffix)
    | none => if c = '.' then some ([], s) else none

def extension (path : String) : String :=
  match splitLastDot? (baseName path.toList) with
  | some (stem, suffix) => if stem.any (· ≠ '.') then String.ofList ('.' :: suffix) else ""
  | none => ""

theorem splitLastDot?_eq_none {s : List Char} (h : '.' ∉ s) : splitLastDot? s = none := by
  induction s with
  | nil => rfl
  | cons c s ih =>
    simp only [List.mem_cons, not_or] at h
    simp [splitLastDot?, ih h.2, Ne.symm h.1]

theorem splitLastDot?_append {stem suffix : List Char} (h : '.' ∉ suffix) :
    splitLastDot? (stem ++ '.' :: suffix) = some (stem, suffix) := by
  induction stem with
  | nil => simp [splitLastDot?, splitLastDot?_eq_none h]
  | cons c stem ih => simp [splitLastDot?, ih]

end LintDispatch.Linter
