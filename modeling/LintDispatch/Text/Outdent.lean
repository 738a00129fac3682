import LintDispatch.Text.Blank
import LintDispatch.Text.Lines
import LintDispatch.Text.Split

/-!
Taking the indentation off a text: that of the first line, and as much of the others' as they have
in common. Empty lines at both ends are dropped.
-/

namespace LintDispatch.Text

/-- How far a line is indented, unless it is blank. -/
def indentation? (line : List Char) : Option Nat :=
  let content := trimLeft line
  if content.isEmpty then none else some (line.length - content.length)

/-- The indentation that all lines have which are not blank; none if there is no such line. -/
def commonIndentation (ls : List (List Char)) : Nat :=
  ((ls.filterMap indentation?).min?).getD 0

def outdent (s : List Char) : List Char :=
  match splitAt '\n' (expandTabs s) with
  | [] => []
  | first :: rest =>
    let ls := trimLeft first :: rest.map (·.drop (commonIndentation rest))
    let kept := ((ls.dropWhile List.isEmpty).reverse.dropWhile List.isEmpty).reverse
    joinWith '\n' kept

end LintDispatch.Text
