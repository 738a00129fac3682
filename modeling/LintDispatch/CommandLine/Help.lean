import LintDispatch.CommandLine.Command
import LintDispatch.Text.Wrap

/-!
The help text: a line of usage, what the command does, and a list of its options in two columns. The
left column is as wide as the widest entry but at most thirty characters; a wider entry has its text
on the lines below.
-/

namespace LintDispatch.CommandLine.Help

def width : Nat := 78

def indent : Nat := 2

def maxLeft : Nat := 30

def gutter : Nat := 2

def usage : String := "Usage: l [options] [FILES]"

def purpose : String := "Run configured linters against the project or the given FILES."

/-- Option strings with short leaders before those with long ones. -/
def joinOptions (options : List String) : String :=
  ", ".intercalate (options.mergeSort fun x y => decide ((leader x).length ≤ (leader y).length))

/-- What stands between the strings that switch on and those that switch off. -/
def separator (p : Parameter) : String :=
  if p.strings.any fun s => leader s = ['/'] then "; " else " / "

/-- The left entry of a parameter. -/
def term (p : Parameter) : String :=
  let written (options : List String) : String :=
    joinOptions options ++ if p.role = .value then " " ++ valuePlaceholder else ""
  if p.off.isEmpty then written p.on else written p.on ++ separator p ++ written p.off

def spaces (n : Nat) : List Char :=
  List.replicate n ' '

/-- One entry of the list, `left` being the width of the left column with its gutter. -/
def entry (left : Nat) (p : Parameter) : List Char :=
  let term := (term p).toList
  let size := Text.visibleLength term
  let gap := if size + gutter ≤ left then spaces (left - size) else '\n' :: spaces (left + indent)
  let body := Text.lines (Text.wrap (max (width - left - indent) 10) p.help.toList)
  let rest := body.drop 1
  spaces indent ++ term ++ gap ++ body.headD [] ++ ['\n']
    ++ rest.flatMap fun line => spaces (left + indent) ++ line ++ ['\n']

def leftWidth (ps : List Parameter) : Nat :=
  let widest := (ps.map fun p => Text.visibleLength (term p).toList).foldl max 0
  min widest maxLeft + gutter

def text (c : Command) : String :=
  let ps := c.parameters
  let entries := String.ofList (ps.flatMap (entry (leftWidth ps)))
  let body := usage ++ "\n\n" ++ String.ofList (spaces indent) ++ purpose ++ "\n\nOptions:\n"
    ++ entries
  String.ofList ((body.toList.reverse.dropWhile (· = '\n')).reverse)

end LintDispatch.CommandLine.Help
