/-!
Lines of a text. A line ends with any of the characters that separate lines, paragraphs or records;
a carriage return and the line feed behind it end one line together.
-/

namespace LintDispatch.Text

def isLineEnd (c : Char) : Bool :=
  let n := c.toNat
  (0x0a ≤ n && n ≤ 0x0d) || (0x1c ≤ n && n ≤ 0x1e) || n = 0x85 || n = 0x2028 || n = 0x2029

/-- The lines of a text without their ends. Nothing behind the last end is no line. -/
def lines : List Char → List (List Char)
  | [] => []
  | '\r' :: '\n' :: s => [] :: lines s
  | c :: s =>
    if isLineEnd c then [] :: lines s
    else
      match lines s with
      | [] => [[c]]
      | line :: rest => (c :: line) :: rest

/-- Fills every tab with spaces up to the next multiple of eight, counted from cell `column`. -/
def expandTabsFrom (column : Nat) : List Char → List Char
  | [] => []
  | c :: s =>
    if c = '\t' then
      let n := 8 - column % 8
      List.replicate n ' ' ++ expandTabsFrom (column + n) s
    else c :: expandTabsFrom (if c = '\n' ∨ c = '\r' then 0 else column + 1) s

def expandTabs (s : List Char) : List Char :=
  expandTabsFrom 0 s

theorem lines_nil : lines [] = [] := by simp [lines]

end LintDispatch.Text
