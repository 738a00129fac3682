import LintDispatch.Text.Split
import LintDispatch.Text.Width

/-!
What the console makes of a text: no markup, wrapping or colour. Control characters that would move
the cursor are left out, and a tab is filled up with spaces to the next multiple of eight cells of
its line. Every other character reaches the stream as it is.
-/

namespace LintDispatch.Console

/-- Bell, backspace, vertical tab, form feed and carriage return. -/
def isDropped (c : Char) : Bool :=
  c.toNat = 7 || c.toNat = 8 || c.toNat = 11 || c.toNat = 12 || c.toNat = 13

def tabWidth : Nat := 8

/-- Lays out the pieces between the tabs of a line, the first of them at cell `column`. -/
def fillTabs (column : Nat) : List (List Char) → List Char
  | [] => []
  | [last] => last
  | piece :: rest =>
    let column := column + Text.cells (piece ++ [' '])
    let padding := if column % tabWidth = 0 then 0 else tabWidth - column % tabWidth
    piece ++ ' ' :: List.replicate padding ' ' ++ fillTabs (column + padding) rest

def renderLine (line : List Char) : List Char :=
  fillTabs 0 (Text.splitAt '\t' line)

/-- The text that reaches the stream when `message` is written. -/
def verbatim (message : String) : String :=
  let kept := message.toList.filter fun c => !isDropped c
  String.ofList (Text.joinWith '\n' ((Text.splitAt '\n' kept).map renderLine))

section Front

variable {c : Char} {s : List Char} {message : String}

theorem head?_fillTabs (column : Nat) (piece : List Char) (rest : List (List Char)) :
    (fillTabs column ((c :: piece) :: rest)).head? = some c := by
  cases rest <;> rfl

theorem head?_renderLine (htab : c ≠ '\t') : (renderLine (c :: s)).head? = some c := by
  obtain ⟨piece, rest, hsplit⟩ := Text.splitAt_cons_of_ne htab s
  rw [renderLine, hsplit, head?_fillTabs]

/-- An ordinary character at the front of a message stays there. -/
theorem head?_verbatim (h : message.toList = c :: s) (hkept : isDropped c = false) (htab : c ≠ '\t')
    (hline : c ≠ '\n') : (verbatim message).toList.head? = some c := by
  have hfilter : (c :: s).filter (fun c => !isDropped c) = c :: s.filter fun c => !isDropped c := by
    simp [hkept]
  obtain ⟨piece, rest, hsplit⟩ := Text.splitAt_cons_of_ne hline (s.filter fun c => !isDropped c)
  obtain ⟨line, hrendered⟩ := List.head?_eq_some_iff.mp (head?_renderLine (s := piece) htab)
  rw [verbatim, h, hfilter, hsplit, String.toList_ofList, List.map_cons, hrendered,
    Text.head?_joinWith]

end Front

end LintDispatch.Console
