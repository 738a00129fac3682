/-!
Control sequences of a terminal: an escape and a bracket, parameters, and one letter. They colour
text or move the cursor and take no room on a line.
-/

namespace LintDispatch.Text

def escape : Char := '\x1b'

def isParameter (c : Char) : Bool :=
  c.isDigit || c = ';' || c = '?'

/-- What follows the control sequence at the front, if one stands there. -/
def afterSequence? : List Char → Option (List Char)
  | first :: '[' :: rest =>
    if first = escape then
      match rest.dropWhile isParameter with
      | letter :: rest => if letter.isAlpha then some rest else none
      | [] => none
    else none
  | _ => none

theorem afterSequence?_length {s rest : List Char} (h : afterSequence? s = some rest) :
    rest.length < s.length := by
  unfold afterSequence? at h
  split at h
  case h_1 first s =>
    split at h
    · split at h
      case h_1 letter tail hs =>
        have shorter := (List.dropWhile_sublist isParameter (l := s)).length_le
        rw [hs] at shorter
        split at h
        · cases h
          simp only [List.length_cons] at shorter ⊢
          omega
        · cases h
      case h_2 => cases h
    · cases h
  case h_2 => cases h

/-- Leaves the control sequences out; what the rest then forms is not looked at again. -/
def withoutSequences : List Char → List Char
  | [] => []
  | c :: s =>
    match _h : afterSequence? (c :: s) with
    | some rest => withoutSequences rest
    | none => c :: withoutSequences s
termination_by s => s.length
decreasing_by
  · exact afterSequence?_length _h
  · simp

/-- Length on a terminal. -/
def visibleLength (s : List Char) : Nat :=
  (withoutSequences s).length

end LintDispatch.Text
