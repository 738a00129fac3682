import LintDispatch.Shell.Glyph

/-!
Patterns: a star stands for any characters, a question mark for one, and brackets for one of those
listed. What is quoted stands for itself.
-/

namespace LintDispatch.Shell

inductive Member where
  | range (lo hi : Char)
  | named (name : String)
  deriving DecidableEq, Repr

namespace Member

def isIn (name : String) (c : Char) : Bool :=
  let n := c.toNat
  match name with
  | "alpha" => c.isAlpha
  | "digit" => c.isDigit
  | "alnum" => c.isAlphanum
  | "upper" => c.isUpper
  | "lower" => c.isLower
  | "space" => c = ' ' || (9 ≤ n && n ≤ 13)
  | "blank" => c = ' ' || c = '\t'
  | "punct" => 33 ≤ n && n < 127 && !c.isAlphanum
  | "print" => 32 ≤ n && n < 127
  | "graph" => 33 ≤ n && n < 127
  | "cntrl" => n < 32 || n = 127
  | "xdigit" => c.isDigit || ('a' ≤ c && c ≤ 'f') || ('A' ≤ c && c ≤ 'F')
  | _ => false

def holds (c : Char) : Member → Bool
  | .range lo hi => lo ≤ c && c ≤ hi
  | .named name => isIn name c

/-- The name of a class at the start, in its brackets and colons, and what follows. -/
def class? : (s : Octets) → Option (String × { rest : Octets // rest.length < s.length })
  | '[' :: ':' :: tail =>
    match h : tail.dropWhile Char.isAlpha with
    | ':' :: ']' :: rest =>
      have shorter : rest.length < ('[' :: ':' :: tail).length := by
        have whole := (List.dropWhile_sublist Char.isAlpha (l := tail)).length_le
        rw [h] at whole
        simp only [List.length_cons] at whole ⊢
        omega
      some (String.ofList (tail.takeWhile Char.isAlpha), ⟨rest, shorter⟩)
    | _ => none
  | _ => none

/-- The members that the text between brackets lists. -/
def list : Octets → List Member
  | [] => []
  | c :: rest =>
    match class? (c :: rest) with
    | some (name, ⟨rest, _shorter⟩) => .named name :: list rest
    | none =>
      match rest with
      | '-' :: hi :: rest => .range c hi :: list rest
      | rest => .range c c :: list rest
termination_by s => s.length
decreasing_by
  · exact _shorter
  · simp only [List.length_cons]
    omega
  · exact Nat.lt_succ_self _

end Member

inductive Item where
  | one (c : Char)
  | any
  | many
  | members (negated : Bool) (members : List Member)
  deriving DecidableEq, Repr

namespace Pattern

/-- The characters up to the closing bracket and the glyphs behind it. A bracket that comes `first`
does not close, nor does one of a named class. -/
def inBrackets? : Nat → Bool → List Glyph → Option (Octets × List Glyph)
  | 0, _, _ => none
  | _, _, [] => none
  | n + 1, first, g :: rest =>
    match g with
    | .char origin c =>
      if c = ']' && origin != .quoted && !first then some ([], rest)
      else
        match Member.class? (Glyph.text (g :: rest)) with
        | some (name, _) =>
          let length := name.length + 4
          (inBrackets? n false (rest.drop (length - 1))).map fun r =>
            (Glyph.text ((g :: rest).take length) ++ r.1, r.2)
        | none => (inBrackets? n false rest).map fun r => (c :: r.1, r.2)
    | _ => inBrackets? n first rest

/-- Puts the exclamation mark aside that turns brackets round. -/
def splitNegation : List Glyph → Bool × List Glyph
  | .char .quoted c :: rest => (false, .char .quoted c :: rest)
  | .char origin c :: rest =>
    if c = '!' || c = '^' then (true, rest) else (false, .char origin c :: rest)
  | gs => (false, gs)

def itemsFrom : Nat → List Glyph → List Item
  | 0, _ => []
  | _, [] => []
  | n + 1, .char .quoted c :: rest => .one c :: itemsFrom n rest
  | n + 1, .char _ '*' :: rest => .many :: itemsFrom n rest
  | n + 1, .char _ '?' :: rest => .any :: itemsFrom n rest
  | n + 1, .char .computed '\\' :: .char _ c :: rest => .one c :: itemsFrom n rest
  | n + 1, .char _ '[' :: rest =>
    let (negated, inner) := splitNegation rest
    match inBrackets? (inner.length + 1) true inner with
    | some (members, rest) => .members negated (Member.list members) :: itemsFrom n rest
    | none => .one '[' :: itemsFrom n rest
  | n + 1, .char _ c :: rest => .one c :: itemsFrom n rest
  | n + 1, _ :: rest => itemsFrom n rest

def items (gs : List Glyph) : List Item :=
  itemsFrom (gs.length + 1) gs

def ofText (s : Octets) : List Item :=
  items (Glyph.ofText .written s)

def isOpen (item : Item) : Bool :=
  match item with
  | .one _ => false
  | _ => true

/-- Some tail of the text, perhaps all of it, fulfils `p`. -/
def anyTail (p : Octets → Bool) : Octets → Bool
  | [] => p []
  | c :: rest => p (c :: rest) || anyTail p rest

def fits : List Item → Octets → Bool
  | [], s => s.isEmpty
  | .many :: rest, s => anyTail (fits rest) s
  | .one c :: rest, s =>
    match s with
    | d :: s => c = d && fits rest s
    | [] => false
  | .any :: rest, s =>
    match s with
    | _ :: s => fits rest s
    | [] => false
  | .members negated members :: rest, s =>
    match s with
    | d :: s => members.any (·.holds d) != negated && fits rest s
    | [] => false

/-- The mark between arguments that stand in one text. -/
def divider : Char := '\x00'

def firstPart (s : Octets) : Octets :=
  s.takeWhile (· != divider)

/-- Cuts what fits off the front, the shortest or the longest part. Of several arguments only the
first is compared, and a shortest part ends in it. -/
def cutFront (items : List Item) (longest : Bool) (s : Octets) : Octets :=
  let lengths := if longest then (List.range (s.length + 1)).reverse
    else List.range ((firstPart s).length + 1)
  match lengths.find? fun n => fits items (firstPart (s.take n)) with
  | some n => s.drop n
  | none => s

/-- As `cutFront`, at the end; a longest part starts in the first argument. -/
def cutEnd (items : List Item) (longest : Bool) (s : Octets) : Octets :=
  let lengths := if longest then List.range ((firstPart s).length + 1)
    else (List.range (s.length + 1)).reverse
  match lengths.find? fun n => fits items (firstPart (s.drop n)) with
  | some n => s.take n
  | none => s

end Pattern

end LintDispatch.Shell
