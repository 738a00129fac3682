import LintDispatch.Shell.Program

/-!
Expressions that texts are searched with. Of all matches the leftmost counts, and of those the
longest; a group keeps what it matched last.
-/

namespace LintDispatch.Shell

/-- Where a match stands in a text besides its characters. -/
inductive Edge where
  | start
  | stop
  | wordStart
  | wordStop
  | boundary
  | inside
  deriving DecidableEq, Repr

inductive Expression where
  | empty
  | any
  | member (negated : Bool) (members : List Member)
  | edge (edge : Edge)
  | group (index : Nat) (inner : Expression)
  | again (index : Nat)
  | both (first second : Expression)
  | either (first second : Expression)
  | repeated (least : Nat) (most : Option Nat) (inner : Expression)
  deriving Repr

namespace Expression

/-- A place in a text, with the groups matched on the way to it. -/
structure Spot where
  index : Nat
  groups : List (Nat × Nat × Nat)
  deriving DecidableEq, Repr

/-- A text that is searched, and whether letters of both cases are the same. -/
structure Subject where
  text : Array Char
  folds : Bool

namespace Subject

def isWord (f : Subject) (i : Nat) : Bool :=
  (f.text[i]?).any fun c => c.isAlphanum || c = '_' || 128 ≤ c.toNat

def isWordBefore (f : Subject) (i : Nat) : Bool :=
  0 < i && f.isWord (i - 1)

def holds (f : Subject) (i : Nat) : Edge → Bool
  | .start => i = 0
  | .stop => i = f.text.size
  | .wordStart => !f.isWordBefore i && f.isWord i
  | .wordStop => f.isWordBefore i && !f.isWord i
  | .boundary => f.isWordBefore i != f.isWord i
  | .inside => f.isWordBefore i == f.isWord i

def slice (f : Subject) (start stop : Nat) : List Char :=
  (f.text.extract start stop).toList

def same (f : Subject) (a b : Char) : Bool :=
  a = b || (f.folds && a.toLower = b.toLower)

def isMember (f : Subject) (members : List Member) (c : Char) : Bool :=
  members.any (·.holds c) || (f.folds
    && (members.any (·.holds c.toLower) || members.any (·.holds c.toUpper)))

end Subject

/-- Where repeating a step leads, more often before less often. -/
def iterate (step : Spot → List Spot) (least : Nat) (most : Option Nat) :
    Nat → Nat → Spot → List Spot
  | 0, _, s => [s]
  | n + 1, count, s =>
    let further :=
      if most.all (count < ·) then
        (step s).flatMap fun t =>
          if t.index = s.index && least ≤ count then [] else iterate step least most n (count + 1) t
      else []
    (further ++ if least ≤ count then [s] else []).eraseDups

/-- Where a match that starts at a spot can end. -/
def ends (f : Subject) : Expression → Spot → List Spot
  | .empty, s => [s]
  | .any, s => if s.index < f.text.size then [{ s with index := s.index + 1 }] else []
  | .member negated members, s =>
    match f.text[s.index]? with
    | some c =>
      if f.isMember members c != negated then [{ s with index := s.index + 1 }] else []
    | none => []
  | .edge e, s => if f.holds s.index e then [s] else []
  | .group index inner, s =>
    (ends f inner s).map fun t =>
      { t with groups := (index, s.index, t.index) :: t.groups.filter fun g => g.1 != index }
  | .again index, s =>
    match s.groups.find? fun g => g.1 == index with
    | some (_, start, stop) =>
      let there := f.slice start stop
      let here := f.slice s.index (s.index + (stop - start))
      if there.length = here.length && (there.zip here).all fun p => f.same p.1 p.2 then
        [{ s with index := s.index + (stop - start) }]
      else []
    | none => []
  | .both a b, s => (ends f a s).flatMap (ends f b)
  | .either a b, s => (ends f a s ++ ends f b s).eraseDups
  | .repeated least most inner, s =>
    iterate (ends f inner) least most (f.text.size + least + 1) 0 s

/-- The longest match that starts at an index, as its end with the groups in it. -/
def matchAt (e : Expression) (f : Subject) (i : Nat) : Option Spot :=
  (e.ends f ⟨i, []⟩).foldl (fun best s =>
    match best with
    | some b => if b.index < s.index then some s else best
    | none => some s) none

/-- The leftmost match from an index on, as its start and end. -/
def search (e : Expression) (f : Subject) : Nat → Nat → Option (Nat × Spot)
  | 0, _ => none
  | n + 1, i =>
    if f.text.size < i then none
    else match e.matchAt f i with
      | some s => some (i, s)
      | none => search e f n (i + 1)

def first? (e : Expression) (f : Subject) (i : Nat) : Option (Nat × Spot) :=
  e.search f (f.text.size + 2) i

def groupCount : Expression → Nat
  | .group i e => max i (groupCount e)
  | .both a b => max (groupCount a) (groupCount b)
  | .either a b => max (groupCount a) (groupCount b)
  | .repeated _ _ e => groupCount e
  | _ => 0

inductive Error where
  | openGroup
  | closedGroup
  | openBracket
  | openBraces
  | badBraces
  | badReference
  | trailingBackslash
  | nothingToRepeat
  deriving DecidableEq, Repr

def Error.message : Error → String
  | .openGroup => "Unmatched ( or \\("
  | .closedGroup => "Unmatched ) or \\)"
  | .openBracket => "Unmatched [, [^, [:, [., or [="
  | .openBraces => "Unmatched \\\x7b"
  | .badBraces => "Invalid content of \\\x7b\\\x7d"
  | .badReference => "Invalid back reference"
  | .trailingBackslash => "Trailing backslash"
  | .nothingToRepeat => "Invalid preceding regular expression"

inductive Sign where
  | char (c : Char)
  | any
  | bracket
  | open_
  | close
  | or
  | star
  | plus
  | optional
  | braces
  | start
  | stop
  | again (index : Nat)
  | edge (edge : Edge)
  | class (negated : Bool) (members : List Member)
  deriving Repr

def wordMembers : List Member := [.named "alnum", .range '_' '_']

def escapedSign (extended : Bool) (c : Char) : Sign :=
  let swap (sign : Sign) : Sign := if extended then .char c else sign
  match c with
  | '(' => swap .open_
  | ')' => swap .close
  | '{' => swap .braces
  | '|' => swap .or
  | '+' => swap .plus
  | '?' => swap .optional
  | '<' => .edge .wordStart
  | '>' => .edge .wordStop
  | 'b' => .edge .boundary
  | 'B' => .edge .inside
  | 'w' => .class false wordMembers
  | 'W' => .class true wordMembers
  | 's' => .class false [.named "space"]
  | 'S' => .class true [.named "space"]
  | 'n' => .char '\n'
  | 't' => .char '\t'
  | c => if '1' ≤ c && c ≤ '9' then .again (c.toNat - 48) else .char c

/-- The next sign, where `first` says that an alternative starts here. -/
def sign? (extended first : Bool) : List Char → Except Error (Option (Sign × List Char))
  | [] => .ok none
  | ['\\'] => .error .trailingBackslash
  | '\\' :: c :: rest => .ok (some (escapedSign extended c, rest))
  | c :: rest =>
    let isLast : Bool := match rest with
      | [] => true
      | '\\' :: ')' :: _ => true
      | '\\' :: '|' :: _ => true
      | _ => false
    let swap (sign : Sign) : Sign := if extended then sign else .char c
    .ok (some (match c with
      | '.' => .any
      | '[' => .bracket
      | '*' => if first && !extended then .char c else .star
      | '^' => if extended || first then .start else .char c
      | '$' => if extended || isLast then .stop else .char c
      | '(' => swap .open_
      | ')' => swap .close
      | '|' => swap .or
      | '+' => swap .plus
      | '?' => swap .optional
      | '{' => swap .braces
      | c => .char c, rest))

/-- The members of a bracket behind its opening, and what follows it. -/
def membersFrom : Nat → Bool → List Char → Option (List Member × List Char)
  | 0, _, _ => none
  | _, _, [] => none
  | n + 1, first, s =>
    let plain (c : Char) (rest : List Char) : Option (List Member × List Char) :=
      match rest with
      | '-' :: d :: more =>
        if d = ']' then (membersFrom n false rest).map fun r => (.range c c :: r.1, r.2)
        else (membersFrom n false more).map fun r => (.range c d :: r.1, r.2)
      | _ => (membersFrom n false rest).map fun r => (.range c c :: r.1, r.2)
    match s with
    | ']' :: rest => if first then plain ']' rest else some ([], rest)
    | '[' :: rest =>
      match Member.class? ('[' :: rest) with
      | some (name, ⟨more, _⟩) =>
        (membersFrom n false more).map fun r => (.named name :: r.1, r.2)
      | none => plain '[' rest
    | c :: rest => plain c rest
    | [] => none

/-- The numbers in braces: how often at least and at most, and what follows. -/
def bounds (extended : Bool) (s : List Char) :
    Except Error ((Nat × Option Nat) × List Char) :=
  let least := s.takeWhile Char.isDigit
  let rest := s.drop least.length
  let (most, rest) := match rest with
    | ',' :: more =>
      let ds := more.takeWhile Char.isDigit
      (if ds.isEmpty then none else some (Octets.number ds), more.drop ds.length)
    | _ => (some (Octets.number least), rest)
  match extended, rest with
  | true, '}' :: rest => .ok ((Octets.number least, most), rest)
  | false, '\\' :: '}' :: rest => .ok ((Octets.number least, most), rest)
  | _, [] => .error .openBraces
  | _, _ => .error .badBraces

/-- What was read of an expression, how many groups were opened, and what is left. -/
abbrev Read := Except Error (Expression × Nat × List Char)

def withRepeats (extended : Bool) : Nat → Expression → List Char →
    Except Error (Expression × List Char)
  | 0, e, s => .ok (e, s)
  | n + 1, e, s => do
    match ← sign? extended false s with
    | some (.star, rest) => withRepeats extended n (.repeated 0 none e) rest
    | some (.plus, rest) => withRepeats extended n (.repeated 1 none e) rest
    | some (.optional, rest) => withRepeats extended n (.repeated 0 (some 1) e) rest
    | some (.braces, rest) => do
      if extended && !(rest.head?.any fun c => c.isDigit || c = ',') then return (e, s)
      else do
        let ((least, most), rest) ← bounds extended rest
        withRepeats extended n (.repeated least most e) rest
    | _ => return (e, s)

mutual

/-- Reads alternatives, up to a closing sign if they are inside a group. -/
def alternatives (extended : Bool) : Nat → Nat → Bool → List Char → Read
  | 0, groups, _, s => .ok (.empty, groups, s)
  | n + 1, groups, inner, s => do
    let (e, groups, s) ← series extended n groups inner true .empty s
    match ← sign? extended false s with
    | some (.or, rest) => do
      let (e', groups, s) ← alternatives extended n groups inner rest
      return (.either e e', groups, s)
    | _ => return (e, groups, s)

/-- Reads items one after the other, behind `before`. -/
def series (extended : Bool) : Nat → Nat → Bool → Bool → Expression → List Char → Read
  | 0, groups, _, _, e, s => .ok (e, groups, s)
  | n + 1, groups, inner, first, before, s => do
    let next (e : Expression) (groups : Nat) (rest : List Char) : Read := do
      let (e, rest) ← withRepeats extended (rest.length + 1) e rest
      series extended n groups inner false (.both before e) rest
    let lone (c : Char) (rest : List Char) : Read := next (.member false [.range c c]) groups rest
    match ← sign? extended first s with
    | none => return (before, groups, [])
    | some (.or, _) => return (before, groups, s)
    | some (.close, rest) =>
      if inner then return (before, groups, s)
      else if extended then lone ')' rest
      else .error .closedGroup
    | some (.open_, rest) => do
      let index := groups + 1
      let (e, groups, rest) ← alternatives extended n index true rest
      match ← sign? extended false rest with
      | some (.close, rest) => next (.group index e) groups rest
      | _ => .error .openGroup
    | some (.bracket, rest) =>
      let (negated, rest) := match rest with
        | '^' :: rest => (true, rest)
        | _ => (false, rest)
      match membersFrom (rest.length + 1) true rest with
      | some (members, rest) => next (.member negated members) groups rest
      | none => .error .openBracket
    | some (.char c, rest) => lone c rest
    | some (.any, rest) => next .any groups rest
    | some (.start, rest) =>
      series extended n groups inner true (.both before (.edge .start)) rest
    | some (.stop, rest) => next (.edge .stop) groups rest
    | some (.edge e, rest) => next (.edge e) groups rest
    | some (.class negated members, rest) => next (.member negated members) groups rest
    | some (.again index, rest) =>
      if index ≤ groups then next (.again index) groups rest else .error .badReference
    | some (.braces, rest) =>
      if extended then lone '\x7b' rest else .error .nothingToRepeat
    | some (_, rest) =>
      if extended then series extended n groups inner false before rest
      else lone ((s.drop 1).headD '*') rest

end

/-- Reads an expression; `extended` ones mark groups and choices by plain signs. -/
def ofText (extended : Bool) (s : List Char) : Except Error Expression := do
  let (e, _, rest) ← alternatives extended (2 * s.length + 4) 0 false s
  if rest.isEmpty then return e else .error .closedGroup

def literal (s : List Char) : Expression :=
  s.foldr (fun c e => .both (.member false [.range c c]) e) .empty

end Expression

/-- Bytes as the characters that they stand for, or as they are if they stand for none. -/
def readable (s : Octets) : List Char × Bool :=
  match Octets.toText? s with
  | some text => (text, true)
  | none => (s, false)

/-- The bytes of characters that were made readable. -/
def written (isText : Bool) (s : List Char) : Octets :=
  if isText then Octets.ofText s else s

end LintDispatch.Shell
