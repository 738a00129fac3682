import LintDispatch.Text.Split

/-!
Absolute paths, read lexically: empty components and single dots do not count, and a double dot
takes the component before it away, whatever is on disk. Exactly two leading slashes are kept apart
from one.
-/

namespace LintDispatch

/-- One component of a path. -/
abbrev FileName := List Char

namespace Path

def dot : FileName := ['.']

def dotDot : FileName := ['.', '.']

def isHidden (name : FileName) : Bool :=
  name.head? = some '.'

/-- A component that names something: in one piece, and neither empty nor a mere step. -/
def IsPlain (name : FileName) : Prop :=
  name ≠ [] ∧ name ≠ dot ∧ name ≠ dotDot ∧ '/' ∉ name

instance (name : FileName) : Decidable (IsPlain name) :=
  inferInstanceAs (Decidable (_ ∧ _ ∧ _ ∧ _))

end Path

structure Path where
  doubled : Bool
  names : List FileName
  plain : ∀ name ∈ names, Path.IsPlain name
  deriving DecidableEq, Repr

namespace Path

def top (doubled : Bool) : Path :=
  ⟨doubled, [], by simp⟩

instance : Inhabited Path := ⟨top false⟩

/-- The path that leads on from `p` along those of the names that are plain. -/
def along (p : Path) (names : List FileName) : Path where
  doubled := p.doubled
  names := p.names ++ names.filter fun name => IsPlain name
  plain name h := by
    rcases List.mem_append.mp h with h | h
    · exact p.plain name h
    · simpa using (List.mem_filter.mp h).2

/-- Puts a component on a reversed path. -/
def push (stack : List FileName) (part : FileName) : List FileName :=
  if part = [] ∨ part = dot then stack
  else if part = dotDot then stack.tail
  else part :: stack

def normalize (parts : List FileName) : List FileName :=
  (parts.foldl push []).reverse

theorem push_plain {stack : List FileName} {part : FileName} (hpart : '/' ∉ part)
    (h : ∀ name ∈ stack, IsPlain name) : ∀ name ∈ push stack part, IsPlain name := by
  intro name hname
  simp only [push] at hname
  split at hname
  · exact h name hname
  · split at hname
    · exact h name (List.mem_of_mem_tail hname)
    · rename_i hd hdd
      rcases List.mem_cons.mp hname with rfl | hname
      · exact ⟨fun he => hd (.inl he), fun he => hd (.inr he), hdd, hpart⟩
      · exact h name hname

theorem normalize_plain {parts : List FileName} (h : ∀ part ∈ parts, '/' ∉ part) :
    ∀ name ∈ normalize parts, IsPlain name := by
  suffices ∀ stack : List FileName, (∀ name ∈ stack, IsPlain name) →
      ∀ name ∈ parts.foldl push stack, IsPlain name by
    intro name hname
    exact this [] (by simp) name (List.mem_reverse.mp hname)
  induction parts with
  | nil => exact fun _ hs => hs
  | cons part parts ih =>
    intro stack hs
    exact ih (fun p hp => h p (List.mem_cons_of_mem _ hp)) _
      (push_plain (h part List.mem_cons_self) hs)

def components (s : List Char) : List FileName :=
  Text.splitAt '/' s

def isAbsolute (s : List Char) : Bool :=
  s.head? = some '/'

def startsDoubled : List Char → Bool
  | '/' :: '/' :: '/' :: _ => false
  | '/' :: '/' :: _ => true
  | _ => false

def ofAbsolute (s : List Char) : Path where
  doubled := startsDoubled s
  names := normalize (components s)
  plain := normalize_plain fun _ h => Text.not_mem_of_mem_splitAt h

/-- The path that `spec` names seen from `base`. -/
def join (base : Path) (spec : List Char) : Path :=
  if isAbsolute spec then ofAbsolute spec
  else
    { doubled := base.doubled
      names := normalize (base.names ++ components spec)
      plain := normalize_plain fun part h => by
        rcases List.mem_append.mp h with h | h
        · exact (base.plain part h).2.2.2
        · exact Text.not_mem_of_mem_splitAt h }

def text (p : Path) : List Char :=
  (if p.doubled then ['/', '/'] else ['/']) ++ Text.joinWith '/' p.names

/-- What paths strictly below `root` start with. -/
def below (root : Path) : List Char :=
  ((root.text.reverse.dropWhile (· = '/')).reverse) ++ ['/']

def relativeTo? (root : Path) (candidate : List Char) : Option (List Char) :=
  if root.below.isPrefixOf candidate then some (candidate.drop root.below.length) else none

/-- A path as it is written, with neither empty components nor single dots. -/
def tidy (s : List Char) : List Char :=
  let parts := (components s).filter fun part => part ≠ [] && part ≠ dot
  let body := Text.joinWith '/' parts
  if isAbsolute s then (if startsDoubled s then ['/', '/'] else ['/']) ++ body
  else if parts.isEmpty then dot
  else body

/-- The written path of `name` in the directory that `s` names. -/
def tidyChild (s : List Char) (name : FileName) : List Char :=
  let directory := tidy s
  if directory = dot then name
  else if directory.getLast? = some '/' then directory ++ name
  else directory ++ '/' :: name

/-- The components to follow from the root of the file system to what is written as `s`, seen from
`here`. -/
def toFollow (here : Path) (s : List Char) : List FileName :=
  if isAbsolute s then components s else here.names ++ components s

def parent (p : Path) : Path where
  doubled := p.doubled
  names := p.names.dropLast
  plain name h := p.plain name (List.dropLast_subset _ h)

/-- The last component, empty for the root of the file system. -/
def lastName (p : Path) : FileName :=
  p.names.getLast?.getD []

theorem push_empty (stack : List FileName) : push stack [] = stack := by
  simp [push]

theorem push_dot (stack : List FileName) : push stack dot = stack := by
  simp [push]

theorem push_dotDot (stack : List FileName) : push stack dotDot = stack.tail := by
  simp [push, dotDot, dot]

theorem push_name {part : FileName} (stack : List FileName) (h : part ≠ []) (hd : part ≠ dot)
    (hdd : part ≠ dotDot) : push stack part = part :: stack := by
  simp [push, h, hd, hdd]

end Path

end LintDispatch
