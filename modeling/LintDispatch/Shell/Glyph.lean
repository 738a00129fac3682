import LintDispatch.Shell.Octets

/-!
The characters of a word with where they came from, which tells whether they may be split at,
matched or taken as they are; and their split into fields. Characters of the separator set divide
fields where a substitution gave them: those that are blank in runs, each other one by itself.
-/

namespace LintDispatch.Shell

/-- How a character came into a word. -/
inductive Origin where
  | quoted
  | written
  | computed
  deriving DecidableEq, Repr

inductive Glyph where
  | char (origin : Origin) (c : Char)
  /-- A quotation, which makes a field even if nothing is in it. -/
  | quotation
  /-- The end of one argument and the start of the next. -/
  | boundary
  /-- All arguments where there are none. -/
  | absence
  deriving DecidableEq, Repr

namespace Glyph

def ofText (origin : Origin) (s : Octets) : List Glyph :=
  s.map (.char origin)

def text (gs : List Glyph) : Octets :=
  gs.filterMap fun
    | .char _ c => some c
    | .boundary => some ' '
    | _ => none

/-- What is written inside braces counts as given by a substitution. -/
def asComputed : Glyph → Glyph
  | .char .written c => .char .computed c
  | g => g

def isBlank (c : Char) : Bool :=
  c = ' ' || c = '\t' || c = '\n'

def separator? (separators : Octets) : Glyph → Option Char
  | .char .computed c => if separators.contains c then some c else none
  | _ => none

/-- What stands in front of a glyph: nothing of a field yet, perhaps behind blanks that ended one,
or a field, the last glyph first. -/
inductive Front where
  | fresh
  | ended
  | field (reversed : List Glyph)

def splitFrom (separators : Octets) : Front → List Glyph → List (List Glyph)
  | .field f, [] => [f.reverse]
  | _, [] => []
  | front, .boundary :: rest =>
    match front with
    | .field f => f.reverse :: splitFrom separators .fresh rest
    | _ => splitFrom separators .fresh rest
  | front, g :: rest =>
    match separator? separators g with
    | some c =>
      match front with
      | .field f => f.reverse :: splitFrom separators (if isBlank c then .ended else .fresh) rest
      | .ended => splitFrom separators (if isBlank c then .ended else .fresh) rest
      | .fresh =>
        if isBlank c then splitFrom separators .fresh rest
        else [] :: splitFrom separators .fresh rest
    | none =>
      match front with
      | .field f => splitFrom separators (.field (g :: f)) rest
      | _ => splitFrom separators (.field [g]) rest

/-- A field of nothing but absent arguments is none. -/
def isVoid (field : List Glyph) : Bool :=
  field.contains .absence && (text field).isEmpty

def split (separators : Octets) (gs : List Glyph) : List (List Glyph) :=
  (splitFrom separators .fresh gs).filter fun field => !isVoid field

end Glyph

end LintDispatch.Shell
