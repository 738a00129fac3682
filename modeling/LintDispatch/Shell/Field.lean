import LintDispatch.Shell.Machine
import LintDispatch.Shell.Pattern

/-!
From words to fields. A word is split, and a field in which an unquoted star, question mark or
bracket stands is replaced by the names that match it, if there are any.
-/

namespace LintDispatch.Shell.Field

def components : List Item → List (List Item)
  | [] => [[]]
  | item :: rest =>
    if item = .one '/' then [] :: components rest
    else
      match components rest with
      | [] => [[item]]
      | c :: more => (item :: c) :: more

def literal (items : List Item) : Octets :=
  items.filterMap fun
    | .one c => some c
    | _ => none

/-- The names in a directory that a component matches; hidden ones only if it starts with a dot. -/
def namesFor (m : Machine) (directory : Octets) (items : List Item) : List Octets :=
  let place := if directory.isEmpty then ['.'] else directory
  match m.arrive place with
  | .ok ⟨_, place, .directory⟩ =>
    let hidden := items.head? = some (.one '.')
    (['.'] :: ['.', '.'] :: (m.disk.names place).map Octets.ofText).filter fun name =>
      (hidden || name.head? != some '.') && Pattern.fits items name
  | _ => []

/-- The paths that the components match, behind the text `before`. -/
def paths (m : Machine) : List (List Item) → Octets → List Octets
  | [], before => [before]
  | items :: rest, before =>
    let slash : Octets := if rest.isEmpty then [] else ['/']
    if items.any Pattern.isOpen then
      (namesFor m before items).flatMap fun name => paths m rest (before ++ name ++ slash)
    else paths m rest (before ++ literal items ++ slash)

def expand (m : Machine) (field : List Glyph) : List Octets :=
  let items := Pattern.items field
  let found :=
    if items.any Pattern.isOpen && !m.options.contains 'f' then
      (paths m (components items) []).filter fun path => (m.arriveAtLink path).toOption.isSome
    else []
  if found.isEmpty then [Glyph.text field]
  else Octets.sorted found

def separators (m : Machine) : Octets :=
  (m.value? "IFS".toList).getD " \t\n".toList

def all (m : Machine) (word : List Glyph) : List Octets :=
  (Glyph.split (separators m) word).flatMap (expand m)

end LintDispatch.Shell.Field
