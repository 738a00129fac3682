import LintDispatch.Shell.Builtin

/-!
What parameters stand for, and how their values stand in words: between double quotes all arguments
are either one text or fields of their own.
-/

namespace LintDispatch.Shell

namespace Field

/-- What stands between arguments that are joined. -/
def joint (m : Machine) : Octets :=
  (separators m).take 1

/-- The text of a word that is not split. -/
def joined (m : Machine) (gs : List Glyph) : Octets :=
  gs.flatMap fun
    | .char _ c => [c]
    | .boundary => joint m
    | _ => []

end Field

namespace Parameter

def name : Parameter → Octets
  | .named name => name
  | .position index => Machine.decimal index
  | .lastStatus => ['?']
  | .process => ['$']
  | .lastJob => ['!']
  | .flags => ['-']
  | .count => ['#']
  | .each => ['@']
  | .joined => ['*']

def value? (p : Parameter) (m : Machine) : Option Octets :=
  match p with
  | .named name => m.value? name
  | .lastStatus => some (Machine.decimal m.status)
  | .process => some Builtin.processNumber
  | .lastJob =>
    if m.jobs.isEmpty then none
    else some (Machine.decimal (Builtin.firstJob + m.jobs.length - 1))
  | .flags =>
    some ((Builtin.optionNames.map Prod.snd).reverse.filter fun c =>
      ' ' ≤ c && m.options.contains c)
  | .count => some (Machine.decimal m.arguments.length)
  | .position 0 => some m.name
  | .position (index + 1) => m.arguments[index]?
  | .each | .joined => some ((Field.joint m).intercalate m.arguments)

/-- All arguments stand apart where this parameter is put. -/
def isApart (quoted : Bool) (p : Parameter) : Bool :=
  p = .each || (p = .joined && !quoted)

def cutText (quoted : Bool) (p : Parameter) (m : Machine) : Octets :=
  if p.isApart quoted then [Pattern.divider].intercalate m.arguments else (p.value? m).getD []

/-- What is left of such a text in a word. -/
def cutGlyphs (quoted : Bool) (s : Octets) : List Glyph :=
  let origin := if quoted then .quoted else .computed
  [.boundary].intercalate ((Text.splitAt Pattern.divider s).map fun part =>
    (if quoted then [.quotation] else []) ++ Glyph.ofText origin part)

/-- A parameter that has to be set wherever missing ones are faults. -/
def isDemanded (p : Parameter) (m : Machine) : Bool :=
  m.options.contains 'u' && match p with
    | .each | .joined => false
    | _ => (p.value? m).isNone

def glyphs (quoted : Bool) (p : Parameter) (m : Machine) : List Glyph :=
  let origin := if quoted then .quoted else .computed
  match quoted, p with
  | true, .each =>
    if m.arguments.isEmpty then [.absence]
    else [.boundary].intercalate
      (m.arguments.map fun a => .quotation :: Glyph.ofText origin a)
  | false, .each | false, .joined =>
    [.boundary].intercalate (m.arguments.map (Glyph.ofText origin))
  | _, _ => Glyph.ofText origin ((p.value? m).getD [])

end Parameter

/-- The value of a parameter does not count. -/
def Fallback.isMissing (f : Fallback) (value : Option Octets) : Bool :=
  match value with
  | none => true
  | some s => f.whenEmpty && s.isEmpty

end LintDispatch.Shell
