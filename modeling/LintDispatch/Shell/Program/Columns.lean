import LintDispatch.Shell.Program.Lines

/-!
Programs on parts of lines and on single characters: cutting columns out, and replacing or deleting
the members of a set.
-/

namespace LintDispatch.Shell.Program

/-- A range of positions, open at its end if it has none. -/
structure Span where
  first : Nat
  last : Option Nat

namespace Span

def holds (s : Span) (n : Nat) : Bool :=
  s.first ≤ n && s.last.all (n ≤ ·)

inductive Error where
  | invalid (text : Octets)
  | zero
  | noEndpoints
  | decreasing

def number (s : Octets) : Except Error Nat :=
  match Octets.natural? s with
  | some 0 => .error .zero
  | some n => .ok n
  | none => .error (.invalid s)

def ofText (s : Octets) : Except Error Span :=
  let first := s.takeWhile (· != '-')
  match s.drop first.length with
  | [] => (number first).map fun n => ⟨n, some n⟩
  | _ :: last =>
    if first.isEmpty && last.isEmpty then .error .noEndpoints
    else do
      let a ← if first.isEmpty then .ok 1 else number first
      if last.isEmpty then return ⟨a, none⟩
      else do
        let b ← number last
        if b < a then .error .decreasing else return ⟨a, some b⟩

/-- The positions that a list with commas or blanks names. -/
def listOf (s : Octets) : Except Error (List Span) :=
  (Text.splitAt ',' (s.map fun c => if isBlank c then ',' else c)).mapM ofText

end Span

def cutArguments : Known :=
  ⟨"snz!", "bcfdO", [("bytes", 'b'), ("characters", 'c'), ("fields", 'f'), ("delimiter", 'd'),
    ("only-delimited", 's'), ("complement", '!'), ("output-delimiter", 'O')]⟩

def cut : Program := withArguments "cut" cutArguments 1 fun a m =>
  let wrong (problem : Octets) : Machine := misuse "cut" problem 1 m
  match a.options.filter fun o => "bcf".toList.contains o.1 with
  | [] => wrong "you must specify a list of bytes, characters, or fields".toList
  | _ :: _ :: _ => wrong "only one list may be specified".toList
  | [(kind, text)] =>
    let mark := (a.value? 'd').getD ['\t']
    let fieldwise := kind = 'f'
    let noun := if fieldwise then "field" else "byte/character"
    let numbered := if fieldwise then "fields" else "byte/character positions"
    if 1 < mark.length then wrong "the delimiter must be a single character".toList
    else if (a.value? 'd').isSome && !fieldwise then
      wrong "an input delimiter may be specified only when operating on fields".toList
    else if a.has 's' && !fieldwise then
      wrong ("suppressing non-delimited lines makes sense\n"
        ++ "\tonly when operating on fields").toList
    else match Span.listOf text with
      | .error e =>
        wrong (match e with
          | .zero => (numbered ++ " are numbered from 1").toList
          | .invalid s =>
            ("invalid " ++ noun ++ (if fieldwise then " value " else " position ")).toList
              ++ marked m s
          | .noEndpoints => "invalid range with no endpoint: -".toList
          | .decreasing => "invalid decreasing range".toList)
      | .ok spans =>
        let mark := mark.headD '\x00'
        let keeps (n : Nat) : Bool := (spans.any (·.holds n)) != a.has '!'
        let kept {α : Type} (xs : List α) : List α :=
          xs.zipIdx.filterMap fun p => if keeps (p.2 + 1) then some p.1 else none
        let joint := (a.value? 'O').getD [mark]
        let (found, errors, m) := contents (plainly "cut") a.operands m
        let shown (l : Octets) : Octets :=
          if !fieldwise then line (kept l)
          else if !l.contains mark then if a.has 's' then [] else line l
          else line (joint.intercalate (kept (Text.splitAt mark l)))
        finish m (found.flatMap fun s => (bareLines s.2).flatMap shown) errors
          (if errors.isEmpty then 0 else 1)

/-- A part of a set: characters, or one that is repeated as often as is needed. -/
inductive Group where
  | chars (cs : Octets)
  | classOf (name : String) (cs : Octets)
  | filler (c : Char)
  deriving DecidableEq

inductive SetError where
  | reversed (first last : Char)
  | unknownClass (name : Octets)

def classMembers (name : String) : Octets :=
  ((List.range 256).map Char.ofNat).filter (Member.isIn name)

/-- A character with its escapes resolved, whether it was escaped, and what follows. -/
def setChar : Octets → Option (Char × Bool × Octets)
  | [] => none
  | ['\\'] => some ('\\', false, [])
  | '\\' :: c :: rest =>
    let digits := (c :: rest).takeWhile Format.isOctal
    if Format.isOctal c then
      let used := digits.take 3
      let used := if 256 ≤ used.foldl (fun n d => 8 * n + (d.toNat - 48)) 0 then used.take 2
        else used
      some (Format.octal used, true, (c :: rest).drop used.length)
    else
      let value := match c with
        | 'a' => '\x07'
        | 'b' => '\x08'
        | 'f' => '\x0c'
        | 'n' => '\n'
        | 'r' => '\r'
        | 't' => '\t'
        | 'v' => '\x0b'
        | c => c
      some (value, true, rest)
  | c :: rest => some (c, false, rest)

/-- A group in brackets with a mark inside them on both ends. -/
def markedGroup? (mark : Char) (s : Octets) : Option (Octets × Octets) :=
  let rec search : Nat → Octets → Octets → Option (Octets × Octets)
    | 0, _, _ => none
    | n + 1, name, rest =>
      match rest with
      | c :: ']' :: more =>
        if c = mark then some (name.reverse, more) else search n (c :: name) (']' :: more)
      | c :: more => search n (c :: name) more
      | [] => none
  search (s.length + 1) [] s

/-- A repeated character: the character, how often, and what follows. -/
def repeated? (s : Octets) : Option (Char × Option Nat × Octets) :=
  match setChar s with
  | some (c, _, '*' :: rest) =>
    let digits := rest.takeWhile Char.isDigit
    match rest.drop digits.length with
    | ']' :: more =>
      let n := if digits.head? = some '0' then
          digits.foldl (fun n d => 8 * n + (d.toNat - 48)) 0 else Octets.number digits
      some (c, if n = 0 then none else some n, more)
    | _ => none
  | _ => none

def groupsOf : Nat → Octets → Except SetError (List Group)
  | 0, _ => .ok []
  | n + 1, s =>
    let plain (s : Octets) : Except SetError (List Group) :=
      match setChar s with
      | none => .ok []
      | some (c, _, '-' :: rest) =>
        match rest, setChar rest with
        | [], _ => (groupsOf n ['-']).map (.chars [c] :: ·)
        | _, some (d, _, more) =>
          if d < c then .error (.reversed c d)
          else
            (groupsOf n more).map
              (.chars ((List.range (d.toNat - c.toNat + 1)).map fun i => Char.ofNat (c.toNat + i))
                :: ·)
        | _, none => .ok [.chars [c]]
      | some (c, _, rest) => (groupsOf n rest).map (.chars [c] :: ·)
    match s with
    | '[' :: ':' :: rest =>
      match markedGroup? ':' rest with
      | some (name, more) =>
        let cs := classMembers (String.ofList name)
        if cs.isEmpty then .error (.unknownClass name)
        else (groupsOf n more).map (.classOf (String.ofList name) cs :: ·)
      | none => plain s
    | '[' :: '=' :: rest =>
      match markedGroup? '=' rest with
      | some ([c], more) => (groupsOf n more).map (.chars [c] :: ·)
      | _ => plain s
    | '[' :: rest =>
      match repeated? rest with
      | some (c, some k, more) => (groupsOf n more).map (.chars (List.replicate k c) :: ·)
      | some (c, none, more) => (groupsOf n more).map (.filler c :: ·)
      | none => plain s
    | s => plain s

/-- The characters of a set; a filler makes them `size` many. -/
def spread (size : Nat) (gs : List Group) : Octets :=
  let fixed := total (gs.map fun
    | .chars cs => cs.length
    | .classOf _ cs => cs.length
    | .filler _ => 0)
  gs.flatMap fun
    | .chars cs => cs
    | .classOf _ cs => cs
    | .filler c => List.replicate (size - fixed) c

/-- Of equal characters of a set in a row, only the first is left. -/
def squeezed (holds : Char → Bool) : Octets → Octets
  | [] => []
  | c :: rest =>
    let behind := squeezed holds rest
    if holds c && rest.head? = some c then behind else c :: behind

/-- The character that takes the place of another; the last one serves for those beyond it. -/
def replacement (sources targets : Octets) (c : Char) : Char :=
  match sources.reverse.idxOf? c with
  | none => c
  | some back =>
    let i := sources.length - 1 - back
    (targets[i]?).getD (targets.getLast?.getD c)

/-- The pairs of a translation; classes of letters change the case. -/
def translation (complement truncate : Bool) (first second : List Group) : Octets × Octets :=
  let isCase (g : Group) : Bool := match g with
    | .classOf name _ => name = "lower" || name = "upper"
    | _ => false
  let all := spread 0 first
  let sources := if complement then ((List.range 256).map Char.ofNat).filter (!all.contains ·)
    else all
  let letters := fun (g : Group) => match g with
    | .classOf "lower" _ => "abcdefghijklmnopqrstuvwxyz".toList
    | .classOf "upper" _ => "ABCDEFGHIJKLMNOPQRSTUVWXYZ".toList
    | g => spread 0 [g]
  let targets := spread sources.length second
  let (sources, targets) :=
    if !complement && first.any isCase && second.any isCase then
      (first.flatMap letters,
        let fixed := (second.flatMap letters)
        if second.any fun g => match g with
          | .filler _ => true
          | _ => false
        then targets else fixed)
    else (sources, targets)
  if truncate then (sources.take targets.length, targets) else (sources, targets)

def trArguments : Known :=
  ⟨"cCdst", "", [("complement", 'c'), ("delete", 'd'), ("squeeze-repeats", 's'),
    ("truncate-set1", 't')]⟩

def setProblem (m : Machine) : SetError → Octets
  | .reversed a b =>
    "range-endpoints of '".toList ++ [a, '-', b]
      ++ "' are in reverse collating sequence order".toList
  | .unknownClass name => "invalid character class ".toList ++ marked m name

def translate (a : Arguments) (first second : List Group) (text : Octets) : Octets :=
  let complement := a.has 'c' || a.has 'C'
  let all := spread 0 first
  let isFirst (c : Char) : Bool := all.contains c != complement
  let others := spread 0 second
  if a.has 'd' then
    let text := text.filter (!isFirst ·)
    if a.has 's' then squeezed others.contains text else text
  else if second.isEmpty then squeezed isFirst text
  else
    let (sources, targets) := translation complement (a.has 't') first second
    let table := ((List.range 256).map fun i => replacement sources targets (Char.ofNat i)).toArray
    let text := text.map fun c => (table[c.toNat]?).getD c
    if a.has 's' then squeezed targets.contains text else text

def tr : Program := withArguments "tr" trArguments 1 fun a m =>
  let deletes := a.has 'd'
  let wrong (problem : Octets) : Machine := misuse "tr" problem 1 m
  let explained (problem explanation : Octets) : Machine :=
    wrong (problem ++ ['\n'] ++ explanation)
  match a.operands with
  | [] => wrong "missing operand".toList
  | first :: rest =>
    if rest.isEmpty && !deletes && !a.has 's' then
      explained ("missing operand after ".toList ++ marked m first)
        "Two strings must be given when translating.".toList
    else if rest.isEmpty && deletes && a.has 's' then
      explained ("missing operand after ".toList ++ marked m first)
        "Two strings must be given when both deleting and squeezing repeats.".toList
    else if deletes && !a.has 's' && !rest.isEmpty then
      explained ("extra operand ".toList ++ marked m (rest.headD []))
        "Only one string may be given when deleting without squeezing repeats.".toList
    else if 1 < rest.length then wrong ("extra operand ".toList ++ marked m (rest.getD 1 []))
    else
      let plainError (problem : Octets) : Machine :=
        finish m [] ("tr: ".toList ++ line problem) 1
      match groupsOf (first.length + 1) first, groupsOf ((rest.headD []).length + 1) (rest.headD [])
      with
      | .error e, _ => plainError (setProblem m e)
      | _, .error e => plainError (setProblem m e)
      | .ok first, .ok second =>
        if !rest.isEmpty && second.isEmpty && !deletes && !a.has 't' && !first.isEmpty then
          plainError "when not truncating set1, string2 must be non-empty".toList
        else
          match inputText m with
          | .error o => plainError ("read error".toList ++ ": ".toList ++ o.text.toList)
          | .ok text => finish (m.leaveInput []) (translate a first second text) [] 0

def columnPrograms : List (String × Program) :=
  [("cut", cut), ("tr", tr)]

end LintDispatch.Shell.Program
