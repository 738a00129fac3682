import LintDispatch.Shell.Program

/-!
Programs that pass lines on: all of them, the first or the last, backwards, numbered, counted, side
by side or broken up.
-/

namespace LintDispatch.Shell.Program

/-- What stays from line to line while text is shown. -/
structure Showing where
  number : Nat
  inLine : Bool
  blank : Bool

/-- A character that cannot be printed, in signs. -/
def signs (a : Arguments) (c : Char) : Octets :=
  let n := c.toNat
  if c = '\t' then if a.has 'T' || a.has 'A' || a.has 't' then ['^', 'I'] else [c]
  else if !(a.has 'v' || a.has 'A' || a.has 'e' || a.has 't') then [c]
  else if n < 32 then ['^', Char.ofNat (n + 64)]
  else if n < 127 then [c]
  else if n = 127 then ['^', '?']
  else if n < 160 then ['M', '-', '^', Char.ofNat (n - 64)]
  else if n < 255 then ['M', '-', Char.ofNat (n - 128)]
  else ['M', '-', '^', '?']

def numbered (width n : Nat) : Octets :=
  let digits := Machine.decimal n
  List.replicate (width - digits.length) ' ' ++ digits

def showLine (a : Arguments) (acc : Showing × Octets) (l : Octets) : Showing × Octets :=
  let (s, shown) := acc
  let ended := l.getLast? = some '\n'
  let body := if ended then l.dropLast else l
  let isBlank := !s.inLine && body.isEmpty && ended
  if a.has 's' && isBlank && s.blank then (s, shown)
  else
    let counts := !s.inLine && if a.has 'b' then !isBlank else a.has 'n'
    let front := if counts then numbered 6 s.number ++ ['\t'] else []
    let marks := a.has 'E' || a.has 'A' || a.has 'e'
    let body := if marks && ended && body.getLast? = some '\r' then
        body.dropLast.flatMap (signs a) ++ ['^', 'M']
      else body.flatMap (signs a)
    let back := if ended then (if marks then ['$', '\n'] else ['\n']) else []
    (⟨if counts then s.number + 1 else s.number, !ended, isBlank⟩,
      shown ++ front ++ body ++ back)

def catArguments : Known :=
  ⟨"AbeEnstTuv", "", [("number", 'n'), ("number-nonblank", 'b'), ("show-ends", 'E'),
    ("show-tabs", 'T'), ("show-all", 'A'), ("squeeze-blank", 's'), ("show-nonprinting", 'v')]⟩

def lacksInput (operands : List Octets) (m : Machine) : Bool :=
  (m.streams.channel? 0).isNone && (operands.isEmpty || operands.contains ['-'])

def cat : Program := withArguments "cat" catArguments 1 fun a m =>
  if (m.streams.channel? 1).isNone then
    finish m [] "cat: standard output: Bad file descriptor\n".toList 1
  else if lacksInput a.operands m then
    finish m [] ("cat: -: Bad file descriptor\n"
      ++ "cat: closing standard input: Bad file descriptor\n").toList 1
  else
  let (found, m) := sources a.operands m
  let start : Showing := ⟨1, false, false⟩
  let (_, failed, m) := found.foldl (fun (s, failed, m) (name, content) =>
    match content with
    | .ok text =>
      if takesOutput m name && (m.content name).toOption != some [] then
        (s, true, m.say 2 ("cat: ".toList ++ named name
          ++ line ": input file is output file".toList))
      else if a.options.isEmpty then (s, failed, m.say 1 text)
      else
        let (s, shown) := (lines text).foldl (showLine a) (s, [])
        (s, failed, m.say 1 shown)
    | .error o => (s, true, m.say 2 (plainly "cat" name o))) (start, false, m)
  { m with status := if failed then 1 else 0 }

/-- Each operand under a heading where there are several, or where `always` says so. -/
def underHeadings (name : String) (always never : Bool) (shown : Octets → Octets)
    (operands : List Octets) (m : Machine) : Machine :=
  let (found, m) := sources operands m
  let heads := always || (found.length > 1 && !never)
  let title (file : Octets) : Octets := if file = ['-'] then "standard input".toList else file
  let (output, errors) := found.foldl (fun (output, errors) (file, content) =>
    let heading := if heads then
        (if output.isEmpty then [] else ['\n']) ++ "==> ".toList ++ title file ++ " <==\n".toList
      else []
    match content with
    | .ok text => (output ++ heading ++ shown text, errors)
    | .error .isDirectory =>
      (output ++ heading, errors ++ (name ++ ": error reading ").toList
        ++ quoted (if file = ['-'] then "standard input".toList else file)
        ++ reason .isDirectory)
    | .error o =>
      (output, errors ++ (name ++ ": cannot open ").toList ++ quoted file
        ++ " for reading".toList ++ reason o)) (([] : Octets), ([] : Octets))
  finish m output errors (if errors.isEmpty then 0 else 1)

/-- A dash or plus with digits is an old way of giving a number of lines. -/
def modern (signs : List Char) : List Octets → List Octets
  | (sign :: d :: rest) :: more =>
    if signs.contains sign && d.isDigit then
      let digits := (d :: rest).takeWhile Char.isDigit
      let letter := match (d :: rest).drop digits.length with
        | ['c'] => some 'c'
        | ['l'] => some 'n'
        | [] => some 'n'
        | _ => none
      match letter with
      | some letter => ['-', letter] :: (if sign = '+' then '+' :: digits else digits) :: more
      | none => (sign :: d :: rest) :: more
    else (sign :: d :: rest) :: more
  | args => args

/-- How much is asked for: a number of lines or bytes, and the sign in front of it. -/
def share? (a : Arguments) : Option (Char × Option Char × Option Nat × Octets) :=
  match a.options.reverse.find? fun o => o.1 == 'n' || o.1 == 'c' with
  | none => some ('n', none, some 10, [])
  | some (letter, text) =>
    let (sign, digits) := match text with
      | '-' :: rest => (some '-', rest)
      | '+' :: rest => (some '+', rest)
      | rest => (none, rest)
    some (letter, sign, amount? digits, text)

/-- The end of a text with the last `n` lines, or bytes. -/
def lastOf (letter : Char) (n : Nat) (text : Octets) : Octets :=
  if letter = 'n' then let ls := lines text; (ls.drop (ls.length - n)).flatten
  else text.drop (text.length - n)

def firstOf (letter : Char) (n : Nat) (text : Octets) : Octets :=
  if letter = 'n' then ((lines text).take n).flatten else text.take n

def withoutLast (letter : Char) (n : Nat) (text : Octets) : Octets :=
  if letter = 'n' then let ls := lines text; (ls.take (ls.length - n)).flatten
  else text.take (text.length - n)

def withoutFirst (letter : Char) (n : Nat) (text : Octets) : Octets :=
  if letter = 'n' then ((lines text).drop n).flatten else text.drop n

def illegalShare (name : String) (letter : Char) (text : Octets) (m : Machine) : Machine :=
  let kind := if letter = 'n' then "lines" else "bytes"
  finish m [] ((name ++ ": invalid number of " ++ kind ++ ": ").toList ++ line (marked m text)) 1

def shareArguments : Known :=
  ⟨"qvzfF", "ncs", [("lines", 'n'), ("bytes", 'c'), ("quiet", 'q'), ("silent", 'q'),
    ("verbose", 'v')]⟩

def head : Program := fun args m =>
  withArguments "head" shareArguments 1 (fun a m =>
    match share? a with
    | some (letter, sign, some n, _) =>
      let shown := if sign = some '-' then withoutLast letter n else firstOf letter n
      underHeadings "head" (a.has 'v') (a.has 'q') shown a.operands m
    | some (letter, _, none, text) => illegalShare "head" letter text m
    | none => m) (modern ['-'] args) m

def tail : Program := fun args m =>
  withArguments "tail" shareArguments 1 (fun a m =>
    match share? a with
    | some (letter, sign, some n, _) =>
      let shown := if sign = some '+' then withoutFirst letter (n - 1) else lastOf letter n
      underHeadings "tail" (a.has 'v') (a.has 'q') shown a.operands m
    | some (letter, _, none, text) => illegalShare "tail" letter text m
    | none => m) (modern ['-', '+'] args) m

def isSpace (c : Char) : Bool :=
  c = ' ' || (9 ≤ c.toNat && c.toNat ≤ 13)

def wordCount (text : Octets) : Nat :=
  (text.foldl (fun (count, inWord) c =>
    if isSpace c then (count, false) else (if inWord then count else count + 1, true))
    (0, false)).1

/-- How many characters start in a text. -/
def startCount (text : Octets) : Nat :=
  (text.filter fun c => c.toNat < 128 || 192 ≤ c.toNat).length

/-- The width of the widest line; a tab goes to the next multiple of eight. -/
def widest (text : Octets) : Nat :=
  ((bareLines text).map fun l =>
    l.foldl (fun n c =>
      if c = '\t' then (n / 8 + 1) * 8
      else if c.toNat < 32 || (128 ≤ c.toNat && c.toNat < 192) then n else n + 1) 0).foldl max 0

/-- What is counted, in the order in which it is shown. -/
def counts (a : Arguments) (text : Octets) : List Nat :=
  let plain := !(['l', 'w', 'm', 'c', 'L'].any a.has)
  (if plain || a.has 'l' then [text.count '\n'] else [])
    ++ (if plain || a.has 'w' then [wordCount text] else [])
    ++ (if a.has 'm' then [startCount text] else [])
    ++ (if plain || a.has 'c' then [text.length] else [])
    ++ (if a.has 'L' then [widest text] else [])

def wcArguments : Known :=
  ⟨"lwmcL", "", [("lines", 'l'), ("words", 'w'), ("chars", 'm'), ("bytes", 'c'),
    ("max-line-length", 'L')]⟩

/-- Counts stand in columns as wide as the size of all files; what is no file may be large. -/
def wc : Program := withArguments "wc" wcArguments 1 fun a m =>
  let fromFile := m.input.fromFile
  let (found, m) := sources a.operands m
  let sizes := found.filterMap fun s => match s.2 with
    | .ok text => if s.1 != ['-'] || fromFile then some text.length else none
    | .error _ => none
  let hasOther := found.any fun s => match s.2 with
    | .ok _ => s.1 = ['-'] && !fromFile
    | .error o => o = .isDirectory
  let digits := (Machine.decimal (total sizes)).length
  let width :=
    if found.length = 1 && (counts a []).length = 1 then 1
    else if hasOther then max 7 digits else digits
  let row (ns : List Nat) (name : Octets) : Octets :=
    line ([' '].intercalate (ns.map (numbered width))
      ++ if name.isEmpty then [] else ' ' :: name)
  let shown (s : Source) : Octets × Option (List Nat) :=
    let name := if a.operands.isEmpty then [] else s.1
    match s.2 with
    | .ok text => (row (counts a text) name, some (counts a text))
    | .error o =>
      if o = .isDirectory then (row (counts a []) name, some (counts a [])) else ([], none)
  let rows := found.map shown
  let add (xs ys : List Nat) : List Nat := (xs.zip ys).map fun p => p.1 + p.2
  let total := (rows.filterMap Prod.snd).foldl add (counts a [])
  let errors := found.flatMap fun s => match s.2 with
    | .ok _ => []
    | .error o =>
      plainly "wc" (if a.operands.isEmpty then "standard input".toList else s.1) o
  let totals := if found.length > 1 then row total "total".toList else []
  finish m ((rows.flatMap Prod.fst) ++ totals) errors (if errors.isEmpty then 0 else 1)

/-- A program that changes the text of each of its operands. -/
def changing (name : String) (complaint : Octets → Disk.Obstacle → Octets) (k : Known)
    (f : Arguments → Octets → Octets) : Program :=
  withArguments name k 1 fun a m =>
    let (found, errors, m) := contents complaint a.operands m
    finish m (found.flatMap fun s => f a s.2) errors (if errors.isEmpty then 0 else 1)

def tac : Program :=
  changing "tac" (fun file o =>
    if o = .isDirectory then "tac: ".toList ++ file ++ ": read error".toList ++ reason o
    else "tac: failed to open ".toList ++ quoted file ++ " for reading".toList ++ reason o)
    ⟨"b", "", []⟩ fun _ text => (lines text).reverse.flatten

/-- The characters of a line backwards, bytes of one character together. -/
def reversed (l : Octets) : Octets :=
  match Octets.toText? l with
  | some text => Octets.ofText text.reverse
  | none => l.reverse

def rev : Program :=
  changing "rev" (fun file o => "rev: cannot open ".toList ++ file ++ reason o) ⟨"", "", []⟩
    fun _ text => (lines text).flatMap fun l =>
      if l.getLast? = some '\n' then line (reversed l.dropLast) else reversed l

def nl : Program := withArguments "nl" ⟨"p", "bvwsinldfh", []⟩ 1 fun a m =>
  let (found, errors, m) := contents (plainly "nl") a.operands m
  let number (letter : Char) (default : Nat) : Nat :=
    ((a.value? letter).bind Octets.natural?).getD default
  let width := number 'w' 6
  let separator := (a.value? 's').getD ['\t']
  let style := (a.value? 'b').getD ['t']
  let shown (n : Nat) : Octets :=
    match (a.value? 'n').map String.ofList with
    | some "ln" =>
      let digits := Machine.decimal n
      digits ++ List.replicate (width - digits.length) ' '
    | some "rz" =>
      let digits := Machine.decimal n
      List.replicate (width - digits.length) '0' ++ digits
    | _ => numbered width n
  let (_, output) := (bareLines (found.flatMap Prod.snd)).foldl (fun (n, output) l =>
    if style = ['a'] || (style = ['t'] && !l.isEmpty) then
      (n + number 'i' 1, output ++ line (shown n ++ separator ++ l))
    else (n, output ++ line (List.replicate (width + separator.length) ' ' ++ l)))
    (number 'v' 1, [])
  finish m output errors (if errors.isEmpty then 0 else 1)

/-- Lines side by side, as long as one of the texts has a line left. -/
def sideBySide (marks : Octets) : Nat → List (List Octets) → List Octets
  | 0, _ => []
  | n + 1, columns =>
    if columns.all List.isEmpty then []
    else
      joinAll marks 0 (columns.map fun c => c.headD [])
        :: sideBySide marks n (columns.map List.tail)
where
  joinAll (marks : Octets) (i : Nat) : List Octets → Octets
    | [] => []
    | [last] => last
    | l :: rest =>
      l ++ (if marks.isEmpty then [] else (marks[i % marks.length]?).toList)
        ++ joinAll marks (i + 1) rest

def paste : Program := withArguments "paste" ⟨"sz", "d", [("serial", 's'), ("delimiters", 'd')]⟩ 1
    fun a m =>
  let marks := match a.value? 'd' with
    | some s => (Format.resolve s).1
    | none => ['\t']
  let (found, errors, m) := contents (plainly "paste") a.operands m
  let dashes := (a.operands.filter (· = ['-'])).length
  let columns := found.map fun s => bareLines s.2
  let columns :=
    if dashes < 2 then columns
    else
      let all := (found.filter fun s => s.1 = ['-']).flatMap fun s => bareLines s.2
      let every (i : Nat) : List Octets :=
        all.zipIdx.filterMap fun p => if p.2 % dashes = i then some p.1 else none
      (found.zipIdx.foldl (fun (acc : List (List Octets) × Nat) p =>
        if p.1.1 = ['-'] then (acc.1 ++ [every acc.2], acc.2 + 1)
        else (acc.1 ++ [bareLines p.1.2], acc.2)) ([], 0)).1
  let rows :=
    if a.has 's' then columns.map (sideBySide.joinAll marks 0)
    else sideBySide marks ((columns.map List.length).foldl max 0 + 1) columns
  finish m (rows.flatMap line) errors (if errors.isEmpty then 0 else 1)

def tee : Program := withArguments "tee" ⟨"aip", "", [("append", 'a')]⟩ 1 fun a m =>
  let text := (inputText m).toOption.getD []
  let m := (m.leaveInput []).say 1 text
  forEachName a.operands m fun name m =>
    match m.openFile name (a.has 'a'), m.arrive name with
    | .ok (m, channel), _ => .ok (m.write channel text)
    | .error _, .error o => .error (plainly "tee" name o)
    | .error _, .ok _ => .error (plainly "tee" name .isDirectory)
where
  forEachName (names : List Octets) (m : Machine)
      (f : Octets → Machine → Except Octets Machine) : Machine :=
    let (m, failed) := names.foldl (fun (m, failed) name =>
      match f name m with
      | .ok m => (m, failed)
      | .error problem => (m.say 2 problem, true)) (m, false)
    { m with status := if failed then 1 else 0 }

/-- A line in pieces of at most `width` columns; they may be made to end behind blanks. -/
def broken (width : Nat) (atBlanks : Bool) : Nat → Octets → List Octets
  | 0, l => [l]
  | n + 1, l =>
    if l.length ≤ width || width = 0 then [l]
    else
      let piece := l.take width
      let kept := (piece.reverse.dropWhile fun c => !isBlank c).reverse
      let piece := if atBlanks && !kept.isEmpty then kept else piece
      piece :: broken width atBlanks n (l.drop piece.length)

def fold : Program :=
  changing "fold" (plainly "fold") ⟨"sb", "w", [("spaces", 's'), ("width", 'w')]⟩ fun a text =>
    let width := ((a.value? 'w').bind Octets.natural?).getD 80
    (lines text).flatMap fun l =>
      let ended := l.getLast? = some '\n'
      let body := if ended then l.dropLast else l
      ['\n'].intercalate (broken width (a.has 's') body.length body)
        ++ if ended then ['\n'] else []

def linePrograms : List (String × Program) :=
  [("cat", cat), ("head", head), ("tail", tail), ("wc", wc), ("tac", tac), ("rev", rev),
    ("nl", nl), ("paste", paste), ("tee", tee), ("fold", fold)]

end LintDispatch.Shell.Program
