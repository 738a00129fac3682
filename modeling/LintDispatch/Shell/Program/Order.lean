import LintDispatch.Shell.Program.Lines

/-!
Programs on the order of lines. Lines are compared by keys, each a part of the line with a way to
compare it, and where all keys agree by their bytes.
-/

namespace LintDispatch.Shell.Program

/-- The whole and the fraction of a number at the start of a text, and its sign. -/
structure Amount where
  negative : Bool
  whole : Nat
  fraction : Octets

namespace Amount

def ofText (s : Octets) : Amount :=
  let s := s.dropWhile isBlank
  let (negative, s) := match s with
    | '-' :: rest => (true, rest)
    | _ => (false, s)
  let digits := s.takeWhile Char.isDigit
  let fraction := match s.drop digits.length with
    | '.' :: rest => rest.takeWhile Char.isDigit
    | _ => []
  ⟨negative, Octets.number digits, (fraction.reverse.dropWhile (· = '0')).reverse⟩

def compareMagnitude (a b : Amount) : Ordering :=
  (compare a.whole b.whole).then (compareOfLessAndEq a.fraction b.fraction)

def isZero (a : Amount) : Bool :=
  a.whole = 0 && a.fraction.isEmpty

def compare (a b : Amount) : Ordering :=
  let isNegative (x : Amount) : Bool := x.negative && !x.isZero
  match isNegative a, isNegative b with
  | true, false => .lt
  | false, true => .gt
  | true, true => compareMagnitude b a
  | false, false => compareMagnitude a b

end Amount

/-- How large the letter behind a number makes it. -/
def scaleOf (s : Octets) : Nat :=
  let s := s.dropWhile fun c => isBlank c || c.isDigit || c = '.' || c = '-'
  (("KMGTPEZY".toList.idxOf? ((s.headD ' ').toUpper)).map (· + 1)).getD 0

/-- A part of a line, from one place in its fields to another. -/
structure Key where
  field : Nat
  character : Nat
  /-- The last field, and the last character in it or none for all of it. -/
  last : Option (Nat × Nat)
  letters : List Char

/-- The fields of a line with what separates them, by a mark or by blanks in front of each. -/
def fieldsOf (mark : Option Char) (l : Octets) : List Octets :=
  match mark with
  | some mark =>
    let parts := Text.splitAt mark l
    parts.dropLast.map (· ++ [mark]) ++ parts.getLast?.toList
  | none =>
    let rec parts : Bool → Octets → Octets → List Octets
      | _, part, [] => [part.reverse]
      | inField, part, c :: rest =>
        if isBlank c && inField then part.reverse :: parts false [c] rest
        else parts (inField || !isBlank c) (c :: part) rest
    parts false [] l

namespace Key

def part (k : Key) (mark : Option Char) (l : Octets) : Octets :=
  let fields := fieldsOf mark l
  let startOf (n : Nat) : Nat := total ((fields.take n).map List.length)
  let blanksAt (n : Nat) : Nat :=
    if k.letters.contains 'b' then ((l.drop n).takeWhile isBlank).length else 0
  let start := startOf (k.field - 1)
  let start := start + blanksAt start + (k.character - 1)
  let stop := match k.last with
    | none => l.length
    | some (field, 0) =>
      let stop := startOf field
      if mark.isSome && field < fields.length then stop - 1 else stop
    | some (field, character) =>
      let start := startOf (field - 1)
      start + blanksAt start + character
  (l.take stop).drop start

/-- Reads one place: a field, a character in it and letters. -/
def place? (s : Octets) : Option (Nat × Nat × List Char × Octets) :=
  let digits := s.takeWhile Char.isDigit
  let rest := s.drop digits.length
  let (character, rest) := match rest with
    | '.' :: more =>
      let ds := more.takeWhile Char.isDigit
      (some (Octets.number ds), more.drop ds.length)
    | _ => (none, rest)
  let letters := rest.takeWhile Char.isAlpha
  if digits.isEmpty then none
  else some (Octets.number digits, character.getD 0, letters, rest.drop letters.length)

def ofText? (s : Octets) : Option Key :=
  match place? s with
  | some (field, character, letters, []) => some ⟨field, max character 1, none, letters⟩
  | some (field, character, letters, ',' :: rest) =>
    match place? rest with
    | some (last, lastCharacter, more, []) =>
      some ⟨field, max character 1, some (last, lastCharacter), letters ++ more⟩
    | _ => none
  | _ => none

end Key

/-- A name with its numbers apart from the rest, so that numbers are compared as such. -/
def compareVersions : Nat → Octets → Octets → Ordering
  | 0, _, _ => .eq
  | n + 1, a, b =>
    let x := a.takeWhile (!·.isDigit)
    let y := b.takeWhile (!·.isDigit)
    let a := a.drop x.length
    let b := b.drop y.length
    let p := a.takeWhile Char.isDigit
    let q := b.takeWhile Char.isDigit
    let here := (compareOfLessAndEq x y).then (compare (Octets.number p) (Octets.number q))
    if x.isEmpty && y.isEmpty && p.isEmpty && q.isEmpty then .eq
    else here.then (compareVersions n (a.drop p.length) (b.drop q.length))

def compareBy (letters : List Char) (a b : Octets) : Ordering :=
  let has (c : Char) : Bool := letters.contains c
  let clean (s : Octets) : Octets :=
    let s := if has 'b' then s.dropWhile isBlank else s
    let s := if has 'd' then s.filter fun c => c.isAlphanum || isBlank c else s
    let s := if has 'i' then s.filter fun c => 32 ≤ c.toNat && c.toNat < 127 else s
    if has 'f' then s.map Char.toUpper else s
  if has 'n' || has 'g' then (Amount.ofText a).compare (Amount.ofText b)
  else if has 'h' then
    (compare (scaleOf a) (scaleOf b)).then ((Amount.ofText a).compare (Amount.ofText b))
  else if has 'V' then compareVersions (a.length + b.length + 1) a b
  else compareOfLessAndEq (clean a) (clean b)

structure SortOrder where
  letters : List Char
  mark : Option Char
  keys : List Key

namespace SortOrder

def has (o : SortOrder) (c : Char) : Bool :=
  o.letters.contains c

def byKeys (o : SortOrder) (a b : Octets) : Ordering :=
  let turn (backwards : Bool) (r : Ordering) : Ordering := if backwards then r.swap else r
  if o.keys.isEmpty then turn (o.has 'r') (compareBy o.letters a b)
  else o.keys.foldl (fun r k =>
    let letters := if k.letters.any fun c => c != 'b' then k.letters else k.letters ++ o.letters
    let k := { k with letters }
    r.then (turn (letters.contains 'r') (compareBy letters (k.part o.mark a) (k.part o.mark b))))
    .eq

/-- Compares lines by the keys and then by their bytes. -/
def compareLines (o : SortOrder) (a b : Octets) : Ordering :=
  let r := o.byKeys a b
  if o.has 's' || o.has 'u' then r
  else r.then (let r := compareOfLessAndEq a b; if o.has 'r' then r.swap else r)

/-- The lines in order, of those that are equal only the first where it is so asked. -/
def sort (o : SortOrder) (ls : List Octets) : List Octets :=
  let ls := ls.mergeSort fun a b => o.compareLines a b != .gt
  if o.has 'u' then
    (ls.foldl (fun (kept : List Octets) l =>
      match kept with
      | last :: _ => if o.byKeys last l = .eq then kept else l :: kept
      | [] => [l]) []).reverse
  else ls

/-- The first line that is out of order, with its number. -/
def disorder (o : SortOrder) : Nat → List Octets → Option (Nat × Octets)
  | n, a :: b :: rest =>
    let r := o.compareLines a b
    if r = .gt || (o.has 'u' && r = .eq) then some (n + 1, b) else disorder o (n + 1) (b :: rest)
  | _, _ => none

end SortOrder

def sortArguments : Known :=
  ⟨"bdfghinrsuVcCmz", "ktoST", [("reverse", 'r'), ("numeric-sort", 'n'), ("unique", 'u'),
    ("ignore-case", 'f'), ("key", 'k'), ("field-separator", 't'), ("output", 'o'), ("stable", 's'),
    ("check", 'c'), ("human-numeric-sort", 'h'), ("version-sort", 'V')]⟩

def sort : Program := withArguments "sort" sortArguments 2 fun a m =>
  let keys := (a.options.filter fun o => o.1 == 'k').map fun o => (o.2, Key.ofText? o.2)
  let letters := (a.options.map Prod.fst).filter fun c => "bdfghinrsuV".toList.contains c
  let mark := (a.value? 't').bind fun s =>
    if s = ['\\', '0'] then some '\x00' else s.head?
  let order : SortOrder := ⟨letters, mark, keys.filterMap Prod.snd⟩
  let complaint (file : Octets) (o : Disk.Obstacle) : Octets :=
    if o = .isDirectory then "sort: read failed: ".toList ++ file ++ reason o
    else "sort: cannot read: ".toList ++ file ++ reason o
  match keys.find? fun k => k.2.isNone with
  | some (text, _) =>
    finish m [] ("sort: invalid number at field start: ".toList
      ++ line ("invalid count at start of ".toList ++ marked m text)) 2
  | none =>
    let (found, errors, m) := contents complaint a.operands m
    let all := found.flatMap fun s => bareLines s.2
    if !errors.isEmpty then finish m [] (line (errors.takeWhile (· != '\n'))) 2
    else if a.has 'c' || a.has 'C' then
      match order.disorder 1 all with
      | none => finish m [] [] 0
      | some (n, l) =>
        let name := (a.operands.headD ['-'])
        finish m [] (if a.has 'C' then [] else
          "sort: ".toList ++ name ++ [':'] ++ Machine.decimal n ++ ": disorder: ".toList
            ++ line l) 1
    else
      let output := (order.sort all).flatMap line
      match a.value? 'o' with
      | none => finish m output [] 0
      | some name =>
        match m.openFile name false with
        | .ok (m, channel) => finish (m.write channel output) [] [] 0
        | .error _ => finish m [] ("sort: open failed: ".toList ++ name ++ reason .missing) 2

/-- Runs of lines that agree in what is compared, each with how often it came. -/
def runs (same : Octets → Octets → Bool) (ls : List Octets) : List (List Octets) :=
  (ls.foldl (fun (acc : List (List Octets)) l =>
    match acc with
    | (first :: rest) :: more =>
      if same first l then (first :: l :: rest) :: more else [l] :: acc
    | _ => [l] :: acc) []).reverse.map fun r => match r with
      | first :: rest => first :: rest.reverse
      | [] => []

def uniqArguments : Known :=
  ⟨"cdDuiz", "fsw", [("count", 'c'), ("repeated", 'd'), ("unique", 'u'), ("ignore-case", 'i'),
    ("skip-fields", 'f'), ("skip-chars", 's'), ("check-chars", 'w'), ("all-repeated", 'D')]⟩

def uniq : Program := withArguments "uniq" uniqArguments 1 fun a m =>
  let number (letter : Char) : Option Nat := (a.value? letter).bind Octets.natural?
  let rec skipFields : Nat → Octets → Octets
    | 0, l => l
    | n + 1, l => skipFields n ((l.dropWhile isBlank).dropWhile (!isBlank ·))
  let compared (l : Octets) : Octets :=
    let l := (skipFields ((number 'f').getD 0) l).drop ((number 's').getD 0)
    let l := match number 'w' with
      | some n => l.take n
      | none => l
    if a.has 'i' then l.map Char.toLower else l
  let complaint (file : Octets) (o : Disk.Obstacle) : Octets :=
    if o = .isDirectory then "uniq: error reading ".toList ++ quoted file ++ reason o
    else plainly "uniq" file o
  let (found, errors, m) := contents complaint (a.operands.take 1) m
  let all := runs (fun x y => compared x == compared y) (bareLines (found.flatMap Prod.snd))
  let shown (r : List Octets) : Octets :=
    let count := r.length
    if a.has 'D' then if count > 1 then r.flatMap line else []
    else if (a.has 'd' && count = 1) || (a.has 'u' && count > 1) then []
    else (if a.has 'c' then numbered 7 count ++ [' '] else []) ++ line (r.headD [])
  let output := all.flatMap shown
  match a.operands.drop 1 with
  | [] => finish m output errors (if errors.isEmpty then 0 else 1)
  | target :: _ =>
    match m.openFile target false with
    | .ok (m, channel) => finish (m.write channel output) [] errors 0
    | .error _ => finish m [] (plainly "uniq" target .missing) 1

/-- Lines of two texts in three columns: only in the first, only in the second, in both. -/
def inColumns (show_ : Nat → Octets → Octets) : Nat → List Octets → List Octets → Octets
  | 0, _, _ => []
  | _, [], [] => []
  | n + 1, a :: as, [] => show_ 1 a ++ inColumns show_ n as []
  | n + 1, [], b :: bs => show_ 2 b ++ inColumns show_ n [] bs
  | n + 1, a :: as, b :: bs =>
    if a = b then show_ 3 a ++ inColumns show_ n as bs
    else if a < b then show_ 1 a ++ inColumns show_ n as (b :: bs)
    else show_ 2 b ++ inColumns show_ n (a :: as) bs

def comm : Program := withArguments "comm" ⟨"123z", "", []⟩ 1 fun a m =>
  match a.operands with
  | [] => missingOperand "comm" m
  | [only] => misuse "comm" ("missing operand after ".toList ++ marked m only) 1 m
  | first :: second :: _ =>
    let (found, errors, m) := contents (plainly "comm") [first, second] m
    let hidden (column : Nat) : Bool := a.has (Char.ofNat (48 + column))
    let shown (column : Nat) (l : Octets) : Octets :=
      if hidden column then []
      else ((List.range (column - 1)).flatMap fun c => if hidden (c + 1) then [] else ['\t'])
        ++ line l
    match found.map fun s => bareLines s.2 with
    | [x, y] => finish m (inColumns shown (x.length + y.length + 1) x y) errors 0
    | _ => finish m [] errors 1
where
  missingOperand (name : String) (m : Machine) : Machine :=
    misuse name "missing operand".toList 1 m

def orderPrograms : List (String × Program) :=
  [("sort", sort), ("uniq", uniq), ("comm", comm)]

end LintDispatch.Shell.Program
