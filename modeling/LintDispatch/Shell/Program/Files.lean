import LintDispatch.Shell.Program

/-!
Programs on files and directories: listing, making, copying, moving and removing them, and finding
them by name. What cannot be done is complained about, and the rest is done all the same.
-/

namespace LintDispatch.Shell.Program

def namesAt (m : Machine) (place : List FileName) : List Octets :=
  Octets.sorted ((m.disk.names place).map Octets.ofText)

/-- What a listing puts behind a name. -/
def suffix (a : Arguments) (entry : Entry) : Octets :=
  match entry with
  | .directory => if a.has 'F' || a.has 'p' then ['/'] else []
  | .link _ => if a.has 'F' then ['@'] else []
  | .file _ => []

/-- The names that are shown of a directory. -/
def listing (m : Machine) (a : Arguments) (place : List FileName) : List Octets :=
  let isHidden (name : Octets) : Bool := name.head? = some '.'
  let shown := (namesAt m place).filter fun name => a.has 'a' || a.has 'A' || !isHidden name
  let withSuffix := shown.map fun name =>
    match m.disk.entryAt? (place ++ [(Octets.toText? name).getD []]) with
    | some entry => name ++ suffix a entry
    | none => name
  let own : List Octets :=
    if a.has 'a' then [['.'], ['.', '.']].map (· ++ suffix a .directory) else []
  let all := own ++ withSuffix
  if a.has 'r' then all.reverse else all

/-- The directories below a place that are no links, in the order of a listing. -/
def directoriesIn (m : Machine) (a : Arguments) (place : List FileName) : List Octets :=
  let all := (namesAt m place).filter fun name =>
    m.disk.entryAt? (place ++ [(Octets.toText? name).getD []]) = some .directory
      && (a.has 'a' || a.has 'A' || name.head? != some '.')
  if a.has 'r' then all.reverse else all

/-- Blanks from one column to another, with tabs where they fit. -/
def indent : Nat → Nat → Nat → Octets
  | 0, _, _ => []
  | n + 1, start, stop =>
    if stop ≤ start then []
    else if (start + 1) / 8 < stop / 8 then '\t' :: indent n (start + 8 - start % 8) stop
    else ' ' :: indent n (start + 1) stop

def characterCount (s : Octets) : Nat :=
  ((Octets.toText? s).getD s).length

/-- How wide names are in columns, if `count` columns fit beside each other. -/
def columnWidths? (down : Bool) (names : List Octets) (count : Nat) : Option (List Nat) :=
  let rows := (names.length + count - 1) / count
  let column (i : Nat) : Nat := if down then i / rows else i % count
  let widths := (List.range count).map fun c =>
    (names.zipIdx.filter fun p => column p.2 = c).foldl (fun w p =>
      max w (characterCount p.1 + if c + 1 = count then 0 else 2)) 3
  if total widths < 80 then some widths else none

/-- Names in as many columns as fit on a line, downwards or across. -/
def tabulated (down : Bool) (names : List Octets) : Octets :=
  let counts := (List.range names.length).reverse.map (· + 1)
  match counts.findSome? fun c => (columnWidths? down names c).map fun ws => (c, ws) with
  | none => names.flatMap line
  | some (count, widths) =>
    let rows := (names.length + count - 1) / count
    let cell (r c : Nat) : Option Octets := names[if down then c * rows + r else r * count + c]?
    let row (r : Nat) : Octets :=
      let cells := (List.range count).filterMap fun c =>
        (cell r c).map fun s => (s, total (widths.take c))
      (cells.foldl (fun (acc : Octets × Nat) p =>
        (acc.1 ++ indent 80 acc.2 p.2 ++ p.1, p.2 + characterCount p.1)) ([], 0)).1
    (List.range rows).flatMap fun r => line (row r)

/-- Names with commas between, broken where a line would get too long. -/
def listed (names : List Octets) : Octets :=
  let (text, _) := names.foldl (fun (acc : Octets × Nat) s =>
    let n := characterCount s
    if acc.1.isEmpty then (s, n)
    else if acc.2 + n + 2 < 80 then (acc.1 ++ [',', ' '] ++ s, acc.2 + 2 + n)
    else (acc.1 ++ [',', '\n'] ++ s, n)) ([], 0)
  if names.isEmpty then [] else line text

/-- Names in the form that is asked for, one on each line unless told otherwise. -/
def arranged (a : Arguments) (names : List Octets) : Octets :=
  match (a.options.filter fun o => "1Cxm".toList.contains o.1).getLast?.map Prod.fst with
  | some 'C' => tabulated true names
  | some 'x' => tabulated false names
  | some 'm' => listed names
  | _ => names.flatMap line

/-- The listings of a directory and of those below it, each with its name. -/
def listingsBelow (m : Machine) (a : Arguments) : Nat → Octets → List FileName → List Octets
  | 0, _, _ => []
  | n + 1, name, place =>
    (line (name ++ [':']) ++ arranged a (listing m a place))
      :: (directoriesIn m a place).flatMap fun d =>
        listingsBelow m a n (inside name d) (place ++ [(Octets.toText? d).getD []])

def lsArguments : Known :=
  ⟨"aA1dFprRlhtSUCmLoginskucxvqQbNBGHX", "wTI", [("all", 'a'), ("almost-all", 'A'),
    ("directory", 'd'), ("classify", 'F'), ("reverse", 'r'), ("recursive", 'R')]⟩

/-- Files come first, then the directories with what is in them. -/
def ls : Program := withArguments "ls" lsArguments 2 fun a m =>
  let targets := if a.operands.isEmpty then [['.']] else Octets.sorted a.operands
  let targets := if a.has 'r' then targets.reverse else targets
  let found := targets.filterMap fun target =>
    (m.arrive target).toOption.map fun arrival => (target, arrival.place, arrival.entry)
  let found := targets.filterMap fun target =>
    match found.find? fun f => f.1 == target with
    | some f => some f
    | none => (m.arriveAtLink target).toOption.map fun r => (target, r.1, r.2)
  let absent := targets.filter fun target => !found.any fun f => f.1 == target
  let errors := absent.flatMap fun target =>
    match m.arrive target with
    | .error o => saying "ls" "cannot access" target o
    | .ok _ => []
  let isListed (f : Octets × List FileName × Entry) : Bool :=
    f.2.2 = .directory && !a.has 'd'
  let files := (found.filter fun f => !isListed f).map fun f => f.1 ++ suffix a f.2.2
  let directories := (found.filter isListed).flatMap fun f =>
    if a.has 'R' then listingsBelow m a (m.disk.entries.length + 1) f.1 f.2.1
    else
      [(if targets.length = 1 then [] else line (f.1 ++ [':']))
        ++ arranged a (listing m a f.2.1)]
  let blocks := (if files.isEmpty then [] else [arranged a files]) ++ directories
  finish m (['\n'].intercalate blocks) errors (if absent.isEmpty then 0 else 2)

/-- Goes through operands; complaints are gathered and make the status one. -/
def forEach (operands : List Octets) (m : Machine)
    (f : Octets → Machine → Except Octets (Machine × Octets)) : Machine :=
  let (m, output, errors) := operands.foldl (fun (acc : Machine × Octets × Octets) name =>
    let (m, output, errors) := acc
    match f name m with
    | .ok (m, said) => (m, output ++ said, errors)
    | .error problem => (m, output, errors ++ problem)) (m, [], [])
  finish m output errors (if errors.isEmpty then 0 else 1)

def missingOperand (name : String) (m : Machine) : Machine :=
  misuse name "missing operand".toList 1 m

def touch : Program := withArguments "touch" ⟨"acmhf", "drt", []⟩ 1 fun a m =>
  if a.operands.isEmpty then misuse "touch" "missing file operand".toList 1 m
  else forEach a.operands m fun name m =>
    match m.arrive name, a.has 'c' with
    | .ok _, _ => .ok (m, [])
    | .error .missing, true => .ok (m, [])
    | .error o, _ =>
      match o, m.filePlace name with
      | .missing, .ok (m, _) => .ok (m, [])
      | .missing, .error o => .error (saying "touch" "cannot touch" name o)
      | o, _ => .error (saying "touch" "cannot touch" name o)

def rmArguments : Known :=
  ⟨"rRfdvi", "", [("recursive", 'r'), ("force", 'f'), ("dir", 'd'), ("verbose", 'v')]⟩

/-- Everything that goes with an entry, what is inside before what holds it. -/
def removals (m : Machine) : Nat → Octets → List FileName → List (Octets × Bool)
  | 0, _, _ => []
  | n + 1, name, place =>
    match m.disk.entryAt? place with
    | some .directory =>
      ((namesAt m place).flatMap fun inner =>
        removals m n (inside name inner) (place ++ [(Octets.toText? inner).getD []]))
        ++ [(name, true)]
    | _ => [(name, false)]

/-- Asks before something is removed; only a yes counts. -/
def isRefused (name : Octets) (entry : Entry) (m : Machine) : Machine × Bool :=
  let kind := match entry with
    | .directory => "directory "
    | .link _ => "symbolic link "
    | .file [] => "regular empty file "
    | .file _ => "regular file "
  let m := m.say 2 (("rm: remove " ++ kind).toList ++ quoted name ++ "? ".toList)
  let text := m.input.text
  let answer := text.takeWhile (· != '\n')
  (m.leaveInput (text.drop (answer.length + 1)),
    !(answer.head? = some 'y' || answer.head? = some 'Y'))

def rm : Program := withArguments "rm" rmArguments 1 fun a m =>
  let asks := (a.options.filter fun o => o.1 == 'f' || o.1 == 'i').getLast?.any fun o => o.1 == 'i'
  let deep := a.has 'r' || a.has 'R'
  if a.operands.isEmpty then if a.has 'f' then finish m [] [] 0 else missingOperand "rm" m
  else forEach a.operands m fun name m =>
    let removed (m : Machine) (place : List FileName) : Machine × Octets :=
      let said := (removals m (m.disk.entries.length + 1) name place).flatMap fun r =>
        line ((if r.2 then "removed directory " else "removed ").toList ++ quoted r.1)
      ({ m with disk := m.disk.remove place }, if a.has 'v' then said else [])
    let last := lastComponent name
    if deep && (last = ['.'] || last = ['.', '.']) then
      .error ("rm: refusing to remove '.' or '..' directory: skipping ".toList
        ++ line (quoted name))
    else if deep && !name.isEmpty && name.all (· = '/') then
      .error ("rm: it is dangerous to operate recursively on '/'\n"
        ++ "rm: use --no-preserve-root to override this failsafe\n").toList
    else match m.arriveAtLink name with
    | .error o =>
      if a.has 'f' && (o = .missing || o = .notDirectory) then .ok (m, [])
      else .error (saying "rm" "cannot remove" name o)
    | .ok (place, .directory) =>
      if deep || (a.has 'd' && (m.disk.names place).isEmpty) then .ok (removed m place)
      else if a.has 'd' then
        .error ("rm: cannot remove ".toList ++ quoted name ++ ": Directory not empty\n".toList)
      else .error (saying "rm" "cannot remove" name .isDirectory)
    | .ok (place, entry) =>
      if asks then
        let (m, refused) := isRefused name entry m
        .ok (if refused then (m, []) else removed m place)
      else .ok (removed m place)

/-- A directory and those that hold it, as far as its name mentions them. -/
def withHolders : Nat → Octets → List Octets
  | 0, name => [name]
  | n + 1, name =>
    let front := (name.reverse.dropWhile (· = '/')).dropWhile (· != '/')
    let front := (front.dropWhile (· = '/')).reverse
    if front.isEmpty then [name] else name :: withHolders n front

def rmdir : Program := withArguments "rmdir" ⟨"pv", "", [("parents", 'p'), ("verbose", 'v')]⟩ 1
    fun a m =>
  if a.operands.isEmpty then missingOperand "rmdir" m
  else
    let names := if a.has 'p' then a.operands.flatMap fun name => withHolders name.length name
      else a.operands
    forEach names m fun name m =>
      let failed (problem : String) : Octets :=
        "rmdir: failed to remove ".toList ++ quoted name ++ (": " ++ problem ++ "\n").toList
      match m.arriveAtLink name with
      | .error o => .error (failed o.text)
      | .ok (place, .directory) =>
        if (m.disk.names place).isEmpty then
          .ok ({ m with disk := m.disk.remove place },
            if a.has 'v' then line ("rmdir: removing directory, ".toList ++ quoted name) else [])
        else .error (failed "Directory not empty")
      | .ok _ => .error (failed Disk.Obstacle.notDirectory.text)

def cannotMake (m : Machine) (name : Octets) (problem : String) : Octets :=
  "mkdir: cannot create directory ".toList ++ marked m name ++ (": " ++ problem ++ "\n").toList

/-- Makes a directory and those above it, as far as they are missing. -/
def makeAll (m : Machine) (name : Octets) (verbose : Bool) : Except Octets (Machine × Octets) :=
  let text := (Octets.toText? name).getD []
  let parts := Path.components text
  let front := if Path.isAbsolute text then ['/'] else []
  let prefixes := (List.range parts.length).map fun i =>
    front ++ (['/'].intercalate ((parts.take (i + 1)).filter fun p => p != []))
  let step (r : Machine × Octets) (path : List Char) : Except Octets (Machine × Octets) :=
    let (m, said) := r
    let refuse (problem : String) : Except Octets (Machine × Octets) :=
      .error (cannotMake m (Octets.ofText path) problem)
    if path.isEmpty || path = ['/'] then .ok r
    else match m.disk.arriveAt m.here path with
      | .ok ⟨_, _, .directory⟩ => .ok r
      | .ok _ =>
        refuse (if path.length < text.length then Disk.Obstacle.notDirectory.text
          else "File exists")
      | .error .missing =>
        match placeFor m (Octets.ofText path) with
        | .ok place =>
          let made := line ("mkdir: created directory ".toList ++ quoted (Octets.ofText path))
          .ok ({ m with disk := m.disk.put place .directory },
            if verbose then said ++ made else said)
        | .error o => refuse o.text
      | .error o => refuse o.text
  prefixes.foldlM step (m, [])

def mkdirArguments : Known := ⟨"pvZ", "m", [("parents", 'p'), ("verbose", 'v'), ("mode", 'm')]⟩

def mkdir : Program := withArguments "mkdir" mkdirArguments 1 fun a m =>
  if a.operands.isEmpty then missingOperand "mkdir" m
  else forEach a.operands m fun name m =>
    if a.has 'p' then makeAll m name (a.has 'v')
    else match m.arriveAtLink name with
      | .ok _ => .error (cannotMake m name "File exists")
      | .error .missing =>
        match placeFor m name with
        | .ok place =>
          .ok ({ m with disk := m.disk.put place .directory },
            if a.has 'v' then line ("mkdir: created directory ".toList ++ quoted name) else [])
        | .error o => .error (cannotMake m name o.text)
      | .error o => .error (cannotMake m name o.text)

/-- Everything at a place and below it, with its way from there. -/
def below (disk : Disk) (place : List FileName) : List (List FileName × Entry) :=
  disk.entries.filterMap fun e =>
    if place.isPrefixOf e.1 then some (e.1.drop place.length, e.2) else none

/-- Puts what was at one place to another, over what is there. -/
def graft (disk : Disk) (entries : List (List FileName × Entry)) (place : List FileName) : Disk :=
  entries.foldl (fun disk e => disk.put (place ++ e.1) e.2) disk

/-- What can be wrong with sources and a target. -/
def missingOperands (name : String) (a : Arguments) (m : Machine) : Option Machine :=
  match a.operands with
  | [] => some (misuse name "missing file operand".toList 1 m)
  | [only] =>
    if a.has 't' then none
    else some (misuse name ("missing destination file operand after ".toList ++ quoted only) 1 m)
  | _ => none

/-- The sources and, for each, the name that it gets: below a directory its own, else the target. -/
def pairings (name : String) (a : Arguments) (m : Machine) :
    Except Octets (List (Octets × Octets)) :=
  let (sources, target) := match a.value? 't' with
    | some target => (a.operands, target)
    | none => (a.operands.dropLast, a.operands.getLastD [])
  let fault (o : Disk.Obstacle) : Octets :=
    (name ++ ": target ").toList ++ quoted target ++ reason o
  match m.arrive target with
  | .ok ⟨_, _, .directory⟩ =>
    if a.has 'T' then .ok (sources.map fun s => (s, target))
    else .ok (sources.map fun s => (s, inside target (lastComponent s)))
  | .ok _ => if sources.length ≤ 1 then .ok (sources.map fun s => (s, target))
    else .error (fault .notDirectory)
  | .error o => if sources.length ≤ 1 then .ok (sources.map fun s => (s, target))
    else .error (fault o)

def arrow (a : Arguments) (source target : Octets) : Octets :=
  if a.has 'v' then line (quoted source ++ " -> ".toList ++ quoted target) else []

def cpArguments : Known :=
  ⟨"rRafpvdPLTniux", "t", [("recursive", 'r'), ("archive", 'a'), ("force", 'f'), ("verbose", 'v'),
    ("no-target-directory", 'T'), ("target-directory", 't'), ("no-clobber", 'n')]⟩

def copyOne (a : Arguments) (source target : Octets) (m : Machine) :
    Except Octets (Machine × Octets) :=
  let deep := a.has 'r' || a.has 'R' || a.has 'a'
  let complain (text : Octets) : Except Octets (Machine × Octets) :=
    .error ("cp: ".toList ++ line text)
  match m.arrive source with
  | .error o => .error (saying "cp" "cannot stat" source o)
  | .ok ⟨_, place, .directory⟩ =>
    if !deep then complain ("-r not specified; omitting directory ".toList ++ quoted source)
    else match m.arrive target, placeFor m target with
      | .ok ⟨_, there, .directory⟩, _ =>
        .ok ({ m with disk := graft m.disk (below m.disk place) there }, arrow a source target)
      | .ok _, _ => complain ("cannot overwrite non-directory ".toList ++ quoted target
          ++ " with directory ".toList ++ quoted source)
      | .error _, .ok there =>
        if place.isPrefixOf there then
          complain ("cannot copy a directory, ".toList ++ quoted source
            ++ ", into itself, ".toList ++ quoted target)
        else
          let inner := below m.disk place
          .ok ({ m with disk := graft (m.disk.put there .directory) inner there },
            arrow a source target)
      | .error _, .error o => .error (saying "cp" "cannot create directory" target o)
  | .ok ⟨_, place, entry⟩ =>
    match m.arrive target with
    | .ok ⟨_, there, .directory⟩ =>
      if there = place then .ok (m, [])
      else complain ("cannot overwrite directory ".toList ++ quoted target
        ++ " with non-directory".toList)
    | .ok ⟨_, there, _⟩ =>
      if there = place then
        complain (quoted source ++ " and ".toList ++ quoted target ++ " are the same file".toList)
      else if a.has 'n' then .ok (m, [])
      else .ok (m.put there entry, arrow a source target)
    | .error _ =>
      if target.getLast? = some '/' then
        .error (saying "cp" "cannot create regular file" target .notDirectory)
      else match m.filePlace target with
        | .ok (m, there) =>
          .ok (m.put there entry, arrow a source target)
        | .error o => .error (saying "cp" "cannot create regular file" target o)

def cp : Program := withArguments "cp" cpArguments 1 fun a m =>
  match missingOperands "cp" a m, pairings "cp" a m with
  | some m, _ => m
  | none, .error problem => finish m [] problem 1
  | none, .ok pairs =>
    forEach (pairs.map Prod.fst) m fun source m =>
      copyOne a source ((pairs.lookup source).getD []) m

def mvArguments : Known :=
  ⟨"fnviuT", "t", [("force", 'f'), ("verbose", 'v'), ("no-clobber", 'n'),
    ("target-directory", 't'), ("no-target-directory", 'T')]⟩

def moveOne (a : Arguments) (source target : Octets) (m : Machine) :
    Except Octets (Machine × Octets) :=
  let complain (text : Octets) : Except Octets (Machine × Octets) :=
    .error ("mv: ".toList ++ line text)
  let done (place there : List FileName) : Machine × Octets :=
    let moved := below m.disk place
    ({ m with disk := graft ((m.disk.remove there).remove place) moved there },
      if a.has 'v' then
        line ("renamed ".toList ++ quoted source ++ " -> ".toList ++ quoted target) else [])
  match m.arriveAtLink source with
  | .error o => .error (saying "mv" "cannot stat" source o)
  | .ok (place, entry) =>
    match m.arriveAtLink target, placeFor m target with
    | .ok (there, old), _ =>
      if there = place then
        complain (quoted source ++ " and ".toList ++ quoted target ++ " are the same file".toList)
      else if a.has 'n' then .ok (m, [])
      else if place.isPrefixOf there then
        complain ("cannot move ".toList ++ quoted source ++ " to a subdirectory of itself, ".toList
          ++ quoted target)
      else match entry, old with
        | .directory, .directory =>
          if (m.disk.names there).isEmpty then .ok (done place there)
          else complain ("cannot overwrite ".toList ++ quoted target
            ++ ": Directory not empty".toList)
        | .directory, _ => complain ("cannot overwrite non-directory ".toList ++ quoted target
            ++ " with directory ".toList ++ quoted source)
        | _, .directory => complain ("cannot overwrite directory ".toList ++ quoted target
            ++ " with non-directory ".toList ++ quoted source)
        | _, _ => .ok (done place there)
    | .error _, .ok there =>
      if place.isPrefixOf there then
        complain ("cannot move ".toList ++ quoted source ++ " to a subdirectory of itself, ".toList
          ++ quoted target)
      else if target.getLast? = some '/' && entry != .directory then
        complain ("cannot move ".toList ++ quoted source ++ " to ".toList ++ quoted target
          ++ ": Not a directory".toList)
      else .ok (done place there)
    | .error _, .error o =>
      .error ("mv: cannot move ".toList ++ quoted source ++ " to ".toList ++ quoted target
        ++ reason o)

def mv : Program := withArguments "mv" mvArguments 1 fun a m =>
  match missingOperands "mv" a m, pairings "mv" a m with
  | some m, _ => m
  | none, .error problem => finish m [] problem 1
  | none, .ok pairs =>
    forEach (pairs.map Prod.fst) m fun source m =>
      moveOne a source ((pairs.lookup source).getD []) m

def ln : Program := withArguments "ln" ⟨"sfnvTr", "t", [("symbolic", 's'), ("force", 'f')]⟩ 1
    fun a m =>
  let pairs : Except Octets (List (Octets × Octets)) := match a.operands with
    | [only] => .ok [(only, lastComponent only)]
    | _ => pairings "ln" a m
  match a.operands, pairs with
  | [], _ => misuse "ln" "missing file operand".toList 1 m
  | _, .error problem => finish m [] problem 1
  | _, .ok pairs =>
    forEach (pairs.map Prod.fst) m fun source m =>
      let target := (pairs.lookup source).getD []
      let kind := if a.has 's' then "symbolic link" else "hard link"
      let failed (problem : String) : Except Octets (Machine × Octets) :=
        .error (("ln: failed to create " ++ kind ++ " ").toList ++ quoted target
          ++ (": " ++ problem ++ "\n").toList)
      let entry := if a.has 's' then some (Entry.link ((Octets.toText? source).getD []))
        else (m.arriveAtLink source).toOption.map Prod.snd
      match entry, m.arriveAtLink target, placeFor m target with
      | none, _, _ => .error ("ln: failed to access ".toList ++ quoted source ++ reason .missing)
      | some .directory, _, _ =>
        .error ("ln: ".toList ++ line (source ++ ": hard link not allowed for directory".toList))
      | some entry, .ok (place, _), _ =>
        if a.has 'f' then .ok ({ m with disk := m.disk.put place entry }, [])
        else failed "File exists"
      | some entry, .error _, .ok place => .ok ({ m with disk := m.disk.put place entry }, [])
      | some _, .error _, .error o => failed o.text

/-- Drops an ending from a name, unless nothing would be left. -/
def dropEnding (ending name : Octets) : Octets :=
  if ending.isSuffixOf name && ending.length < name.length then
    name.take (name.length - ending.length)
  else name

def baseName (s : Octets) : Octets :=
  if s.isEmpty then [] else if s.all (· = '/') then ['/'] else lastComponent s

def basename : Program := withArguments "basename" ⟨"az", "s", [("multiple", 'a'), ("suffix", 's')]⟩
    1 fun a m =>
  let several := a.has 'a' || a.has 's'
  match a.operands with
  | [] => missingOperand "basename" m
  | [name] => finish m (line (dropEnding ((a.value? 's').getD []) (baseName name))) [] 0
  | name :: ending :: more =>
    if several then
      finish m (a.operands.flatMap fun name =>
        line (dropEnding ((a.value? 's').getD []) (baseName name))) [] 0
    else match more with
      | [] => finish m (line (dropEnding ending (baseName name))) [] 0
      | extra :: _ => misuse "basename" ("extra operand ".toList ++ marked m extra) 1 m

def directoryName (s : Octets) : Octets :=
  let trimmed := (s.reverse.dropWhile (· = '/'))
  if trimmed.isEmpty then (if s.isEmpty then ['.'] else ['/'])
  else
    let front := trimmed.dropWhile (· != '/')
    if front.isEmpty then ['.']
    else
      let kept := (front.dropWhile (· = '/')).reverse
      if kept.isEmpty then ['/'] else kept

def dirname : Program := withArguments "dirname" ⟨"z", "", []⟩ 1 fun a m =>
  if a.operands.isEmpty then missingOperand "dirname" m
  else finish m (a.operands.flatMap fun name => line (directoryName name)) [] 0

def placeText (place : List FileName) : Octets :=
  if place.isEmpty then ['/'] else place.flatMap fun name => '/' :: Octets.ofText name

def readlink : Program := withArguments "readlink" ⟨"femnqsvz", "", []⟩ 1 fun a m =>
  if a.operands.isEmpty then missingOperand "readlink" m
  else
    let ended (s : Octets) : Octets := if a.has 'n' then s else line s
    let text (name : Octets) : Option Octets :=
      if a.has 'f' || a.has 'e' || a.has 'm' then
        match m.arrive name with
        | .ok arrival => some (placeText arrival.place)
        | .error _ =>
          if a.has 'e' then none else (placeFor m name).toOption.map placeText
      else match m.arriveAtLink name with
        | .ok (_, .link target) => some (Octets.ofText target)
        | _ => none
    let texts := a.operands.map text
    finish m (texts.flatMap fun t => (t.map ended).getD []) []
      (if texts.all Option.isSome then 0 else 1)

def realpath : Program := withArguments "realpath" ⟨"emqsz", "", []⟩ 1 fun a m =>
  if a.operands.isEmpty then missingOperand "realpath" m
  else forEach a.operands m fun name m =>
    match m.arrive name, a.has 'e', placeFor m name with
    | .ok arrival, _, _ => .ok (m, line (placeText arrival.place))
    | .error .missing, false, .ok place => .ok (m, line (placeText place))
    | .error o, _, _ => .error ("realpath: ".toList ++ named name ++ reason o)

/-- Changes of mode and owner leave no trace. -/
def touchless (name : String) : Program := fun args m =>
  forEach ((args.filter fun a => a.head? != some '-').drop 1) m fun file m =>
    match m.arrive file with
    | .ok _ => .ok (m, [])
    | .error o => .error (saying name "cannot access" file o)

inductive Criterion where
  | name (folds : Bool) (pattern : List Item)
  | path (pattern : List Item)
  | kind (c : Char)
  | empty
  | always
  | negated (c : Criterion)
  | both (a b : Criterion)
  | either (a b : Criterion)

def Criterion.holds (m : Machine) (path : Octets) (place : List FileName) (entry : Entry) :
    Criterion → Bool
  | .name folds p =>
    Pattern.fits p (if folds then (baseName path).map Char.toLower else baseName path)
  | .path p => Pattern.fits p path
  | .kind c => match entry with
    | .directory => c = 'd'
    | .file _ => c = 'f'
    | .link _ => c = 'l'
  | .empty => match entry with
    | .directory => (m.disk.names place).isEmpty
    | .file bytes => bytes.isEmpty
    | .link _ => false
  | .always => true
  | .negated c => !c.holds m path place entry
  | .both a b => a.holds m path place entry && b.holds m path place entry
  | .either a b => a.holds m path place entry || b.holds m path place entry

/-- Everything at a place and below it, by its path and depth. -/
def walkFrom (m : Machine) : Nat → Nat → Octets → List FileName →
    List (Octets × Nat × List FileName × Entry)
  | 0, _, _, _ => []
  | n + 1, depth, path, place =>
    match if place.isEmpty then some .directory else m.disk.entryAt? place with
    | none => []
    | some entry =>
      (path, depth, place, entry) ::
        match entry with
        | .directory => (namesAt m place).flatMap fun name =>
          walkFrom m n (depth + 1) (inside path name)
            (place ++ [(Octets.toText? name).getD []])
        | _ => []

inductive Treatment where
  | show_ (mark : Char)
  | delete
  | each (words : List Octets)
  | all (words : List Octets)

structure Hunt where
  starts : List Octets
  least : Nat
  most : Nat
  inFirst : Bool
  criterion : Criterion
  treatment : Treatment

inductive HuntError where
  | unknown (word : Octets)
  | noArgument (word : Octets)
  | noNumber (word text : Octets)
  | badKind (text : Octets)
  | unclosed

def HuntError.message (m : Machine) : HuntError → Octets
  | .unknown word => "unknown predicate \x60".toList ++ word ++ ['\'']
  | .noArgument word => "missing argument to \x60".toList ++ word ++ ['\'']
  | .noNumber word text =>
    "Expected a positive decimal integer argument to ".toList ++ word ++ ", but got ".toList
      ++ marked m text
  | .badKind text => "Unknown argument to -type: ".toList ++ text
  | .unclosed =>
    "invalid expression; expected to find a ')' but didn't see one. ".toList
      ++ "Perhaps you need an extra predicate after '('".toList

/-- A search while its words are read. -/
abbrev Sought := Except HuntError (Criterion × Hunt × List Octets)

mutual

def Hunt.either : Nat → Hunt → List Octets → Sought
  | 0, h, words => .ok (.always, h, words)
  | n + 1, h, words => do
    let (a, h, rest) ← Hunt.both n h words
    match rest.map String.ofList with
    | "-o" :: _ | "-or" :: _ => do
      let (b, h, rest) ← Hunt.either n h rest.tail
      return (.either a b, h, rest)
    | _ => return (a, h, rest)

def Hunt.both : Nat → Hunt → List Octets → Sought
  | 0, h, words => .ok (.always, h, words)
  | n + 1, h, words => do
    let (a, h, rest) ← Hunt.one n h words
    match rest.map String.ofList with
    | [] => return (a, h, rest)
    | "-o" :: _ | "-or" :: _ | ")" :: _ => return (a, h, rest)
    | "-a" :: _ | "-and" :: _ => do
      let (b, h, rest) ← Hunt.both n h rest.tail
      return (.both a b, h, rest)
    | _ => do
      let (b, h, rest) ← Hunt.both n h rest
      return (.both a b, h, rest)

def Hunt.one : Nat → Hunt → List Octets → Sought
  | 0, h, words => .ok (.always, h, words)
  | _, h, [] => .ok (.always, h, [])
  | n + 1, h, word :: rest =>
    let withText (f : Octets → Criterion) : Sought :=
      match rest with
      | text :: rest => .ok (f text, h, rest)
      | [] => .error (.noArgument word)
    let withNumber (f : Nat → Hunt) : Sought :=
      match rest with
      | text :: rest =>
        match Octets.natural? text with
        | some k => .ok (.always, f k, rest)
        | none => .error (.noNumber word text)
      | [] => .error (.noArgument word)
    let lower (s : Octets) : Octets := s.map Char.toLower
    match String.ofList word with
    | "-name" => withText fun p => .name false (Pattern.ofText p)
    | "-iname" => withText fun p => .name true (Pattern.ofText (lower p))
    | "-path" | "-wholename" => withText fun p => .path (Pattern.ofText p)
    | "-type" =>
      match rest with
      | [c] :: rest =>
        if "fdlpsbc".toList.contains c then .ok (.kind c, h, rest) else .error (.badKind [c])
      | text :: _ => .error (.badKind text)
      | [] => .error (.noArgument word)
    | "-maxdepth" => withNumber fun k => { h with most := k }
    | "-mindepth" => withNumber fun k => { h with least := k }
    | "-depth" => .ok (.always, { h with inFirst := true }, rest)
    | "-empty" => .ok (.empty, h, rest)
    | "-true" => .ok (.always, h, rest)
    | "-false" => .ok (.negated .always, h, rest)
    | "-print" => .ok (.always, { h with treatment := .show_ '\n' }, rest)
    | "-print0" => .ok (.always, { h with treatment := .show_ '\x00' }, rest)
    | "-delete" => .ok (.always, { h with treatment := .delete, inFirst := true }, rest)
    | "-exec" =>
      let words := rest.takeWhile fun w => w != [';'] && w != ['+']
      match rest.drop words.length with
      | [';'] :: rest => .ok (.always, { h with treatment := .each words }, rest)
      | ['+'] :: rest => .ok (.always, { h with treatment := .all words.dropLast }, rest)
      | _ => .error (.noArgument word)
    | "!" | "-not" => do
      let (c, h, rest) ← Hunt.one n h rest
      return (.negated c, h, rest)
    | "(" => do
      let (c, h, rest) ← Hunt.either n h rest
      match rest with
      | [')'] :: rest => return (c, h, rest)
      | _ => .error .unclosed
    | _ => .error (.unknown word)

end

def Hunt.ofArguments (args : List Octets) : Except HuntError Hunt := do
  let isStart (s : Octets) : Bool := s.head? != some '-' && s != ['!'] && s != ['(']
  let starts := args.takeWhile isStart
  let h : Hunt := ⟨if starts.isEmpty then [['.']] else starts, 0, 1000000, false, .always,
    .show_ '\n'⟩
  let (c, h, rest) ← Hunt.either (4 * args.length + 8) h (args.drop starts.length)
  match rest with
  | [] => return { h with criterion := c }
  | word :: _ => .error (.unknown word)

/-- What a search finds, and complaints about where it cannot start. -/
def Hunt.found (h : Hunt) (m : Machine) : List (Octets × List FileName) × Octets :=
  h.starts.foldl (fun (found, errors) start =>
    match m.arriveAtLink start with
    | .error o => (found, errors ++ "find: ".toList ++ marked m start ++ reason o)
    | .ok (place, _) =>
      let all := walkFrom m (m.disk.entries.length + 2) 0 start place
      let all := if h.inFirst then all.reverse else all
      let kept := all.filter fun e =>
        h.least ≤ e.2.1 && e.2.1 ≤ h.most && h.criterion.holds m e.1 e.2.2.1 e.2.2.2
      (found ++ kept.map fun e => (e.1, e.2.2.1), errors)) ([], [])

def Hunt.treat (mark : Option Char) (found : List (Octets × List FileName)) (errors : Octets)
    (m : Machine) : Machine :=
  let status := if errors.isEmpty then 0 else 1
  match mark with
  | some mark => finish m (found.flatMap fun f => f.1 ++ [mark]) errors status
  | none =>
    let (m, errors) := found.foldl (fun (m, errors) f =>
      if (m.disk.names f.2).isEmpty || m.disk.entryAt? f.2 != some .directory then
        if f.1 = ['.'] then (m, errors) else ({ m with disk := m.disk.remove f.2 }, errors)
      else (m, errors ++ "find: cannot delete ".toList ++ marked m f.1
        ++ ": Directory not empty\n".toList)) (m, errors)
    finish m [] errors (if errors.isEmpty then 0 else 1)

def filePrograms : List (String × Program) :=
  [("ls", ls), ("touch", touch), ("rm", rm), ("rmdir", rmdir), ("mkdir", mkdir), ("cp", cp),
    ("mv", mv), ("ln", ln), ("basename", basename), ("dirname", dirname), ("readlink", readlink),
    ("realpath", realpath), ("chmod", touchless "chmod"), ("chown", touchless "chown")]

end LintDispatch.Shell.Program
