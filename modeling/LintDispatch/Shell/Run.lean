import LintDispatch.Shell.Lookup
import LintDispatch.Shell.Redirection

/-!
Running commands. Words are expanded, then streams redirected, then names assigned, and then the
command acts. The parts of a pipe, a group in parentheses and a command in the background are shells
of their own, of which only the status and what they wrote remain. Commands may run for ever, so
every step is given less fuel than the one that called it; a shell that uses it up ends.
-/

namespace LintDispatch.Shell

/-- The text that a substitution leaves of what was written: line ends at its end do not count. -/
def trimLineEnds (s : Octets) : Octets :=
  (s.reverse.dropWhile (· = '\n')).reverse

/-- The commands whose arguments are assignments. -/
def assigningCommands : List String := ["export", "readonly", "local", "alias"]

/-- The words behind the ones that only say which kind of command is meant, and whether there were
any of those. -/
def strip : Nat → List Octets → List Octets × Bool
  | 0, words => (words, false)
  | n + 1, words =>
    match words with
    | name :: rest =>
      if name != "command".toList then (words, false)
      else
        let rest := match rest with
          | ['-', 'p'] :: rest => rest
          | _ => rest
        let rest := match rest with
          | ['-', '-'] :: rest => rest
          | _ => rest
        match rest with
        | [] => (words, false)
        | ('-' :: _ :: _) :: _ => (words, false)
        | _ => ((strip n rest).1, true)
    | [] => (words, false)

structure Call where
  words : List Octets
  /-- No function is meant, and no fault in the command ends the shell. -/
  plain : Bool

namespace Call

def of (words : List Octets) : Call :=
  let (words, plain) := strip words.length words
  ⟨words, plain⟩

def name (c : Call) : Octets := c.words.headD []

/-- Assignments in front of the command last, and its faults end the shell. -/
def isSpecial (c : Call) : Bool :=
  !c.plain && !c.words.isEmpty && Builtin.isSpecial c.name

end Call

namespace Machine

/-- What the end of a pass through a loop leaves, and whether the loop goes on. -/
def closePass (m : Machine) : Machine × Bool :=
  match m.departure with
  | none => (m, true)
  | some (.continued (n + 2)) => ({ m with departure := some (.continued (n + 1)) }, false)
  | some (.continued _) => ({ m with departure := none }, true)
  | some (.broken (n + 2)) => ({ m with departure := some (.broken (n + 1)) }, false)
  | some (.broken _) => ({ m with departure := none }, false)
  | some _ => (m, false)

/-- The names with their values, and whether they are exported. -/
def meanings (m : Machine) (names : List Octets) : List (Octets × Option Octets × Bool) :=
  names.map fun name => (name, m.value? name, m.exported.contains name)

def giveBack (m : Machine) (meanings : List (Octets × Option Octets × Bool)) : Machine :=
  meanings.foldl (fun m (name, value, isExported) =>
    let m := m.unbind name
    let m := match value with
      | some v => { m with bindings := (name, v) :: m.bindings }
      | none => m
    if isExported then { m with exported := name :: m.exported } else m) m

/-- With the option for it, the shell ends when a command fails whose status nothing asks for. -/
def mind (m : Machine) : Machine :=
  let isOpen := !m.departed || m.departure = some .returned
  if m.options.contains 'e' && !m.tested && m.status != 0 && isOpen then m.quit m.status else m

/-- With the option for it, shows a command before it runs. -/
def trace (m before : Machine) (assigned : List (Octets × Octets)) (words : List Octets) :
    Machine :=
  if m.options.contains 'x' && !m.departed then
    let items := assigned.map (fun a => a.1 ++ '=' :: a.2) ++ words
    let said := ({ m with streams := before.streams } : Machine).say 2
      (m.textNamed "PS4" ++ [' '].intercalate items ++ ['\n'])
    { said with streams := m.streams }
  else m

def lastStatus (m : Machine) : Nat :=
  match m.departure with
  | some (.exited status) => status
  | some .failed => 2
  | _ => m.status

end Machine

/-- What a shell knows of itself besides what it was given. -/
def ownBindings (here : Path) : List (Octets × Octets) :=
  [("PWD".toList, Octets.ofText here.text), ("IFS".toList, " \t\n".toList),
    ("OPTIND".toList, ['1']), ("PS2".toList, "> ".toList), ("PS4".toList, "+ ".toList)]

namespace Machine

/-- A new shell as a process of its own, in the same place and with the same streams. -/
def fresh (m : Machine) (name : Octets) (options : List Char) (arguments : List Octets) :
    Machine :=
  let own := ownBindings m.here
  let inherited := m.environment.filter fun v => v.1 != "IFS".toList
  let isInherited (v : Octets × Octets) : Bool := inherited.any fun w => w.1 == v.1
  { m with
    name, options, arguments, optionPlace := .start
    bindings := own.filter (!isInherited ·) ++ inherited
    exported := "PWD".toList :: inherited.map Prod.fst
    fixed := [], functions := [], aliases := [], scopes := []
    traps := m.traps.filter fun t => t.2.isEmpty
    firstTraps := none, pending := [], doom := none, held := none, jobs := [], known := []
    loops := 0, tested := false, line := 1, speaker := none, status := 0, departure := none }

def closeInput (m : Machine) : Machine :=
  ({ m with status := 0 } : Machine).supply 0 ⟨[], false⟩

/-- The word for a signal that ended a process, unless it is one that nothing is said about. -/
def endingWord? (signal : Nat) : Option String :=
  if signal = 2 || signal = 13 then none
  else some <| match signal with
    | 1 => "Hangup"
    | 3 => "Quit"
    | 6 => "Aborted"
    | 9 => "Killed"
    | 10 => "User defined signal 1"
    | 11 => "Segmentation fault"
    | 12 => "User defined signal 2"
    | 14 => "Alarm clock"
    | 15 => "Terminated"
    | _ => "Signal " ++ toString signal

/-- What a process leaves to the shell that waited for it. -/
def reap (inner outer : Machine) : Machine :=
  let after := { inner.leave outer with
    pending := outer.pending, doom := outer.doom, departure := outer.departure
    status := inner.lastStatus % 256 }
  match inner.departure with
  | some (.killed signal) =>
    let after := { after with status := 128 + signal }
    match endingWord? signal with
    | some word => after.say 2 (word.toList ++ ['\n'])
    | none => after
  | _ => after

end Machine

mutual

def expandPiece : Nat → Piece → Machine → Machine × List Glyph
  | 0, _, m => (m.quit 2, [])
  | n + 1, piece, m =>
    let undemanded (quoted : Bool) (p : Parameter) (gs : List Glyph) : Machine × List Glyph :=
      if m.departed then (m, [])
      else if p.isDemanded m then
        (m.abort (.parameter p.name "parameter not set".toList), [])
      else (m, if quoted then gs else gs.map Glyph.asComputed)
    match piece with
    | .text quoted s =>
      (m, if quoted then .quotation :: Glyph.ofText .quoted s else Glyph.ofText .written s)
    | .value quoted p => undemanded quoted p (p.glyphs quoted m)
    | .size quoted p =>
      undemanded quoted p
        (Glyph.ofText .written (Machine.decimal ((p.value? m).getD []).length))
    | .either quoted p f other =>
      let missing := f.isMissing (p.value? m)
      let inner (m : Machine) : Machine × List Glyph :=
        let (m, gs) := expandPieces n other m
        (m, if quoted then gs else gs.map Glyph.asComputed)
      if m.departed then (m, [])
      else match f.service with
        | .instead => if missing then inner m else (m, p.glyphs quoted m)
        | .besides => if missing then (m, []) else inner m
        | .assigned =>
          if !missing then (m, p.glyphs quoted m)
          else match p with
            | .named name =>
              let (m, gs) := expandPieces n other m
              let m := m.assign name (Field.joined m gs)
              (m, p.glyphs quoted m)
            | _ => (m.abort (.problem (p.name ++ ": bad variable name".toList)), [])
        | .demanded =>
          if !missing then (m, p.glyphs quoted m)
          else
            let (m, gs) := expandPieces n other m
            let plain := if f.whenEmpty then "parameter not set or null" else "parameter not set"
            let message := if other.isEmpty then plain.toList else Field.joined m gs
            (if m.departed then m else m.abort (.parameter p.name message), [])
    | .cut quoted p c pattern =>
      let (m, gs) := expandPieces n pattern m
      if m.departed then (m, [])
      else if p.isDemanded m then
        (m.abort (.parameter p.name "parameter not set".toList), [])
      else
        let items := Pattern.items gs
        let value := p.cutText quoted m
        let left := if c.atEnd then Pattern.cutEnd items c.longest value
          else Pattern.cutFront items c.longest value
        (m, Parameter.cutGlyphs quoted left)
    | .arithmetic quoted expression =>
      let (m, gs) := expandPieces n expression m
      if m.departed then (m, [])
      else
        let text := Glyph.text gs
        match Arithmetic.evaluate m.value? text with
        | .ok (value, assigned) =>
          let m := assigned.foldl (fun m a => m.assign a.1 a.2) m
          (m, Glyph.ofText (if quoted then .quoted else .computed) (toString value).toList)
        | .error e => (m.abort (.arithmetic e text), [])
    | .output quoted body =>
      if m.departed then (m, [])
      else
        let (after, text) := m.collect fun channel m =>
          runApart n body { m with streams := m.streams.lead 1 channel, tested := false }
        ({ after with status := m.status, substituted := after.status },
          Glyph.ofText (if quoted then .quoted else .computed)
            (trimLineEnds (text.filter (· != '\x00'))))
    | .illegal => (if m.departed then m else m.abort .badSubstitution, [])

def expandPieces : Nat → List Piece → Machine → Machine × List Glyph
  | 0, _, m => (m.quit 2, [])
  | _, [], m => (m, [])
  | n + 1, piece :: rest, m =>
    let (m, gs) := expandPiece n piece m
    let (m, more) := expandPieces n rest m
    (m, gs ++ more)

def expandText : Nat → Word → Machine → Machine × Octets
  | 0, _, m => (m.quit 2, [])
  | n + 1, word, m =>
    let (m, gs) := expandPieces n word m
    (m, Field.joined m gs)

/-- The fields of words, behind those found before them. -/
def expandWords : Nat → List Octets → List Word → Machine → Machine × List Octets
  | 0, found, _, m => (m.quit 2, found)
  | _, found, [], m => (m, found)
  | n + 1, found, word :: rest, m =>
    let whole := (assigningCommands.contains (String.ofList (Call.of found).name))
      && (Reader.assignment? word).isSome
    if m.departed then (m, found)
    else if whole then
      let (m, text) := expandText n word m
      expandWords n (found ++ [text]) rest m
    else
      let (m, gs) := expandPieces n word m
      expandWords n (found ++ Field.all m gs) rest m

/-- Assigns names one after the other; the second result is what they got. -/
def assignAll : Nat → Bool → List (Octets × Word) → Machine → Machine × List (Octets × Octets)
  | 0, _, _, m => (m.quit 2, [])
  | _, _, [], m => (m, [])
  | n + 1, exporting, (name, value) :: rest, m =>
    let (m, text) := expandText n value m
    let m := m.assign name text
    let m := if exporting && !m.exported.contains name then
        { m with exported := name :: m.exported } else m
    let (m, more) := assignAll n exporting rest m
    (m, (name, text) :: more)

def redirect : Nat → Redirect → Machine → Machine.Connected
  | 0, _, m => (m.quit 2, true)
  | n + 1, r, m =>
    let connect (target : Word) (f : Machine → Octets → Machine.Connected) : Machine.Connected :=
      let (m, name) := expandText n target m
      if m.departed then (m, true) else f m name
    match r with
    | .write stream forced target => connect target (Machine.connectToNew · stream · forced)
    | .append stream target => connect target (Machine.connectTo · stream · true)
    | .read stream target => connect target (Machine.connectFrom · stream ·)
    | .update stream target => connect target (Machine.connectBoth · stream ·)
    | .copy stream target => connect target (Machine.connectAs · stream ·)
    | .here stream text => connect text fun m s => (m.supply stream ⟨s, false⟩, false)

def redirectAll : Nat → List Redirect → Machine → Machine.Connected
  | 0, _, m => (m.quit 2, true)
  | _, [], m => (m, false)
  | n + 1, r :: rest, m =>
    let (m, failed) := redirect n r m
    if failed || m.departed then (m, true) else redirectAll n rest m

/-- Runs a script; without any command its status is zero. -/
def runScript : Nat → Octets → Machine → Machine
  | 0, _, m => m.quit 2
  | n + 1, text, m => runLines n false ⟨1, text, 0, m.aliases⟩ m

/-- Runs a script line by line, up to one that cannot be read. -/
def runLines : Nat → Bool → Source → Machine → Machine
  | 0, _, _, m => m.quit 2
  | n + 1, ran, src, m =>
    if m.departed then m
    else if src.rest.isEmpty || m.options.contains 'n' then
      if ran then m else { m with status := 0 }
    else match readLine { src with aliases := m.aliases } with
      | .error e => { m with line := e.line }.abort (.misread e.cause)
      | .ok (.nothing, src) => runLines n ran src m
      | .ok (c, src) => runLines n true src (runCommand n c m)

/-- What runs at the end of a shell. -/
def runEnd : Nat → Machine → Machine
  | 0, m => m
  | n + 1, m =>
    match m.departure, m.traps.lookup 0 with
    | some (.killed _), _ => m
    | _, none => m
    | _, some action =>
      let status := m.lastStatus
      let m := { m with
        traps := m.traps.filter fun t => t.1 != 0
        status, departure := none, held := some status, speaker := none }
      let m := runScript n action m
      match m.departure with
      | some (.exited _) => m
      | some (.killed _) => m
      | _ => { m with departure := some (.exited status) }

/-- Runs a command in a shell of its own. -/
def runApart : Nat → Command → Machine → Machine
  | 0, _, m => m.quit 2
  | n + 1, body, m => (runEnd n (runCommand n body m.branch)).leave m

def runPending : Nat → Machine → Machine
  | 0, m => m
  | n + 1, m =>
    if m.departed || m.firstTraps.isSome then m
    else match m.pending.mergeSort fun a b => a ≤ b with
      | [] => m
      | signal :: _ =>
        let action := (m.traps.lookup signal).getD []
        let status := m.held.getD m.status
        let after := runScript n action { m with
          pending := m.pending.filter (· != signal), held := some status }
        let after := { after with held := m.held }
        runPending n (if after.departed then after else { after with status })

/-- Runs a command whose status is asked for. -/
def runTested : Nat → Command → Machine → Machine
  | 0, _, m => m.quit 2
  | n + 1, c, m => { runCommand n c { m with tested := true } with tested := m.tested }

def runCommand : Nat → Command → Machine → Machine
  | 0, _, m => m.quit 2
  | n + 1, c, m =>
    let m := runPending n m
    if m.departed || m.options.contains 'n' then m
    else match c with
      | .nothing => m
      | .simple line assignments words redirects =>
        (runPending n (runSimple n line assignments words redirects m)).mind
      | .subshell line body redirects =>
        let inner := { m with line }.branch
        let (inner, failed) := redirectAll n redirects inner
        let inner := if failed then inner else runCommand n body inner
        (runPending n ((runEnd n inner).leave m)).mind
      | .group line body redirects =>
        if redirects.isEmpty then runCommand n body m
        else
          let (inner, failed) := redirectAll n redirects { m with line }
          let inner := if failed then inner else runCommand n body inner
          inner.reconnect m redirects
      | .pipe source target =>
        let (after, text) := m.collect fun channel m =>
          runApart n source { m with streams := m.streams.lead 1 channel }
        -- a shell that was ended from inside leaves the other parts of the pipe running
        let inner := { after.branch with departure := none }.supply 0 ⟨text, false⟩
        let inner := runEnd n (runCommand n target { inner with status := m.status })
        (runPending n (inner.leave after)).mind
      | .negated body =>
        let m := runTested n body m
        if m.departed then m else { m with status := if m.status = 0 then 1 else 0 }
      | .both first second =>
        let m := runTested n first m
        if m.departed || m.status != 0 then m else runCommand n second m
      | .oneOf first second =>
        let m := runTested n first m
        if m.departed || m.status = 0 then m else runCommand n second m
      | .sequence first second => runCommand n second (runCommand n first m)
      | .background body =>
        let inner := ({ m with tested := false }.branch).supply 0 ⟨[], false⟩
        let after := (runEnd n (runCommand n body inner)).leave m
        { after with jobs := m.jobs ++ [after.status], status := 0 }
      | .choose condition yes no =>
        let m := runTested n condition m
        if m.departed then m
        else if m.status = 0 then runCommand n yes m
        else match no with
          | .nothing => { m with status := 0 }
          | no => runCommand n no m
      | .select line subject branches =>
        let (m, text) := expandText n subject { m with line }
        runSelected n text branches m
      | .loop until_ condition body =>
        let after := runLoop n until_ condition body 0 { m with loops := m.loops + 1 }
        { after with loops := m.loops }
      | .forEach line name words body =>
        let (m, fields) := match words with
          | some words => expandWords n [] words { m with line }
          | none => (m, m.arguments)
        if m.departed then m
        else if fields.isEmpty then { m with status := 0 }
        else
          let after := runEach n name fields body { m with loops := m.loops + 1 }
          { after with loops := m.loops }
      | .define name body =>
        { m with functions := (name, body) :: m.functions.filter fun f => f.1 != name
                 status := 0 }

def runSelected : Nat → Octets → List (List Word × Command) → Machine → Machine
  | 0, _, _, m => m.quit 2
  | _, _, [], m => if m.departed then m else { m with status := 0 }
  | n + 1, text, (patterns, body) :: rest, m =>
    let (m, fits) := matchAny n text patterns m
    if m.departed then m
    else if !fits then runSelected n text rest m
    else match body with
      | .nothing => { m with status := 0 }
      | body => runCommand n body m

def matchAny : Nat → Octets → List Word → Machine → Machine × Bool
  | 0, _, _, m => (m.quit 2, false)
  | _, _, [], m => (m, false)
  | n + 1, text, pattern :: rest, m =>
    let (m, gs) := expandPieces n pattern m
    if Pattern.fits (Pattern.items gs) text then (m, true) else matchAny n text rest m

/-- Runs a body as long as its condition holds; `status` is that of the last pass. -/
def runLoop : Nat → Bool → Command → Command → Nat → Machine → Machine
  | 0, _, _, _, _, m => m.quit 2
  | n + 1, until_, condition, body, status, m =>
    let m := runTested n condition m
    if m.departed then
      let (m, goesOn) := m.closePass
      if goesOn then runLoop n until_ condition body status m
      else if m.departed then m
      else { m with status }
    else if (m.status = 0) = until_ then { m with status }
    else
      let (m, goesOn) := (runCommand n body m).closePass
      if goesOn then runLoop n until_ condition body m.status m else m

def runEach : Nat → Octets → List Octets → Command → Machine → Machine
  | 0, _, _, _, m => m.quit 2
  | _, _, [], _, m => m
  | n + 1, name, field :: rest, body, m =>
    let (m, goesOn) := (runCommand n body (m.assign name field)).closePass
    if goesOn then runEach n name rest body m else m

def runSimple : Nat → Nat → List (Octets × Word) → List Word → List Redirect → Machine → Machine
  | 0, _, _, _, _, m => m.quit 2
  | n + 1, line, assignments, words, redirects, m =>
    let (m, fields) := expandWords n [] words { m with line, substituted := 0 }
    let call := Call.of fields
    if m.departed then m
    else
      let (r, failed) := redirectAll n redirects m
      if failed then
        let r := r.reconnect m redirects
        if call.isSpecial && !r.departed then { r with departure := some .failed } else r
      else
        let replaces := call.name = "exec".toList && !fields.isEmpty
        let lasts := fields.isEmpty || call.isSpecial
        let names := if lasts then [] else assignments.map Prod.fst
        let exporting := !lasts || (replaces && call.words.length > 1)
        let (r, assigned) := assignAll n exporting assignments r
        let r := r.trace m assigned fields
        let r :=
          if r.departed then r
          else if fields.isEmpty then { r with status := r.substituted }
          else perform n call r
        let r := r.giveBack (m.meanings names)
        if replaces then r else r.reconnect m redirects

/-- Does what the words of a command say. -/
def perform : Nat → Call → Machine → Machine
  | 0, _, m => m.quit 2
  | n + 1, call, m =>
    match call.words with
    | [] => m
    | name :: args =>
      match if call.plain then none else m.functions.lookup name with
      | some body => runFunction n body args m
      | none =>
        if !Builtin.isBuiltin name then runProgram n name args m
        else
          let inner := { m with speaker := some name, unsaid := false }
          let r :=
            if call.plain && name = "local".toList then
              let after := runBuiltin n name args { inner with scopes := [] :: m.scopes }
              { Builtin.restore (after.scopes.headD []) after with scopes := m.scopes }
            else runBuiltin n name args inner
          let r := if r.unsaid && !r.departed then
              r.complain (.problem (name ++ ": I/O error".toList)) 1 else r
          let r := { r with speaker := m.speaker, unsaid := false }
          match r.departure with
          | some .failed => if call.isSpecial then r else { r with departure := none }
          | _ => r

def runBuiltin : Nat → Octets → List Octets → Machine → Machine
  | 0, _, _, m => m.quit 2
  | n + 1, name, args, m =>
    match String.ofList name with
    | "eval" => runScript n ([' '].intercalate args) m
    | "." => runSourced n args m
    | "exec" =>
      let args := match args with
        | ['-', '-'] :: rest => rest
        | _ => args
      match args with
      | [] => { m with status := 0 }
      | name :: args =>
        let traps := match m.whereabouts name with
          | .program _ _ => m.traps.filter fun t => t.1 != 0
          | _ => m.traps
        let m := runProgram n name args m
        if m.departed then m else { m with traps }.quit m.status
    | "type" => describeAll args m
    | "hash" => rehash args m
    | "command" =>
      match args with
      | ['-', 'v'] :: names => locate names m
      | ['-', 'V'] :: names => describeAll names m
      | ('-' :: c :: _) :: _ =>
        if c = 'p' || c = '-' then { m with status := 0 }
        else m.complain (.problem ("Illegal option -".toList ++ [c])) 2
      | _ => { m with status := 0 }
    | _ =>
      match Builtin.find? name with
      | some builtin => builtin args m
      | none => m

def runSourced : Nat → List Octets → Machine → Machine
  | 0, _, m => m.quit 2
  | n + 1, args, m =>
    match args with
    | [] => { m with status := 0 }
    | name :: _ =>
      let directories := Text.splitAt ':' (m.textNamed "PATH")
      let candidates := directories.map fun d => if d.isEmpty then name else d ++ '/' :: name
      let isFile (path : Octets) : Bool := match m.arrive path with
        | .ok a => a.entry != .directory
        | .error _ => false
      let path? := if name.contains '/' then some name else candidates.find? isFile
      match path? with
      | none => m.abort (.notFound name)
      | some path =>
        match m.arrive path with
        | .error o => m.abort (.noSource path (Machine.sourceReason o).toList)
        | .ok a =>
          let text := match a.entry with
            | .file bytes => Octets.ofBytes bytes
            | _ => []
          let after := runScript n text { m with speaker := some path, tested := false }
          let after := { after with tested := m.tested }
          if after.departure = some .returned then { after with departure := none } else after

def runFunction : Nat → Command → List Octets → Machine → Machine
  | 0, _, _, m => m.quit 2
  | n + 1, body, args, m =>
    let after := runCommand n body
      { m.takeArguments args with loops := 0, scopes := [] :: m.scopes }
    let after := Builtin.restore (after.scopes.headD []) after
    { after with
      arguments := m.arguments, optionPlace := m.optionPlace
      loops := m.loops, scopes := m.scopes
      departure := if after.departure = some .returned then none else after.departure }

def runProgram : Nat → Octets → List Octets → Machine → Machine
  | 0, _, _, m => m.quit 2
  | n + 1, name, args, m =>
    match m.whereabouts name with
    | .program program _ =>
      let m := m.remember name
      let after := runFound n program name args m.asProcess
      { after with bindings := m.bindings, exported := m.exported }
    | .denied => m.complain (.denied name) 126
    | .missing => m.complain (if name.isEmpty then .denied name else .notFound name) 127

/-- Runs a program, which was called by a name of its own. -/
def runFound : Nat → Octets → Octets → List Octets → Machine → Machine
  | 0, _, _, _, m => m.quit 2
  | n + 1, program, called, args, m =>
    match String.ofList program with
    | "sh" | "dash" => runShell n called args m
    | "env" => runWithEnvironment n args m
    | "xargs" => runForInput n args m
    | "find" => runForFound n args m
    | "which" => sayPlaces args m
    | name =>
      match Program.all.lookup name with
      | some program => program args m
      | none => m

/-- Runs a shell as a process of its own. -/
def runShell : Nat → Octets → List Octets → Machine → Machine
  | 0, _, _, m => m.quit 2
  | n + 1, called, args, m =>
    match Program.Invocation.ofArguments called args with
    | .error e =>
      let inner := { m.fresh called [] [] with line := 0 }
      (inner.complain (.problem e.message) 2).reap m
    | .ok v =>
      let inner := m.fresh v.name v.options v.arguments
      let start := fun text m => runEnd n (runScript n text m)
      match v.script, v.file with
      | some script, _ => (start script inner).reap m
      | none, some file =>
        match m.content file with
        | .ok text => (start text inner).reap m
        | .error o =>
          let inner := { inner with name := called, line := 0 }
          (inner.complain (.noSource file (Machine.sourceReason o).toList) 2).reap m
      | none, none =>
        let text := m.input.text
        (start text (inner.leaveInput [])).reap m

/-- Runs a program with another environment, or shows it. -/
def runWithEnvironment : Nat → List Octets → Machine → Machine
  | 0, _, m => m.quit 2
  | n + 1, args, m =>
    let args := match args with
      | ['-'] :: rest => "-i".toList :: rest
      | args => args
    match Program.leadingFrom Program.envArguments (args.length + 1) args with
    | .error e => Program.misuse "env" e.message 125 m
    | .ok a =>
      let (inner, words) := Program.assigning (Program.withEnvironment a m) a.operands
      match words with
      | [] => Program.finish m inner.environmentText [] 0
      | name :: args =>
        match inner.whereabouts name with
        | .program program _ =>
          let after := runFound n program name args inner
          { after with bindings := m.bindings, exported := m.exported }
        | .denied =>
          Program.finish m [] ("env: ".toList ++ Program.marked m name
            ++ ": Permission denied\n".toList) 126
        | .missing =>
          Program.finish m [] ("env: ".toList ++ Program.marked m name
            ++ ": No such file or directory\n".toList) 127

/-- Runs a program for what comes in. -/
def runForInput : Nat → List Octets → Machine → Machine
  | 0, _, m => m.quit 2
  | n + 1, args, m =>
    match Program.leadingFrom Program.xargsArguments (args.length + 1) args with
    | .error e => Program.misuse "xargs" e.message 1 m
    | .ok a =>
      let text := m.input.text
      let commands := Program.commandsFor a text
      let m := if a.has 't' then
          commands.foldl (fun m c => m.say 2 ([' '].intercalate c ++ ['\n'])) m else m
      let after := runEachFor n "xargs" commands (m.leaveInput []).closeInput
      { after with streams := m.streams, sources := after.sources.take m.sources.length }

def runForFound : Nat → List Octets → Machine → Machine
  | 0, _, m => m.quit 2
  | n + 1, args, m =>
    match Program.Hunt.ofArguments args with
    | .error e => Program.finish m [] ("find: ".toList ++ e.message m ++ ['\n']) 1
    | .ok h =>
      let (found, errors) := h.found m
      let names := found.map Prod.fst
      let fill (words : List Octets) (name : Octets) : List Octets :=
        words.map fun w => Program.replaceMark ['\x7b', '\x7d'] name (w.length + 1) w
      match h.treatment with
      | .show_ mark => Program.Hunt.treat (some mark) found errors m
      | .delete => Program.Hunt.treat none found errors m
      | .each words =>
        let m := runEachFor n "find" (names.map (fill words)) { m.say 2 errors with status := 0 }
        { m with status := if errors.isEmpty then 0 else 1 }
      | .all words =>
        let m := { m.say 2 errors with status := 0 }
        let commands := if names.isEmpty then [] else [words ++ names]
        let m := runEachFor n "find" commands m
        { m with status := if errors.isEmpty && m.status = 0 then 0 else 1 }

/-- Runs one program after the other; the status tells whether one failed. -/
def runEachFor : Nat → String → List (List Octets) → Machine → Machine
  | 0, _, _, m => m.quit 2
  | _, _, [], m => m
  | n + 1, who, words :: rest, m =>
    let before := m.status
    let complain (m : Machine) (name : Octets) (problem : String) : Machine :=
      m.say 2 ((who ++ ": ").toList ++ (if who = "find" then Program.marked m name else name)
        ++ (": " ++ problem ++ "\n").toList)
    match words with
    | [] => runEachFor n who rest m
    | name :: args =>
      match m.whereabouts name with
      | .program program _ =>
        let m := runFound n program name args m
        if m.departed then m
        else if who = "find" then runEachFor n who rest m
        else if m.status = 255 then
          { complain m name "exited with status 255; aborting" with status := 124 }
        else if m.status = 126 || m.status = 127 then m
        else
          runEachFor n who rest
            { m with status := if m.status != 0 || before = 123 then 123 else 0 }
      | w =>
        let (problem, status) : String × Nat := if w = .denied then ("Permission denied", 126)
          else ("No such file or directory", 127)
        let m := { complain m name problem with status }
        if who = "find" then runEachFor n who rest m else m

end

inductive Ending where
  | exited (status : Nat)
  | killed (signal : Nat)
  deriving DecidableEq, Repr

/-- What running a script gave: the disk, how the shell ended, and what it wrote. -/
structure Completed where
  disk : Disk
  ending : Ending
  output : List UInt8
  errors : List UInt8

/-- More steps than a script takes that ends. -/
def fuel : Nat := 1000000

/-- Runs a script in the directory `here`, with no input. -/
def execute (disk : Disk) (here : Path) (environment : List (String × String)) (script : String) :
    Completed :=
  let bindings := environment.map fun v => (Octets.ofText v.1.toList, Octets.ofText v.2.toList)
  let (disk, lent) := System.lend Program.names disk
  let blank : Machine := {
    disk, here, bindings, name := [], arguments := [], optionPlace := .start
    exported := bindings.map Prod.fst
    fixed := [], functions := [], aliases := [], scopes := [], options := [], traps := []
    firstTraps := none, pending := [], doom := none, held := none, jobs := [], known := []
    mask := 18, loops := 0, tested := false, line := 1
    speaker := none, status := 0, substituted := 0, departure := none
    streams := .standard, sources := [⟨[], false⟩], unsaid := false
    output := [], errors := [], pipes := [] }
  let start := blank.fresh "/bin/sh".toList [] []
  let m := runEnd fuel (runScript fuel (Octets.ofText script.toList) start)
  let ending := match m.departure with
    | some (.killed signal) => .killed signal
    | _ => .exited (m.lastStatus % 256)
  ⟨System.takeBack lent m.disk, ending, Octets.toBytes m.output, Octets.toBytes m.errors⟩

end LintDispatch.Shell
