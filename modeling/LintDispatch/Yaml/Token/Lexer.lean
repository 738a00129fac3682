import LintDispatch.Yaml.Token.Block
import LintDispatch.Yaml.Token.Plain
import LintDispatch.Yaml.Token.Quoted

/-!
Reading the tokens of a document. The lexer follows the indentation of blocks and remembers where a
mapping key may have begun: only the colon behind it tells, so the tokens that mark a key and its
mapping are put in front of it later. Such a key ends on its line and within 1024 characters.
-/

namespace LintDispatch.Yaml

/-- A place where a key may have begun. A required one stands at the indentation of its block, where
only a key can stand. -/
structure KeyMark where
  number : Nat
  required : Bool
  index : Nat
  line : Nat
  column : Nat
  deriving Repr

structure Lexer where
  cursor : Cursor
  /-- The column of the innermost block, -1 outside of all blocks. -/
  indent : Int
  outerIndents : List Int
  /-- The possible key at the innermost level of brackets, and those at the levels around it. -/
  key : Option KeyMark
  outerKeys : List (Option KeyMark)
  allowKey : Bool
  /-- The tokens so far, the last one first. -/
  emitted : List Token
  deriving Repr

namespace Lexer

def start (text : List Char) : Lexer :=
  ⟨.start text, -1, [], none, [], true, []⟩

def inFlow (l : Lexer) : Bool :=
  !l.outerKeys.isEmpty

def column (l : Lexer) : Nat :=
  l.cursor.column

def emit (l : Lexer) (t : Token) : Lexer :=
  { l with emitted := t :: l.emitted }

/-- Emits a token of one character. -/
def emitOver (l : Lexer) (t : Token) : Lexer :=
  { l with emitted := t :: l.emitted, cursor := l.cursor.next }

/-- Puts a token in front of the token with a given number. -/
def insertAt (l : Lexer) (number : Nat) (t : Token) : Lexer :=
  let later := l.emitted.length - number
  { l with emitted := l.emitted.take later ++ t :: l.emitted.drop later }

def maxKeyLength : Nat := 1024

/-- A key mark that may still be the start of a key; a required one has to be. -/
def fresh (c : Cursor) : Option KeyMark → Except Error (Option KeyMark)
  | none => .ok none
  | some k =>
    if k.line ≠ c.line ∨ k.index + maxKeyLength < c.index then
      if k.required then .error .malformed else .ok none
    else .ok (some k)

def dropStale (l : Lexer) : Except Error Lexer := do
  let key ← fresh l.cursor l.key
  let outerKeys ← l.outerKeys.mapM (fresh l.cursor)
  return { l with key := key, outerKeys := outerKeys }

/-- Gives up the possible key at this level. -/
def dropKey (l : Lexer) : Except Error Lexer :=
  match l.key with
  | some k => if k.required then .error .malformed else .ok { l with key := none }
  | none => .ok l

/-- Remembers that a key may begin here. -/
def markKey (l : Lexer) : Except Error Lexer :=
  if l.allowKey then do
    let required := !l.inFlow && l.indent == l.column
    let l ← l.dropKey
    let c := l.cursor
    return { l with key := some ⟨l.emitted.length, required, c.index, c.line, c.column⟩ }
  else .ok l

/-- Closes the blocks that lie deeper than a column. -/
def closeBlocks (column : Int) : List Int → Lexer → Lexer
  | [], l => l
  | outer :: rest, l =>
    if column < l.indent then
      closeBlocks column rest { l.emit .blockEnd with indent := outer, outerIndents := rest }
    else l

def unwind (l : Lexer) (column : Int) : Lexer :=
  if l.inFlow then l else closeBlocks column l.outerIndents l

/-- Opens a block at a column if it lies deeper than the block around it. -/
def openBlock (l : Lexer) (column : Nat) : Option Lexer :=
  if l.indent < column then
    some { l with indent := column, outerIndents := l.indent :: l.outerIndents }
  else none

/-- Opens a block at this column, with the token for its start. -/
def openHere (l : Lexer) (t : Token) : Lexer :=
  match l.openBlock l.column with
  | some l => l.emit t
  | none => l

def skipToToken : Nat → Lexer → Lexer
  | 0, l => l
  | fuel + 1, l =>
    match l.cursor.skipSpaces.skipComment.lineBreak with
    | ([], c) => { l with cursor := c }
    | (_, c) => skipToToken fuel { l with cursor := c, allowKey := l.allowKey || !l.inFlow }

def toNextToken (l : Lexer) : Lexer :=
  let l :=
    if l.cursor.index = 0 ∧ l.cursor.peek = byteOrderMark then { l with cursor := l.cursor.next }
    else l
  skipToToken (l.cursor.rest.length + 1) l

def fetchStreamEnd (l : Lexer) : Except Error Lexer := do
  let l ← (l.unwind (-1)).dropKey
  return { l.emit .streamEnd with allowKey := false, key := none, outerKeys := [] }

def fetchDirective (l : Lexer) : Except Error Lexer := do
  let l ← (l.unwind (-1)).dropKey
  let (t, c) ← scanDirective l.cursor
  return { l.emit t with allowKey := false, cursor := c }

def fetchMarker (l : Lexer) (t : Token) : Except Error Lexer := do
  let l ← (l.unwind (-1)).dropKey
  return { l.emit t with allowKey := false, cursor := l.cursor.advance 3 }

def fetchFlowStart (l : Lexer) (t : Token) : Except Error Lexer := do
  let l ← l.markKey
  return { l.emitOver t with key := none, outerKeys := l.key :: l.outerKeys, allowKey := true }

def fetchFlowEnd (l : Lexer) (t : Token) : Except Error Lexer := do
  let l ← l.dropKey
  let l := { l.emitOver t with allowKey := false }
  return { l with key := l.outerKeys.headD none, outerKeys := l.outerKeys.tail }

def fetchFlowEntry (l : Lexer) : Except Error Lexer := do
  let l ← l.dropKey
  return { l.emitOver .flowEntry with allowKey := true }

def fetchBlockEntry (l : Lexer) : Except Error Lexer :=
  if l.inFlow then do
    let l ← l.dropKey
    return { l.emitOver .blockEntry with allowKey := true }
  else if l.allowKey then do
    let l ← (l.openHere .blockSequence).dropKey
    return { l.emitOver .blockEntry with allowKey := true }
  else .error .malformed

def fetchKey (l : Lexer) : Except Error Lexer :=
  if l.inFlow then do
    let l ← l.dropKey
    return { l.emitOver .key with allowKey := false }
  else if l.allowKey then do
    let l ← (l.openHere .blockMapping).dropKey
    return { l.emitOver .key with allowKey := true }
  else .error .malformed

/-- The colon behind a possible key makes it a key, and opens a mapping if none is open there. -/
def fetchValueOf (l : Lexer) (k : KeyMark) : Lexer :=
  let l := { l with key := none }.insertAt k.number .key
  let l :=
    if l.inFlow then l
    else
      match l.openBlock k.column with
      | some l => l.insertAt k.number .blockMapping
      | none => l
  { l.emitOver .value with allowKey := false }

def fetchValue (l : Lexer) : Except Error Lexer :=
  match l.key with
  | some k => .ok (l.fetchValueOf k)
  | none =>
    if l.inFlow then .ok { l.emitOver .value with allowKey := false }
    else if l.allowKey then
      .ok { (l.openHere .blockMapping).emitOver .value with allowKey := true }
    else .error .malformed

def fetchNode (l : Lexer) (scan : Cursor → Except Error (Token × Cursor)) : Except Error Lexer := do
  let l ← l.markKey
  let (t, c) ← scan l.cursor
  return { l.emit t with allowKey := false, cursor := c }

def scanNamed (token : List Char → Token) (c : Cursor) : Except Error (Token × Cursor) := do
  let (name, c) ← scanAnchorName c.next
  return (token name, c)

def fetchBlock (l : Lexer) (folded : Bool) : Except Error Lexer := do
  let l ← l.dropKey
  let (t, c) ← Block.scan folded (max 1 (l.indent + 1).toNat) l.cursor
  return { l.emit t with allowKey := true, cursor := c }

def fetchPlain (l : Lexer) : Except Error Lexer := do
  let l ← l.markKey
  let r := Plain.read l.inFlow (l.indent + 1).toNat l.cursor
  return { l.emit (.scalar (.chars r.chars) true) with allowKey := r.broken, cursor := r.cursor }

/-- Characters with which no plain scalar begins. -/
def isIndicator (c : Char) : Bool :=
  "-?:,[]\x7b\x7d#&*!|>'\"%@\x60".toList.contains c

def startsPlain (l : Lexer) : Bool :=
  let x := l.cursor.peek
  !(isGap x || isIndicator x)
    || (!isGap (l.cursor.peekAt 1) && (x = '-' || (!l.inFlow && (x = '?' || x = ':'))))

/-- The next token, which begins at the cursor. -/
def fetchHere (l : Lexer) : Except Error Lexer :=
  let c := l.cursor
  let x := c.peek
  let alone := isGap (c.peekAt 1)
  if x = '\x00' then l.fetchStreamEnd
  else if x = '%' ∧ c.column = 0 then l.fetchDirective
  else if c.column = 0 ∧ c.hasMarker '-' then l.fetchMarker .documentStart
  else if c.column = 0 ∧ c.hasMarker '.' then l.fetchMarker .documentEnd
  else if x = '[' then l.fetchFlowStart .flowSequence
  else if x = '\x7b' then l.fetchFlowStart .flowMapping
  else if x = ']' then l.fetchFlowEnd .flowSequenceEnd
  else if x = '\x7d' then l.fetchFlowEnd .flowMappingEnd
  else if x = ',' then l.fetchFlowEntry
  else if x = '-' ∧ alone then l.fetchBlockEntry
  else if x = '?' ∧ (l.inFlow ∨ alone) then l.fetchKey
  else if x = ':' ∧ (l.inFlow ∨ alone) then l.fetchValue
  else if x = '*' then l.fetchNode (scanNamed .alias)
  else if x = '&' then l.fetchNode (scanNamed .anchor)
  else if x = '!' then l.fetchNode scanTag
  else if x = '|' ∧ !l.inFlow then l.fetchBlock false
  else if x = '>' ∧ !l.inFlow then l.fetchBlock true
  else if x = '\'' then l.fetchNode (Quoted.scan false)
  else if x = '"' then l.fetchNode (Quoted.scan true)
  else if l.startsPlain then l.fetchPlain
  else .error .malformed

def fetch (l : Lexer) : Except Error Lexer := do
  let l ← l.toNextToken.dropStale
  (l.unwind l.column).fetchHere

/-- How many tokens are settled: those in front of every possible key. -/
def settled (l : Lexer) : Nat :=
  (l.key :: l.outerKeys).foldl (fun n k => (k.map KeyMark.number).elim n (min n)) l.emitted.length

end Lexer

/-- The tokens of a text, up to the first error that the lexer met, if it met one. -/
structure TokenStream where
  tokens : List Token
  fault : Option Error
  deriving Repr

namespace TokenStream

def upTo (l : Lexer) (n : Nat) (fault : Option Error) : TokenStream :=
  ⟨l.emitted.reverse.take n, fault⟩

def readFrom : Nat → Lexer → TokenStream
  | 0, l => upTo l l.settled (some .recursion)
  | fuel + 1, l =>
    match l.dropStale with
    | .error e => upTo l l.settled (some e)
    | .ok l =>
      match l.fetch with
      | .error e => upTo l l.settled (some e)
      | .ok next =>
        if next.emitted.head? = some .streamEnd then upTo next next.emitted.length none
        else readFrom fuel next

def ofText (text : List Char) : TokenStream :=
  readFrom (text.length + 2) (.start text)

end TokenStream

end LintDispatch.Yaml
