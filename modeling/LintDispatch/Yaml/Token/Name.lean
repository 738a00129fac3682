import LintDispatch.Number.Numeral
import LintDispatch.Text.Utf8
import LintDispatch.Yaml.Cursor
import LintDispatch.Yaml.Error
import LintDispatch.Yaml.Token

/-!
Tokens that are names: anchors and aliases, tags, and the directives in front of a document.
-/

namespace LintDispatch.Yaml

/-- A name, which has to end in front of a gap or of one of a few indicators. -/
def scanAnchorName (c : Cursor) : Except Error (List Char × Cursor) :=
  let (name, c) := c.span isNameChar
  if name.isEmpty then .error .malformed
  else if isGap c.peek || "?:,]\x7d%@\x60".toList.contains c.peek then .ok (name, c)
  else .error .malformed

def isUriChar (c : Char) : Bool :=
  c.isAlphanum || "-;/?:@&=+$,_.!~*'()[]%".toList.contains c

/-- Two hexadecimal digits. -/
def hexPair? (a b : Char) : Option UInt8 :=
  (Numeral.digits? 16 [a, b]).bind fun n =>
    if a.isAlphanum && b.isAlphanum then some n.toUInt8 else none

/-- The characters of a URI in which runs of escapes such as `%C3%A9` stand for the characters they
encode; `pending` are the bytes of the run so far. -/
def unescapeUri (pending : List UInt8) : List Char → Option (List Char)
  | '%' :: a :: b :: s => do unescapeUri (pending ++ [← hexPair? a b]) s
  | '%' :: _ => none
  | [] => Text.decodeUtf8? pending
  | c :: s => do return (← Text.decodeUtf8? pending) ++ c :: (← unescapeUri [] s)

def scanUri (c : Cursor) : Except Error (List Char × Cursor) :=
  let (raw, c) := c.span isUriChar
  if raw.isEmpty then .error .malformed
  else
    match unescapeUri [] raw with
    | some uri => .ok (uri, c)
    | none => .error .malformed

/-- A handle: one exclamation mark, or a name between two of them. -/
def scanHandle (c : Cursor) : Except Error (List Char × Cursor) :=
  if c.peek ≠ '!' then .error .malformed
  else if c.peekAt 1 = ' ' then .ok (['!'], c.next)
  else
    let (name, c) := c.next.span isNameChar
    if c.peek = '!' then .ok ('!' :: name ++ ['!'], c.next) else .error .malformed

def scanVerbatimTag (c : Cursor) : Except Error (Token × Cursor) := do
  let (suffix, c) ← scanUri (c.advance 2)
  if c.peek = '>' then .ok (.tag none suffix, c.next) else .error .malformed

/-- The tag has a second exclamation mark before the next space. -/
def hasHandle (c : Cursor) : Bool :=
  (c.next.span fun x => x ≠ '!' && !isSpaceOrEnd x).2.peek = '!'

def scanTag (c : Cursor) : Except Error (Token × Cursor) := do
  let x := c.peekAt 1
  let (token, c) ←
    if x = '<' then scanVerbatimTag c
    else if isGap x then .ok (Token.tag none ['!'], c.next)
    else do
      let (handle, c) ← if hasHandle c then scanHandle c else .ok (['!'], c.next)
      let (suffix, c) ← scanUri c
      .ok (Token.tag (some handle) suffix, c)
  if isSpaceOrEnd c.peek then .ok (token, c) else .error .malformed

/-- The rest of a line that may hold a comment and nothing else. -/
def scanLineEnd (c : Cursor) : Except Error Cursor :=
  let c := c.skipSpaces.skipComment
  if isBreakOrEnd c.peek then .ok c.lineBreak.2 else .error .malformed

/-- One of the two numbers of a version. -/
def scanVersionPart (c : Cursor) : Except Error (Nat × Cursor) :=
  let (digits, c) := c.span Char.isDigit
  if digits.isEmpty then .error .malformed
  else if Error.maxDigits < digits.length then .error (.integerSize digits.length)
  else .ok ((Numeral.digits? 10 digits).getD 0, c)

def scanVersion (c : Cursor) : Except Error (Directive × Cursor) := do
  let (major, c) ← scanVersionPart c.skipSpaces
  if c.peek ≠ '.' then .error .malformed
  else do
    let (_, c) ← scanVersionPart c.next
    if isSpaceOrEnd c.peek then .ok (.version major, c) else .error .malformed

def scanHandleDirective (c : Cursor) : Except Error (Directive × Cursor) := do
  let (name, c) ← scanHandle c.skipSpaces
  if c.peek ≠ ' ' then .error .malformed
  else do
    let (leader, c) ← scanUri c.skipSpaces
    if isSpaceOrEnd c.peek then .ok (.handle name leader, c) else .error .malformed

def scanDirective (c : Cursor) : Except Error (Token × Cursor) := do
  let (name, c) := c.next.span isNameChar
  if name.isEmpty || !isSpaceOrEnd c.peek then .error .malformed
  else do
    let (d, c) ←
      if name = "YAML".toList then scanVersion c
      else if name = "TAG".toList then scanHandleDirective c
      else .ok (Directive.other, c.skip fun x => !isBreak x)
    let c ← scanLineEnd c
    .ok (.directive d, c)

end LintDispatch.Yaml
