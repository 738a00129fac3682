import LintDispatch.Text.Utf8
import LintDispatch.Yaml.Document

/-!
Documents as bytes. The bytes are UTF-8, a carriage return ends a line alone or with the line feed
behind it, and control characters other than those of white space are refused. A document is read
in portions, and what is wrong with a portion shows only when the portion is called for.
-/

namespace LintDispatch.Yaml

/-- Line endings of any form become line feeds. -/
def unifyBreaks : List Char → List Char
  | [] => []
  | '\r' :: '\n' :: s => '\n' :: unifyBreaks s
  | c :: s => (if c = '\r' then '\n' else c) :: unifyBreaks s

/-- Characters that a document may hold. -/
def isAllowed (c : Char) : Bool :=
  let n := c.toNat
  n = 0x09 || n = 0x0a || n = 0x0d || (0x20 ≤ n && n ≤ 0x7e) || n = 0x85
    || (0xa0 ≤ n && n ≤ 0xd7ff) || (0xe000 ≤ n && n ≤ 0xfffd) || 0x10000 ≤ n

/-- The sound portions of a text, and what is wrong with the portion behind them. -/
structure Supply where
  text : List Char
  fault : Option Error
  deriving Repr

namespace Supply

/-- How many characters a portion has; the first one is two portions long. -/
def portion : Nat := 4096

/-- How many bytes are decoded at a time. -/
def chunk : Nat := 8192

/-- How many of `n` characters are in whole portions. -/
def wholePortions (n : Nat) : Nat :=
  if n < 2 * portion then 0 else n / portion * portion

/-- What is sound of a decoded text, with `fault` behind it. -/
def ofText (s : List Char) (fault : Option Error) : Supply :=
  let sound := s.takeWhile isAllowed
  if sound.length = s.length then ⟨s, fault⟩
  else ⟨sound.take (wholePortions sound.length), some .malformed⟩

/-- The sound characters of bytes that are no UTF-8: those decoded before the chunk in which the
first broken one shows. -/
def decodable (bytes : List UInt8) : List Char :=
  let (s, rest) := Text.decodeFront bytes.length bytes
  let shows := bytes.length - rest.length + 1 + Text.brokenLength (rest.headD 0) rest.tail
  if bytes.length ≤ shows then s
  else (Text.decodeFront bytes.length (bytes.take (shows / chunk * chunk))).1

def ofBytes (bytes : List UInt8) : Supply :=
  match Text.decodeUtf8? bytes with
  | some s => ofText (unifyBreaks s) none
  | none =>
    let s := unifyBreaks (decodable bytes)
    ofText (s.take (wholePortions s.length)) (some .encoding)

end Supply

/-- What two lists begin with alike. -/
def commonFront {α : Type} [BEq α] : List α → List α → List α
  | a :: as, b :: bs => if a == b then a :: commonFront as bs else []
  | _, _ => []

namespace TokenStream

/-- Goes on differently behind every kind of token. -/
def otherEnding : List Char := "\"'\nx".toList

/-- The tokens of a supply. Where there is more behind it, only those tokens and that error count
which come out alike for two different endings; the others call for the portion behind. -/
def ofSupply (s : Supply) : TokenStream :=
  match s.fault with
  | none => ofText s.text
  | some e =>
    let a := ofText s.text
    let b := ofText (s.text ++ otherEnding)
    if a.tokens = b.tokens ∧ a.fault = b.fault ∧ a.fault.isSome then a
    else ⟨commonFront a.tokens b.tokens, some e⟩

end TokenStream

/-- The value of the document that the bytes hold; no document is null. -/
def loadWithin (depth : Depth) (bytes : List UInt8) : Except Error Value := do
  match ← Document.ofTokens? depth.nodes (TokenStream.ofSupply (Supply.ofBytes bytes)) with
  | none => return .null
  | some d => d.value depth

def load (bytes : List UInt8) : Except Error Value :=
  loadWithin .usual bytes

end LintDispatch.Yaml
