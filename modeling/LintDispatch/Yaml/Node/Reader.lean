import LintDispatch.Yaml.Node
import LintDispatch.Yaml.Token.Lexer

/-!
Reading the one document of a token stream. The grammar is followed token by token; where the
tokens end, the error of the stream is met. An anchor is known from its node on, so that a node may
refer to itself, and no anchor is given twice. A collection is read by a call of its own, so only so
many fit into one another.
-/

namespace LintDispatch.Yaml

/-- What the reader goes on with: the tokens left, the handles for tags, the anchors given so far,
and the finished nodes that carry them. -/
structure Reader where
  tokens : List Token
  fault : Error
  handles : List (List Char × List Char)
  given : List (List Char)
  anchors : List (List Char × Node)

namespace Reader

def peek (r : Reader) : Except Error Token :=
  match r.tokens with
  | t :: _ => .ok t
  | [] => .error r.fault

def drop (r : Reader) : Reader :=
  { r with tokens := r.tokens.tail }

structure Properties where
  anchor : Option (List Char)
  tag : Option (Option (List Char) × List Char)

def readAnchor (r : Reader) : Except Error (Option (List Char) × Reader) := do
  match ← r.peek with
  | .anchor name => return (some name, r.drop)
  | _ => return (none, r)

def readTag (r : Reader) :
    Except Error (Option (Option (List Char) × List Char) × Reader) := do
  match ← r.peek with
  | .tag handle suffix => return (some (handle, suffix), r.drop)
  | _ => return (none, r)

def readProperties (r : Reader) : Except Error (Properties × Reader) := do
  let (anchor, r) ← r.readAnchor
  let (tag, r) ← r.readTag
  if anchor.isNone && tag.isSome then
    let (anchor, r) ← r.readAnchor
    return (⟨anchor, tag⟩, r)
  else return (⟨anchor, tag⟩, r)

/-- The whole tag, which is absent for the tag that says nothing. -/
def wholeTag? (r : Reader) : Option (Option (List Char) × List Char) →
    Except Error (Option (List Char))
  | none => .ok none
  | some (none, suffix) => .ok (if suffix = ['!'] then none else some suffix)
  | some (some handle, suffix) =>
    match r.handles.lookup handle with
    | some leader => .ok (if leader ++ suffix = ['!'] then none else some (leader ++ suffix))
    | none => .error .malformed

def giveAnchor (r : Reader) : Option (List Char) → Except Error Reader
  | none => .ok r
  | some name =>
    if r.given.contains name then .error .malformed
    else .ok { r with given := name :: r.given }

/-- Begins a collection, for which there has to be room; what is left is room for those in it. -/
def enter (r : Reader) (room : Nat) (anchor : Option (List Char)) :
    Except Error (Nat × Reader) := do
  let r ← r.giveAnchor anchor
  match room with
  | 0 => .error .recursion
  | room + 1 => return (room, r)

/-- Keeps a node apart if it carries an anchor. -/
def keepAnchor (r : Reader) (name : Option (List Char)) (n : Node) : Node × Reader :=
  match name with
  | some name => (.alias name, { r with anchors := r.anchors ++ [(name, n)] })
  | none => (n, r)

/-- The kind of a scalar, which is told by its form if it has no tag and is plain, or if its tag
says nothing. -/
def scalarKind (tagGiven : Bool) (tag : Option (List Char)) (plain : Bool) (c : Content) : Kind :=
  match tag with
  | some tag => .ofTag tag
  | none => if plain || tagGiven then .ofContent c else .str

def collectionKind (tag : Option (List Char)) (default : Kind) : Kind :=
  (tag.map Kind.ofTag).getD default

/-- A node of which nothing but its properties is there. -/
def readBlank (r : Reader) (properties : Properties) (tag : Option (List Char)) :
    Except Error (Node × Reader) :=
  if properties.anchor.isNone && properties.tag.isNone then .error .malformed
  else do
    let r ← r.giveAnchor properties.anchor
    return (.scalar ((tag.map Kind.ofTag).getD .null) (.chars []), r)

/-- Where a node stands: whether blocks may begin there, and whether the entries of a sequence may
stand there without a block of their own. -/
structure Place where
  block : Bool
  indentless : Bool

def inFlow : Place := ⟨false, false⟩

def inBlock : Place := ⟨true, false⟩

def inMapping : Place := ⟨true, true⟩

/-- Goes on to an entry between brackets or braces: over a comma, unless it is the first entry. In
front of `stop` there is none. -/
def toEntry (r : Reader) (stop : Token) (first : Bool) : Except Error Reader := do
  let t ← r.peek
  if first || t = stop then return r
  else if t = .flowEntry then return r.drop
  else .error .malformed

mutual

/-- One node; `room` is how many collections still fit into one another. -/
def readNode : Nat → Nat → Place → Reader → Except Error (Node × Reader)
  | 0, _, _, _ => .error .recursion
  | fuel + 1, room, place, r => do
    match ← r.peek with
    | .alias name =>
      if r.given.contains name then return (.alias name, r.drop) else .error .malformed
    | _ =>
      let (properties, r) ← r.readProperties
      let tag ← r.wholeTag? properties.tag
      let (n, r) ← readContent fuel room place properties tag r
      return r.keepAnchor properties.anchor n
termination_by structural fuel => fuel

def readContent : Nat → Nat → Place → Properties → Option (List Char) → Reader →
    Except Error (Node × Reader)
  | 0, _, _, _, _, _ => .error .recursion
  | fuel + 1, room, place, properties, tag, r => do
    match ← r.peek with
    | .scalar content plain =>
      let r ← r.giveAnchor properties.anchor
      return (.scalar (scalarKind properties.tag.isSome tag plain content) content, r.drop)
    | .flowSequence =>
      let (room, r) ← r.enter room properties.anchor
      let (items, r) ← readFlowSequence fuel room true r.drop
      return (.sequence (collectionKind tag .seq) items, r)
    | .flowMapping =>
      let (room, r) ← r.enter room properties.anchor
      let (entries, r) ← readFlowMapping fuel room true r.drop
      return (.mapping (collectionKind tag .map) entries, r)
    | .blockEntry =>
      if place.indentless then
        let (room, r) ← r.enter room properties.anchor
        let (items, r) ← readIndentless fuel room r
        return (.sequence (collectionKind tag .seq) items, r)
      else r.readBlank properties tag
    | .blockSequence =>
      if place.block then
        let (room, r) ← r.enter room properties.anchor
        let (items, r) ← readBlockSequence fuel room r.drop
        return (.sequence (collectionKind tag .seq) items, r)
      else r.readBlank properties tag
    | .blockMapping =>
      if place.block then
        let (room, r) ← r.enter room properties.anchor
        let (entries, r) ← readBlockMapping fuel room r.drop
        return (.mapping (collectionKind tag .map) entries, r)
      else r.readBlank properties tag
    | _ => r.readBlank properties tag
termination_by structural fuel => fuel

/-- A node, or an empty one in front of some tokens. -/
def readUnless : Nat → Nat → List Token → Place → Reader → Except Error (Node × Reader)
  | 0, _, _, _, _ => .error .recursion
  | fuel + 1, room, stops, place, r => do
    if stops.contains (← r.peek) then return (.empty, r) else readNode fuel room place r
termination_by structural fuel => fuel

/-- The value behind a colon, or an empty one where there is no colon. -/
def readValue : Nat → Nat → List Token → Place → Reader → Except Error (Node × Reader)
  | 0, _, _, _, _ => .error .recursion
  | fuel + 1, room, stops, place, r => do
    match ← r.peek with
    | .value => readUnless fuel room stops place r.drop
    | _ => return (.empty, r)
termination_by structural fuel => fuel

/-- An entry of a mapping behind the mark of its key. -/
def readEntry : Nat → Nat → List Token → Place → Reader → Except Error ((Node × Node) × Reader)
  | 0, _, _, _, _ => .error .recursion
  | fuel + 1, room, stops, place, r => do
    let (k, r) ← readUnless fuel room (.value :: stops) place r
    let (v, r) ← readValue fuel room stops place r
    return ((k, v), r)
termination_by structural fuel => fuel

def readBlockSequence : Nat → Nat → Reader → Except Error (List Node × Reader)
  | 0, _, _ => .error .recursion
  | fuel + 1, room, r => do
    match ← r.peek with
    | .blockEntry =>
      let (n, r) ← readUnless fuel room [.blockEntry, .blockEnd] inBlock r.drop
      let (rest, r) ← readBlockSequence fuel room r
      return (n :: rest, r)
    | .blockEnd => return ([], r.drop)
    | _ => .error .malformed
termination_by structural fuel => fuel

def readIndentless : Nat → Nat → Reader → Except Error (List Node × Reader)
  | 0, _, _ => .error .recursion
  | fuel + 1, room, r => do
    match ← r.peek with
    | .blockEntry =>
      let (n, r) ← readUnless fuel room [.blockEntry, .key, .value, .blockEnd] inBlock r.drop
      let (rest, r) ← readIndentless fuel room r
      return (n :: rest, r)
    | _ => return ([], r)
termination_by structural fuel => fuel

def readBlockMapping : Nat → Nat → Reader → Except Error (List (Node × Node) × Reader)
  | 0, _, _ => .error .recursion
  | fuel + 1, room, r => do
    match ← r.peek with
    | .key =>
      let (entry, r) ← readEntry fuel room [.key, .value, .blockEnd] inMapping r.drop
      let (rest, r) ← readBlockMapping fuel room r
      return (entry :: rest, r)
    | .blockEnd => return ([], r.drop)
    | _ => .error .malformed
termination_by structural fuel => fuel

/-- The items of a sequence between brackets; `first` says that none came before. An item with a
colon is a mapping of one entry. -/
def readFlowSequence : Nat → Nat → Bool → Reader → Except Error (List Node × Reader)
  | 0, _, _, _ => .error .recursion
  | fuel + 1, room, first, r => do
    let r ← r.toEntry .flowSequenceEnd first
    match ← r.peek with
    | .flowSequenceEnd => return ([], r.drop)
    | .key =>
      let (n, r) ← readPair fuel room r
      let (rest, r) ← readFlowSequence fuel room false r
      return (n :: rest, r)
    | _ =>
      let (n, r) ← readNode fuel room inFlow r
      let (rest, r) ← readFlowSequence fuel room false r
      return (n :: rest, r)
termination_by structural fuel => fuel

/-- A mapping of one entry that stands in a sequence without braces of its own. -/
def readPair : Nat → Nat → Reader → Except Error (Node × Reader)
  | 0, _, _ => .error .recursion
  | fuel + 1, room, r => do
    let (room, r) ← r.enter room none
    let (entry, r) ← readEntry fuel room [.flowEntry, .flowSequenceEnd] inFlow r.drop
    return (.mapping .map [entry], r)
termination_by structural fuel => fuel

def readFlowMapping : Nat → Nat → Bool → Reader → Except Error (List (Node × Node) × Reader)
  | 0, _, _, _ => .error .recursion
  | fuel + 1, room, first, r => do
    let r ← r.toEntry .flowMappingEnd first
    match ← r.peek with
    | .flowMappingEnd => return ([], r.drop)
    | .key =>
      let (entry, r) ← readEntry fuel room [.flowEntry, .flowMappingEnd] inFlow r.drop
      let (rest, r) ← readFlowMapping fuel room false r
      return (entry :: rest, r)
    | _ =>
      let (k, r) ← readNode fuel room inFlow r
      let (rest, r) ← readFlowMapping fuel room false r
      return ((k, .empty) :: rest, r)
termination_by structural fuel => fuel

end

/-- Handles that need no directive. -/
def ownHandles : List (List Char × List Char) :=
  [(['!'], ['!']), (['!', '!'], Kind.coreTag)]

/-- The directives of a document. A version may be given once, a handle may be given once, and the
version has to be one that is known. -/
def readDirectives (versionGiven : Bool) (handles : List (List Char × List Char)) :
    List Token → Except Error (List (List Char × List Char) × List Token)
  | .directive (.version major) :: rest =>
    if versionGiven || major != 1 then .error .malformed else readDirectives true handles rest
  | .directive (.handle name leader) :: rest =>
    if (handles.lookup name).isSome then .error .malformed
    else readDirectives versionGiven (handles ++ [(name, leader)]) rest
  | .directive .other :: rest => readDirectives versionGiven handles rest
  | rest => .ok (handles, rest)

/-- Enough for any number of tokens: between two tokens at most four calls are made. -/
def fuel (r : Reader) : Nat :=
  4 * r.tokens.length + 8

/-- The root of a document that begins with an explicit mark, which may be empty. -/
def readMarked (r : Reader) (room : Nat) : Except Error (Node × Reader) := do
  let (handles, rest) ← readDirectives false [] r.tokens
  let r := { r with tokens := rest, handles := handles ++ ownHandles }
  match ← r.peek with
  | .documentStart =>
    let r := r.drop
    match ← r.peek with
    | .directive _ | .documentStart | .documentEnd | .streamEnd => return (.empty, r)
    | _ => readNode r.fuel room inBlock r
  | _ => .error .malformed

def readRoot (r : Reader) (room : Nat) : Except Error (Node × Reader) := do
  match ← r.peek with
  | .directive _ | .documentStart => r.readMarked room
  | _ => readNode r.fuel room inBlock r

/-- Nothing but marks of an end may follow the document. -/
def readEnd (r : Reader) : Except Error Unit := do
  match ← peek { r with tokens := r.tokens.dropWhile (· = Token.documentEnd) } with
  | .streamEnd => return ()
  | _ => .error .malformed

end Reader

/-- The document of a token stream, if it holds one. -/
def Document.ofTokens? (room : Nat) (s : TokenStream) : Except Error (Option Document) := do
  let r : Reader := ⟨s.tokens, s.fault.getD .malformed, Reader.ownHandles, [], []⟩
  match ← r.peek with
  | .streamEnd => return none
  | _ =>
    let (n, r) ← r.readRoot room
    r.readEnd
    return some ⟨n, r.anchors⟩

end LintDispatch.Yaml
