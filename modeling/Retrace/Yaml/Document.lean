import Retrace.Yaml.Lexer
import Retrace.Yaml.Node
import Retrace.Yaml.Scalar

/-!
# From tokens to a document

A text holds one document, or none. A node gets its number before the nodes that
it holds, and its anchor with it; a reference is the number of the node that had
the anchor last. The version of a document decides what its plain scalars are and
whether a key may be left out.
-/

namespace Retrace.Yaml

structure Document where
  nodes : Array Node
  root : Nat
  version : Version
  deriving Repr

structure Parser where
  tokens : List Token
  /-- Comes after the tokens. -/
  fault : Option Fault
  version : Version := .current
  handles : List (List Char × List Char) := []
  anchors : List (List Char × Nat) := []
  nodes : Array Node := #[]

abbrev Parse := StateT Parser (Except Fault)

namespace Parse

def peek : Parse Token := fun p =>
  match p.tokens, p.fault with
  | t :: _, _ => .ok (t, p)
  | [], some fault => .error fault
  | [], none => .ok (⟨.streamEnd, {}, {}⟩, p)

def next : Parse Token := do
  let t ← peek
  modify fun p => { p with tokens := p.tokens.tail }
  return t

def found {α : Type} (problem : Problem) (mark : Mark)
    (activity : Option (Activity × Mark) := none) : Parse α :=
  fun _ => fail activity problem mark

/-- Whether the next token is of one of these kinds. -/
def nextIs (kinds : List TokenKind) : Parse Bool := do
  return kinds.contains (← peek).kind

/-! ## Anchors and tags -/

structure Properties where
  anchor : Option (List Char) := none
  tag : Option (List Char) := none
  mark : Option Mark := none

def defaultHandles : List (List Char × List Char) :=
  [(['!'], ['!']), (['!', '!'], "tag:yaml.org,2002:".toList)]

/-- Percent signs in a suffix encode characters, also those that encoded ones left. -/
def decodeSuffix : Nat → List Char → Except Fault (List Char)
  | 0, _ | _, [] => .ok []
  | fuel + 1, c :: rest =>
    if c != '%' then (c :: ·) <$> decodeSuffix fuel rest
    else do
      let code ← (readInBase 16 (rest.take 2)).mapError .scalar
      if code < 0 then throw (.scalar .codePoint)
      return Char.ofNat code.toNat :: (← decodeSuffix fuel (rest.drop 2))

def resolveTag (handle : Option (List Char)) (suffix : List Char) (start mark : Mark) :
    Parse (List Char) := do
  let stem ←
    match handle with
    | none => pure []
    | some handle =>
      match ((← get).handles ++ defaultHandles).lookup handle with
      | some expansion => pure expansion
      | none =>
        found (.note ("found undefined tag handle " ++ String.ofList (Datum.showText handle))) mark
          (some (.parsing "a node", start))
  return stem ++ (← decodeSuffix suffix.length suffix)

/-- An anchor and a tag, in either order. -/
def properties : Parse Properties := do
  let t ← peek
  match t.kind with
  | .anchor name =>
    let _ ← next
    let u ← peek
    match u.kind with
    | .tag handle suffix =>
      let _ ← next
      return ⟨some name, some (← resolveTag handle suffix t.start u.start), some t.start⟩
    | _ => return ⟨some name, none, some t.start⟩
  | .tag handle suffix =>
    let _ ← next
    let u ← peek
    match u.kind with
    | .anchor name =>
      let _ ← next
      return ⟨some name, some (← resolveTag handle suffix u.start u.start), some u.start⟩
    | _ => return ⟨none, some (← resolveTag handle suffix t.start t.start), some t.start⟩
  | _ => return {}

/-- The tag that asks for no particular type. -/
def bareTag : List Char := ['!']

/-- The type of a scalar with a tag or, if it is plain, with a form. -/
def scalarType (v : Version) (tag : Option (List Char)) (text : List Char) (isPlain : Bool) :
    NodeType :=
  match tag.filter (· != bareTag) with
  | some tag => .ofTag tag
  | none => .scalar (if isPlain || tag.isSome then .ofText v text else .text)

def collectionType (tag : Option (List Char)) (implied : NodeType) : NodeType :=
  ((tag.filter (· != bareTag)).map NodeType.ofTag).getD implied

def add (n : Node) : Parse Nat := fun p =>
  .ok (p.nodes.size, { p with nodes := p.nodes.push n })

def addEmpty (mark : Mark) : Parse Nat := add (.empty mark)

/-- A node with an anchor, if it has one. -/
def addAnchored (anchor : Option (List Char)) (n : Node) : Parse Nat := do
  let number ← add n
  match anchor with
  | some name => modify fun p => { p with anchors := (name, number) :: p.anchors }
  | none => pure ()
  return number

def addScalar (p : Properties) (points : List Nat) (isPlain : Bool) (mark : Mark) :
    Parse Nat := do
  addAnchored p.anchor
    ⟨scalarType (← get).version p.tag (points.map Text.viewed) isPlain, .scalar points, mark⟩

/-- A collection, the content of which is read after it has its number. -/
def addCollection (p : Properties) (implied : NodeType) (mark : Mark) (read : Parse Content) :
    Parse Nat := do
  let n : Node := ⟨collectionType p.tag implied, .sequence [], mark⟩
  let number ← addAnchored p.anchor n
  let content ← read
  modify fun q => { q with nodes := q.nodes.setIfInBounds number { n with content } }
  return number

def addSequence (p : Properties) (mark : Mark) (read : Parse (List Nat)) : Parse Nat :=
  addCollection p .sequence mark (Content.sequence <$> read)

def addMapping (p : Properties) (mark : Mark) (read : Parse Pairs) : Parse Nat :=
  addCollection p .mapping mark ((Content.mapping ·) <$> read)

def referenced (name : List Char) (mark : Mark) : Parse Nat := do
  match (← get).anchors.lookup name with
  | some n => return n
  | none => found (.note ("found undefined alias " ++ String.ofList (Datum.showText name))) mark

/-- Only the current version lets a value stand without a key. -/
def allowsNoKey : Parse Bool := return (← get).version = .current

/-! ## Nodes -/

def wrongToken {α : Type} (what expected : String) (start : Mark) : Parse α := do
  let t ← peek
  found (.expectedToken expected t.kind.name) t.start (some (.parsing what, start))

mutual

def node (inBlock isIndentless : Bool) : Nat → Parse Nat
  | 0 => found .endOfStream {}
  | fuel + 1 => do
    let t ← peek
    match t.kind with
    | .reference name =>
      let _ ← next
      referenced name t.start
    | _ => content inBlock isIndentless (← properties) fuel

/-- The node itself, after its anchor and tag. -/
def content (inBlock isIndentless : Bool) (p : Properties) : Nat → Parse Nat
  | 0 => found .endOfStream {}
  | fuel + 1 => do
    let t ← peek
    let mark := p.mark.getD t.start
    match t.kind with
    | .blockEntry =>
      if isIndentless then addSequence p mark (indentlessItems fuel)
      else emptyOr p mark inBlock
    | .scalar points isPlain =>
      let _ ← next
      addScalar p points isPlain mark
    | .flowSequenceStart =>
      let _ ← next
      addSequence p mark (flowItems t.start true fuel)
    | .flowMappingStart =>
      let _ ← next
      addMapping p mark (flowPairs t.start true fuel)
    | .blockSequenceStart =>
      if inBlock then
        let _ ← next
        addSequence p mark (blockItems t.start fuel)
      else emptyOr p mark inBlock
    | .blockMappingStart =>
      if inBlock then
        let _ ← next
        addMapping p mark (blockPairs t.start fuel)
      else emptyOr p mark inBlock
    | _ => emptyOr p mark inBlock

/-- Nothing, which is a node only under an anchor or a tag. -/
def emptyOr (p : Properties) (mark : Mark) (inBlock : Bool) : Parse Nat := do
  if p.anchor.isSome || p.tag.isSome then addScalar p [] p.tag.isNone mark
  else
    wrongToken (if inBlock then "a block node" else "a flow node")
      "the node content, but found" mark

/-- A node, unless one of these tokens shows that nothing is written. -/
def nodeUnless (ends : List TokenKind) (inBlock isIndentless : Bool) (mark : Mark) :
    Nat → Parse Nat
  | 0 => found .endOfStream {}
  | fuel + 1 => do
    if ← nextIs ends then addEmpty mark else node inBlock isIndentless fuel

def blockItems (start : Mark) : Nat → Parse (List Nat)
  | 0 => found .endOfStream {}
  | fuel + 1 => do
    let t ← peek
    match t.kind with
    | .blockEntry =>
      let _ ← next
      let item ← nodeUnless [.blockEntry, .blockEnd] true false t.stop fuel
      return item :: (← blockItems start fuel)
    | .blockEnd =>
      let _ ← next
      return []
    | _ => wrongToken "a block collection" "<block end>, but found" start

/-- The items of a sequence that is not indented further than its key. -/
def indentlessItems : Nat → Parse (List Nat)
  | 0 => found .endOfStream {}
  | fuel + 1 => do
    let t ← peek
    match t.kind with
    | .blockEntry =>
      let _ ← next
      let item ← nodeUnless [.blockEntry, .key, .value, .blockEnd] true false t.stop fuel
      return item :: (← indentlessItems fuel)
    | _ => return []

def blockPairs (start : Mark) : Nat → Parse Pairs
  | 0 => found .endOfStream {}
  | fuel + 1 => do
    let t ← peek
    if t.kind = .key then
      let _ ← next
      let key ← nodeUnless [.key, .value, .blockEnd] true true t.stop fuel
      let value ← blockValue fuel
      return (key, value) :: (← blockPairs start fuel)
    else if t.kind = .value && (← allowsNoKey) then
      let key ← addEmpty t.start
      let value ← blockValue fuel
      return (key, value) :: (← blockPairs start fuel)
    else if t.kind = .blockEnd then
      let _ ← next
      return []
    else wrongToken "a block mapping" "<block end>, but found" start

/-- An empty value stands where the token after its colon ends. -/
def blockValue : Nat → Parse Nat
  | 0 => found .endOfStream {}
  | fuel + 1 => do
    let t ← peek
    match t.kind with
    | .value =>
      let _ ← next
      let after ← peek
      nodeUnless [.key, .value, .blockEnd] true true after.stop fuel
    | _ => addEmpty t.start

def flowItems (start : Mark) (isFirst : Bool) : Nat → Parse (List Nat)
  | 0 => found .endOfStream {}
  | fuel + 1 => do
    if ← nextIs [.flowSequenceEnd] then
      let _ ← next
      return []
    if !isFirst then
      if ← nextIs [.flowEntry] then
        let _ ← next
      else wrongToken "a flow sequence" "',' or ']', but got" start
    let t ← peek
    match t.kind with
    | .key =>
      let _ ← next
      let item ← addMapping {} t.start (flowPair [.flowEntry, .flowSequenceEnd] t.stop fuel)
      return item :: (← flowItems start false fuel)
    | .flowSequenceEnd =>
      let _ ← next
      return []
    | _ =>
      let item ← node false false fuel
      return item :: (← flowItems start false fuel)

/-- A key inside brackets, after its token, and its value, as the only pair. -/
def flowPair (ends : List TokenKind) (mark : Mark) : Nat → Parse Pairs
  | 0 => found .endOfStream {}
  | fuel + 1 => do
    let key ← nodeUnless (.value :: ends) false false mark fuel
    return [(key, ← flowValue ends fuel)]

def flowValue (ends : List TokenKind) : Nat → Parse Nat
  | 0 => found .endOfStream {}
  | fuel + 1 => do
    let t ← peek
    match t.kind with
    | .value =>
      let _ ← next
      nodeUnless ends false false t.stop fuel
    | _ => addEmpty t.start

def flowPairs (start : Mark) (isFirst : Bool) : Nat → Parse Pairs
  | 0 => found .endOfStream {}
  | fuel + 1 => do
    if ← nextIs [.flowMappingEnd] then
      let _ ← next
      return []
    if !isFirst then
      if ← nextIs [.flowEntry] then
        let _ ← next
      else wrongToken "a flow mapping" "',' or '\x7d', but got" start
    let t ← peek
    let ends : List TokenKind := [.flowEntry, .flowMappingEnd]
    if t.kind = .key then
      let _ ← next
      let pair ← flowPair ends t.stop fuel
      return pair ++ (← flowPairs start false fuel)
    else if t.kind = .value && (← allowsNoKey) then
      let key ← addEmpty t.stop
      let value ← flowValue ends fuel
      return (key, value) :: (← flowPairs start false fuel)
    else if t.kind = .flowMappingEnd then
      let _ ← next
      return []
    else
      let key ← node false false fuel
      let after ← peek
      let value ← addEmpty after.start
      return (key, value) :: (← flowPairs start false fuel)

end

/-! ## Documents -/

def skipDocumentEnds : Nat → Parse Unit
  | 0 => pure ()
  | fuel + 1 => do
    if ← nextIs [.documentEnd] then
      let _ ← next
      skipDocumentEnds fuel

/-- Takes note of a directive; `minor` is the version named before it, if one was. -/
def applyDirective (minor : Option Nat) (t : Token) : Directive → Parse (Option Nat)
  | .version major next => do
    if minor.isSome then found (.note "found duplicate YAML directive") t.start
    else if major ≠ 1 then
      found (.note "found incompatible YAML document (version 1.* is required)") t.start
    else return some next
  | .tag handle expansion => do
    if ((← get).handles.lookup handle).isSome then
      found (.note ("duplicate tag handle " ++ String.ofList (Datum.showText handle))) t.start
    else
      modify fun p => { p with handles := p.handles ++ [(handle, expansion)] }
      return minor
  | .other => return minor

/-- The directives before a document; the version that they name. -/
def directives (minor : Option Nat) : Nat → Parse (Option Nat)
  | 0 => return minor
  | fuel + 1 => do
    let t ← peek
    match t.kind with
    | .directive d =>
      let _ ← next
      directives (← applyDirective minor t d) fuel
    | _ => return minor

def versionOf : Option Nat → Except Fault Version
  | none => .ok .current
  | some minor =>
    match Version.ofMinor? minor with
    | some v => .ok v
    | none => .error (.unknownVersion minor)

def isDirective : TokenKind → Bool
  | .directive _ => true
  | _ => false

/-- The directives of a document and the mark that begins it. -/
def documentStart (fuel : Nat) : Parse Token := do
  modify fun p => { p with handles := [] }
  let version ← versionOf (← directives none fuel)
  modify fun p => { p with version }
  let t ← peek
  if t.kind = .documentStart then next
  else found (.expectedToken "'<document start>', but found" t.kind.name) t.start

/-- The end of a document; the flag tells whether it is marked. -/
def documentEnd : Parse Bool := do
  let t ← peek
  if t.kind = .documentEnd then
    let _ ← next
    let after ← peek
    if after.kind ≠ .streamEnd && t.stop.line = after.start.line then
      fun _ => .error (.complaint
        ⟨some (.note "found non-comment content after document end marker", after.start), none⟩)
    else return true
  else return false

def anotherDocument {α : Type} (first mark : Mark) : Parse α :=
  found (.note "but found another document") mark
    (some (.note "expected a single document in the stream", first))

/-- Nothing but the end of the text comes after the first document. After a marked end
the current version lets another one begin without a mark. -/
def nothingElse (first : Mark) (fuel : Nat) : Parse Unit := do
  let isMarked ← documentEnd
  let t ← peek
  if t.kind = .streamEnd then return ()
  if isMarked && (← get).version = .current && !isDirective t.kind && t.kind ≠ .documentStart then
    anotherDocument first t.start
  skipDocumentEnds fuel
  if ← nextIs [.streamEnd] then return ()
  let t ← documentStart fuel
  anotherDocument first t.start

/-- The content of a document that begins with a mark, which may be missing. -/
def documentContent (fuel : Nat) : Parse Nat := do
  let t ← peek
  if isDirective t.kind || [TokenKind.documentStart, .documentEnd, .streamEnd].contains t.kind then
    addEmpty t.start
  else node true false fuel

/-- The first document, if there is one. -/
def firstDocument (fuel : Nat) : Parse (Option Document) := do
  let t ← peek
  if t.kind = .streamEnd then return none
  let root ←
    if isDirective t.kind || t.kind = .documentStart then
      let _ ← documentStart fuel
      documentContent fuel
    else node true false fuel
  let p ← get
  return some ⟨p.nodes, root, p.version⟩

def singleDocument (fuel : Nat) : Parse (Option Document) := do
  match ← firstDocument fuel with
  | none => return none
  | some d =>
    nothingElse (d.nodes.getD d.root default).mark fuel
    return some d

end Parse

/-- The document in a text, if it is not empty. -/
def parse (source : List Char) : Except Fault (Option Document) :=
  let (tokens, fault) := tokensOf source
  (Parse.singleDocument (4 * tokens.length + 8)).run' { tokens, fault }

end Retrace.Yaml
