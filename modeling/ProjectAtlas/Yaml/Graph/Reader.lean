import ProjectAtlas.Yaml.Graph.Basic
import ProjectAtlas.Yaml.Token.Basic

/-!
The graph of a document, from its tokens.
-/

namespace ProjectAtlas.Yaml

/-- What is known while the tokens of a document are read: the room that is left on the stack, the tokens
that are left and why there are no more, the nodes so far, the nodes that have anchors, and the texts that
handles stand for. -/
structure GraphReader where
  room : Nat
  tokens : List Token
  fault : Option Fault := none
  nodes : Array Node := #[]
  anchors : List (String × NodeId) := []
  handles : List (String × String) := [("!", "!"), ("!!", standardStart)]

abbrev Reading (α : Type) := StateT GraphReader (Except Fault) α

namespace Reading

def fail {α : Type} (f : Fault) : Reading α :=
  fun _ => .error f

/-- The next token. A fault of the text counts only where its tokens end. -/
def peek : Reading (Option Token) :=
  fun s => match s.tokens, s.fault with
    | [], some f => .error f
    | ts, _ => .ok (ts.head?, s)

def skip : Reading Unit :=
  fun s => .ok ((), { s with tokens := s.tokens.drop 1 })

/-- Go on over this token; no other may stand here. -/
def expect (t : Token) : Reading Unit := do
  if (← peek) = some t then skip else fail .unexpectedToken

/-- Read one level further down. -/
def within {α : Type} (read : Reading α) : Reading α :=
  fun s => match s.room with
    | 0 => .error .tooDeep
    | room + 1 => (read { s with room }).map fun (a, t) => (a, { t with room := s.room })

def add (node : Node) : Reading NodeId :=
  fun s => .ok (s.nodes.size, { s with nodes := s.nodes.push node })

def set (id : NodeId) (node : Node) : Reading Unit :=
  fun s => .ok ((), { s with nodes := s.nodes.setIfInBounds id node })

def empty : Reading NodeId :=
  add ⟨.null, .scalar ""⟩

def name (anchor : Option String) (id : NodeId) : Reading Unit :=
  fun s => match anchor with
    | none => .ok ((), s)
    | some a => .ok ((), { s with anchors := (a, id) :: s.anchors })

def named (a : String) : Reading NodeId :=
  fun s => match s.anchors.lookup a with
    | some id => .ok (id, s)
    | none => .error (.undefinedAlias a)

def checkNew (anchor : Option String) : Reading Unit :=
  fun s => match anchor with
    | none => .ok ((), s)
    | some a => if (s.anchors.lookup a).isSome then .error (.repeatedAnchor a) else .ok ((), s)

def fullTag (handle : Option String) (suffix : String) : Reading String :=
  fun s => match handle with
    | none => .ok (suffix, s)
    | some h =>
      match s.handles.lookup h with
      | some start => .ok (start ++ suffix, s)
      | none => .error (.undefinedHandle h)

def anchor? : Reading (Option String) := do
  match ← peek with
  | some (.anchor a) => skip; return some a
  | _ => return none

def tag? : Reading (Option String) := do
  match ← peek with
  | some (.tag handle suffix) => skip; return some (← fullTag handle suffix)
  | _ => return none

def properties : Reading (Option String × Option String) := do
  match ← anchor? with
  | some a => return (some a, ← tag?)
  | none =>
    let tag ← tag?
    return (← anchor?, tag)

/-- The type of a node whose tag is `tag`; a single exclamation mark is no tag. -/
def typeOf (tag : Option String) (otherwise : Tag) : Tag :=
  match tag with
  | none | some "!" => otherwise
  | some name => .ofName name

/-- The type of a scalar. Its form counts if it is plain and has no tag, or if its tag is a single
exclamation mark. -/
def typeOfScalar (tag : Option String) (plain : Bool) (text : String) : Tag :=
  typeOf tag (if plain || tag == some "!" then implicitTag text else .text)

def addNamed (anchor : Option String) (node : Node) : Reading NodeId := do
  checkNew anchor
  let id ← add node
  name anchor id
  return id

def scalar (anchor tag : Option String) (text : String) (plain : Bool) : Reading NodeId :=
  addNamed anchor ⟨typeOfScalar tag plain text, .scalar text⟩

/-- A sequence. Its node is there before its items are read, so that they can refer to it. -/
def sequence (anchor tag : Option String) (items : Reading (List NodeId)) : Reading NodeId := do
  let id ← addNamed anchor ⟨typeOf tag .sequence, .sequence []⟩
  set id ⟨typeOf tag .sequence, .sequence (← within items)⟩
  return id

/-- A mapping. Its node is there before its entries are read, so that they can refer to it. -/
def mapping (anchor tag : Option String) (entries : Reading (List (NodeId × NodeId))) :
    Reading NodeId := do
  let id ← addNamed anchor ⟨typeOf tag .mapping, .mapping []⟩
  set id ⟨typeOf tag .mapping, .mapping (← within entries)⟩
  return id

def bare (anchor tag : Option String) : Reading NodeId :=
  if anchor.isNone && tag.isNone then fail .unexpectedToken else scalar anchor tag "" true

end Reading

open Reading

/-- Where a node stands: in a flow collection, in a block collection, or as a key or a value of a block
mapping, where the dashes of a sequence need no indentation. -/
inductive Context
  | flow
  | block
  | entry
deriving DecidableEq, Repr

mutual

def readNode : Nat → Context → Reading NodeId
  | 0, _ => fail .unexpectedToken
  | fuel + 1, context => do
    match ← peek with
    | some (.alias a) => skip; named a
    | _ =>
      let (anchor, tag) ← properties
      match ← peek, context with
      | some (.scalar text plain), _ => skip; scalar anchor tag text plain
      | some .flowSequenceStart, _ => skip; sequence anchor tag (readFlowItems fuel true)
      | some .flowMappingStart, _ => skip; mapping anchor tag (readFlowEntries fuel true)
      | some .blockEntry, .entry => sequence anchor tag (readFlatItems fuel)
      | some .blockSequenceStart, .block | some .blockSequenceStart, .entry =>
        skip; sequence anchor tag (readBlockItems fuel)
      | some .blockMappingStart, .block | some .blockMappingStart, .entry =>
        skip; mapping anchor tag (readBlockEntries fuel)
      | _, _ => bare anchor tag

/-- The node that starts here, or an empty one in front of one of the tokens `ends`. -/
def readOptional : Nat → Context → List Token → Reading NodeId
  | 0, _, _ => fail .unexpectedToken
  | fuel + 1, context, ends => do
    match ← peek with
    | some t => if ends.contains t then empty else readNode fuel context
    | none => fail .unexpectedToken

def readBlockItems : Nat → Reading (List NodeId)
  | 0 => fail .unexpectedToken
  | fuel + 1 => do
    match ← peek with
    | some .blockEntry =>
      skip
      let item ← readOptional fuel .block [.blockEntry, .blockEnd]
      return item :: (← readBlockItems fuel)
    | _ => expect .blockEnd; return []

/-- The entries of a sequence that is not indented. -/
def readFlatItems : Nat → Reading (List NodeId)
  | 0 => fail .unexpectedToken
  | fuel + 1 => do
    match ← peek with
    | some .blockEntry =>
      skip
      let item ← readOptional fuel .block [.blockEntry, .key, .value, .blockEnd]
      return item :: (← readFlatItems fuel)
    | _ => return []

def readBlockEntries : Nat → Reading (List (NodeId × NodeId))
  | 0 => fail .unexpectedToken
  | fuel + 1 => do
    match ← peek with
    | some .key =>
      skip
      let key ← readOptional fuel .entry [.key, .value, .blockEnd]
      let value ← readValue fuel .entry [.key, .value, .blockEnd]
      return (key, value) :: (← readBlockEntries fuel)
    | _ => expect .blockEnd; return []

/-- The value behind a colon, or an empty one if no colon stands here. -/
def readValue : Nat → Context → List Token → Reading NodeId
  | 0, _, _ => fail .unexpectedToken
  | fuel + 1, context, ends => do
    match ← peek with
    | some .value => skip; readOptional fuel context ends
    | _ => empty

/-- The entries of a flow sequence, and its end. An entry with a key is a mapping of one entry. -/
def readFlowItems : Nat → Bool → Reading (List NodeId)
  | 0, _ => fail .unexpectedToken
  | fuel + 1, first => do
    match ← peek with
    | some .flowSequenceEnd => skip; return []
    | _ =>
      if !first then expect .flowEntry
      match ← peek with
      | some .key =>
        let id ← mapping none none do
          skip
          let key ← readOptional fuel .flow [.value, .flowEntry, .flowSequenceEnd]
          let value ← readValue fuel .flow [.flowEntry, .flowSequenceEnd]
          return [(key, value)]
        return id :: (← readFlowItems fuel false)
      | some .flowSequenceEnd => skip; return []
      | _ =>
        let item ← readNode fuel .flow
        return item :: (← readFlowItems fuel false)

/-- The entries of a flow mapping, and its end. A node without a colon is a key whose value is
empty. -/
def readFlowEntries : Nat → Bool → Reading (List (NodeId × NodeId))
  | 0, _ => fail .unexpectedToken
  | fuel + 1, first => do
    match ← peek with
    | some .flowMappingEnd => skip; return []
    | _ =>
      if !first then expect .flowEntry
      match ← peek with
      | some .key =>
        skip
        let key ← readOptional fuel .flow [.value, .flowEntry, .flowMappingEnd]
        let value ← readValue fuel .flow [.flowEntry, .flowMappingEnd]
        return (key, value) :: (← readFlowEntries fuel false)
      | some .flowMappingEnd => skip; return []
      | _ =>
        let key ← readNode fuel .flow
        let value ← empty
        return (key, value) :: (← readFlowEntries fuel false)

end

/-- Read the directives in front of a document; `versioned` says whether one of them names a version,
and `defined` holds the handles that they define. -/
def readDirectives (versioned : Bool) (defined : List (String × String)) :
    List Token → Except Fault (List (String × String) × List Token)
  | .directive (.version major _) :: ts =>
    if versioned || major != 1 then .error .unexpectedToken else readDirectives true defined ts
  | .directive (.handle h start) :: ts =>
    if (defined.lookup h).isSome then .error .unexpectedToken
    else readDirectives versioned (defined ++ [(h, start)]) ts
  | .directive .other :: ts => readDirectives versioned defined ts
  | ts => .ok (defined, ts)

/-- Nothing but ends of documents is left. -/
def checkEnd (s : GraphReader) : Except Fault Unit :=
  match s.tokens.dropWhile (· == .documentEnd), s.fault with
  | [], some f => .error f
  | [], none => .ok ()
  | _, _ => .error .severalDocuments

/-- Read the top node of a document from tokens that start with it, and make sure that nothing
follows. -/
def readTop (explicit : Bool) (s : GraphReader) : Except Fault Graph :=
  let read : Reading NodeId := do
    match ← peek with
    | none => if explicit then empty else fail .unexpectedToken
    | some (.directive _) | some .documentStart | some .documentEnd =>
      if explicit then empty else fail .unexpectedToken
    | some _ => readNode (4 * s.tokens.length + 4) .block
  (read.run s).bind fun (top, s) => (checkEnd s).map fun _ => ⟨s.nodes, top, s.room⟩

/-- The graph of the one document in the tokens, or nothing if there is none. -/
def graph? (room : Nat) (stream : TokenStream) : Except Fault (Option Graph) :=
  match stream.tokens, stream.fault with
  | [], some f => .error f
  | [], none => .ok none
  | .directive d :: ts, _ => explicitGraph (.directive d :: ts)
  | .documentStart :: ts, _ => explicitGraph (.documentStart :: ts)
  | ts, fault => (readTop false { room, tokens := ts, fault }).map some
where
  /-- The graph of a document that is announced. -/
  explicitGraph (ts : List Token) : Except Fault (Option Graph) :=
    (readDirectives false [] ts).bind fun (defined, ts) =>
      match ts, stream.fault with
      | .documentStart :: ts, fault =>
        let s : GraphReader := { room, tokens := ts, fault }
        (readTop true { s with handles := defined ++ s.handles }).map some
      | [], some f => .error f
      | _, _ => .error .unexpectedToken

end ProjectAtlas.Yaml
