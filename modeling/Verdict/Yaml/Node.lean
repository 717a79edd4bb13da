import Verdict.Yaml.Tokens

namespace Verdict.Yaml

inductive Node where
  | scalar (style : Style) (tag : Option String) (text : String)
  | sequence (items : List Node)
  | mapping (entries : List (Node × Node))
  -- stands for the sequence or mapping of that name
  | reference (name : String)
  deriving Repr, Inhabited

namespace Node

-- What stands where a node may be left out.
def empty : Node := .scalar .plain none ""

end Node

-- What is left to read, with the names given to nodes so far, the latest first, and the handles that
-- tags may start with.
structure Draft where
  rest : List Token
  names : List (String × Node)
  handles : List (String × String)

-- Reading fails on tokens that make no document.
abbrev Drafting := StateT Draft Option

namespace Draft

def standardHandles : List (String × String) := [("!", "!"), ("!!", "tag:yaml.org,2002:")]

def start (tokens : List Token) : Draft := ⟨tokens, [], []⟩

def next : Drafting (Option Token) := return (← get).rest.head?

def drop : Drafting Unit := modify fun s => { s with rest := s.rest.tail }

-- Goes over a token if it is the next one, and says whether it was.
def take (t : Token) : Drafting Bool := do
  if (← next) = some t then
    drop
    return true
  else return false

def expect (t : Token) : Drafting Unit := do
  unless ← take t do failure

def giveName (name : Option String) (node : Node) : Drafting Unit :=
  modify fun s => { s with names := (name.map fun n => (n, node)).toList ++ s.names }

-- The node of a name that has been given.
def named (name : String) : Drafting Node := do
  let some (_, node) := (← get).names.find? (·.1 = name) | failure
  return node

-- A tag without a handle is written in full.
def fullTag (handle suffix : String) : Drafting String := do
  if handle.isEmpty then return suffix
  let some (_, leading) := (← get).handles.find? (·.1 = handle) | failure
  return leading ++ suffix

def takeAnchor : Drafting (Option String) := do
  let some (.anchor name) ← next | return none
  drop
  return some name

def takeTag : Drafting (Option String) := do
  let some (.tag handle suffix) ← next | return none
  drop
  return some (← fullTag handle suffix)

-- The name and the tag in front of a node, in any order.
def takeProperties : Drafting (Option String × Option String) := do
  match ← takeAnchor with
  | some name => return (some name, ← takeTag)
  | none =>
    let tag ← takeTag
    return (← takeAnchor, tag)

-- A node, or nothing in front of some tokens.
def orEmpty (stops : List Token) (read : Drafting Node) : Drafting Node := do
  if (← next).any stops.contains then return .empty else read

mutual

-- A node. Those of blocks may stand in brackets only if `block` is set; as part of a mapping the
-- entries of a sequence need no indentation, and so no tokens around them.
def readNode (block inMapping : Bool) : Nat → Drafting Node
  | 0 => failure
  | fuel + 1 => do
    if let some (.alias name) ← next then
      drop
      return ← named name
    let (name, tag) ← takeProperties
    let collection (read : Drafting Node) : Drafting Node := do
      giveName name (.reference (name.getD ""))
      read
    match ← next with
    | some (.scalar style text) =>
      drop
      giveName name (.scalar style tag text)
      return .scalar style tag text
    | some .flowSequence =>
      drop
      collection do return .sequence (← readFlowItems true fuel)
    | some .flowMapping =>
      drop
      collection do return .mapping (← readFlowEntries true fuel)
    | some .blockSequence =>
      unless block do failure
      drop
      collection do return .sequence (← readBlockItems fuel)
    | some .blockMapping =>
      unless block do failure
      drop
      collection do return .mapping (← readBlockEntries fuel)
    | t =>
      if t = some .blockEntry && inMapping then
        collection do return .sequence (← readLooseItems fuel)
      else if name.isSome || tag.isSome then
        giveName name (.scalar .plain tag "")
        return .scalar .plain tag ""
      else failure

def readBlockItems : Nat → Drafting (List Node)
  | 0 => failure
  | fuel + 1 => do
    if ← take .blockEnd then return []
    expect .blockEntry
    let item ← orEmpty [.blockEntry, .blockEnd] (readNode true false fuel)
    return item :: (← readBlockItems fuel)

-- The items of a sequence that ends where no entry follows.
def readLooseItems : Nat → Drafting (List Node)
  | 0 => failure
  | fuel + 1 => do
    if !(← take .blockEntry) then return []
    let item ← orEmpty [.blockEntry, .key, .value, .blockEnd] (readNode true false fuel)
    return item :: (← readLooseItems fuel)

def readBlockEntries : Nat → Drafting (List (Node × Node))
  | 0 => failure
  | fuel + 1 => do
    if ← take .blockEnd then return []
    expect .key
    let part := orEmpty [.key, .value, .blockEnd] (readNode true true fuel)
    let key ← part
    let value ← if ← take .value then part else pure .empty
    return (key, value) :: (← readBlockEntries fuel)

-- The items behind an opening bracket, or behind an item. A key mark makes one entry of a mapping; if
-- its key is left out it takes the next token with it.
def readFlowItems (first : Bool) : Nat → Drafting (List Node)
  | 0 => failure
  | fuel + 1 => do
    if ← take .flowSequenceEnd then return []
    unless first do expect .flowEntry
    if ← take .flowSequenceEnd then return []
    let part (stops : List Token) := orEmpty stops (readNode false false fuel)
    let item ←
      if ← take .key then
        let stops : List Token := [.value, .flowEntry, .flowSequenceEnd]
        let missing := (← next).any stops.contains
        let key ← part stops
        if missing then drop
        let value ← if ← take .value then part [.flowEntry, .flowSequenceEnd] else pure .empty
        pure (.mapping [(key, value)])
      else readNode false false fuel
    return item :: (← readFlowItems false fuel)

-- The entries behind an opening brace, or behind an entry.
def readFlowEntries (first : Bool) : Nat → Drafting (List (Node × Node))
  | 0 => failure
  | fuel + 1 => do
    if ← take .flowMappingEnd then return []
    unless first do expect .flowEntry
    if ← take .flowMappingEnd then return []
    let part (stops : List Token) := orEmpty stops (readNode false false fuel)
    let marked ← take .key
    let key ←
      if marked then part [.value, .flowEntry, .flowMappingEnd] else readNode false false fuel
    let value ←
      if marked then
        if ← take .value then part [.flowEntry, .flowMappingEnd] else pure .empty
      else pure .empty
    return (key, value) :: (← readFlowEntries false fuel)

end

-- The directives in front of a document: one version and one meaning of a handle at most.
def readDirectives (versioned : Bool) : Nat → Drafting Unit
  | 0 => failure
  | fuel + 1 => do
    match ← next with
    | some (.version major minor) =>
      if versioned || major ≠ 1 || !(minor = 1 || minor = 2) then failure
      drop
      readDirectives true fuel
    | some (.tagDirective handle leading) =>
      if (← get).handles.any (·.1 = handle) then failure
      drop
      modify fun s => { s with handles := s.handles ++ [(handle, leading)] }
      readDirectives versioned fuel
    | _ => return ()

def opensDocument : Token → Bool
  | .version .. | .tagDirective .. | .documentStart => true
  | _ => false

-- The root of the only document, if there is one.
def readDocument : Drafting (Option Node) := do
  let budget := 2 * (← get).rest.length + 2
  let addHandles : Drafting Unit :=
    modify fun s => { s with handles := s.handles ++ standardHandles }
  match ← next with
  | none => return none
  | some t =>
    let explicit := opensDocument t
    if explicit then
      readDirectives false budget
      expect .documentStart
    addHandles
    let missing := explicit && (← next).all fun t => opensDocument t || t = .documentEnd
    let root ← if missing then pure .empty else readNode true false budget
    modify fun s => { s with rest := s.rest.dropWhile (· = .documentEnd) }
    unless (← next).isNone do failure
    return some root

end Draft

-- The root of a text, which may be missing, or nothing if the text is not YAML.
def Node.ofText? (s : String) : Option (Option Node) := do
  let (root, _) ← Draft.readDocument.run (Draft.start (← Token.ofText? s))
  return root

end Verdict.Yaml
