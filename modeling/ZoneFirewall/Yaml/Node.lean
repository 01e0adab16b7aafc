import ZoneFirewall.Yaml.Tag
import ZoneFirewall.Yaml.Token.Lexer

/-!
# Nodes

The tokens of a document make up nodes: scalars, sequences and mappings, each with its tag. The
nodes are numbered, and a collection knows the nodes within it by their numbers. So an alias is
another mention of the node of its anchor, and a collection may lie within itself.

* `Node`: the nodes. `Nodes`: those of a document.
* `Nodes.ofTokens?`: the nodes of some tokens; a text without any content has none.
-/

namespace ZoneFirewall.Yaml

/-- What a node holds. -/
inductive Content where
  /-- A text. -/
  | scalar (text : Text.WideText)
  /-- The numbers of the items. -/
  | sequence (items : List Nat)
  /-- The numbers of the keys and values. -/
  | mapping (entries : List (Nat × Nat))
  deriving DecidableEq, Repr

/-- A node of a document. -/
structure Node where
  /-- The tag. -/
  tag : String
  /-- What it holds. -/
  content : Content
  deriving DecidableEq, Repr

/-- The nodes of a document. -/
structure Nodes where
  /-- The nodes by their numbers. -/
  all : Array Node
  /-- The number of the node that all others lie in. -/
  root : Nat

namespace Nodes

/-- How many collections may lie within one another. -/
def nestingLimit : Nat := 488

/-- What is left of the tokens, and what the document has set so far. -/
structure Source where
  /-- The tokens that are left. -/
  tokens : List Token
  /-- The fault that comes after the tokens. -/
  fault : Option DocumentError
  /-- What the handles of tags stand for. -/
  handles : List (String × String)
  /-- The nodes so far. -/
  nodes : Array Node := #[]
  /-- The numbers of the nodes of the anchors. -/
  anchors : List (String × Nat) := []
  /-- How many collections are open. -/
  depth : Nat := 0

/-- An action that takes tokens. -/
abbrev Take := StateT Source (Except DocumentError)

/-- The next token; the fault that comes after the last one shows once it is looked for. -/
def look : Take (Option Token) := do
  let s ← get
  match s.tokens, s.fault with
  | t :: _, _ => return some t
  | [], none => return none
  | [], some fault => throw fault

/-- Drops the next token. -/
def drop : Take Unit := modify fun s => { s with tokens := s.tokens.tail }

/-- Drops the next token if it is the given one, and yields whether it is. -/
def accept (t : Token) : Take Bool := do
  if (← look) = some t then
    drop
    return true
  else return false

/-- Drops the next token, which has to be the given one. -/
def demand (t : Token) : Take Unit := do
  if !(← accept t) then throw .layout

/-- Whether the next token is one of the given ones. -/
def isAt (ts : List Token) : Take Bool := return (← look).any ts.contains

/-! ## Anchors and tags -/

/-- The anchor and the tag before a node. -/
structure Properties where
  /-- The anchor. -/
  anchor : Option String := none
  /-- The tag with its handle replaced. -/
  tag : Option String := none

/-- The anchor that comes next, if one does. -/
def takeAnchor : Take (Option String) := do
  match (← look) with
  | some (.anchor name) =>
    drop
    return some name
  | _ => return none

/-- The tag that comes next, if one does. -/
def takeTag : Take (Option (Option String × String)) := do
  match (← look) with
  | some (.tag handle suffix) =>
    drop
    return some (handle, suffix)
  | _ => return none

/-- A tag with its handle replaced by what it stands for. -/
def expandTag : Option String × String → Take String
  | (none, suffix) => return suffix
  | (some handle, suffix) => do
    match (← get).handles.find? (·.1 = handle) with
    | some (_, stem) => return stem ++ suffix
    | none => throw .layout

/-- The anchor and the tag before a node, in either order. -/
def takeProperties : Take Properties := do
  let before ← takeAnchor
  let tag ← takeTag
  let anchor ← if before.isNone && tag.isSome then takeAnchor else pure before
  return { anchor, tag := ← tag.mapM expandTag }

/-- The tag of a collection. -/
def collectionTag (tag : Option String) (usual : String) : String :=
  match tag with
  | none => usual
  | some tag => if tag = "!" then usual else tag

/-- The tag of a scalar. -/
def scalarTag (tag : Option String) (text : Text.WideText) (plain : Bool) : String :=
  let written := text.string?.elim textTag plainTag
  match tag with
  | none => if plain then written else textTag
  | some tag => if tag = "!" then written else tag

/-! ## Adding nodes -/

/-- Adds a node, sets the anchor before it, and yields its number. -/
def add (anchor : Option String) (node : Node) : Take Nat := do
  let s ← get
  let number := s.nodes.size
  let anchors := anchor.toList.map (·, number)
  set { s with nodes := s.nodes.push node, anchors := anchors ++ s.anchors }
  return number

/-- Adds the node that stands where nothing is written. -/
def addBlank : Take Nat := add none ⟨nullTag, .scalar (.ofChars [])⟩

/-- Adds a collection. Its number is given before its content is taken, which may mention it. -/
def addCollection (anchor : Option String) (tag : String) (content : Take Content) : Take Nat := do
  if (← get).depth ≥ nestingLimit then throw .nesting
  let number ← add anchor ⟨tag, .sequence []⟩
  modify fun s => { s with depth := s.depth + 1 }
  let content ← content
  modify fun s =>
    { s with nodes := s.nodes.setIfInBounds number ⟨tag, content⟩, depth := s.depth - 1 }
  return number

/-- Refuses an anchor that is set already. -/
def demandNew (anchor : Option String) : Take Unit := do
  if (← get).anchors.any fun (name, _) => anchor = some name then throw .anchor

/-- The node that an alias stands for. -/
def aliased (name : String) : Take Nat := do
  match (← get).anchors.find? (·.1 = name) with
  | some (_, number) => return number
  | none => throw .alias

/-! ## Nodes -/

/-- Which nodes may stand at a place. -/
inductive Layout where
  /-- Any node. -/
  | block
  /-- Any node, and a sequence that is not indented. -/
  | blockOrFlat
  /-- Only scalars and nodes in brackets. -/
  | flow
  deriving DecidableEq, Repr

mutual

/-- A node. The number bounds the steps that are left. -/
def takeNode : Nat → Layout → Take Nat
  | 0, _ => throw .layout
  | n + 1, layout => do
    match (← look) with
    | some (.alias name) =>
      drop
      aliased name
    | _ =>
      let properties ← takeProperties
      let _ ← look
      demandNew properties.anchor
      takeContent n layout properties

/-- A node without its anchor and tag. -/
def takeContent : Nat → Layout → Properties → Take Nat
  | 0, _, _ => throw .layout
  | n + 1, layout, ⟨anchor, tag⟩ => do
    match (← look), layout with
    | some .blockEntry, .blockOrFlat =>
      addCollection anchor (collectionTag tag sequenceTag) (takeFlatItems n [])
    | some (.scalar text plain), _ =>
      drop
      add anchor ⟨scalarTag tag text plain, .scalar text⟩
    | some .flowSequenceStart, _ =>
      drop
      addCollection anchor (collectionTag tag sequenceTag) (takeFlowItems n [])
    | some .flowMappingStart, _ =>
      drop
      addCollection anchor (collectionTag tag mappingTag) (takeFlowEntries n [])
    | some .blockSequenceStart, .block =>
      drop
      addCollection anchor (collectionTag tag sequenceTag) (takeBlockItems n [])
    | some .blockSequenceStart, .blockOrFlat =>
      drop
      addCollection anchor (collectionTag tag sequenceTag) (takeBlockItems n [])
    | some .blockMappingStart, .block =>
      drop
      addCollection anchor (collectionTag tag mappingTag) (takeBlockEntries n [])
    | some .blockMappingStart, .blockOrFlat =>
      drop
      addCollection anchor (collectionTag tag mappingTag) (takeBlockEntries n [])
    | _, _ =>
      if anchor.isNone && tag.isNone then throw .layout
      let text : Text.WideText := .ofChars []
      add anchor ⟨scalarTag tag text true, .scalar text⟩

/-- A node, or nothing where one of the given tokens follows. -/
def takeUnless : Nat → List Token → Layout → Take Nat
  | 0, _, _ => throw .layout
  | n + 1, ends, layout => do
    if (← isAt ends) then addBlank else takeNode n layout

/-- The items of an indented sequence, after those so far. -/
def takeBlockItems : Nat → List Nat → Take Content
  | 0, _ => throw .layout
  | n + 1, items => do
    if (← accept .blockEntry) then
      takeBlockItems n ((← takeUnless n [.blockEntry, .blockEnd] .block) :: items)
    else
      demand .blockEnd
      return .sequence items.reverse

/-- The items of a sequence that is not indented, after those so far. -/
def takeFlatItems : Nat → List Nat → Take Content
  | 0, _ => throw .layout
  | n + 1, items => do
    if (← accept .blockEntry) then
      takeFlatItems n ((← takeUnless n [.blockEntry, .key, .value, .blockEnd] .block) :: items)
    else return .sequence items.reverse

/-- The entries of an indented mapping, after those so far. -/
def takeBlockEntries : Nat → List (Nat × Nat) → Take Content
  | 0, _ => throw .layout
  | n + 1, entries => do
    if (← accept .key) then
      let ends : List Token := [.key, .value, .blockEnd]
      let key ← takeUnless n ends .blockOrFlat
      let value ← if (← accept .value) then takeUnless n ends .blockOrFlat else addBlank
      takeBlockEntries n ((key, value) :: entries)
    else
      demand .blockEnd
      return .mapping entries.reverse

/-- The key and the value of an entry in brackets that end with a token, the mark before the key
having been passed. -/
def takePair : Nat → Token → Take (Nat × Nat)
  | 0, _ => throw .layout
  | n + 1, close => do
    let key ← takeUnless n [.value, .flowEntry, close] .flow
    let value ← if (← accept .value) then takeUnless n [.flowEntry, close] .flow else addBlank
    return (key, value)

/-- The items of a sequence in brackets, after those so far. -/
def takeFlowItems : Nat → List Nat → Take Content
  | 0, _ => throw .layout
  | n + 1, items => do
    if (← accept .flowSequenceEnd) then return .sequence items.reverse
    if !items.isEmpty then demand .flowEntry
    if (← accept .key) then
      let pair ← addCollection none mappingTag do
        return .mapping [← takePair n .flowSequenceEnd]
      takeFlowItems n (pair :: items)
    else if (← accept .flowSequenceEnd) then return .sequence items.reverse
    else takeFlowItems n ((← takeNode n .flow) :: items)

/-- The entries of a mapping in brackets, after those so far. -/
def takeFlowEntries : Nat → List (Nat × Nat) → Take Content
  | 0, _ => throw .layout
  | n + 1, entries => do
    if (← accept .flowMappingEnd) then return .mapping entries.reverse
    if !entries.isEmpty then demand .flowEntry
    if (← accept .key) then
      takeFlowEntries n ((← takePair n .flowMappingEnd) :: entries)
    else if (← accept .flowMappingEnd) then return .mapping entries.reverse
    else
      let key ← takeNode n .flow
      takeFlowEntries n ((key, ← addBlank) :: entries)

end

/-! ## Documents -/

/-- What the handles stand for that need no directive. -/
def usualHandles : List (String × String) := [("!", "!"), ("!!", tagStem)]

/-- The directives before a document, after what has been set so far. -/
def takeDirectives : List Token → (version : Bool) → List (String × String) →
    Except DocumentError (List Token × List (String × String))
  | .directive (.version major) :: rest, version, handles =>
    if version || major ≠ 1 then .error .layout else takeDirectives rest true handles
  | .directive (.tagHandle handle stem) :: rest, version, handles =>
    if handles.any (·.1 = handle) then .error .layout
    else takeDirectives rest version ((handle, stem) :: handles)
  | .directive .other :: rest, version, handles => takeDirectives rest version handles
  | rest, _, handles => .ok (rest, handles)

/-- Takes the directives that come next, and sets what they say of handles. -/
def passDirectives : Take Unit := do
  let s ← get
  let (tokens, handles) ← takeDirectives s.tokens false []
  set { s with tokens, handles := handles ++ usualHandles }

/-- The content of a document with a mark before it. -/
def takeMarkedDocument (n : Nat) : Take Nat := do
  match (← look) with
  | some (.directive _) => addBlank
  | some .documentStart => addBlank
  | some .documentEnd => addBlank
  | none => addBlank
  | some _ => takeNode n .block

/-- Drops marks after a document; nothing may follow them. -/
def takeEnd : Take Unit := do
  modify fun s => { s with tokens := s.tokens.dropWhile (· = .documentEnd) }
  if (← look).isSome then
    passDirectives
    let _ ← look
    throw .layout

/-- The number of the root of the one document, if there is any. -/
def takeDocument (n : Nat) : Take (Option Nat) := do
  let marked ← (do
    match (← look) with
    | none => return none
    | some (.directive _) => return some true
    | some .documentStart => return some true
    | some _ => return some false)
  match marked with
  | none => return none
  | some true =>
    passDirectives
    demand .documentStart
    let root ← takeMarkedDocument n
    takeEnd
    return some root
  | some false =>
    let root ← takeNode n .block
    takeEnd
    return some root

/-- The nodes of the one document of some tokens, if there is any. -/
def ofTokens? (tokens : Tokens) : Except DocumentError (Option Nodes) := do
  let source : Source :=
    { tokens := tokens.list, fault := tokens.fault, handles := usualHandles }
  let (root, s) ← (takeDocument (8 * tokens.list.length + 8)).run source
  return root.map fun root => { all := s.nodes, root }

end Nodes

end ZoneFirewall.Yaml
