import ZoneFirewall.Yaml.Base64
import ZoneFirewall.Yaml.Document
import ZoneFirewall.Yaml.Node
import ZoneFirewall.Yaml.Number
import ZoneFirewall.Yaml.SetOrder

/-!
# The meaning of nodes

A node is turned into a value as its tag says. Entries of a mapping under the key `<<` are merged
into it, in front of its own; where a scalar is wanted, a mapping stands for its entry under the
key `=`.

Scalars are made at once. A collection is empty at first and is filled when all collections before
it have been: so of two faults the one nearer to the root is told, and a collection may lie within
itself.

* `Scalar.ofText`: the value of a text with a tag.
* `Builder`, `Build`: the values made so far, and the actions that make more.
* `Build.make`, `Build.merge`, `Build.fill`: making a value, merging entries, filling a collection.
* `Document.ofText?`: the values of the one document of a text; a text without a document has none.
-/

namespace ZoneFirewall.Yaml

open Text

/-! ## Scalars -/

/-- Whether a tag is that of a scalar. -/
def isScalarTag (tag : String) : Bool :=
  [textTag, nullTag, truthTag, integerTag, realTag, timeTag, bytesTag].contains tag

/-- The date or the time of a text. -/
def readTime (text : WideText) : Except DocumentError Scalar :=
  match text.string? with
  | none => .error .notATime
  | some s => do
    match (← Time.parse s) with
    | (day, none) => return .date day
    | (day, some clock) => return .time ⟨day, clock⟩

/-- The bytes of a text. -/
def readBytes (text : WideText) : Except DocumentError Scalar :=
  if text.points.all (· < 128) then
    match decodeBase64? (String.ofList text.chars) with
    | some bs => .ok (.bytes bs)
    | none => .error .tag
  else .error .tag

/-- The truth value of a text. -/
def readTruth (text : WideText) : Except DocumentError Scalar :=
  let word := text.lowerCase
  if trueWords.any fun s => word = s then .ok (.bool true)
  else if falseWords.any fun s => word = s then .ok (.bool false)
  else .error (.truth word)

/-- The value of a text with a tag; the text stands in the given node. -/
def Scalar.ofText (node : Nat) (tag : String) (text : WideText) : Except DocumentError Scalar :=
  if tag = textTag then .ok (.text text)
  else if tag = nullTag then .ok .null
  else if tag = truthTag then readTruth text
  else if tag = integerTag then (readIntegerScalar text).map .int
  else if tag = realTag then readRealScalar node text
  else if tag = timeTag then readTime text
  else if tag = bytesTag then readBytes text
  else .error .tag

/-! ## Values in the making -/

/-- The nodes of a document, and the values that have been made of them. -/
structure Builder where
  /-- The nodes. Merging changes the entries of mappings, and the tags of keys. -/
  nodes : Array Node
  /-- How many entries there are to be merged, or more. -/
  mergeCount : Nat
  /-- The values of the nodes that have one, and behind them the pairs. -/
  cells : Array (Option Cell)
  /-- The numbers of the collections in the order in which they are filled. -/
  collections : Array Nat := #[]

/-- An action that makes values. -/
abbrev Build := StateT Builder (Except DocumentError)

/-- The collection without content that a tag stands for. -/
def emptyCell? (tag : String) : Option Cell :=
  if tag = sequenceTag ∨ tag = orderedTag ∨ tag = pairsTag then some (.list [])
  else if tag = mappingTag then some (.mapping [])
  else if tag = setTag then some (.set [])
  else none

namespace Builder

/-- A node. -/
def node (b : Builder) (number : Nat) : Node :=
  b.nodes.getD number ⟨nullTag, .scalar (.ofChars [])⟩

/-- The entries of a node that is a mapping. -/
def entries (b : Builder) (number : Nat) : List (Nat × Nat) :=
  match (b.node number).content with
  | .mapping entries => entries
  | _ => []

/-- Whether a key is one under which mappings are merged. -/
def isMergeKey (b : Builder) (number : Nat) : Bool := (b.node number).tag = mergeTag

/-- The values with the entries of a node changed. -/
def setEntries (b : Builder) (number : Nat) (entries : List (Nat × Nat)) : Builder :=
  { b with nodes := b.nodes.modify number fun node => { node with content := .mapping entries } }

/-- The values with a key that stands for a default value made a text. -/
def settleKey (b : Builder) (number : Nat) : Builder :=
  { b with nodes := b.nodes.modify number fun node =>
      if node.tag = defaultTag then { node with tag := textTag } else node }

/-- The values with that of a node set. -/
def setCell (b : Builder) (number : Nat) (cell : Cell) : Builder :=
  { b with cells := b.cells.setIfInBounds number (some cell) }

end Builder

namespace Build

/-! ## Merging -/

/-- Merges into a mapping what its entries under the key for it name, in front of its own entries
and behind those merged so far. Each step takes such an entry away, so that there are no more steps
than there are such entries. -/
def merge : (steps : Nat) → (number : Nat) → (merged : List (Nat × Nat)) → Build Unit
  | steps, number, merged => do
    let b ← get
    let (before, rest) := (b.entries number).span fun e => !b.isMergeKey e.1
    match steps, rest with
    | steps + 1, (_, source) :: after =>
      set (b.setEntries number (before ++ after))
      let entriesOf (mapping : Nat) : Build (List (Nat × Nat)) := do
        match ((← get).node mapping).content with
        | .mapping _ =>
          merge steps mapping []
          return (← get).entries mapping
        | _ => throw .merge
      let more ← (match (b.node source).content with
        | .sequence mappings => return (← mappings.mapM entriesOf).reverse.flatten
        | _ => entriesOf source)
      merge steps number (merged ++ more)
    | _, _ =>
      let entries := merged ++ b.entries number
      set (entries.foldl (fun b e => b.settleKey e.1) (b.setEntries number entries))

/-! ## Making values -/

/-- The text of a node where a scalar is wanted: a mapping stands for its default value. A mapping
that stands for itself has none, which shows when there are more steps than nodes. -/
def scalarText : (steps : Nat) → (number : Nat) → Build WideText
  | 0, _ => throw .nesting
  | steps + 1, number => do
    let b ← get
    match (b.node number).content with
    | .scalar text => return text
    | .sequence _ => throw .tag
    | .mapping entries =>
      match entries.find? fun e => (b.node e.1).tag = defaultTag with
      | some (_, value) => scalarText steps value
      | none => throw .tag

/-- The scalar of a node with the tag of a scalar. -/
def makeScalar (number : Nat) : Build Scalar := do
  let b ← get
  let node := b.node number
  if !isScalarTag node.tag then throw .tag
  let text ← scalarText (b.nodes.size + 1) number
  match node.content with
  | .mapping _ => if node.tag = timeTag then throw .timeOfMapping
  | _ => pure ()
  Scalar.ofText number node.tag text

/-- Makes the value of a node unless there is one. A collection remains empty. -/
def make (number : Nat) : Build Unit := do
  let b ← get
  if (b.cells.getD number none).isNone then
    match emptyCell? (b.node number).tag with
    | some cell => set { b.setCell number cell with collections := b.collections.push number }
    | none =>
      let scalar ← makeScalar number
      modify fun b => b.setCell number (.scalar scalar)

/-- Makes the value of a key, which has to be a scalar. -/
def makeKey (number : Nat) : Build Scalar := do
  make number
  match (← get).cells.getD number none with
  | some (.scalar key) => return key
  | _ => throw .key

/-- Makes the entries of a mapping once its merging has been done. -/
def makeEntries (number : Nat) : Build (List (Scalar × Nat)) := do
  match ((← get).node number).content with
  | .mapping _ =>
    merge (← get).mergeCount number []
    ((← get).entries number).foldlM (fun done (key, value) => do
      let key ← makeKey key
      make value
      return Scalar.setEntry key value done) []
  | _ => throw .tag

/-- Makes the pair of a mapping that has one entry, and gives the number of its cell. -/
def makePair (number : Nat) : Build Nat := do
  match (← get).entries number with
  | [(key, value)] =>
    make key
    make value
    let b ← get
    set { b with cells := b.cells.push (some (.pair key value)) }
    return b.cells.size
  | _ => throw .tag

/-- The content of a collection with a tag. -/
def content (number : Nat) (tag : String) : Build Cell := do
  if tag = mappingTag then return .mapping (← makeEntries number)
  else if tag = setTag then return .set (setOrder ((← makeEntries number).map Prod.fst))
  else
    match ((← get).node number).content with
    | .sequence items =>
      if tag = sequenceTag then
        items.forM make
        return .list items
      else return .list (← items.mapM makePair)
    | _ => throw .tag

/-- Fills a collection. -/
def fill (number : Nat) : Build Unit := do
  let cell ← content number ((← get).node number).tag
  modify fun b => b.setCell number cell

/-- Fills all collections from one on, in the order in which they have been made. -/
def fillFrom : (steps : Nat) → (index : Nat) → Build Unit
  | 0, _ => return
  | steps + 1, index => do
    match (← get).collections[index]? with
    | none => return
    | some number =>
      fill number
      fillFrom steps (index + 1)

end Build

/-! ## Documents -/

/-- How many entries of mappings there are among nodes. -/
def Nodes.entryCount (nodes : Nodes) : Nat :=
  nodes.all.foldl (fun n node =>
    match node.content with
    | .mapping entries => n + entries.length
    | _ => n) 0

/-- The values of some nodes. There are no more collections than nodes. -/
def Document.ofNodes (nodes : Nodes) : Except DocumentError Document := do
  let start : Builder :=
    { nodes := nodes.all, mergeCount := nodes.entryCount, cells := nodes.all.map fun _ => none }
  let build : Build Unit := do
    Build.make nodes.root
    Build.fillFrom (nodes.all.size + 1) 0
  let (_, b) ← build.run start
  return { cells := b.cells.map (·.getD default), root := nodes.root }

/-- The values of the one document of a text, if there is one. -/
def Document.ofText? (text : String) : Except DocumentError (Option Document) := do
  match (← Nodes.ofTokens? (Tokens.ofText text)) with
  | none => return none
  | some nodes => return some (← Document.ofNodes nodes)

end ZoneFirewall.Yaml
