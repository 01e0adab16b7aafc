import ZoneFirewall.Yaml.Value

/-!
# Documents

The values of a document are kept in cells. A collection names the cells of the values within it, so
that a value can stand at several places, and a collection can lie within itself. From a position
the values are unfolded only as far as they are looked at.

* `Cell`, `Document`: the values of a document.
* `Position`: a cell of a document. `Position.isTrue`, `Position.text?`, `Position.entries?`,
  `Position.items?`: what the value there looks like.
* `Position.value`: the value there with all that lies within it. A collection that is met again
  within itself is only marked.
-/

namespace ZoneFirewall.Yaml

/-- A value in a document; the values within it are given by the numbers of their cells. -/
inductive Cell where
  /-- A value without parts. -/
  | scalar (s : Scalar)
  /-- A list. -/
  | list (items : List Nat)
  /-- A pair in a list of pairs. -/
  | pair (first second : Nat)
  /-- A set. -/
  | set (items : List Scalar)
  /-- A mapping. -/
  | mapping (entries : List (Scalar × Nat))
  deriving Inhabited

/-- The values of a document. -/
structure Document where
  /-- The cells by their numbers. -/
  cells : Array Cell
  /-- The number of the cell of the whole. -/
  root : Nat

/-- A cell of a document. -/
structure Position where
  /-- The document. -/
  document : Document
  /-- The number of the cell. -/
  number : Nat

/-- The position of the whole. -/
def Document.whole (d : Document) : Position := ⟨d, d.root⟩

namespace Document

/-- What a cell holds. -/
def cell (d : Document) (number : Nat) : Cell := d.cells.getD number default

/-- The value of a cell, the collections that it lies in being given. The first number bounds how
deep the value is looked into. -/
def unfold (d : Document) : (depth : Nat) → (around : List Nat) → (number : Nat) → Value
  | 0, _, _ => .scalar .null
  | depth + 1, around, number =>
    let inner := d.unfold depth (number :: around)
    let met := around.contains number
    match d.cell number with
    | .scalar s => .scalar s
    | .set items => .set items
    | .list items => if met then .again .square else .list (items.map inner)
    | .pair first second => if met then .again .round else .pair (inner first) (inner second)
    | .mapping entries =>
      if met then .again .curly else .mapping (entries.map fun e => (e.1, inner e.2))

end Document

namespace Position

/-- Another position in the same document. -/
def move (p : Position) (number : Nat) : Position := { p with number }

/-- The value with all that lies within it. A way on which no collection comes twice has no more
steps than there are cells. -/
def value (p : Position) : Value := p.document.unfold (p.document.cells.size + 1) [] p.number

/-- The value with nothing but blanks within it. -/
def outline (p : Position) : Value := p.document.unfold 1 [] p.number

/-- Whether the value counts as true. -/
def isTrue (p : Position) : Bool := p.outline.isTrue

/-- The text of a value that is a text. -/
def text? (p : Position) : Option Text.WideText := p.outline.text?

/-- The entries of a value that is a mapping. -/
def entries? (p : Position) : Option (List (Scalar × Position)) :=
  match p.document.cell p.number with
  | .mapping entries => some (entries.map fun e => (e.1, p.move e.2))
  | _ => none

/-- The values that a value is made up of, each with all that lies within it. -/
def items? (p : Position) : Option (List Value) :=
  match p.document.cell p.number with
  | .list items => some (items.map fun n => (p.move n).value)
  | _ => p.outline.items?

end Position

end ZoneFirewall.Yaml
