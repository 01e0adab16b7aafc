import ZoneFirewall.Yaml.Scalar

/-!
# Values of documents

A value is a scalar or made up of values: a list, a pair in a list of pairs, a set or a mapping.
Mappings keep the order of their keys. Where a collection lies within itself, a value ends with a
mark for the collection that comes again.

* `Value`: the values.
* `Value.shown`, `Value.literal`: a value as text, on its own and within a collection.
* `Value.isLong`, `Value.isDeep`: whether a number in a value has too many digits to be shown, or
  the value itself too many layers.
* `Value.isTrue`: which values count as true.
* `Value.items?`: what a value is made up of.
-/

namespace ZoneFirewall.Yaml

/-- The brackets around a collection. -/
inductive Brackets where
  /-- The brackets of lists. -/
  | square
  /-- The brackets of pairs. -/
  | round
  /-- The brackets of mappings and sets. -/
  | curly
  deriving DecidableEq, Repr

/-- A text in brackets. -/
def Brackets.around (b : Brackets) (text : String) : String :=
  match b with
  | .square => "[" ++ text ++ "]"
  | .round => "(" ++ text ++ ")"
  | .curly => "\x7b" ++ text ++ "\x7d"

/-- A value of a document. -/
inductive Value where
  /-- A value without parts. -/
  | scalar (s : Scalar)
  /-- A list. -/
  | list (items : List Value)
  /-- A pair in a list of pairs. -/
  | pair (first second : Value)
  /-- A set. -/
  | set (items : List Scalar)
  /-- A mapping. -/
  | mapping (entries : List (Scalar × Value))
  /-- A collection that this place lies in. -/
  | again (brackets : Brackets)
  deriving Inhabited

namespace Value

/-! ## Texts -/

mutual

/-- A value as it is shown within a collection. -/
def literal : Value → String
  | .scalar s => s.literal
  | .list items => Brackets.square.around (", ".intercalate (literals items))
  | .pair first second => Brackets.round.around (literal first ++ ", " ++ literal second)
  | .set [] => "set()"
  | .set items => Brackets.curly.around (", ".intercalate (items.map Scalar.literal))
  | .mapping entries => Brackets.curly.around (", ".intercalate (entryLiterals entries))
  | .again brackets => brackets.around "..."

/-- Values as they are shown within a collection. -/
def literals : List Value → List String
  | [] => []
  | v :: vs => literal v :: literals vs

/-- Entries of a mapping as they are shown. -/
def entryLiterals : List (Scalar × Value) → List String
  | [] => []
  | (key, value) :: rest => (key.literal ++ ": " ++ literal value) :: entryLiterals rest

end

/-- A value as text. -/
def shown : Value → Text.WideText
  | .scalar s => s.shown
  | v => v.literal

mutual

/-- Whether a number in a value has more digits than a numeral may have. Such a value cannot be
shown. -/
def isLong : Value → Bool
  | .scalar s => s.isLong
  | .list items => anyLong items
  | .pair first second => isLong first || isLong second
  | .set items => items.any Scalar.isLong
  | .mapping entries => anyEntryLong entries
  | .again _ => false

/-- Whether one of some values cannot be shown. -/
def anyLong : List Value → Bool
  | [] => false
  | v :: vs => isLong v || anyLong vs

/-- Whether one of some entries cannot be shown. -/
def anyEntryLong : List (Scalar × Value) → Bool
  | [] => false
  | (key, value) :: rest => key.isLong || isLong value || anyEntryLong rest

end

mutual

/-- How many layers a value has. -/
def depth : Value → Nat
  | .scalar _ => 1
  | .list items => depthOfItems items + 1
  | .pair first second => max (depth first) (depth second) + 1
  | .set _ => 2
  | .mapping entries => depthOfEntries entries + 1
  | .again _ => 1

/-- The most layers that one of some values has. -/
def depthOfItems : List Value → Nat
  | [] => 0
  | v :: vs => max (depth v) (depthOfItems vs)

/-- The most layers that the key or the value of some entries has. -/
def depthOfEntries : List (Scalar × Value) → Nat
  | [] => 0
  | (_, value) :: rest => max (max 1 (depth value)) (depthOfEntries rest)

end

/-- The most layers that a value can be shown with. -/
def depthLimit : Nat := 990

/-- Whether a value has too many layers to be shown. -/
def isDeep (v : Value) : Bool := v.depth > depthLimit

/-! ## Truth and parts -/

/-- Whether a value counts as true: a collection does unless it is empty. -/
def isTrue : Value → Bool
  | .scalar s => s.isTrue
  | .list items => !items.isEmpty
  | .pair _ _ => true
  | .set items => !items.isEmpty
  | .mapping entries => !entries.isEmpty
  | .again _ => true

/-- The text of a value that is a text. -/
def text? : Value → Option Text.WideText
  | .scalar s => s.text?
  | _ => none

/-- The entries of a value that is a mapping. -/
def entries? : Value → Option (List (Scalar × Value))
  | .mapping entries => some entries
  | _ => none

/-- The values that a scalar is made up of: bytes are made up of numbers. -/
def itemsOfScalar? : Scalar → Option (List Value)
  | .bytes bs => some (bs.map fun b => .scalar (.int b.toNat))
  | _ => none

/-- The values that a value is made up of: the items of a list or a set, the two of a pair, the keys
of a mapping. -/
def items? : Value → Option (List Value)
  | .scalar s => itemsOfScalar? s
  | .list items => some items
  | .pair first second => some [first, second]
  | .set items => some (items.map .scalar)
  | .mapping entries => some (entries.map fun e => .scalar e.1)
  | .again _ => none

end Value

end ZoneFirewall.Yaml
