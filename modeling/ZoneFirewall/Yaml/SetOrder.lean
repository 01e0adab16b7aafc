import ZoneFirewall.Yaml.Scalar

/-!
# The order of sets

The items of a set have no order of their own. Those of a set of numbers are shown in the order of
the places that they take in a table: a number has a code, the same for equal numbers, and takes
the first free place on a path that its code decides. Other items have no code that is the same in
every run, and a set with one of them is shown in the order of its document.

* `Scalar.code?`: the codes.
* `freePlace`, `placesOf`: the places.
* `setOrder`: the items in order.
-/

namespace ZoneFirewall.Yaml

open Decimal

/-! ## Codes -/

/-- Codes are residues of this prime. -/
def codeModulus : Nat := twoTo 61 - 1

/-- The number of words that codes are written in. -/
def codeWords : Nat := twoTo 64

/-- The residue that stands for what is beyond all numbers. -/
def infinityCode : Nat := 314159

/-- The word of a residue with a sign. Minus one is no code, and has that of minus two. -/
def signedCode (negative : Bool) (residue : Nat) : Nat :=
  if negative then (codeWords - (if residue = 1 then 2 else residue)) % codeWords else residue

/-- The code of a number. An empty text and no bytes have one too. -/
def Scalar.code? : Scalar → Option Nat
  | .bool b => some (if b then 1 else 0)
  | .int n => some (signedCode (decide (n < 0)) (n.natAbs % codeModulus))
  | .real x =>
    let residue :=
      match Binary.ofFloat? x with
      | some b => b.mantissa * twoTo (b.exponent % 61).toNat % codeModulus
      | none => if x == 0 then 0 else infinityCode
    some (signedCode (x < 0) residue)
  | .text s => if s.points.isEmpty then some 0 else none
  | .bytes bs => if bs.isEmpty then some 0 else none
  | _ => none

/-! ## Places -/

/-- The number of places for so many items. -/
def placeCount (items : Nat) : Nat := if items < 5 then 8 else twoTo ((2 * items).log2 + 1)

/-- How many places after a place are tried with it, where there are so many. -/
def runLength : Nat := 9

/-- The first place of a path that is not taken, or the last one that is looked at. From `place`
the path goes through a run of places and then jumps; `spread` is what of the code is still to bear
on the jumps. -/
def freePlace (size : Nat) (taken : List Nat) : (jumps : Nat) → (spread place : Nat) → Nat
  | 0, _, place => place
  | jumps + 1, spread, place =>
    let run := if place + runLength < size then runLength + 1 else 1
    match (List.range' place run).find? fun p => !taken.contains p with
    | some free => free
    | none =>
      let spread := spread / 32
      freePlace size taken jumps spread ((5 * place + 1 + spread) % size)

/-- The place for a code. Once the code is used up, after thirteen jumps, the jumps come to every
place. -/
def placeOf (size : Nat) (taken : List Nat) (code : Nat) : Nat :=
  freePlace size taken (13 + size) code (code % size)

/-- The places for codes that come one after another. -/
def placesOf (size : Nat) (codes : List Nat) : List Nat :=
  codes.foldl (fun taken code => taken ++ [placeOf size taken code]) []

/-! ## Order -/

/-- The items of a set in their order. -/
def setOrder (items : List Scalar) : List Scalar :=
  let codes := items.filterMap Scalar.code?
  if codes.length = items.length then
    let placed := (placesOf (placeCount items.length) codes).zip items
    (placed.mergeSort fun a b => decide (a.1 ≤ b.1)).map Prod.snd
  else items

end ZoneFirewall.Yaml
