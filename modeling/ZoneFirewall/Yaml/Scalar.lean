import ZoneFirewall.Decimal.Shortest
import ZoneFirewall.Numeral
import ZoneFirewall.Text.WideText
import ZoneFirewall.Yaml.Time

/-!
# Scalars

The values that hold no other values: null, truth values, numbers, texts, bytes, dates and times.
Only these may be keys of mappings.

* `Scalar`: the values.
* `Scalar.shown`, `Scalar.literal`: a scalar as text, on its own and within a collection.
* `Scalar.isLong`: whether a scalar is a number with too many digits to be shown.
* `Scalar.isTrue`: which scalars count as true.
* `Scalar.sameKey`: which scalars are the same key.
-/

namespace ZoneFirewall.Yaml

open Text Decimal

/-- A value without parts. -/
inductive Scalar where
  /-- The null value. -/
  | null
  /-- A truth value. -/
  | bool (b : Bool)
  /-- An integer. -/
  | int (n : Int)
  /-- A real number. -/
  | real (x : Float)
  /-- What is not a number. There is one such value for all scalars that are written as the
  constant, and one for each that is written as a word, named by the number of its node. -/
  | notANumber (node : Option Nat)
  /-- A text. -/
  | text (s : WideText)
  /-- Bytes. -/
  | bytes (bs : List UInt8)
  /-- A date. -/
  | date (d : Date)
  /-- A date with a time of day. -/
  | time (t : Time)
  deriving Inhabited

namespace Scalar

/-! ## Texts -/

/-- A byte of a literal in the given quotes. -/
def literalByte (quote : Char) (b : UInt8) : List Char :=
  let c := Char.ofNat b.toNat
  if c = quote ∨ c = '\\' then ['\\', c]
  else if c = '\t' then ['\\', 't']
  else if c = '\n' then ['\\', 'n']
  else if c = '\r' then ['\\', 'r']
  else if ' ' ≤ c ∧ c ≤ '~' then [c]
  else ['\\', 'x'] ++ hexDigits 2 b.toNat

/-- The literal of some bytes. -/
def bytesLiteral (bs : List UInt8) : String :=
  let quote := literalQuote (bs.map fun b => Char.ofNat b.toNat)
  String.ofList ('b' :: quote :: bs.flatMap (literalByte quote) ++ [quote])

/-- A scalar as it is shown within a collection. -/
def literal : Scalar → String
  | .null => "None"
  | .bool b => if b then "True" else "False"
  | .int n => toString n
  | .real x => decimalText x
  | .notANumber _ => "nan"
  | .text s => s.literal
  | .bytes bs => bytesLiteral bs
  | .date d => d.literal
  | .time t => t.literal

/-- The text of a scalar that is a text. -/
def text? : Scalar → Option WideText
  | .text s => some s
  | _ => none

/-- A scalar as text. A text is shown as it is, and dates and times in their usual form. -/
def shown : Scalar → WideText
  | .text s => s
  | .date d => d.text
  | .time t => t.text
  | s => s.literal

/-- Whether a scalar is an integer with more digits than a numeral may have. Such a scalar cannot
be shown. -/
def isLong : Scalar → Bool
  | .int n => tenTo digitLimit ≤ n.natAbs
  | _ => false

/-! ## Truth and keys -/

/-- Whether a scalar counts as true: all do but null, false, zero and what is empty. -/
def isTrue : Scalar → Bool
  | .null => false
  | .bool b => b
  | .int n => n != 0
  | .real x => x != 0
  | .text s => !s.points.isEmpty
  | .bytes bs => !bs.isEmpty
  | _ => true

/-- The integer that a number is equal to, truth values being 0 and 1. -/
def integer? : Scalar → Option Int
  | .bool b => some (if b then 1 else 0)
  | .int n => some n
  | .real x =>
    match Binary.ofFloat? x with
    | none => if x == 0 then some 0 else none
    | some b =>
      let scale := twoTo (-b.exponent).toNat
      if b.mantissa % scale = 0 then
        let n : Int := b.mantissa / scale * twoTo b.exponent.toNat
        some (if x < 0 then -n else n)
      else none
  | _ => none

/-- The instant of a time whose offset is known, in millionths of a second. -/
def instant? (t : Time) : Option Int :=
  t.clock.offset.map fun offset =>
    let before := (List.range t.date.year).foldl (fun n y => n + if isLeap y then 366 else 365) 0
    let months := ((List.range t.date.month).drop 1).map (daysIn t.date.year)
    let days := before + months.foldl (· + ·) 0 + t.date.day
    let minutes : Int := ((days * 24 + t.clock.hour) * 60 + t.clock.minute : Nat) - offset
    (minutes * 60 + t.clock.second) * 1000000 + t.clock.microsecond

/-- Whether two scalars are the same key: equal numbers are, however they are written. -/
def sameKey : Scalar → Scalar → Bool
  | .null, .null => true
  | .text a, .text b => a == b
  | .bytes a, .bytes b => a == b
  | .date a, .date b => decide (a = b)
  | .time a, .time b =>
    match instant? a, instant? b with
    | some i, some j => i == j
    | none, none => decide (a = b)
    | _, _ => false
  | .real a, .real b => a == b
  | .notANumber a, .notANumber b => a == b
  | a, b =>
    match a.integer?, b.integer? with
    | some i, some j => i == j
    | _, _ => false

/-- The entries with a key set to a value: in its place if it is there, else at the end. -/
def setEntry {α : Type} (key : Scalar) (value : α) : List (Scalar × α) → List (Scalar × α)
  | [] => [(key, value)]
  | (k, v) :: rest =>
    if sameKey k key then (k, value) :: rest else (k, v) :: setEntry key value rest

/-- The value under a text among entries. -/
def field? {α : Type} (name : String) (entries : List (Scalar × α)) : Option α :=
  (entries.find? fun e => sameKey e.1 (.text name)).map (·.2)

end Scalar

end ZoneFirewall.Yaml
