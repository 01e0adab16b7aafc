/-!
# Shortest decimals

The text of a binary floating-point number is the shortest decimal that reads back as the same
number; of several shortest ones it is the nearest, and of two equally near the one with an even
last digit.

* `Binary`, `Binary.ofFloat?`: a positive finite number as mantissa and exponent.
* `Binary.shortest`: the digits of its shortest decimal, and the place of the point.
* `decimalText`: the text of a number. The notation is positional for numbers from 10⁻⁴ up to
  10¹⁶, with at least one digit on either side of the point, and otherwise scientific, with a signed
  exponent of at least two digits.
-/

namespace ZoneFirewall.Decimal

/-- A power of two. -/
def twoTo (n : Nat) : Nat := Nat.pow 2 n

/-- A power of ten. -/
def tenTo (n : Nat) : Nat := Nat.pow 10 n

/-- The number `mantissa · 2 ^ exponent`, above zero. -/
structure Binary where
  /-- The mantissa, which is not zero. -/
  mantissa : Nat
  /-- The exponent. -/
  exponent : Int
  deriving Repr

/-- The least exponent of a number of double precision. -/
def leastExponent : Int := -1074

/-- The magnitude of a finite number that is not zero. -/
def Binary.ofFloat? (x : Float) : Option Binary :=
  let bits := x.toBits.toNat
  let fraction := bits % twoTo 52
  let biased : Nat := bits / twoTo 52 % twoTo 11
  if biased = 2047 then none
  else if biased = 0 then if fraction = 0 then none else some ⟨fraction, leastExponent⟩
  else some ⟨twoTo 52 + fraction, (biased : Int) - 1075⟩

/-- Numbers over one denominator: the number itself, and the ends of the interval of numbers that
round to it. -/
structure Interval where
  /-- The number. -/
  value : Nat
  /-- The lower end. -/
  low : Nat
  /-- The upper end. -/
  high : Nat
  /-- The denominator of all three. -/
  denominator : Nat
  /-- Whether the ends belong to the interval. -/
  closed : Bool

/-- The interval of the numbers that round to a number: half the distance to its neighbours, of
which the lower is nearer when the mantissa is the least of its exponent. -/
def Binary.interval (b : Binary) : Interval :=
  let m := 4 * b.mantissa
  let below := if b.mantissa = twoTo 52 ∧ b.exponent > leastExponent then 1 else 2
  let scale := twoTo (b.exponent - 2).toNat
  { value := m * scale
    low := (m - below) * scale
    high := (m + 2) * scale
    denominator := twoTo (2 - b.exponent).toNat
    closed := b.mantissa % 2 = 0 }

/-- The `n` for which the number is at least `10 ^ (n - 1)` and below `10 ^ n`. -/
def Interval.magnitude (i : Interval) : Int :=
  let whole := i.value / i.denominator
  if whole > 0 then ((Nat.toDigits 10 whole).length : Int)
  else
    match (List.range 400).find? fun j => i.denominator ≤ i.value * tenTo j with
    | some j => 1 - (j : Int)
    | none => 0

/-- Compares `digits · 10 ^ place` with the number `n / i.denominator`. -/
def Interval.compare (i : Interval) (digits : Nat) (place : Int) (n : Nat) : Ordering :=
  Ord.compare (digits * tenTo place.toNat * i.denominator) (n * tenTo (-place).toNat)

/-- Whether `digits · 10 ^ place` lies in the interval. -/
def Interval.contains (i : Interval) (digits : Nat) (place : Int) : Bool :=
  match i.compare digits place i.low, i.compare digits place i.high with
  | .gt, .lt => true
  | .eq, .lt => i.closed
  | .gt, .eq => i.closed
  | _, _ => false

/-- Of the two multiples of `10 ^ place` next to the number, the better one that lies in the
interval. -/
def Interval.nearest? (i : Interval) (place : Int) : Option Nat :=
  let down := i.value * tenTo (-place).toNat / (i.denominator * tenTo place.toNat)
  let up := down + 1
  match i.contains down place, i.contains up place with
  | false, false => none
  | true, false => some down
  | false, true => some up
  | true, true =>
    match Ord.compare ((down + up) * tenTo place.toNat * i.denominator)
        (2 * i.value * tenTo (-place).toNat) with
    | .gt => some down
    | .lt => some up
    | .eq => some (if down % 2 = 0 then down else up)

/-- The digits of the shortest decimal, and how many of them come before the point. -/
def Binary.shortest (b : Binary) : List Char × Int :=
  let i := b.interval
  let magnitude := i.magnitude
  let digits := (List.range 17).findSome? fun (n : Nat) =>
    let place := magnitude - ((n : Int) + 1)
    (i.nearest? place).map fun d =>
      (Nat.toDigits 10 d, ((Nat.toDigits 10 d).length : Int) + place)
  match digits with
  | some (ds, point) => ((ds.reverse.dropWhile (· = '0')).reverse, point)
  | none => (Nat.toDigits 10 (i.value / i.denominator), magnitude)

/-- Digits in positional notation, `point` of them before the point. -/
def positional (digits : List Char) (point : Int) : List Char :=
  if point ≤ 0 then ['0', '.'] ++ List.replicate (-point).toNat '0' ++ digits
  else
    let n := point.toNat
    let whole := digits.take n ++ List.replicate (n - digits.length) '0'
    let part := digits.drop n
    whole ++ '.' :: (if part = [] then ['0'] else part)

/-- Digits in scientific notation, one of them before the point. -/
def scientific (digits : List Char) (exponent : Int) : List Char :=
  let power := Nat.toDigits 10 exponent.natAbs
  digits.take 1 ++ (if digits.length > 1 then '.' :: digits.drop 1 else [])
    ++ ['e', if exponent < 0 then '-' else '+'] ++ List.replicate (2 - power.length) '0' ++ power

/-- The text of a number. -/
def decimalText (x : Float) : String :=
  if x.isNaN then "nan"
  else
    let sign := if x.toBits.toNat / twoTo 63 = 1 then ['-'] else []
    let magnitude :=
      if x.isInf then ['i', 'n', 'f']
      else
        match Binary.ofFloat? x with
        | none => ['0', '.', '0']
        | some b =>
          let (digits, point) := b.shortest
          if -4 < point ∧ point ≤ 16 then positional digits point
          else scientific digits (point - 1)
    String.ofList (sign ++ magnitude)

/-- The number of the decimal `digits · 10 ^ exponent`; exponents beyond all numbers of double
precision give infinity or zero. -/
def ofDecimal (digits : Nat) (exponent : Int) : Float :=
  if digits = 0 then 0
  else
    let magnitude := ((Nat.toDigits 10 digits).length : Int) + exponent
    if magnitude > 310 then 1 / 0
    else if magnitude < -330 then 0
    else Float.ofScientific digits (exponent < 0) exponent.natAbs

end ZoneFirewall.Decimal
