import ZoneFirewall.Decimal.Shortest
import ZoneFirewall.Numeral
import ZoneFirewall.Yaml.Error
import ZoneFirewall.Yaml.Scalar
import ZoneFirewall.Yaml.Tag

/-!
# Numbers of documents

A scalar that stands for a number is read without its underscores. Integers may be binary, octal or
hexadecimal, and both integers and real numbers may be written in places of sixty. A scalar that
got its tag by hand may be written in more ways than one that got it from the way it is written, or
be no number at all.

* `readIntegerScalar`: the integer of a scalar.
* `readRealScalar`: the real number of a scalar.
-/

namespace ZoneFirewall.Yaml

open Text

/-- The characters without the blanks on both sides that numbers may have around them. -/
def trimNumeral (cs : List Char) : List Char :=
  ((cs.dropWhile isNumeralBlank).reverse.dropWhile isNumeralBlank).reverse

/-- Whether a text starts with a minus sign. -/
def isNegative (t : WideText) : Bool := t.chars.head? = some '-'

/-- A text without its sign. -/
def dropSign (t : WideText) : WideText :=
  match t.chars.head? with
  | some '+' => t.drop 1
  | some '-' => t.drop 1
  | _ => t

/-! ## Integers -/

/-- The value of a digit in a base: a decimal digit of any script or a letter. -/
def baseDigit? (base : Nat) (c : Char) : Option Nat :=
  let value? := if isHexDigit c then some (hexDigitValue c) else digitValue? c
  value?.filter (· < base)

/-- The letter that may stand between a zero and the digits in a base. -/
def baseLetter (base : Nat) : Char := if base = 2 then 'b' else if base = 8 then 'o' else 'x'

/-- Digits in a base without the zero and the letter that may come before them. -/
def dropBaseLetter (base : Nat) (cs : List Char) : List Char :=
  match cs with
  | '0' :: letter :: rest => if letter.toLower = baseLetter base then rest else cs
  | _ => cs

/-- The integer of a text in a base other than ten: a sign and digits, blanks around the whole. -/
def readBase (base : Nat) (text : WideText) : Except DocumentError Int :=
  let trimmed := trimNumeral text.chars
  let digits := dropBaseLetter base (unsigned trimmed)
  match digits.mapM (baseDigit? base) with
  | some (d :: ds) =>
    let n := (d :: ds).foldl (fun n d => base * n + d) 0
    .ok (if trimmed.head? = some '-' then -(n : Int) else n)
  | _ => .error (.numeral (malformedMessage base text.literal))

/-- The integer of a part of a scalar in decimal. -/
def readDecimal (text : WideText) : Except DocumentError Int :=
  (readInteger text).mapError fun e => .numeral e.message

/-- The integer of a scalar. -/
def readIntegerScalar (text : WideText) : Except DocumentError Int := do
  let text := text.without '_'
  let body := dropSign text
  let magnitude ←
    match body.chars with
    | [] => .error .emptyNumeral
    | ['0'] => pure 0
    | '0' :: 'b' :: _ => readBase 2 (body.drop 2)
    | '0' :: 'x' :: _ => readBase 16 (body.drop 2)
    | '0' :: _ => readBase 8 body
    | cs =>
      if cs.contains ':' then do
        let places ← (body.splitOn ':').mapM readDecimal
        pure (places.foldl (fun n d => 60 * n + d) 0)
      else readDecimal body
  return if isNegative text then -magnitude else magnitude

/-! ## Real numbers -/

/-- The words for infinity. -/
def infinityWords : List String := ["inf", "infinity"]

/-- The word for what is not a number. -/
def notANumberWord : String := "nan"

/-- The number of decimal digits of any script, `none` where a character is none. -/
def decimalDigits? (cs : List Char) : Option Nat := (cs.mapM digitValue?).map ofDigits

/-- The real number of digits, with a point among them or not, and an exponent or none. -/
def scanReal? (cs : List Char) : Option Float := do
  let mantissa := cs.takeWhile fun c => c ≠ 'e'
  let whole := mantissa.takeWhile (· ≠ '.')
  let part := (mantissa.dropWhile (· ≠ '.')).drop 1
  guard (whole ++ part ≠ [])
  let digits ← decimalDigits? (whole ++ part)
  let exponent ←
    match cs.dropWhile fun c => c ≠ 'e' with
    | [] => pure (0 : Int)
    | _ :: written => do
      guard (unsigned written ≠ [])
      let n ← decimalDigits? (unsigned written)
      pure (if written.head? = some '-' then -(n : Int) else n)
  return Decimal.ofDecimal digits (exponent - part.length)

/-- The wording for a literal that is no real number. -/
def malformedRealMessage (shown : String) : String := "could not convert string to float: " ++ shown

/-- The real number of a text in lower case: a sign and a number or a word, blanks around the
whole. -/
def readReal (text : WideText) : Except DocumentError Float :=
  let trimmed := trimNumeral text.chars
  let body := unsigned trimmed
  let magnitude? :=
    if infinityWords.contains (String.ofList body) then some (1 / 0)
    else if String.ofList body = notANumberWord then some (0 / 0)
    else scanReal? body
  match magnitude? with
  | some magnitude => .ok (if trimmed.head? = some '-' then -magnitude else magnitude)
  | none => .error (.numeral (malformedRealMessage text.literal))

/-- The sum of places of sixty, the first of which has the given unit, and of a total so far. A unit
beyond the range of real numbers is refused. -/
def sixtiethSum (unit : Nat) (total : Float) : List Float → Except DocumentError Float
  | [] => .ok total
  | place :: rest =>
    let unitValue := Decimal.ofDecimal unit 0
    if unitValue.isInf then .error .tooManyPlaces
    else sixtiethSum (60 * unit) (total + place * unitValue) rest

/-- The magnitude of a scalar without its sign. -/
def readMagnitude (body : WideText) : Except DocumentError Float :=
  if body = ".inf" then .ok (1 / 0)
  else if body.chars.contains ':' then do
    let places ← (body.splitOn ':').mapM readReal
    sixtiethSum 1 0 places.reverse
  else readReal body

/-- The real number of a scalar, which stands in the given node. -/
def readRealScalar (node : Nat) (text : WideText) : Except DocumentError Scalar := do
  let text := (text.without '_').lowerCase
  if text.points = [] then throw .emptyNumeral
  let body := dropSign text
  if body = ".nan" then return .notANumber none
  let magnitude ← readMagnitude body
  let x := if isNegative text then -magnitude else magnitude
  return if x.isNaN then .notANumber (some node) else .real x

end ZoneFirewall.Yaml
