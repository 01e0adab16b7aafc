import ZoneFirewall.Text.DecimalDigit
import ZoneFirewall.Text.WideText

/-!
# Numerals

How integers are written in directives and settings: an optional sign and decimal digits of any
script, single underscores between digits, blanks around the whole. A numeral of more than
`digitLimit` digits is refused before anything after its digits is looked at.

* `readInteger`: the integer a text stands for.
* `NumeralError`: why there is none; `NumeralError.message`: the wording.
-/

namespace ZoneFirewall

open Text

/-- The greatest number of digits that a numeral may have. -/
def digitLimit : Nat := 4300

/-- Why a text is no integer. -/
inductive NumeralError where
  /-- The text is not written as an integer. -/
  | malformed (text : WideText)
  /-- The numeral has more digits than the limit. -/
  | tooManyDigits (count : Nat)
  deriving DecidableEq, Repr

/-- The wording for a literal that is no integer in a base. It is cut off after 200 characters. -/
def malformedMessage (base : Nat) (shown : String) : String :=
  "invalid literal for int() with base " ++ toString base ++ ": "
    ++ String.ofList (shown.toList.take 200)

/-- The wording of the error. -/
def NumeralError.message : NumeralError → String
  | .malformed text => malformedMessage 10 text.literal
  | .tooManyDigits count =>
    "Exceeds the limit (" ++ toString digitLimit
      ++ " digits) for integer string conversion: value has "
      ++ toString count ++ " digits; use sys.set_int_max_str_digits() to increase the limit"

/-- The blanks that may stand around a numeral: all of them but the information separators. -/
def isNumeralBlank (c : Char) : Bool :=
  isBlank c && !(0x1c ≤ c.toNat && c.toNat ≤ 0x1f)

/-- The digits that follow a digit, a single underscore allowed before each, and what is left. -/
def digitTail : List Char → List Nat × List Char
  | '_' :: c :: rest =>
    match digitValue? c with
    | some v => let r := digitTail rest; (v :: r.1, r.2)
    | none => ([], '_' :: c :: rest)
  | c :: rest =>
    match digitValue? c with
    | some v => let r := digitTail rest; (v :: r.1, r.2)
    | none => ([], c :: rest)
  | [] => ([], [])

/-- The digits at the front of a text, which starts with one, and what is left. -/
def digitRun : List Char → Option (List Nat × List Char)
  | [] => none
  | c :: rest => (digitValue? c).map fun v => let r := digitTail rest; (v :: r.1, r.2)

/-- The number whose decimal digits are given, the greatest place first. -/
def ofDigits (digits : List Nat) : Nat := digits.foldl (fun n d => 10 * n + d) 0

/-- The sign in front of a text, and what is left. -/
def splitSign : List Char → Bool × List Char
  | '-' :: rest => (true, rest)
  | '+' :: rest => (false, rest)
  | cs => (false, cs)

/-- The integer that a text stands for. -/
def readInteger (text : WideText) : Except NumeralError Int :=
  let (negative, unsigned) := splitSign (text.chars.dropWhile isNumeralBlank)
  match digitRun unsigned with
  | none => .error (.malformed text)
  | some (digits, rest) =>
    if rest.head? = some '_' then .error (.malformed text)
    else if digits.length > digitLimit then .error (.tooManyDigits digits.length)
    else if rest.all isNumeralBlank then
      .ok (if negative then -(ofDigits digits : Int) else (ofDigits digits : Int))
    else .error (.malformed text)

end ZoneFirewall
