import ZoneFirewall.Yaml.Time
import ZoneFirewall.Yaml.Token.Basic

/-!
# Tags

Every node has a tag that says what kind of value it is. A plain scalar without a tag of its own
gets one from the way it is written.

* `stem` and the tags made from it: the tags that are known.
* `plainTag`: the tag that a scalar has by the way it is written.
-/

namespace ZoneFirewall.Yaml

/-- What the tags that are known have in common. -/
def tagStem : String := "tag:yaml.org,2002:"

/-- The tag of texts. -/
def textTag : String := tagStem ++ "str"

/-- The tag of sequences. -/
def sequenceTag : String := tagStem ++ "seq"

/-- The tag of mappings. -/
def mappingTag : String := tagStem ++ "map"

/-- The tag of the null value. -/
def nullTag : String := tagStem ++ "null"

/-- The tag of truth values. -/
def truthTag : String := tagStem ++ "bool"

/-- The tag of integers. -/
def integerTag : String := tagStem ++ "int"

/-- The tag of real numbers. -/
def realTag : String := tagStem ++ "float"

/-- The tag of dates and times. -/
def timeTag : String := tagStem ++ "timestamp"

/-- The tag of the key under which mappings are merged. -/
def mergeTag : String := tagStem ++ "merge"

/-- The tag of the key of a default value. -/
def defaultTag : String := tagStem ++ "value"

/-- The tag of the marks of the language. No value has it. -/
def markTag : String := tagStem ++ "yaml"

/-- The tag of bytes. -/
def bytesTag : String := tagStem ++ "binary"

/-- The tag of sets. -/
def setTag : String := tagStem ++ "set"

/-- The tag of ordered mappings. -/
def orderedTag : String := tagStem ++ "omap"

/-- The tag of lists of pairs. -/
def pairsTag : String := tagStem ++ "pairs"

/-! ## How scalars are written -/

/-- The spellings of true. -/
def trueWords : List String := ["yes", "Yes", "YES", "true", "True", "TRUE", "on", "On", "ON"]

/-- The spellings of false. -/
def falseWords : List String := ["no", "No", "NO", "false", "False", "FALSE", "off", "Off", "OFF"]

/-- The spellings of null. -/
def nullWords : List String := ["", "~", "null", "Null", "NULL"]

/-- A scalar without the sign in front. -/
def unsigned : List Char → List Char
  | '-' :: rest => rest
  | '+' :: rest => rest
  | cs => cs

/-- Whether a character is a digit or an underscore. -/
def isDigitOrLine (c : Char) : Bool := c.isDigit || c = '_'

/-- Whether characters are a place of a number in base sixty. -/
def isSixtieth : List Char → Bool
  | [a] => a.isDigit
  | [a, b] => '0' ≤ a && a ≤ '5' && b.isDigit
  | _ => false

/-- Whether characters are the places of a number in base sixty, the first of which starts with
`lead`. -/
def isSexagesimal (lead : Char → Bool) (cs : List Char) : Bool :=
  match cs.splitOn ':' with
  | first :: next :: more =>
    (match first with
      | a :: rest => lead a && rest.all isDigitOrLine
      | [] => false)
    && (next :: more).all isSixtieth
  | _ => false

/-- Whether a scalar is written as an integer. -/
def isIntegerText (cs : List Char) : Bool :=
  match unsigned cs with
  | '0' :: 'b' :: rest => rest ≠ [] && rest.all fun c => c = '0' || c = '1' || c = '_'
  | '0' :: 'x' :: rest => rest ≠ [] && rest.all fun c => isHexDigit c || c = '_'
  | '0' :: rest => rest.all fun c => ('0' ≤ c && c ≤ '7') || c = '_'
  | c :: rest =>
    c.isDigit &&
      (rest.all isDigitOrLine || isSexagesimal (fun a => a.isDigit && a ≠ '0') (c :: rest))
  | [] => false

/-- Whether characters are the exponent of a real number, or nothing. -/
def isExponent : List Char → Bool
  | [] => true
  | e :: sign :: rest =>
    (e = 'e' || e = 'E') && (sign = '-' || sign = '+') && rest ≠ [] && rest.all Char.isDigit
  | _ => false

/-- Whether a scalar is written as a real number. -/
def isRealText (cs : List Char) : Bool :=
  let body := unsigned cs
  let mantissa := body.takeWhile fun c => c ≠ 'e' && c ≠ 'E'
  let exponent := body.dropWhile fun c => c ≠ 'e' && c ≠ 'E'
  (match mantissa.splitOn '.' with
    | [] => false
    | [_] => false
    | [a :: whole, part] =>
      a.isDigit && whole.all isDigitOrLine && part.all isDigitOrLine && isExponent exponent
        || isSexagesimal Char.isDigit (a :: whole) && part.all isDigitOrLine && exponent = []
    | [[], a :: part] =>
      body.length = cs.length && a.isDigit && part.all isDigitOrLine && isExponent exponent
    | _ => false)
  || [".inf", ".Inf", ".INF"].contains (String.ofList body)
  || [".nan", ".NaN", ".NAN"].contains (String.ofList cs)

/-- Whether a scalar is written as a date or a time. A date alone has two digits for month and
day. -/
def isTimeText (cs : List Char) : Bool :=
  match Time.parts? cs with
  | none => false
  | some parts => parts.clock.isSome || cs.length = 10

/-- The tag that a scalar has by the way it is written. A line feed at the end does not count. -/
def plainTag (text : String) : String :=
  let cs := Text.withoutFinalBreak text.toList
  let word := String.ofList cs
  if trueWords.contains word || falseWords.contains word then truthTag
  else if isRealText cs then realTag
  else if isIntegerText cs then integerTag
  else if word = "<<" then mergeTag
  else if nullWords.contains word then nullTag
  else if isTimeText cs then timeTag
  else if word = "=" then defaultTag
  else if ["!", "&", "*"].contains word then markTag
  else textTag

end ZoneFirewall.Yaml
