import ZoneFirewall.Text.Printable

/-!
# Quoted literals

Messages show a text that could not be read as a literal: in single quotes, or in double quotes
when it holds a single quote and no double quote. The quote in use and the backslash are escaped,
line feed, carriage return and tab have letters of their own, and a character that is not
printable is written by its number.

* `literal`: the literal of a text.
* `hexDigits`: a number in lower-case hexadecimal, filled up with zeros.
-/

namespace ZoneFirewall.Text

/-- The last `width` hexadecimal digits of a number, in lower case, filled up with zeros. -/
def hexDigits : (width n : Nat) → List Char
  | 0, _ => []
  | width + 1, n => hexDigits width (n / 16) ++ [Nat.digitChar (n % 16)]

/-- The escape of a character by its number, as short as the number allows. -/
def numericEscape (c : Char) : List Char :=
  let n := c.toNat
  if n < 0x100 then ['\\', 'x'] ++ hexDigits 2 n
  else if n < 0x10000 then ['\\', 'u'] ++ hexDigits 4 n
  else ['\\', 'U'] ++ hexDigits 8 n

/-- One character of a literal in the given quotes. -/
def literalChar (quote c : Char) : List Char :=
  if c = quote ∨ c = '\\' then ['\\', c]
  else if c = '\n' then ['\\', 'n']
  else if c = '\r' then ['\\', 'r']
  else if c = '\t' then ['\\', 't']
  else if isPrintable c then [c]
  else numericEscape c

/-- The quote that a literal of these characters uses. -/
def literalQuote (cs : List Char) : Char :=
  if cs.contains '\'' && !cs.contains '"' then '"' else '\''

/-- The literal of a text. -/
def literal (s : String) : String :=
  let quote := literalQuote s.toList
  String.ofList (quote :: s.toList.flatMap (literalChar quote) ++ [quote])

end ZoneFirewall.Text
