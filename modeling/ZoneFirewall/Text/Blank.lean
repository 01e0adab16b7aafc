/-!
# Blank characters

Which characters count as blank, and texts without the blanks at their ends. The set is wider than
the space and the tab: it holds the control characters that separate lines and records and every
space, line and paragraph separator of Unicode. Zero-width characters are not blank.

* `isBlank`, `trim`.
-/

namespace ZoneFirewall.Text

/-- The blank characters. -/
def isBlank (c : Char) : Bool :=
  let n := c.toNat
  (0x09 ≤ n && n ≤ 0x0d) || (0x1c ≤ n && n ≤ 0x20) || n == 0x85 || n == 0xa0 || n == 0x1680
    || (0x2000 ≤ n && n ≤ 0x200a) || n == 0x2028 || n == 0x2029 || n == 0x202f || n == 0x205f
    || n == 0x3000

/-- The characters without the blanks at their end. -/
def dropBlanksEnd (cs : List Char) : List Char :=
  (cs.reverse.dropWhile isBlank).reverse

/-- The characters without the blanks at either end. -/
def trimChars (cs : List Char) : List Char :=
  dropBlanksEnd (cs.dropWhile isBlank)

/-- The text without the blanks at either end. -/
def trim (s : String) : String := String.ofList (trimChars s.toList)

end ZoneFirewall.Text
