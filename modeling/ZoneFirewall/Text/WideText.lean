import ZoneFirewall.Text.Blank
import ZoneFirewall.Text.LetterCase
import ZoneFirewall.Text.Literal

/-!
# Texts of code points

A `String` holds characters. Escapes in a document name code points, and some of these, the
surrogates, are no characters: they are the halves that the encoding in units of sixteen bits makes
of a character beyond U+FFFF. A wide text may hold them. Two texts that look alike are different if
one has a character where the other has its halves.

* `WideText`: the texts. Every `String` is one.
* `WideText.chars`: the characters to decide by, with a replacement for each surrogate.
* `WideText.string?`: the characters of a text without surrogates.
* `WideText.joined`: the text as it is shown, in which two halves make up the character that they
  are the halves of.
* `WideText.literal`: the literal, in which every surrogate is written by its number.
* `WideText.trim`, `WideText.lowerCase`, `WideText.cutAt`, `WideText.splitOn`: as for characters; a
  surrogate is neither a blank nor a letter nor a mark.
-/

namespace ZoneFirewall.Text

/-- A text of code points. -/
structure WideText where
  /-- The code points. -/
  points : List Nat
  deriving DecidableEq, Repr

/-- Whether a code point is a surrogate. -/
def isSurrogate (n : Nat) : Bool := 0xd800 ≤ n && n ≤ 0xdfff

/-- Whether a code point is the first half of a character. -/
def isFirstHalf (n : Nat) : Bool := 0xd800 ≤ n && n ≤ 0xdbff

/-- Whether a code point is the second half of a character. -/
def isSecondHalf (n : Nat) : Bool := 0xdc00 ≤ n && n ≤ 0xdfff

/-- The character of two halves. -/
def charOfHalves (first second : Nat) : Char :=
  Char.ofNat (0x10000 + (first - 0xd800) * 0x400 + (second - 0xdc00))

/-- The character of a code point, the replacement character for a surrogate. -/
def charOfPoint (n : Nat) : Char := if isSurrogate n then '\ufffd' else Char.ofNat n

/-- The characters of code points, halves that belong together being joined. -/
def joinHalves : List Nat → List Char
  | [] => []
  | [n] => [charOfPoint n]
  | first :: second :: rest =>
    if isFirstHalf first && isSecondHalf second then charOfHalves first second :: joinHalves rest
    else charOfPoint first :: joinHalves (second :: rest)

namespace WideText

/-! ## Characters -/

/-- The text of some characters. -/
def ofChars (cs : List Char) : WideText := ⟨cs.map Char.toNat⟩

/-- A text of characters as a text of code points. -/
def ofString (s : String) : WideText := ofChars s.toList

instance : Coe String WideText := ⟨ofString⟩

/-- The characters to decide by. -/
def chars (t : WideText) : List Char := t.points.map charOfPoint

/-- Whether there is a surrogate in a text. -/
def hasSurrogate (t : WideText) : Bool := t.points.any isSurrogate

/-- The characters of a text without surrogates. -/
def string? (t : WideText) : Option String :=
  if t.hasSurrogate then none else some (String.ofList t.chars)

/-- The text in characters, as it is shown. -/
def joined (t : WideText) : String := String.ofList (joinHalves t.points)

/-- A code point of a literal in the given quotes. -/
def literalPoint (quote : Char) (n : Nat) : List Char :=
  if isSurrogate n then ['\\', 'u'] ++ hexDigits 4 n else literalChar quote (Char.ofNat n)

/-- The literal of a text. -/
def literal (t : WideText) : String :=
  let quote := literalQuote t.chars
  String.ofList (quote :: t.points.flatMap (literalPoint quote) ++ [quote])

/-! ## Parts -/

/-- The text without its first code points. -/
def drop (n : Nat) (t : WideText) : WideText := ⟨t.points.drop n⟩

/-- The text without one of its characters. -/
def without (c : Char) (t : WideText) : WideText := ⟨t.points.filter (· ≠ c.toNat)⟩

/-- The text without the blanks at either end. -/
def trim (t : WideText) : WideText :=
  let isBlankPoint (n : Nat) : Bool := isBlank (charOfPoint n)
  ⟨((t.points.dropWhile isBlankPoint).reverse.dropWhile isBlankPoint).reverse⟩

/-- The parts of a text between marks. -/
def splitOn (mark : Char) (t : WideText) : List WideText :=
  (t.points.splitOn mark.toNat).map WideText.mk

/-- The part of a text before the first mark and the part after it, which is empty if there is
none. -/
def cutAt (mark : Char) (t : WideText) : WideText × WideText :=
  (⟨t.points.takeWhile (· ≠ mark.toNat)⟩, ⟨(t.points.dropWhile (· ≠ mark.toNat)).drop 1⟩)

/-- The lower-case form of a text. What is between surrogates is a text by itself. -/
def lowerCase (t : WideText) : WideText :=
  let runs := t.points.splitBy fun a b => isSurrogate a == isSurrogate b
  ⟨runs.flatMap fun run =>
    if run.any isSurrogate then run
    else (lowerChars (run.map Char.ofNat)).map Char.toNat⟩

/-- Texts as they are shown, with a mark between them. -/
def joinedWith (mark : String) (ts : List WideText) : String :=
  mark.intercalate (ts.map joined)

end WideText

end ZoneFirewall.Text
