import ZoneFirewall.Text.WideText
import ZoneFirewall.Yaml.Tag

/-!
# Writing documents

An outline is written in block style: one line for each item and each key, the items of a list not
indented under their key. A text is written plainly where it reads back as itself; otherwise it is
put in single quotes, or in double quotes where only escapes can keep it. Long lines are folded at
single spaces. An empty collection is written as a pair of brackets, and a key that is empty, long
or has several lines on a line of its own after a question mark.

* `Outline`: what can be written.
* `Page`: what has been written, and what the layout depends on.
* `Outline.render`: the text of an outline.
-/

namespace ZoneFirewall.Yaml

open Text

/-- What can be written: texts, truth values, and collections of them. -/
inductive Outline where
  /-- A text. -/
  | text (s : WideText)
  /-- A truth value. -/
  | truth (b : Bool)
  /-- A list. -/
  | list (items : List Outline)
  /-- A mapping with texts as keys. -/
  | mapping (entries : List (WideText × Outline))
  deriving Inhabited

/-- The column after which lines are folded. -/
def foldWidth : Nat := 120

/-- A key has to be shorter than this to stand before its colon on one line. -/
def keyWidth : Nat := 123

/-- By how much a collection within another is indented. -/
def indentWidth : Nat := 2

/-! ## Pages -/

/-- What has been written so far. -/
structure Page where
  /-- The text. -/
  text : String := ""
  /-- The column. -/
  column : Nat := 0
  /-- Whether the last character is a blank or the end of a line. -/
  afterBlank : Bool := true
  /-- Whether the line holds nothing but blanks and marks of block style. -/
  fresh : Bool := true

namespace Page

/-- Writes characters. -/
def put (p : Page) (cs : List Char) : Page :=
  { p with text := p.text ++ String.ofList cs, column := p.column + cs.length }

/-- Ends the line. -/
def newLine (p : Page) (c : Char) : Page :=
  { text := p.text.push c, column := 0, afterBlank := true, fresh := true }

/-- Moves to the column of an indentation, on a new line if need be. -/
def indent (p : Page) (column : Nat) : Page :=
  let p :=
    if !p.fresh || p.column > column || (p.column = column && !p.afterBlank) then p.newLine '\n'
    else p
  if p.column < column then
    { p.put (List.replicate (column - p.column) ' ') with afterBlank := true }
  else p

/-- Writes a mark, after a blank if it needs one; the line stays fresh only if the mark is one of
block style. -/
def mark (p : Page) (cs : List Char) (spaced block : Bool) : Page :=
  let p := if p.afterBlank || !spaced then p.put cs else p.put (' ' :: cs)
  { p with afterBlank := false, fresh := p.fresh && block }

/-- Says that something other than blanks and marks has been written. -/
def used (p : Page) : Page := { p with afterBlank := false, fresh := false }

end Page

/-! ## Styles -/

/-- The characters that end a line of a scalar. -/
def isScalarBreak (c : Char) : Bool :=
  c = '\n' || c.toNat = 0x85 || c.toNat = 0x2028 || c.toNat = 0x2029

/-- The characters that can be written only as escapes. -/
def needsEscape (c : Char) : Bool :=
  let n := c.toNat
  !(c = '\n' || (0x20 ≤ n && n ≤ 0x7e)
    || ((n = 0x85 || (0xa0 ≤ n && n ≤ 0xd7ff) || (0xe000 ≤ n && n ≤ 0xfffd)
        || (0x10000 ≤ n && n < 0x10ffff)) && n ≠ 0xfeff))

/-- Whether characters in a row satisfy `p` and `q`. -/
def hasNeighbours (p q : Char → Bool) : List Char → Bool
  | a :: b :: rest => (p a && q b) || hasNeighbours p q (b :: rest)
  | _ => false

/-- The marks that a plain scalar may not start with. -/
def leadingMarks : List Char := "#,[]\x7b\x7d&*!|>'\"%@`".toList

/-- Whether characters after the first one would be read as a mark: a colon before a gap, or a
number sign after one. -/
def hasInnerMark : List Char → Bool
  | a :: b :: rest =>
    (b = ':' && isGap (rest.headD endMark)) || (b = '#' && isGap a) || hasInnerMark (b :: rest)
  | _ => false

/-- Whether characters would not be read as one plain scalar. -/
def hasMarks (cs : List Char) : Bool :=
  let first := cs.headD endMark
  let gap := isGap ((cs.drop 1).headD endMark)
  ['-', '-', '-'].isPrefixOf cs || ['.', '.', '.'].isPrefixOf cs || leadingMarks.contains first
    || ((first = '?' || first = ':' || first = '-') && gap) || hasInnerMark cs

/-- Whether a text has several lines. -/
def isMultiline (cs : List Char) : Bool := cs.any isScalarBreak

/-- Whether single quotes keep a text. -/
def keptBySingleQuotes (cs : List Char) : Bool :=
  !hasNeighbours isScalarBreak (· = ' ') cs && !hasNeighbours (· = ' ') isScalarBreak cs
    && !cs.any needsEscape

/-- Whether a text can be written plainly. -/
def keptPlain (cs : List Char) : Bool :=
  let isEdge (c : Char) := c = ' ' || isScalarBreak c
  keptBySingleQuotes cs && !isMultiline cs && !isEdge (cs.headD endMark)
    && !isEdge (cs.getLastD endMark) && !hasMarks cs

/-- How a text is written. -/
inductive Style where
  /-- As it is. -/
  | plain
  /-- In single quotes. -/
  | single
  /-- In double quotes. -/
  | double
  deriving DecidableEq, Repr

/-- The style of a text, which is a key before its colon or not. Surrogates need escapes. -/
def styleOf (simpleKey : Bool) (text : WideText) : Style :=
  match text.string? with
  | none => .double
  | some s =>
    let cs := s.toList
    let crowded := simpleKey && isMultiline cs
    if plainTag s = textTag && !crowded && keptPlain cs then .plain
    else if keptBySingleQuotes cs && !crowded then .single
    else .double

/-! ## Scalars -/

/-- Runs of spaces, of breaks and of other characters. -/
inductive Run where
  /-- Spaces. -/
  | spaces (n : Nat)
  /-- Breaks. -/
  | breaks (cs : List Char)
  /-- Other characters. -/
  | word (cs : List Char)
  deriving Repr

/-- A character in front of runs. -/
def Run.cons (c : Char) : List Run → List Run
  | .spaces n :: rest =>
    if c = ' ' then .spaces (n + 1) :: rest
    else if isScalarBreak c then .breaks [c] :: .spaces n :: rest
    else .word [c] :: .spaces n :: rest
  | .breaks cs :: rest =>
    if isScalarBreak c then .breaks (c :: cs) :: rest
    else if c = ' ' then .spaces 1 :: .breaks cs :: rest
    else .word [c] :: .breaks cs :: rest
  | .word cs :: rest =>
    if c = ' ' then .spaces 1 :: .word cs :: rest
    else if isScalarBreak c then .breaks [c] :: .word cs :: rest
    else .word (c :: cs) :: rest
  | [] => if c = ' ' then [.spaces 1] else if isScalarBreak c then [.breaks [c]] else [.word [c]]

/-- The runs of a text. -/
def Run.ofChars (cs : List Char) : List Run := cs.foldr Run.cons []

namespace Page

/-- Writes a plain scalar, folded if it may be. -/
def plain (p : Page) (column : Nat) (mayFold : Bool) (cs : List Char) : Page :=
  let p := if p.afterBlank then p else p.put [' ']
  (Run.ofChars cs).foldl (fun p run =>
    match run with
    | .spaces n =>
      if n = 1 && p.column > foldWidth && mayFold then (p.indent column).used
      else p.put (List.replicate n ' ')
    | .breaks cs => p.put cs
    | .word cs => p.put cs) p.used

/-- Writes the breaks of a quoted scalar: one more than there are, as a single one would be folded
into a space. -/
def quotedBreaks (p : Page) (column : Nat) (cs : List Char) : Page :=
  let p := if cs.head? = some '\n' then p.newLine '\n' else p
  (cs.foldl newLine p).indent column

/-- Writes the runs of a scalar between single quotes; the first and the last run are not folded. -/
def singleRuns (p : Page) (column : Nat) (mayFold atStart : Bool) : List Run → Page
  | [] => p
  | run :: rest =>
    let p :=
      match run with
      | .spaces n =>
        if n = 1 && p.column > foldWidth && mayFold && !atStart && !rest.isEmpty then
          p.indent column
        else p.put (List.replicate n ' ')
      | .breaks cs => p.quotedBreaks column cs
      | .word cs => p.put (cs.flatMap fun c => if c = '\'' then ['\'', '\''] else [c])
    singleRuns p column mayFold false rest

/-- Writes a scalar in single quotes. -/
def single (p : Page) (column : Nat) (mayFold : Bool) (cs : List Char) : Page :=
  ((p.mark ['\''] true false).singleRuns column mayFold true (Run.ofChars cs)).mark ['\'']
    false false

/-- The letters of the characters that have an escape of their own. -/
def escapeLetters : List (Char × Char) :=
  [ ('\x00', '0'), ('\x07', 'a'), ('\x08', 'b'), ('\t', 't'), ('\n', 'n'), ('\x0b', 'v'),
    ('\x0c', 'f'), ('\r', 'r'), ('\x1b', 'e'), ('"', '"'), ('\\', '\\'), ('\u0085', 'N'),
    ('\u00a0', '_'), ('\u2028', 'L'), ('\u2029', 'P') ]

/-- A number in upper-case hexadecimal. -/
def upperHex (width n : Nat) : List Char := (hexDigits width n).map Char.toUpper

/-- The escape of a code point. -/
def escape (n : Nat) : List Char :=
  match escapeLetters.find? (·.1.toNat = n) with
  | some (_, letter) => ['\\', letter]
  | none =>
    if n ≤ 0xff then ['\\', 'x'] ++ upperHex 2 n
    else if n ≤ 0xffff then ['\\', 'u'] ++ upperHex 4 n
    else ['\\', 'U'] ++ upperHex 8 n

/-- Whether a code point stands as a character between double quotes. -/
def standsInDouble (n : Nat) : Bool :=
  n ≠ '"'.toNat && n ≠ '\\'.toNat && n ≠ 0x2028 && n ≠ 0x2029 && n ≠ 0xfeff
    && ((0x20 ≤ n && n ≤ 0x7e) || (0xa0 ≤ n && n ≤ 0xd7ff) || (0xe000 ≤ n && n ≤ 0xfffd))

/-- Writes the code points of a scalar between double quotes; the characters `held` come before them
and are not written yet. -/
def doublePoints (p : Page) (column : Nat) (mayFold atStart : Bool) (held : List Char) :
    List Nat → Page
  | [] => p.put held
  | n :: rest =>
    let stands := standsInDouble n
    let c := charOfPoint n
    let p := if stands then p else (p.put held).put (escape n)
    let held := if stands then held else []
    let reach : Int := if stands then p.column + held.length else (p.column : Int) - 1
    if !atStart && !rest.isEmpty && (c = ' ' || held.isEmpty) && reach > foldWidth && mayFold then
      let p := ((p.put (held ++ ['\\'])).indent column).used
      let next := if stands then n else rest.headD endMark.toNat
      let p := if next = ' '.toNat then p.put ['\\'] else p
      doublePoints p column mayFold false (if stands then [c] else []) rest
    else doublePoints p column mayFold false (if stands then held ++ [c] else []) rest

/-- Writes a scalar in double quotes. -/
def double (p : Page) (column : Nat) (mayFold : Bool) (points : List Nat) : Page :=
  ((p.mark ['"'] true false).doublePoints column mayFold true [] points).mark ['"'] false false

/-- Writes a text whose further lines are indented to a column. -/
def scalar (p : Page) (column : Nat) (simpleKey : Bool) (text : WideText) : Page :=
  match styleOf simpleKey text with
  | .plain => p.plain column (!simpleKey) text.chars
  | .single => p.single column (!simpleKey) text.chars
  | .double => p.double column (!simpleKey) text.points

end Page

/-! ## Outlines -/

/-- The column of what is within something at a column. -/
def innerColumn (column : Option Nat) : Nat :=
  match column with
  | none => 0
  | some n => n + indentWidth

/-- Whether a key can stand before its colon on one line. -/
def isSimpleKey (key : WideText) : Bool :=
  key.points.length < keyWidth && key ≠ "" && !isMultiline key.chars

mutual

/-- Writes an outline within a collection at a column. Directly under a key a list is not
indented. -/
def Page.outline (p : Page) (column : Option Nat) (underKey : Bool) : Outline → Page
  | .text s => p.scalar (column.getD 0 + indentWidth) false s
  | .truth b => p.plain (column.getD 0 + indentWidth) true (if b then "true" else "false").toList
  | .list [] => (p.mark ['['] true false).mark [']'] false false
  | .list items =>
    p.items (if underKey && !p.fresh then column.getD 0 else innerColumn column) items
  | .mapping [] => (p.mark ['\x7b'] true false).mark ['\x7d'] false false
  | .mapping entries => p.entries (innerColumn column) entries

/-- Writes the items of a list at a column. -/
def Page.items (p : Page) (column : Nat) : List Outline → Page
  | [] => p
  | item :: rest =>
    (((p.indent column).mark ['-'] true true).outline (some column) false item).items column rest

/-- Writes the entries of a mapping at a column. -/
def Page.entries (p : Page) (column : Nat) : List (WideText × Outline) → Page
  | [] => p
  | (key, value) :: rest =>
    let p := p.indent column
    let p :=
      if isSimpleKey key then
        (p.scalar (column + indentWidth) true key).mark [':'] false false
      else
        (((p.mark ['?'] true true).scalar (column + indentWidth) false key).indent column).mark
          [':'] true true
    (p.outline (some column) true value).entries column rest

end

/-- The text of an outline, which ends with the end of a line. -/
def Outline.render (o : Outline) : String := ((({} : Page).outline none false o).indent 0).text

end ZoneFirewall.Yaml
