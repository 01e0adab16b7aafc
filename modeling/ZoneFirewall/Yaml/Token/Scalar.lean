import ZoneFirewall.Text.Utf8
import ZoneFirewall.Yaml.Token.Cursor

/-!
# Scalars

The four ways to write a scalar: plain, in single or in double quotes, and as a block. Line breaks
within a scalar are folded: a single one is read as a space, and of several all but the first
remain.

* `Lex.plainScalar`, `Lex.quotedScalar`, `Lex.blockScalar`: the tokens.
-/

namespace ZoneFirewall.Yaml.Lex

/-! ## Plain scalars -/

/-- The breaks of empty lines, up to a mark between documents, at which there is nothing. -/
def plainBreaks : Nat → List Char → Lex (Option (List Char))
  | 0, breaks => return some breaks.reverse
  | n + 1, breaks => do
    let c ← peek 0
    if c = ' ' then
      forward 1
      plainBreaks n breaks
    else
      match (← lineBreak) with
      | none => return some breaks.reverse
      | some b =>
        if (← atDocumentMark) then return none else plainBreaks n (b :: breaks)

/-- What the blanks after a part of a plain scalar are read as; nothing where the scalar ends. -/
def plainSpaces : Lex (List Char) := do
  let blanks ← taken (· = ' ')
  match (← lineBreak) with
  | none => return blanks
  | some first =>
    allowKey true
    if (← atDocumentMark) then return []
    else
      match (← plainBreaks (← stepBound) []) with
      | none => return []
      | some breaks =>
        return (if first ≠ '\n' then [first] else if breaks = [] then [' '] else []) ++ breaks

/-- How many characters a part of a plain scalar has, of which some have been counted. -/
def plainLength (inFlow : Bool) : List Char → Nat
  | [] => 0
  | c :: rest =>
    let next := rest.headD endMark
    if isGap c then 0
    else if c = ':' && (isGap next || (inFlow && ",[]\x7b\x7d".toList.contains next)) then 0
    else if inFlow && ",?[]\x7b\x7d".toList.contains c then 0
    else plainLength inFlow rest + 1

/-- The parts of a plain scalar, last character first, after the text so far and the blanks behind
it. -/
def plainParts (indent : Int) : Nat → (text blanks : List Char) → Lex (List Char)
  | 0, text, _ => return text
  | n + 1, text, blanks => do
    let l ← get
    let inFlow := l.flowLevel > 0
    let length := plainLength inFlow l.cursor.rest
    if l.cursor.rest.head? = some '#' || length = 0 then return text
    else
      allowKey false
      let part ← ahead length
      forward length
      let text := part.reverse ++ (blanks.reverse ++ text)
      let blanks ← plainSpaces
      let column ← column
      if blanks = [] || (← peek 0) = '#' || (!inFlow && (column : Int) < indent) then return text
      else plainParts indent n text blanks

/-- A plain scalar. -/
def plainScalar : Lex Token := do
  let indent := (← get).indent + 1
  let text ← plainParts indent (← stepBound) [] []
  return .scalar (.ofChars text.reverse) true

/-! ## Quoted scalars -/

/-- The characters that an escape of one letter stands for. -/
def escapes : List (Char × Char) :=
  [ ('0', '\x00'), ('a', '\x07'), ('b', '\x08'), ('t', '\t'), ('\t', '\t'), ('n', '\n'),
    ('v', '\x0b'), ('f', '\x0c'), ('r', '\r'), ('e', '\x1b'), (' ', ' '), ('"', '"'), ('\\', '\\'),
    ('/', '/'), ('N', '\u0085'), ('_', '\u00a0'), ('L', '\u2028'), ('P', '\u2029') ]

/-- How many digits follow the letter of an escape by number. -/
def escapeWidth? (c : Char) : Option Nat :=
  if c = 'x' then some 2 else if c = 'u' then some 4 else if c = 'U' then some 8 else none

/-- The breaks of empty lines within quotes. -/
def quotedBreaks : Nat → List Char → Lex (List Char)
  | 0, breaks => return breaks.reverse
  | n + 1, breaks => do
    if (← atDocumentMark) then throw .token
    let _ ← taken fun c => c = ' ' || c = '\t'
    match (← lineBreak) with
    | some b => quotedBreaks n (b :: breaks)
    | none => return breaks.reverse

/-- What blanks within quotes are read as. -/
def quotedSpaces : Lex (List Char) := do
  let blanks ← taken fun c => c = ' ' || c = '\t'
  if (← peek 0) = endMark then throw .token
  match (← lineBreak) with
  | none => return blanks
  | some first =>
    let breaks ← quotedBreaks (← stepBound) []
    return (if first ≠ '\n' then [first] else if breaks = [] then [' '] else []) ++ breaks

/-- The code point that an escape by number names. -/
def namedPoint (n : Nat) : Lex Nat := do
  if n ≥ 0x80000000 then throw .escapeTooLarge
  if n ≥ 0x110000 then throw .escape
  return n

/-- What an escape is read as, its backslash having been passed. -/
def escaped : Lex (List Nat) := do
  let c ← peek 0
  match escapes.find? (·.1 = c) with
  | some (_, meant) =>
    forward 1
    return [meant.toNat]
  | none =>
    match escapeWidth? c with
    | some width =>
      forward 1
      let digits ← ahead width
      if digits.length < width || !digits.all isHexDigit then throw .token
      let point ← namedPoint (hexValue digits)
      forward width
      return [point]
    | none =>
      match (← lineBreak) with
      | some _ => return (← quotedBreaks (← stepBound) []).map Char.toNat
      | none => throw .token

/-- The code points within quotes up to the next blank or the closing quote, last one first, after
those so far. -/
def quotedWord (double : Bool) : Nat → List Nat → Lex (List Nat)
  | 0, text => return text
  | n + 1, text => do
    let word ← taken fun c => !isGap c && c ≠ '\'' && c ≠ '"' && c ≠ '\\'
    let text := (word.map Char.toNat).reverse ++ text
    let c ← peek 0
    if !double && c = '\'' && (← peek 1) = '\'' then
      forward 2
      quotedWord double n ('\''.toNat :: text)
    else if (double && c = '\'') || (!double && (c = '"' || c = '\\')) then
      forward 1
      quotedWord double n (c.toNat :: text)
    else if double && c = '\\' then
      forward 1
      quotedWord double n ((← escaped).reverse ++ text)
    else return text

/-- What stands between the quotes, last code point first, after the text so far. -/
def quotedParts (quote : Char) : Nat → List Nat → Lex (List Nat)
  | 0, text => return text
  | n + 1, text => do
    if (← peek 0) = quote then return text
    let text := ((← quotedSpaces).map Char.toNat).reverse ++ text
    quotedParts quote n (← quotedWord (quote = '"') (← stepBound) text)

/-- A scalar in quotes. -/
def quotedScalar (quote : Char) : Lex Token := do
  forward 1
  let first ← quotedWord (quote = '"') (← stepBound) []
  let points ← quotedParts quote (← stepBound) first
  forward 1
  return .scalar ⟨points.reverse⟩ false

/-! ## Block scalars -/

/-- What becomes of the breaks at the end of a block scalar. -/
inductive Chomping where
  /-- One remains. -/
  | clip
  /-- None remains. -/
  | strip
  /-- All remain. -/
  | keep
  deriving DecidableEq, Repr

/-- The mark for the breaks at the end, if there is one. -/
def chomping : Lex (Option Chomping) := do
  let c ← peek 0
  if c = '+' || c = '-' then
    forward 1
    return some (if c = '+' then .keep else .strip)
  else return none

/-- The mark for the indentation, if there is one. -/
def increment : Lex (Option Nat) := do
  let c ← peek 0
  if c.isDigit then
    if c = '0' then throw .token
    forward 1
    return some (c.toNat - 0x30)
  else return none

/-- The rest of a line that may hold only a comment. -/
def restOfLine : Lex Unit := do
  spaces
  if (← peek 0) = '#' then
    let _ ← taken (!isBreakOrEnd ·)
  if !isBreakOrEnd (← peek 0) then throw .token
  let _ ← lineBreak

/-- The marks of a block scalar, in either order. -/
def blockMarks : Lex (Chomping × Option Nat) := do
  let before ← chomping
  let width ← increment
  let mark ← if before.isNone && width.isSome then chomping else pure before
  let c ← peek 0
  if !(c = ' ' || isBreakOrEnd c) then throw .token
  return (mark.getD .clip, width)

/-- The breaks before the first line of a block scalar, and the greatest column of its blanks. -/
def blockLead : Nat → List Char → Nat → Lex (List Char × Nat)
  | 0, breaks, widest => return (breaks.reverse, widest)
  | n + 1, breaks, widest => do
    if (← peek 0) = ' ' then
      forward 1
      blockLead n breaks (max widest (← column))
    else
      match (← lineBreak) with
      | some b => blockLead n (b :: breaks) widest
      | none => return (breaks.reverse, widest)

/-- Moves on past the spaces of an indentation. -/
def indentation (indent : Nat) : Lex Unit := do
  let l ← get
  let blanks := (l.cursor.rest.takeWhile (· = ' ')).length
  forward (min blanks (indent - l.cursor.column))

/-- The breaks of empty lines of a block scalar, and the indentation of the line after them. -/
def blockBreaks (indent : Nat) : Nat → List Char → Lex (List Char)
  | 0, breaks => return breaks.reverse
  | n + 1, breaks => do
    indentation indent
    match (← lineBreak) with
    | some b => blockBreaks indent n (b :: breaks)
    | none => return breaks.reverse

/-- The lines of a block scalar, after the text so far and the breaks behind it: the text, last
character first, the break of the last line, and the breaks after that. -/
def blockLines (folded : Bool) (indent : Nat) :
    Nat → (text breaks : List Char) → Option Char → Lex (List Char × Option Char × List Char)
  | 0, text, breaks, last => return (text, last, breaks)
  | n + 1, text, breaks, last => do
    if (← column) ≠ indent || (← peek 0) = endMark then return (text, last, breaks)
    let c ← peek 0
    let flush := c ≠ ' ' && c ≠ '\t'
    let line ← taken (!isBreakOrEnd ·)
    let text := line.reverse ++ (breaks.reverse ++ text)
    let last ← lineBreak
    let breaks ← blockBreaks indent (← stepBound) []
    let next ← peek 0
    if (← column) = indent && next ≠ endMark then
      let join :=
        if folded && last = some '\n' && flush && next ≠ ' ' && next ≠ '\t' then
          if breaks = [] then [' '] else []
        else last.toList
      blockLines folded indent n (join.reverse ++ text) breaks last
    else return (text, last, breaks)

/-- A block scalar. -/
def blockScalar (folded : Bool) : Lex Token := do
  forward 1
  let (mark, width) ← blockMarks
  restOfLine
  let least := max ((← get).indent + 1) 1
  let (breaks, indent) ← (do
    match width with
    | none =>
      let (breaks, widest) ← blockLead (← stepBound) [] 0
      return (breaks, max least.toNat widest)
    | some width =>
      let indent := least.toNat + width - 1
      return (← blockBreaks indent (← stepBound) [], indent))
  let (text, last, breaks) ← blockLines folded indent (← stepBound) [] breaks none
  let text := if mark = .strip then text.reverse else text.reverse ++ last.toList
  let text := if mark = .keep then text ++ breaks else text
  return .scalar (.ofChars text) false

end ZoneFirewall.Yaml.Lex
