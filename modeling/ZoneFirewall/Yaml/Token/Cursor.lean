import ZoneFirewall.Yaml.Token.Basic

/-!
# A place in a text

A cursor knows what is left of a text and at which line and column it stands. A lexer is a cursor
together with what the layout of the text so far allows to come next.

* `Cursor`, `Cursor.advance`: the place, and the next one.
* `SimpleKey`: a place where a key may have begun that is recognised only by the colon after it.
* `Lexer`, `Lex`: the state of the lexer and the actions on it.
* `Lex.peek`, `Lex.forward`, `Lex.taken`, `Lex.lineBreak`: the smallest actions.
-/

namespace ZoneFirewall.Yaml

/-- A place in a text. -/
structure Cursor where
  /-- What is left of the text. -/
  rest : List Char
  /-- How many characters come before. -/
  index : Nat := 0
  /-- How many lines come before. -/
  line : Nat := 0
  /-- How many characters of the line come before. -/
  column : Nat := 0

/-- The place after the next character. -/
def Cursor.advance (c : Cursor) : Cursor :=
  match c.rest with
  | [] => c
  | ch :: rest =>
    if (isBreak ch && ch != '\r') || (ch == '\r' && rest.head? != some '\n') then
      { rest, index := c.index + 1, line := c.line + 1, column := 0 }
    else
      { rest, index := c.index + 1, line := c.line,
        column := if ch.toNat = 0xfeff then c.column else c.column + 1 }

/-- The place some characters further on. -/
def Cursor.advanceBy : Nat → Cursor → Cursor
  | 0, c => c
  | n + 1, c => advanceBy n c.advance

/-- A place where a key may have begun. -/
structure SimpleKey where
  /-- How many tokens came before. -/
  position : Nat
  /-- Whether nothing else can stand there. -/
  required : Bool
  /-- How many characters came before. -/
  index : Nat
  /-- The line. -/
  line : Nat
  /-- The column. -/
  column : Nat

/-- The state of the lexer. -/
structure Lexer where
  /-- The place in the text. -/
  cursor : Cursor
  /-- How many characters the text has. -/
  size : Nat
  /-- The tokens so far. -/
  tokens : Array Token := #[]
  /-- How many brackets are open. -/
  flowLevel : Nat := 0
  /-- The column of the innermost block collection, -1 outside of all. -/
  indent : Int := -1
  /-- The columns of the block collections around it. -/
  outerIndents : List Int := []
  /-- Whether a key may begin here without a mark of its own. -/
  keyAllowed : Bool := true
  /-- Where a key may have begun, for each number of open brackets. -/
  possibleKeys : List (Nat × SimpleKey) := []

/-- An action of the lexer. -/
abbrev Lex := StateT Lexer (Except DocumentError)

namespace Lex

/-- The character `n` places ahead. -/
def peek (n : Nat) : Lex Char := return (← get).cursor.rest.getD n endMark

/-- The next characters, `n` of them unless the text ends before. -/
def ahead (n : Nat) : Lex (List Char) := return (← get).cursor.rest.take n

/-- Moves `n` characters on. -/
def forward (n : Nat) : Lex Unit := modify fun l => { l with cursor := l.cursor.advanceBy n }

/-- Moves on past the characters that satisfy `p`, and yields them. -/
def taken (p : Char → Bool) : Lex (List Char) := do
  let word := (← get).cursor.rest.takeWhile p
  forward word.length
  return word

/-- Moves on past spaces. -/
def spaces : Lex Unit := do
  let _ ← taken (· = ' ')

/-- The column. -/
def column : Lex Nat := return (← get).cursor.column

/-- A bound for the number of steps that take a character each. -/
def stepBound : Lex Nat := return (← get).size + 1

/-- Adds a token. -/
def emit (t : Token) : Lex Unit := modify fun l => { l with tokens := l.tokens.push t }

/-- Allows or forbids a key to begin here. -/
def allowKey (allowed : Bool) : Lex Unit := modify fun l => { l with keyAllowed := allowed }

/-- Moves on past the end of a line, if the line ends here, and yields the break as it is read. -/
def lineBreak : Lex (Option Char) := do
  let c ← peek 0
  if c = '\r' && (← peek 1) = '\n' then
    forward 2
    return some '\n'
  else if c = '\r' || c = '\n' || c.toNat = 0x85 then
    forward 1
    return some '\n'
  else if isBreak c then
    forward 1
    return some c
  else return none

/-- Whether a mark between documents stands here. -/
def atDocumentMark : Lex Bool := do
  let mark ← ahead 3
  return (mark = ['-', '-', '-'] || mark = ['.', '.', '.']) && isGap (← peek 3)

end Lex

end ZoneFirewall.Yaml
