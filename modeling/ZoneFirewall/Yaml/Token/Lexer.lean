import ZoneFirewall.Yaml.Token.Scalar

/-!
# Cutting a document into tokens

A key needs no mark of its own: it is recognised by the colon after it, on the same line and not
more than 1024 characters further on. Until then the lexer remembers where the key may have begun
and puts the mark in afterwards.

* `Lex.next`: takes the next token.
* `Tokens`, `Tokens.ofText`: all tokens of a text, or those before the first fault in it.
-/

namespace ZoneFirewall.Yaml

/-- The greatest number of characters between the start of a key and its colon. -/
def keyReach : Nat := 1024

namespace Lex

/-! ## Keys and indentation -/

/-- Whether a colon at a place comes too late for a key. -/
def isStale (c : Cursor) (k : SimpleKey) : Bool :=
  k.line ≠ c.line || c.index > k.index + keyReach

/-- Forgets the places where a key can no longer have begun. -/
def dropStaleKeys : Lex Unit := do
  let l ← get
  if l.possibleKeys.any fun (_, k) => isStale l.cursor k && k.required then throw .token
  set { l with possibleKeys := l.possibleKeys.filter fun (_, k) => !isStale l.cursor k }

/-- Forgets that a key may have begun within the brackets that are open. -/
def dropKey : Lex Unit := do
  let l ← get
  if l.possibleKeys.any fun (level, k) => level = l.flowLevel && k.required then throw .token
  set { l with possibleKeys := l.possibleKeys.filter (·.1 ≠ l.flowLevel) }

/-- Remembers that a key may begin here. -/
def saveKey : Lex Unit := do
  if (← get).keyAllowed then
    dropKey
    modify fun l =>
      let c := l.cursor
      let required := l.flowLevel = 0 && l.indent = (c.column : Int)
      { l with possibleKeys :=
          (l.flowLevel, ⟨l.tokens.size, required, c.index, c.line, c.column⟩) :: l.possibleKeys }

/-- Ends the block collections that are indented further than a column. -/
def unwindFrom (column : Int) : List Int → Int → Lex Unit
  | [], indent => modify fun l => { l with indent, outerIndents := [] }
  | outer :: outers, indent =>
    if indent > column then do
      emit .blockEnd
      unwindFrom column outers outer
    else modify fun l => { l with indent, outerIndents := outer :: outers }

/-- Ends the block collections that are indented further than a column, outside of brackets. -/
def unwind (column : Int) : Lex Unit := do
  let l ← get
  if l.flowLevel = 0 then unwindFrom column l.outerIndents l.indent

/-- Begins a block collection at a column if that is further in than the innermost one. -/
def addIndent (column : Nat) : Lex Bool := do
  let l ← get
  if l.indent < column then
    set { l with indent := column, outerIndents := l.indent :: l.outerIndents }
    return true
  else return false

/-! ## Directives, anchors and tags -/

/-- The number of a version. -/
def versionNumber : Lex Nat := do
  let digits ← taken Char.isDigit
  if digits = [] then throw .token
  if digits.length > digitLimit then
    throw (.numeral (NumeralError.tooManyDigits digits.length).message)
  return digits.foldl (fun n c => 10 * n + (c.toNat - 0x30)) 0

/-- The handle of a tag. -/
def tagHandle : Lex String := do
  if (← peek 0) ≠ '!' then throw .token
  forward 1
  if (← peek 0) = ' ' then return "!"
  else
    let word ← taken isWordChar
    if (← peek 0) ≠ '!' then throw .token
    forward 1
    return "!" ++ String.ofList word ++ "!"

/-- The bytes of escapes within a tag. -/
def tagEscapes : Nat → List UInt8 → Lex (List UInt8)
  | 0, bytes => return bytes.reverse
  | n + 1, bytes => do
    if (← peek 0) ≠ '%' then return bytes.reverse
    forward 1
    let digits ← ahead 2
    if digits.length < 2 || !digits.all isHexDigit then throw .token
    forward 2
    tagEscapes n (UInt8.ofNat (hexValue digits) :: bytes)

/-- The characters of a tag, after those so far. -/
def tagChars : Nat → List Char → Lex (List Char)
  | 0, text => return text
  | n + 1, text => do
    let text := text ++ (← taken isTagChar)
    if (← peek 0) = '%' then
      match Text.decodeUtf8 (← tagEscapes (← stepBound) []) with
      | .ok s => tagChars n (text ++ s.toList)
      | .error _ => throw .token
    else return text

/-- A part of a tag that is not empty. -/
def tagText : Lex String := do
  let before := (← get).cursor.index
  let text ← tagChars (← stepBound) []
  if (← get).cursor.index = before then throw .token
  return String.ofList text

/-- What follows the word of a directive. -/
def directiveValue (name : List Char) : Lex DirectiveKind := do
  if name = ['Y', 'A', 'M', 'L'] then
    spaces
    let major ← versionNumber
    if (← peek 0) ≠ '.' then throw .token
    forward 1
    let _ ← versionNumber
    let c ← peek 0
    if !(c = ' ' || isBreakOrEnd c) then throw .token
    return .version major
  else if name = ['T', 'A', 'G'] then
    spaces
    let handle ← tagHandle
    if (← peek 0) ≠ ' ' then throw .token
    spaces
    let stem ← tagText
    let c ← peek 0
    if !(c = ' ' || isBreakOrEnd c) then throw .token
    return .tagHandle handle stem
  else
    let _ ← taken (!isBreakOrEnd ·)
    return .other

/-- A directive. -/
def directive : Lex Token := do
  forward 1
  let name ← taken isWordChar
  let c ← peek 0
  if name = [] || !(c = ' ' || isBreakOrEnd c) then throw .token
  let kind ← directiveValue name
  restOfLine
  return .directive kind

/-- The name of an anchor or an alias. -/
def anchorName : Lex String := do
  forward 1
  let name ← taken isWordChar
  let c ← peek 0
  if name = [] || !(isGap c || "?:,]\x7d%@`".toList.contains c) then throw .token
  return String.ofList name

/-- Whether the handle of a tag ends with a second exclamation mark. -/
def hasHandle (cs : List Char) : Bool :=
  (cs.takeWhile fun c => c ≠ ' ' && !isBreakOrEnd c).contains '!'

/-- A tag. -/
def tag : Lex Token := do
  let c ← peek 1
  let (handle, suffix) ← (do
    if c = '<' then
      forward 2
      let text ← tagText
      if (← peek 0) ≠ '>' then throw .token
      forward 1
      return (none, text)
    else if isGap c then
      forward 1
      return (none, "!")
    else if hasHandle ((← get).cursor.rest.drop 1) then
      let handle ← tagHandle
      return (some handle, ← tagText)
    else
      forward 1
      return (some "!", ← tagText))
  let c ← peek 0
  if !(c = ' ' || isBreakOrEnd c) then throw .token
  return .tag handle suffix

/-! ## Tokens -/

/-- Moves on past blanks, comments and the ends of lines. -/
def toNextToken : Nat → Lex Unit
  | 0 => return
  | n + 1 => do
    spaces
    if (← peek 0) = '#' then
      let _ ← taken (!isBreakOrEnd ·)
    match (← lineBreak) with
    | some _ =>
      if (← get).flowLevel = 0 then allowKey true
      toNextToken n
    | none => return

/-- A token with nothing before it that could be a key. -/
def plainMark (length : Nat) (t : Token) : Lex Unit := do
  forward length
  emit t

/-- A directive or a mark between documents, which ends all block collections. -/
def betweenDocuments (body : Lex Token) : Lex Unit := do
  unwind (-1)
  dropKey
  allowKey false
  emit (← body)

/-- A token that may begin a key. -/
def keyStart (body : Lex Token) : Lex Unit := do
  saveKey
  allowKey false
  emit (← body)

/-- An opening bracket. -/
def openFlow (t : Token) : Lex Unit := do
  saveKey
  modify fun l => { l with flowLevel := l.flowLevel + 1, keyAllowed := true }
  plainMark 1 t

/-- A closing bracket. -/
def closeFlow (t : Token) : Lex Unit := do
  if (← get).flowLevel = 0 then throw .layout
  dropKey
  modify fun l => { l with flowLevel := l.flowLevel - 1, keyAllowed := false }
  plainMark 1 t

/-- The beginning of a block collection at the cursor, where a key may begin. -/
def openBlock (t : Token) : Lex Unit := do
  let l ← get
  if l.flowLevel = 0 then
    if !l.keyAllowed then throw .token
    if (← addIndent l.cursor.column) then emit t

/-- The hyphen before an item. -/
def blockEntry : Lex Unit := do
  openBlock .blockSequenceStart
  allowKey true
  dropKey
  plainMark 1 .blockEntry

/-- The question mark before a key. -/
def explicitKey : Lex Unit := do
  openBlock .blockMappingStart
  allowKey ((← get).flowLevel = 0)
  dropKey
  plainMark 1 .key

/-- The colon before a value. The mark of a key that began without one is put in. -/
def valueMark : Lex Unit := do
  let l ← get
  match l.possibleKeys.find? (·.1 = l.flowLevel) with
  | some (level, key) =>
    let opens ← (do
      set { l with possibleKeys := l.possibleKeys.filter (·.1 ≠ level) }
      if level = 0 then addIndent key.column else return false)
    let marks := if opens then [Token.blockMappingStart, .key] else [.key]
    modify fun l =>
      { l with
        tokens := l.tokens.extract 0 key.position ++ marks.toArray
          ++ l.tokens.extract key.position l.tokens.size
        keyAllowed := false }
  | none =>
    openBlock .blockMappingStart
    allowKey ((← get).flowLevel = 0)
    dropKey
  plainMark 1 .value

/-- Whether a plain scalar can begin with a character, given the one after it. -/
def startsPlain (inFlow : Bool) (c next : Char) : Bool :=
  !(isGap c || "-?:,[]\x7b\x7d#&*!|>'\"%@`".toList.contains c)
    || (!isGap next && (c = '-' || (!inFlow && (c = '?' || c = ':'))))

/-- Takes the next token, or several where one shows that a collection begins or ends. Yields
whether there may be more. -/
def next : Lex Bool := do
  toNextToken (← stepBound)
  dropStaleKeys
  unwind (← column)
  let l ← get
  let c ← peek 0
  let inFlow := l.flowLevel > 0
  let gap := isGap (← peek 1)
  let lineStart := l.cursor.column = 0
  if c = endMark then
    unwind (-1)
    dropKey
    return false
  else if c = '%' && lineStart then betweenDocuments directive
  else if lineStart && (← atDocumentMark) then
    betweenDocuments do
      forward 3
      return if c = '-' then .documentStart else .documentEnd
  else if c = '[' then openFlow .flowSequenceStart
  else if c = '\x7b' then openFlow .flowMappingStart
  else if c = ']' then closeFlow .flowSequenceEnd
  else if c = '\x7d' then closeFlow .flowMappingEnd
  else if c = ',' then do
    allowKey true
    dropKey
    plainMark 1 .flowEntry
  else if c = '-' && gap then blockEntry
  else if c = '?' && (inFlow || gap) then explicitKey
  else if c = ':' && (inFlow || gap) then valueMark
  else if c = '*' then keyStart do return .alias (← anchorName)
  else if c = '&' then keyStart do return .anchor (← anchorName)
  else if c = '!' then keyStart tag
  else if (c = '|' || c = '>') && !inFlow then do
    allowKey true
    dropKey
    emit (← blockScalar (c = '>'))
  else if c = '\'' || c = '"' then keyStart (quotedScalar c)
  else if startsPlain inFlow c (← peek 1) then keyStart plainScalar
  else throw .token
  return true

end Lex

/-! ## All tokens -/

/-- The tokens of a text up to the first fault in it, if there is one. -/
structure Tokens where
  /-- The tokens. -/
  list : List Token
  /-- The fault that comes after them. -/
  fault : Option DocumentError := none

namespace Tokens

/-- The tokens that nothing further on can change: those before the first place where a key may
still turn out to have begun. -/
def settled (l : Lexer) : List Token :=
  let keys := l.possibleKeys.filter fun (_, k) => !Lex.isStale l.cursor k
  let count := keys.foldl (fun n (_, k) => min n k.position) l.tokens.size
  (l.tokens.extract 0 count).toList

/-- All tokens from a state of the lexer on. The number bounds the steps that are left. -/
def ofLexer : Nat → Lexer → Tokens
  | 0, l => { list := l.tokens.toList }
  | n + 1, l =>
    match Lex.next.run l with
    | .error e => { list := settled l, fault := some e }
    | .ok (true, l) => ofLexer n l
    | .ok (false, l) => { list := l.tokens.toList }

/-- All tokens of a text. A byte order mark in front is passed over. -/
def ofText (text : String) : Tokens :=
  if !text.toList.all isAllowed then { list := [], fault := some .forbiddenCharacter }
  else
    let start : Cursor := { rest := text.toList }
    let start := if start.rest.head? = some '\ufeff' then start.advance else start
    ofLexer (text.length + 1) { cursor := start, size := text.length }

end Tokens

end ZoneFirewall.Yaml
