import ZoneFirewall.Text.WideText
import ZoneFirewall.Yaml.Error

/-!
# Tokens of documents

A document is first cut into tokens. Indentation shows in them as the start and end of block
collections.

* `Token`: the tokens.
* `isBreak`, `isGap`: the characters that end lines and words.
* `isAllowed`: the characters that may appear at all.
-/

namespace ZoneFirewall.Yaml

/-- What a directive says about the document that follows it. -/
inductive DirectiveKind where
  /-- The version of the language. -/
  | version (major : Nat)
  /-- What a handle stands for in tags. -/
  | tagHandle (handle stem : String)
  /-- Anything else, which is passed over. -/
  | other
  deriving DecidableEq, Repr

/-- A token. -/
inductive Token where
  /-- A directive. -/
  | directive (kind : DirectiveKind)
  /-- The mark before a document. -/
  | documentStart
  /-- The mark after a document. -/
  | documentEnd
  /-- The indentation of a block sequence begins. -/
  | blockSequenceStart
  /-- The indentation of a block mapping begins. -/
  | blockMappingStart
  /-- The indentation of a block collection ends. -/
  | blockEnd
  /-- An opening square bracket. -/
  | flowSequenceStart
  /-- A closing square bracket. -/
  | flowSequenceEnd
  /-- An opening curly bracket. -/
  | flowMappingStart
  /-- A closing curly bracket. -/
  | flowMappingEnd
  /-- The hyphen before an item. -/
  | blockEntry
  /-- The comma between entries in brackets. -/
  | flowEntry
  /-- A key follows. -/
  | key
  /-- A value follows. -/
  | value
  /-- A reference to an anchor. -/
  | alias (name : String)
  /-- A name for the node that follows. -/
  | anchor (name : String)
  /-- The tag of the node that follows, a handle and what comes after it. -/
  | tag (handle : Option String) (suffix : String)
  /-- A scalar, which is plain when it has neither quotes nor block style. -/
  | scalar (text : Text.WideText) (plain : Bool)
  deriving DecidableEq, Repr

/-- The character that stands for the end of the text. No text holds it. -/
def endMark : Char := '\x00'

/-- The characters that end a line. -/
def isBreak (c : Char) : Bool :=
  c = '\r' || c = '\n' || c.toNat = 0x85 || c.toNat = 0x2028 || c.toNat = 0x2029

/-- The characters that end a line, and the end of the text. -/
def isBreakOrEnd (c : Char) : Bool := isBreak c || c = endMark

/-- The characters that end a word: space, tab, the ends of lines and of the text. -/
def isGap (c : Char) : Bool := c = ' ' || c = '\t' || isBreakOrEnd c

/-- The characters that names of anchors, handles and directives are made of. -/
def isWordChar (c : Char) : Bool := c.isAlphanum || c = '-' || c = '_'

/-- The characters that tags are made of, besides escapes. -/
def isTagChar (c : Char) : Bool := c.isAlphanum || "-;/?:@&=+$,_.!~*'()[]".toList.contains c

/-- The hexadecimal digits. -/
def isHexDigit (c : Char) : Bool :=
  c.isDigit || ('a' ≤ c && c ≤ 'f') || ('A' ≤ c && c ≤ 'F')

/-- The value of a hexadecimal digit. -/
def hexDigitValue (c : Char) : Nat :=
  if c.isDigit then c.toNat - 0x30 else if 'a' ≤ c then c.toNat - 0x61 + 10 else c.toNat - 0x41 + 10

/-- The value of hexadecimal digits. -/
def hexValue (cs : List Char) : Nat := cs.foldl (fun n c => 16 * n + hexDigitValue c) 0

/-- The characters that may appear in a document. -/
def isAllowed (c : Char) : Bool :=
  let n := c.toNat
  n == 0x09 || n == 0x0a || n == 0x0d || (0x20 ≤ n && n ≤ 0x7e) || n == 0x85
    || (0xa0 ≤ n && n ≤ 0xd7ff) || (0xe000 ≤ n && n ≤ 0xfffd) || 0x10000 ≤ n

end ZoneFirewall.Yaml
