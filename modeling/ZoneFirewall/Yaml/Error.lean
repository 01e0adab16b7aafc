import ZoneFirewall.Numeral

/-!
# Errors of documents

Why a settings document cannot be read. Almost all causes are faults of the document itself; a few
arise only when a scalar with an explicit tag is turned into a value.

* `DocumentError`, `DocumentError.message`.
-/

namespace ZoneFirewall.Yaml

/-- Why a document cannot be read. -/
inductive DocumentError where
  /-- A character may not appear in a document. -/
  | forbiddenCharacter
  /-- The characters form no token. -/
  | token
  /-- The tokens form no document, or more than one. -/
  | layout
  /-- Nodes lie too deep within one another. -/
  | nesting
  /-- An alias refers to no anchor before it. -/
  | alias
  /-- An anchor is set twice. -/
  | anchor
  /-- A tag is unknown, or does not fit its node. -/
  | tag
  /-- A key is no value that a mapping can be looked up by. -/
  | key
  /-- What is merged into a mapping is no mapping. -/
  | merge
  /-- An escape names a code point beyond the last one. -/
  | escape
  /-- An escape names a number beyond 31 bits. -/
  | escapeTooLarge
  /-- A scalar tagged as an integer or a real number is none. -/
  | numeral (text : String)
  /-- A scalar tagged as a number is empty. -/
  | emptyNumeral
  /-- A real number has more places of sixty than its range allows. -/
  | tooManyPlaces
  /-- A scalar tagged as a truth value is none. -/
  | truth (text : Text.WideText)
  /-- A scalar tagged as a time is none. -/
  | notATime
  /-- A mapping is tagged as a time. -/
  | timeOfMapping
  /-- A date or a time of day does not exist. -/
  | time (reason : String)
  deriving DecidableEq, Repr

/-- The wording of the error. -/
def DocumentError.message : DocumentError → String
  | .forbiddenCharacter => "special characters are not allowed"
  | .token => "could not find a token"
  | .layout => "could not find the expected structure"
  | .nesting => "found nodes that lie too deep"
  | .alias => "found undefined alias"
  | .anchor => "found duplicate anchor"
  | .tag => "found a tag that does not fit"
  | .key => "found a collection as a key"
  | .merge => "expected a mapping or list of mappings for merging"
  | .escape => "chr() arg not in range(0x110000)"
  | .escapeTooLarge => "escape too large"
  | .numeral text => text
  | .emptyNumeral => "empty number"
  | .tooManyPlaces => "number too large"
  | .truth text => text.joined
  | .notATime => "no time"
  | .timeOfMapping => "no text"
  | .time reason => reason

end ZoneFirewall.Yaml
