import ZoneFirewall.Text.DecimalDigit

/-!
# Reading from the front of a line

A reader takes some characters off the front of a line and yields what they stand for, or fails and
takes nothing. Each of the readers here takes as much as it can and never gives any of it back, so
that what a line reads as is determined step by step.

* `Scan`: the readers, which compose with `do` and `<|>`.
* `Scan.expect`, `Scan.span`, `Scan.digits`, `Scan.quoted`, `Scan.maybe`, `Scan.ending`: the
  pieces that directives are made of.
-/

namespace ZoneFirewall.Text

/-- A reader of the front of a line: what it yields and what is left, or failure. -/
abbrev Scan (α : Type) := StateT (List Char) Option α

namespace Scan

variable {α : Type}

/-- Takes exactly the given text. -/
def expect (text : String) : Scan Unit := fun cs =>
  (text.toList.isPrefixOf? cs).map fun rest => ((), rest)

/-- Takes the given text and yields a value for it. -/
def word (text : String) (value : α) : Scan α := do
  expect text
  return value

/-- Takes the characters in front that satisfy `p`, none of them being fine. -/
def span (p : Char → Bool) : Scan String := fun cs =>
  some (String.ofList (cs.takeWhile p), cs.dropWhile p)

/-- Takes the characters in front that satisfy `p`, of which there is at least one. -/
def spanSome (p : Char → Bool) : Scan String := fun cs =>
  match cs.takeWhile p with
  | [] => none
  | front => some (String.ofList front, cs.dropWhile p)

/-- Takes decimal digits of any script. -/
def digits : Scan String := spanSome isDigit

/-- Takes a text in double quotes that is not empty. -/
def quoted : Scan String := do
  expect "\""
  let text ← spanSome (· ≠ '"')
  expect "\""
  return text

/-- Takes what `r` takes, or nothing where `r` fails. -/
def maybe (r : Scan α) : Scan (Option α) := (some <$> r) <|> pure none

/-- Succeeds where the line ends, or has nothing left but one final line feed. -/
def ending : Scan Unit := fun cs => if cs = [] ∨ cs = ['\n'] then some ((), cs) else none

end Scan

end ZoneFirewall.Text
