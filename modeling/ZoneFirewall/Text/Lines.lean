/-!
# Lines of a text

A line ends at a line feed, a carriage return, the two together, a vertical tab, a form feed, one
of the file, group and record separators, the next-line control character or a line or paragraph
separator of Unicode. The end itself belongs to no line, and a text that ends with one has no empty
line after it.

* `splitLines`: the lines of a text.
* `joinLines`: a text of lines.
* `withoutFinalBreak`: the text without a line feed at its end.
* `unifyNewlines`: the text with every carriage return, alone or before a line feed, read as a line
  feed, which is how texts are taken from files.
-/

namespace ZoneFirewall.Text

/-- The characters that end a line. -/
def isLineEnd (c : Char) : Bool :=
  let n := c.toNat
  (0x0a ≤ n && n ≤ 0x0d) || (0x1c ≤ n && n ≤ 0x1e) || n == 0x85 || n == 0x2028 || n == 0x2029

/-- The lines of the characters that follow `current`, the reversed start of a line. -/
def splitLinesFrom (current : List Char) : List Char → List (List Char)
  | [] => if current.isEmpty then [] else [current.reverse]
  | '\r' :: '\n' :: rest => current.reverse :: splitLinesFrom [] rest
  | c :: rest =>
    if isLineEnd c then current.reverse :: splitLinesFrom [] rest
    else splitLinesFrom (c :: current) rest

/-- The lines of a text, without their ends. -/
def splitLines (s : String) : List String := (splitLinesFrom [] s.toList).map String.ofList

/-- The text of some lines, each ended by a line feed. -/
def joinLines (lines : List String) : String :=
  String.ofList (lines.flatMap fun line => line.toList ++ ['\n'])

/-- The characters without a line feed at the end, unless there is nothing before it. -/
def withoutFinalBreak (cs : List Char) : List Char :=
  match cs.reverse with
  | '\n' :: c :: rest => (c :: rest).reverse
  | _ => cs

/-- The characters with every carriage return, alone or before a line feed, as a line feed. -/
def unifyNewlineChars : List Char → List Char
  | [] => []
  | '\r' :: '\n' :: rest => '\n' :: unifyNewlineChars rest
  | c :: rest => (if c = '\r' then '\n' else c) :: unifyNewlineChars rest

/-- The text with every carriage return, alone or before a line feed, as a line feed. -/
def unifyNewlines (s : String) : String := String.ofList (unifyNewlineChars s.toList)

/-- No line that is split off holds the end of a line. -/
theorem not_isLineEnd_of_mem_splitLinesFrom (cs : List Char) :
    ∀ current : List Char, (∀ c ∈ current, isLineEnd c = false) →
      ∀ l ∈ splitLinesFrom current cs, ∀ c ∈ l, isLineEnd c = false := by
  intro current
  fun_induction splitLinesFrom current cs with
  | case1 current h => simp
  | case2 current h => intro hc l hl c hcl; simp_all
  | case3 current rest ih =>
    intro hc l hl c hcl
    rcases List.mem_cons.1 hl with rfl | hl
    · exact hc c (List.mem_reverse.1 hcl)
    · exact ih (by simp) l hl c hcl
  | case4 current d rest _ hd ih =>
    intro hc l hl c hcl
    rcases List.mem_cons.1 hl with rfl | hl
    · exact hc c (List.mem_reverse.1 hcl)
    · exact ih (by simp) l hl c hcl
  | case5 current d rest _ hd ih =>
    intro hc
    exact ih (by simpa [hd] using hc)

end ZoneFirewall.Text
