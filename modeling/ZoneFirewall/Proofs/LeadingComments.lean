import ZoneFirewall.Proofs.TokenOffsets
import ZoneFirewall.Yaml.Meaning

/-!
# Comments in front of a document

Lines that hold nothing but comments are passed over before the first token is looked for. From then
on the lexer is where it would be at the start of what follows them, but for the places.

* `IsComment`: lines with nothing but a comment. `Lex.toNextToken_comments`: that they are passed
  over.
* `Tokens.ofText_comments`, `Document.ofText?_comments`: **a text with comments in front has the
  same tokens and holds the same document.** A byte order mark has to come first of all, so that
  what follows must not begin with one.
-/

namespace ZoneFirewall

/-! ## Texts of lines -/

namespace Text

/-- No lines have no text. -/
theorem toList_joinLines_nil : (joinLines []).toList = [] := by
  rw [joinLines, String.toList_ofList, List.flatMap_nil]

/-- So their text has no length. -/
theorem length_joinLines_nil : (joinLines []).length = 0 := by
  rw [← String.length_toList, toList_joinLines_nil, List.length_nil]

/-- The text of lines is that of the first, a line feed, and that of the others. -/
theorem toList_joinLines_cons (line : String) (lines : List String) :
    (joinLines (line :: lines)).toList
      = line.toList ++ '\n' :: (joinLines lines).toList := by
  simp only [joinLines, String.toList_ofList, List.flatMap_cons, List.append_assoc,
    List.cons_append, List.nil_append]

/-- So is its length. -/
theorem length_joinLines_cons (line : String) (lines : List String) :
    (joinLines (line :: lines)).length = line.length + 1 + (joinLines lines).length := by
  rw [← String.length_toList, toList_joinLines_cons, List.length_append, List.length_cons,
    String.length_toList, String.length_toList]
  omega

/-- There are no more lines than characters. -/
theorem length_le_length_joinLines (lines : List String) :
    lines.length ≤ (joinLines lines).length := by
  induction lines with
  | nil => exact Nat.zero_le _
  | cons line lines ih =>
      rw [length_joinLines_cons, List.length_cons]
      omega

end Text

namespace Yaml

open Text

/-! ## Lines with comments -/

/-- A line that holds nothing but a comment. -/
structure IsComment (line : String) : Prop where
  /-- It begins with the mark of a comment. -/
  mark : line.toList.head? = some '#'
  /-- It does not end within. -/
  inLine : ∀ c ∈ line.toList, isBreakOrEnd c = false
  /-- Its characters may appear. -/
  allowed : ∀ c ∈ line.toList, isAllowed c

instance (line : String) : Decidable (IsComment line) :=
  decidable_of_iff (line.toList.head? = some '#' ∧
    (line.toList.all fun c => isBreakOrEnd c = false) ∧ line.toList.all isAllowed) <| by
    simp only [List.all_eq_true, decide_eq_true_eq]
    exact ⟨fun h => ⟨h.1, h.2.1, h.2.2⟩, fun h => ⟨h.mark, h.inLine, h.allowed⟩⟩

/-- How much comments take up. -/
def Offset.ofComments (lines : List String) : Offset := ⟨(joinLines lines).length, lines.length⟩

/-! ## Passing over comments -/

/-- A character that ends no line is passed on its line. -/
theorem Cursor.advance_of_not_isBreak {c : Char} (hc : isBreak c = false) (rest : List Char)
    (index line column : Nat) :
    ∃ column',
      Cursor.advance ⟨c :: rest, index, line, column⟩ = ⟨rest, index + 1, line, column'⟩ := by
  have hreturn : c ≠ '\r' := by
    rintro rfl
    exact absurd hc (by decide)
  unfold Cursor.advance
  dsimp only
  rw [if_neg (by simp [hc, hreturn])]
  exact ⟨_, rfl⟩

/-- Moving past the characters of a line leaves the line as it is. -/
theorem Cursor.advanceBy_of_not_isBreak (word rest : List Char)
    (hword : ∀ c ∈ word, isBreak c = false) (index line column : Nat) :
    ∃ column', Cursor.advanceBy word.length ⟨word ++ rest, index, line, column⟩
      = ⟨rest, index + word.length, line, column'⟩ := by
  induction word generalizing index column with
  | nil => exact ⟨column, rfl⟩
  | cons c word ih =>
      obtain ⟨column₁, hfirst⟩ := advance_of_not_isBreak (hword c List.mem_cons_self)
        (word ++ rest) index line column
      obtain ⟨column₂, hmore⟩ :=
        ih (fun d hd => hword d (List.mem_cons_of_mem c hd)) (index + 1) column₁
      refine ⟨column₂, ?_⟩
      show Cursor.advanceBy word.length
        (Cursor.advance ⟨c :: (word ++ rest), index, line, column⟩) = _
      rw [hfirst, hmore, List.length_cons, Nat.add_right_comm, Nat.add_assoc]

namespace Lex

variable {l l₁ : Lexer}

/-- An action after one that succeeds is done where that leads. -/
theorem run_bind_of_ok {α β : Type} {m : Lex α} {f : α → Lex β} {a : α}
    (h : m.run l = .ok (a, l₁)) : (m >>= f).run l = (f a).run l₁ := by
  rw [StateT.run_bind, h]
  rfl

/-- What is taken of a kind is known from the characters ahead. -/
theorem run_taken {p : Char → Bool} (word : List Char) (h : l.cursor.rest.takeWhile p = word) :
    (taken p).run l = .ok (word, { l with cursor := l.cursor.advanceBy word.length }) := by
  subst h
  rfl

/-- A line with a comment is passed over. -/
theorem toNextToken_comment {line : String} (hline : IsComment line) {rest : List Char} {n : Nat}
    {index number column : Nat} (hflow : l.flowLevel = 0) (hallowed : l.keyAllowed = true)
    (hcursor : l.cursor = ⟨line.toList ++ '\n' :: rest, index, number, column⟩) :
    (toNextToken (n + 1)).run l = (toNextToken n).run
      { l with cursor := ⟨rest, index + (line.length + 1), number + 1, 0⟩ } := by
  obtain ⟨word, hword⟩ := List.head?_eq_some_iff.1 hline.mark
  have hbreak : ∀ c ∈ line.toList, isBreak c = false := fun c hc =>
    (Bool.or_eq_false_iff.1 (hline.inLine c hc)).1
  obtain ⟨column', hadvance⟩ := Cursor.advanceBy_of_not_isBreak line.toList ('\n' :: rest) hbreak
    index number column
  have hrest : l.cursor.rest = '#' :: (word ++ '\n' :: rest) := by
    rw [hcursor, hword]
    rfl
  have hspaces : spaces.run l = .ok ((), l) := by
    refine run_bind_of_ok (run_taken [] ?_)
    rw [hrest]
    rfl
  have hpeek : (peek 0).run l = .ok ('#', l) := by
    show Except.ok (l.cursor.rest.getD 0 endMark, l) = .ok ('#', l)
    rw [hrest]
    rfl
  have htaken : (taken (!isBreakOrEnd ·)).run l = .ok (line.toList,
      { l with cursor := ⟨'\n' :: rest, index + line.length, number, column'⟩ }) := by
    rw [run_taken line.toList, hcursor, hadvance, String.length_toList]
    rw [hcursor]
    dsimp only
    rw [List.takeWhile_append_of_pos fun c hc => by rw [hline.inLine c hc]; rfl]
    exact List.append_nil _
  have hend : lineBreak.run
      { l with cursor := ⟨'\n' :: rest, index + line.length, number, column'⟩ } = .ok (some '\n',
      { l with cursor := ⟨rest, index + (line.length + 1), number + 1, 0⟩ }) := rfl
  rw [toNextToken_succ, run_bind_of_ok hspaces, run_bind_of_ok hpeek, if_pos rfl,
    run_bind_of_ok htaken]
  unfold pastLine
  rw [run_bind_of_ok hend]
  show (if l.flowLevel = 0 then allowKey true >>= fun _ => toNextToken n else toNextToken n).run
    { l with cursor := ⟨rest, index + (line.length + 1), number + 1, 0⟩ } = _
  rw [if_pos hflow, ← hallowed]
  rfl

/-- Lines with comments are passed over. -/
theorem toNextToken_comments {lines : List String} (hlines : ∀ line ∈ lines, IsComment line)
    {rest : List Char} {n : Nat} {index number : Nat} (hflow : l.flowLevel = 0)
    (hallowed : l.keyAllowed = true)
    (hcursor : l.cursor = ⟨(joinLines lines).toList ++ rest, index, number, 0⟩) :
    (toNextToken (n + lines.length)).run l = (toNextToken n).run
      { l with
        cursor := ⟨rest, index + (joinLines lines).length, number + lines.length, 0⟩ } := by
  induction lines generalizing l index number with
  | nil =>
      rw [toList_joinLines_nil, List.nil_append] at hcursor
      rw [length_joinLines_nil]
      show _ = (toNextToken n).run { l with cursor := ⟨rest, index, number, 0⟩ }
      rw [← hcursor]
      rfl
  | cons line lines ih =>
      rw [toList_joinLines_cons, List.append_assoc, List.cons_append] at hcursor
      have hstep := toNextToken_comment (n := n + lines.length) (hlines line List.mem_cons_self)
        hflow hallowed hcursor
      have hmore : ∀ line' ∈ lines, IsComment line' := fun line' hline' =>
        hlines line' (List.mem_cons_of_mem _ hline')
      rw [List.length_cons, ← Nat.add_assoc, hstep,
        ih (l := { l with cursor := ⟨_, index + (line.length + 1), number + 1, 0⟩ }) hmore hflow
          hallowed rfl, length_joinLines_cons, Nat.add_assoc index, Nat.add_assoc number,
        Nat.add_comm 1]

/-- What follows two runs that come out alike comes out alike. -/
theorem run_bind_congr {α β : Type} {m : Lex α} {f : α → Lex β} (h : m.run l = m.run l₁) :
    (m >>= f).run l = (m >>= f).run l₁ := by
  rw [StateT.run_bind, StateT.run_bind, h]

/-- The bound of a loop is one more than the length of the text. -/
theorem run_stepBound_bind {α : Type} (loop : Nat → Lex α) (l : Lexer) :
    (stepBound >>= loop).run l = (loop (l.size + 1)).run l := rfl

end Lex

/-! ## Tokens behind comments -/

namespace Tokens

/-- The state of the lexer at the start of a text. -/
def start (text : String) : Lexer := { cursor := { rest := text.toList }, size := text.length }

/-- The state at the start of a text fits it. -/
theorem fits_start (text : String) : (start text).Fits :=
  Nat.le_of_eq String.length_toList

/-- Behind comments stands the start of what follows them. -/
theorem behind_start (lines : List String) (body : String) :
    (start body).behind (.ofComments lines) =
      { start (joinLines lines ++ body) with
        cursor := ⟨body.toList, 0 + (joinLines lines).length, 0 + lines.length, 0⟩ } := by
  unfold start Lexer.behind Cursor.behind Offset.ofComments
  rw [String.length_append, Nat.add_comm body.length]
  rfl

/-- The first token of a text does not depend on the comments in front of it. -/
theorem run_next_comments {lines : List String} (hlines : ∀ line ∈ lines, IsComment line)
    (body : String) : Lex.next.run (start (joinLines lines ++ body))
      = Lex.next.run ((start body).behind (.ofComments lines)) := by
  have hle := length_le_length_joinLines lines
  have hsize := String.length_append (joinLines lines) body
  obtain ⟨n, hn⟩ : ∃ n, (joinLines lines ++ body).length + 1 = n + lines.length :=
    ⟨(joinLines lines ++ body).length + 1 - lines.length, by omega⟩
  have hpast : (Lex.stepBound >>= Lex.toNextToken).run (start (joinLines lines ++ body))
      = (Lex.stepBound >>= Lex.toNextToken).run ((start body).behind (.ofComments lines)) := by
    have hleft : (start body).left = body.length := String.length_toList
    calc (Lex.stepBound >>= Lex.toNextToken).run (start (joinLines lines ++ body))
        = (Lex.toNextToken (n + lines.length)).run (start (joinLines lines ++ body)) := by
          rw [Lex.run_stepBound_bind, ← hn]
          rfl
      _ = (Lex.toNextToken n).run ((start body).behind (.ofComments lines)) := by
          rw [behind_start]
          apply Lex.toNextToken_comments hlines rfl rfl
          unfold start
          rw [String.toList_append]
      _ = (Lex.stepBound >>= Lex.toNextToken).run ((start body).behind (.ofComments lines)) := by
          rw [Lex.run_stepBound_bind]
          apply Lex.bounded_toNextToken.run_eq (fits_start body)
          · omega
          · show (start body).left < body.length + (joinLines lines).length + 1
            omega
  -- the rest of the step is the same for both, and begins with the same state
  unfold Lex.next
  rw [← bind_assoc]
  exact Lex.run_bind_congr hpast

/-- No tokens are settled there. -/
theorem settled_start (text : String) : settled (start text) = [] := rfl

/-- At the start nothing is settled, so that a fault in the first step leaves no tokens either. -/
theorem ofLexer_comments {lines : List String} (hlines : ∀ line ∈ lines, IsComment line)
    (body : String) (n : Nat) : ofLexer (n + 1) (start (joinLines lines ++ body))
      = ofLexer (n + 1) ((start body).behind (.ofComments lines)) := by
  unfold ofLexer
  rw [run_next_comments hlines, settled_behind, settled_start, settled_start]

/-- Without a byte order mark the tokens are those from the start on. -/
theorem ofText_eq {text : String} (hmark : text.toList.head? ≠ some '\ufeff') :
    ofText text = if !text.toList.all isAllowed then
        { list := [], fault := some .forbiddenCharacter }
      else ofLexer (text.length + 1) (start text) := by
  unfold ofText
  dsimp only
  rw [if_neg hmark]
  rfl

/-- All characters of lines with comments are allowed. -/
theorem isAllowed_comments {lines : List String} (hlines : ∀ line ∈ lines, IsComment line) :
    (joinLines lines).toList.all isAllowed := by
  induction lines with
  | nil => rw [toList_joinLines_nil, List.all_nil]
  | cons line lines ih =>
      have hline := List.all_eq_true.2 (hlines line List.mem_cons_self).allowed
      have hmore := ih fun line' hline' => hlines line' (List.mem_cons_of_mem _ hline')
      have hbreak : isAllowed '\n' := by decide
      rw [toList_joinLines_cons, List.all_append, List.all_cons, hline, hbreak, hmore]
      rfl

/-- The first character is that of a comment, or of what follows if there is none. -/
theorem head?_comments {lines : List String} (hlines : ∀ line ∈ lines, IsComment line)
    {body : String} {c : Char} (hc : c ≠ '#') (hbody : body.toList.head? ≠ some c) :
    (joinLines lines ++ body).toList.head? ≠ some c := by
  rw [String.toList_append]
  cases lines with
  | nil => rwa [toList_joinLines_nil]
  | cons line lines =>
      obtain ⟨word, hword⟩ := List.head?_eq_some_iff.1 (hlines line List.mem_cons_self).mark
      rw [toList_joinLines_cons, hword]
      exact fun h => hc (Option.some.inj h).symm

/-- **Comments in front of a text do not change its tokens.** -/
theorem ofText_comments {lines : List String} (hlines : ∀ line ∈ lines, IsComment line)
    {body : String} (hmark : body.toList.head? ≠ some '\ufeff') :
    ofText (joinLines lines ++ body) = ofText body := by
  have hsize := String.length_append (joinLines lines) body
  have hleft : (start body).left = body.length := String.length_toList
  rw [ofText_eq hmark, ofText_eq (head?_comments hlines (by decide) hmark), String.toList_append,
    List.all_append, isAllowed_comments hlines, Bool.true_and, ofLexer_comments hlines]
  rw [ofLexer_behind _ (fits_start body) (n := body.length + 1) (by omega) (by omega)]

end Tokens

/-- **Comments in front of a document do not change what it holds.** -/
theorem Document.ofText?_comments {lines : List String} (hlines : ∀ line ∈ lines, IsComment line)
    {body : String} (hmark : body.toList.head? ≠ some '\ufeff') :
    Document.ofText? (joinLines lines ++ body) = Document.ofText? body := by
  unfold Document.ofText?
  rw [Tokens.ofText_comments hlines hmark]

end Yaml

end ZoneFirewall
