import ZoneFirewall.Proofs.LexerOffsets
import ZoneFirewall.Yaml.Token.Scalar

/-!
# Scalars behind other text

The loops within scalars take characters with each round: a line of a plain scalar has at least one,
a round between quotes moves past a gap or a word, and a block scalar goes on from line to line.

* `Lex.bounded_plainParts`, `Lex.bounded_quotedParts`, `Lex.bounded_blockLines`: the loops.
* `Lex.advancing_quotedScalar`, `Lex.advancing_blockScalar`: **the scalars with a mark in front.**
* `Lex.steady_plainScalar`, `Lex.left_plainScalar_lt`: **plain scalars**, which take characters
  where they can begin, `Lex.plainLength_of_startsPlain`.
-/

namespace ZoneFirewall.Yaml

namespace Lex

variable {l l₁ : Lexer}

/-! ## Plain scalars -/

/-- The loop over empty lines needs no more rounds than there are characters left. -/
theorem bounded_plainBreaks (breaks : List Char) : Bounded (plainBreaks · breaks) := by
  refine .of_step plainBreaks (fun _ => .pure _) (fun o l hl n n' ih breaks => ?_) breaks
  refine (steady_peek 0).before hl fun c l₁ hc _ _ => ?_
  cases hc
  refine .ite (fun hspace => ?_) fun _ => ?_
  · have hpos : 0 < l.left := left_pos_of_ne_endMark (by rw [hspace]; decide)
    exact lockstep_forward hl Nat.one_pos hpos (ih _)
  · refine steady_lineBreak.before hl fun b l₁ hbreak hl₁ _ => ?_
    cases b with
    | none => exact .pure _
    | some b =>
        have hlt := left_lineBreak_lt hbreak
        refine steady_atDocumentMark.before hl₁ fun mark l₂ _ hl₂ hle => ?_
        cases mark with
        | true => exact .pure _
        | false => exact ih _ l₂ hl₂ (Nat.lt_of_le_of_lt hle hlt)

/-- The space between two words of a plain scalar is steady. -/
theorem steady_plainSpaces : Steady plainSpaces := by
  refine (steady_taken _).bind fun blanks => steady_lineBreak.bind fun first => ?_
  cases first with
  | none => exact .pure _
  | some first =>
      refine (steady_allowKey true).bind fun _ => steady_atDocumentMark.bind fun mark => .ite ?_ ?_
      · exact .pure _
      · refine ((bounded_plainBreaks []).bind fun breaks => ?_).steady
        cases breaks with
        | none => exact .pure _
        | some breaks => exact .pure _

/-- A part of a plain scalar, of some length, and the parts after it. -/
def plainPart (indent : Int) (n : Nat) (inFlow : Bool) (length : Nat) (text blanks : List Char) :
    Lex (List Char) := do
  allowKey false
  let part ← ahead length
  forward length
  let text := part.reverse ++ (blanks.reverse ++ text)
  let blanks ← plainSpaces
  let column ← column
  if blanks = [] || (← peek 0) = '#' || (!inFlow && (column : Int) < indent) then return text
  else plainParts indent n text blanks

/-- One round of the loop over the words of a plain scalar. -/
theorem plainParts_succ (indent : Int) (n : Nat) (text blanks : List Char) :
    plainParts indent (n + 1) text blanks = (do
      let l ← get
      let length := plainLength (l.flowLevel > 0) l.cursor.rest
      if l.cursor.rest.head? = some '#' || length = 0 then return text
      else plainPart indent n (l.flowLevel > 0) length text blanks) := by
  simp only [plainParts, plainPart]

/-- Characters of a plain scalar are characters of the text. -/
theorem left_pos_of_plainLength {inFlow : Bool} (h : plainLength inFlow l.cursor.rest ≠ 0) :
    0 < l.left := by
  apply List.length_pos_iff.2
  intro hnil
  rw [hnil] at h
  exact h rfl

/-- The loop over the words needs no more rounds than there are characters left. -/
theorem bounded_plainParts (indent : Int) (text blanks : List Char) :
    Bounded (plainParts indent · text blanks) := by
  refine .of_step (fun n (i : List Char × List Char) => plainParts indent n i.1 i.2)
    (fun _ => .pure _) (fun o l hl n n' ih i => ?_) (text, blanks)
  rw [plainParts_succ, plainParts_succ]
  refine .get (.ite (fun _ => .pure _) fun hmore => ?_)
  have hlength : plainLength (l.flowLevel > 0) l.cursor.rest ≠ 0 := by
    intro hzero
    simp [hzero] at hmore
  refine (steady_allowKey false).before hl fun _ l₁ hallow hl₁ _ => ?_
  refine (steady_ahead _).before hl₁ fun part l₂ hahead hl₂ _ => ?_
  cases hallow
  cases hahead
  refine lockstep_forward hl₂ (Nat.pos_of_ne_zero hlength) (left_pos_of_plainLength hlength)
    fun l₃ hl₃ hlt => ?_
  refine steady_plainSpaces.before hl₃ fun blanks l₄ _ hl₄ hle => ?_
  refine steady_column.before hl₄ fun column l₅ hcolumn hl₅ _ => ?_
  refine (steady_peek 0).before hl₅ fun c l₆ hc hl₆ _ => .ite (fun _ => .pure _) fun _ => ?_
  cases hcolumn
  cases hc
  exact ih (_, _) _ hl₄ (Nat.lt_of_le_of_lt hle hlt)

/-- A plain scalar is steady. -/
theorem steady_plainScalar : Steady plainScalar :=
  .look (fun _ _ => rfl) fun _ => ((bounded_plainParts _ _ _).bind fun _ => .pure _).steady

/-- Each word takes characters. -/
theorem advancing_plainPart (indent : Int) (n : Nat) (inFlow : Bool) {length : Nat}
    (hlength : length ≠ 0) (text blanks : List Char) :
    Advancing (plainPart indent n inFlow length text blanks) :=
  .after (steady_allowKey false) fun _ => .after (steady_ahead _) fun _ =>
    (advancing_forward (Nat.pos_of_ne_zero hlength)).bind fun _ => steady_plainSpaces.bind fun _ =>
      steady_column.bind fun _ => (steady_peek 0).bind fun _ =>
        .ite (.pure _) ((bounded_plainParts _ _ _).fixed _)

/-- A plain scalar takes characters where it has some. -/
theorem left_plainScalar_lt {t : Token} (hl : l.Fits)
    (hlength : plainLength (l.flowLevel > 0) l.cursor.rest ≠ 0)
    (hcomment : l.cursor.rest.head? ≠ some '#') (h : plainScalar.run l = .ok (t, l₁)) :
    l₁.left < l.left := by
  obtain ⟨l₀, l₀', hget, h⟩ := run_bind_eq_ok.1 h
  cases hget
  obtain ⟨n, l₀, hbound, h⟩ := run_bind_eq_ok.1 h
  cases hbound
  obtain ⟨text, l₀, hparts, h⟩ := run_bind_eq_ok.1 h
  cases h
  rw [plainParts_succ] at hparts
  obtain ⟨l₀, l₀', hget, hparts⟩ := run_bind_eq_ok.1 hparts
  cases hget
  rw [if_neg (by simp only [hlength, hcomment, decide_false, Bool.or_false, Bool.false_eq_true,
    not_false_eq_true])] at hparts
  exact (advancing_plainPart _ _ _ hlength _ _).left_lt hl (left_pos_of_plainLength hlength) hparts

/-- A word that may begin with its first character has a length. -/
theorem plainLength_cons_ne_zero {inFlow : Bool} {c : Char} {rest : List Char}
    (hgap : isGap c = false)
    (hcolon : c = ':' → isGap (rest.headD endMark) = false ∧ inFlow = false)
    (hflow : inFlow = true → ",?[]\x7b\x7d".toList.contains c = false) :
    plainLength inFlow (c :: rest) ≠ 0 := by
  unfold plainLength
  dsimp only
  rw [if_neg (Bool.eq_false_iff.1 hgap), if_neg, if_neg]
  · exact Nat.succ_ne_zero _
  · intro h
    rw [Bool.and_eq_true] at h
    exact Bool.eq_false_iff.1 (hflow h.1) h.2
  · intro h
    rw [Bool.and_eq_true, decide_eq_true_eq] at h
    obtain ⟨hnext, hblock⟩ := hcolon h.1
    rw [hnext, hblock] at h
    cases h.2

/-- A plain scalar that can begin has characters. -/
theorem plainLength_of_startsPlain {inFlow : Bool} {c : Char} {rest : List Char}
    (h : startsPlain inFlow c (rest.headD endMark)) :
    plainLength inFlow (c :: rest) ≠ 0 ∧ c ≠ '#' := by
  simp only [startsPlain, Bool.or_eq_true, Bool.and_eq_true, Bool.not_eq_true',
    Bool.or_eq_false_iff, decide_eq_true_eq] at h
  rcases h with ⟨hgap, hspecial⟩ | ⟨hnext, rfl | ⟨hblock, rfl | rfl⟩⟩
  · have hne : ∀ d ∈ "-?:,[]\x7b\x7d#&*!|>'\"%@`".toList, c ≠ d := by
      rintro d hd rfl
      rw [List.contains_iff_mem.2 hd] at hspecial
      cases hspecial
    refine ⟨plainLength_cons_ne_zero hgap (fun hcolon => absurd hcolon (hne ':' (by decide))) ?_,
      hne '#' (by decide)⟩
    intro _
    apply Bool.eq_false_iff.2
    intro hmem
    have hsub : ",?[]\x7b\x7d".toList.all ("-?:,[]\x7b\x7d#&*!|>'\"%@`".toList.contains ·) := by
      decide
    have hspecial := List.all_eq_true.1 hsub c (List.contains_iff_mem.1 hmem)
    exact hne c (List.contains_iff_mem.1 hspecial) rfl
  · refine ⟨plainLength_cons_ne_zero (by decide) (fun hcolon => absurd hcolon (by decide)) ?_,
      by decide⟩
    exact fun _ => by decide
  · refine ⟨plainLength_cons_ne_zero (by decide) (fun hcolon => absurd hcolon (by decide)) ?_,
      by decide⟩
    exact fun hflow => absurd hflow (Bool.eq_false_iff.1 hblock)
  · refine ⟨plainLength_cons_ne_zero (by decide) (fun _ => ⟨hnext, hblock⟩) ?_, by decide⟩
    exact fun hflow => absurd hflow (Bool.eq_false_iff.1 hblock)

/-! ## Quoted scalars -/

/-- The loop over empty lines in quotes needs no more rounds than there are characters left. -/
theorem bounded_quotedBreaks (breaks : List Char) : Bounded (quotedBreaks · breaks) := by
  refine .of_step quotedBreaks (fun _ => .pure _) (fun o l hl n n' ih breaks => ?_) breaks
  refine steady_atDocumentMark.before hl fun mark l₁ hmark hl₁ _ =>
    .ite (fun _ => .throw_bind _) fun _ => ?_
  cases hmark
  refine (steady_taken _).before hl₁ fun _ l₂ _ hl₂ hle => ?_
  refine steady_lineBreak.before hl₂ fun b l₃ hbreak hl₃ _ => ?_
  cases b with
  | none => exact .pure _
  | some b => exact ih _ l₃ hl₃ (Nat.lt_of_lt_of_le (left_lineBreak_lt hbreak) hle)

/-- The space between two words in quotes is steady. -/
theorem steady_quotedSpaces : Steady quotedSpaces := by
  refine (steady_taken _).bind fun blanks => (steady_peek 0).bind fun c =>
    .ite (.throw_bind _) (steady_lineBreak.bind fun first => ?_)
  cases first with
  | none => exact .pure _
  | some first => exact ((bounded_quotedBreaks []).bind fun _ => .pure _).steady

/-- A character that is given by its number is steady. -/
theorem steady_namedPoint (n : Nat) : Steady (namedPoint n) := by
  unfold namedPoint
  exact .ite (.throw_bind _) (.ite (.throw_bind _) (.pure _))

/-- So is every other character behind a backslash. -/
theorem steady_escaped : Steady escaped := by
  refine (steady_peek 0).bind fun c => ?_
  split
  · exact (steady_forward 1).bind fun _ => .pure _
  · split
    · exact (steady_forward 1).bind fun _ => (steady_ahead _).bind fun digits =>
        .ite (.throw_bind _) ((steady_namedPoint _).bind fun _ =>
          (steady_forward _).bind fun _ => .pure _)
    · refine steady_lineBreak.bind fun b => ?_
      cases b with
      | none => exact .throw _
      | some _ => exact ((bounded_quotedBreaks []).bind fun _ => .pure _).steady

/-- What follows the word characters of a word within quotes. -/
def quotedMark (double : Bool) (n : Nat) (text : List Nat) : Lex (List Nat) := do
  let c ← peek 0
  if !double && c = '\'' && (← peek 1) = '\'' then
    forward 2
    quotedWord double n ('\''.toNat :: text)
  else if (double && c = '\'') || (!double && (c = '"' || c = '\\')) then
    forward 1
    quotedWord double n (c.toNat :: text)
  else if double && c = '\\' then
    forward 1
    quotedWord double n ((← escaped).reverse ++ text)
  else return text

/-- One round of the loop over the parts of a word in quotes. -/
theorem quotedWord_succ (double : Bool) (n : Nat) (text : List Nat) :
    quotedWord double (n + 1) text = (do
      let word ← taken fun c => !isGap c && c ≠ '\'' && c ≠ '"' && c ≠ '\\'
      quotedMark double n ((word.map Char.toNat).reverse ++ text)) := rfl

/-- The loop over the parts of a word needs no more rounds than there are characters left. -/
theorem bounded_quotedWord (double : Bool) (text : List Nat) :
    Bounded (quotedWord double · text) := by
  refine .of_step (quotedWord double) (fun _ => .pure _) (fun o l hl n n' ih text => ?_) text
  rw [quotedWord_succ, quotedWord_succ]
  refine (steady_taken _).before hl fun word l₁ _ hl₁ hle => ?_
  have hmore : ∀ text (l₂ : Lexer), l₂.Fits → l₂.left < l₁.left →
      Lockstep o (quotedWord double n text) (quotedWord double n' text) l₂ := fun text l₂ hl₂ hlt =>
    ih text l₂ hl₂ (Nat.lt_of_lt_of_le hlt hle)
  refine (steady_peek 0).before hl₁ fun c l₂ hc _ _ => ?_
  cases hc
  refine (steady_peek 1).before hl₁ fun next l₂ hnext _ _ => ?_
  cases hnext
  refine .ite (fun hquote => ?_) fun _ => .ite (fun hother => ?_) fun _ =>
    .ite (fun hescape => ?_) fun _ => .pure _
  · have hpos : 0 < l₁.left := left_pos_of_ne_endMark fun hend => by
      rw [hend] at hquote
      simp [endMark] at hquote
    exact lockstep_forward hl₁ Nat.two_pos hpos (hmore _)
  · have hpos : 0 < l₁.left := left_pos_of_ne_endMark fun hend => by
      rw [hend] at hother
      simp [endMark] at hother
    exact lockstep_forward hl₁ Nat.one_pos hpos (hmore _)
  · have hpos : 0 < l₁.left := left_pos_of_ne_endMark fun hend => by
      rw [hend] at hescape
      simp [endMark] at hescape
    exact lockstep_forward hl₁ Nat.one_pos hpos fun l₂ hl₂ hlt =>
      steady_escaped.before hl₂ fun points l₃ _ hl₃ hle₃ =>
        hmore _ l₃ hl₃ (Nat.lt_of_le_of_lt hle₃ hlt)

/-- So does what follows a plain part of a word. -/
theorem steady_quotedMark (double : Bool) (n : Nat) (text : List Nat) :
    Steady (quotedMark double n text) :=
  (steady_peek 0).bind fun _ => (steady_peek 1).bind fun _ =>
    .ite ((steady_forward 2).bind fun _ => (bounded_quotedWord _ _).fixed n) <|
    .ite ((steady_forward 1).bind fun _ => (bounded_quotedWord _ _).fixed n) <|
    .ite ((steady_forward 1).bind fun _ => steady_escaped.bind fun _ =>
      (bounded_quotedWord _ _).fixed n) (.pure _)

/-- Blanks and ends of lines within quotes take characters, or there are none. -/
theorem left_quotedSpaces_lt {cs : List Char} (hl : l.Fits)
    (h : quotedSpaces.run l = .ok (cs, l₁)) :
    l₁.left < l.left ∨ l₁ = l ∧ isGap (l.cursor.rest.getD 0 endMark) = false := by
  obtain ⟨blanks, l₀, htaken, h⟩ := run_bind_eq_ok.1 h
  have hreaches := (steady_taken _).reaches hl htaken
  obtain ⟨c, l₀', hc, h⟩ := run_bind_eq_ok.1 h
  cases hc
  split at h
  · cases h
  rename_i hend
  obtain ⟨first, l₂, hbreak, h⟩ := run_bind_eq_ok.1 h
  cases first with
  | none =>
      cases h
      obtain ⟨rfl, hline⟩ := eq_of_lineBreak hbreak
      by_cases hblank : l.cursor.rest.getD 0 endMark = ' ' ∨ l.cursor.rest.getD 0 endMark = '\t'
      · refine .inl (left_taken_lt htaken (by simpa using hblank) (left_pos_of_ne_endMark ?_))
        intro heq
        rw [heq] at hblank
        exact absurd hblank (by decide)
      · have hsame := eq_of_taken htaken (by simpa using hblank)
        subst hsame
        refine .inr ⟨rfl, ?_⟩
        rw [not_or] at hblank
        simp only [isGap, isBreakOrEnd, hblank.1, hblank.2, hline, hend, decide_false,
          Bool.or_false]
  | some first =>
      have hlt := left_lineBreak_lt hbreak
      have hl₂ := (hl.of_reaches hreaches).of_reaches
        (steady_lineBreak.reaches (hl.of_reaches hreaches) hbreak)
      have hmore : l₂.Reaches l₁ := by
        refine Steady.reaches ?_ hl₂ h
        exact ((bounded_quotedBreaks []).bind fun _ => .pure _).steady
      exact .inl (Nat.lt_of_le_of_lt hmore.left (Nat.lt_of_lt_of_le hlt hreaches.left))

/-- A quote other than the closing one, and a backslash, are moved past. -/
theorem left_quotedMark_lt {double : Bool} {n : Nat} {text points : List Nat} (hl : l.Fits)
    (hpos : 0 < l.left)
    (hword : l.cursor.rest.getD 0 endMark = '\'' ∨ l.cursor.rest.getD 0 endMark = '"' ∨
      l.cursor.rest.getD 0 endMark = '\\')
    (hquote : l.cursor.rest.getD 0 endMark ≠ if double then '"' else '\'')
    (h : (quotedMark double n text).run l = .ok (points, l₁)) : l₁.left < l.left := by
  obtain ⟨c, l₂, hc, h⟩ := run_bind_eq_ok.1 h
  cases hc
  obtain ⟨next, l₂, hnext, h⟩ := run_bind_eq_ok.1 h
  cases hnext
  split at h
  · refine Advancing.left_lt ?_ hl hpos h
    exact (advancing_forward Nat.two_pos).bind fun _ => (bounded_quotedWord _ _).fixed n
  split at h
  · refine Advancing.left_lt ?_ hl hpos h
    exact (advancing_forward Nat.one_pos).bind fun _ => (bounded_quotedWord _ _).fixed n
  split at h
  · refine Advancing.left_lt ?_ hl hpos h
    exact (advancing_forward Nat.one_pos).bind fun _ => steady_escaped.bind fun _ =>
      (bounded_quotedWord _ _).fixed n
  · -- nothing else is left: the closing quote has been ruled out
    rename_i hother hescape
    cases double with
    | true => simp_all
    | false => simp_all

/-- Where there is neither a gap nor the closing quote, a word takes characters. -/
theorem left_quotedWord_lt {double : Bool} {n : Nat} {text points : List Nat} (hl : l.Fits)
    (hgap : isGap (l.cursor.rest.getD 0 endMark) = false)
    (hquote : l.cursor.rest.getD 0 endMark ≠ if double then '"' else '\'')
    (hrun : (quotedWord double (n + 1) text).run l = .ok (points, l₁)) : l₁.left < l.left := by
  have hpos : 0 < l.left := left_pos_of_ne_endMark fun hend => by
    rw [hend] at hgap
    exact absurd hgap (by decide)
  rw [quotedWord_succ] at hrun
  obtain ⟨word, l₀, htaken, h⟩ := run_bind_eq_ok.1 hrun
  by_cases hword : l.cursor.rest.getD 0 endMark = '\'' ∨ l.cursor.rest.getD 0 endMark = '"' ∨
      l.cursor.rest.getD 0 endMark = '\\'
  · obtain rfl : l₀ = l := by
      apply eq_of_taken htaken
      rcases hword with hword | hword | hword <;> rw [hword] <;> rfl
    exact left_quotedMark_lt hl hpos hword hquote h
  · have hlt : l₀.left < l.left := by
      apply left_taken_lt htaken ?_ hpos
      rw [not_or, not_or] at hword
      simp only [hgap, hword.1, hword.2.1, hword.2.2, ne_eq, not_false_eq_true, decide_true,
        Bool.not_false, Bool.and_true]
    have hl₀ := hl.of_reaches ((steady_taken _).reaches hl htaken)
    exact Nat.lt_of_le_of_lt ((steady_quotedMark _ _ _).reaches hl₀ h).left hlt

/-- The loop over the words in quotes needs no more rounds than there are characters left. -/
theorem bounded_quotedParts {quote : Char} (hquote : quote = '\'' ∨ quote = '"')
    (text : List Nat) : Bounded (quotedParts quote · text) := by
  refine .of_step (quotedParts quote) (fun _ => .pure _) (fun o l hl n n' ih text => ?_) text
  refine (steady_peek 0).before hl fun c l₁ hc _ _ => ?_
  cases hc
  refine .ite (fun _ => .pure _) fun hopen => ?_
  refine steady_quotedSpaces.before hl fun spaces l₁ hspaces hl₁ _ => ?_
  refine (bounded_quotedWord _ _).before hl₁ fun word l₂ hword hl₂ hle => ?_
  refine ih _ l₂ hl₂ ?_
  rcases left_quotedSpaces_lt hl hspaces with hlt | ⟨rfl, hgap⟩
  · exact Nat.lt_of_le_of_lt hle hlt
  · apply left_quotedWord_lt hl₁ hgap ?_ hword
    rcases hquote with rfl | rfl
    · exact hopen
    · exact hopen

/-- A scalar in quotes takes characters: the first is its quote. -/
theorem advancing_quotedScalar {quote : Char} (hquote : quote = '\'' ∨ quote = '"') :
    Advancing (quotedScalar quote) := by
  refine (advancing_forward Nat.one_pos).bind fun _ =>
    ((bounded_quotedWord _ _).bind fun first => ?_).steady
  exact ((bounded_quotedParts hquote first).bind fun points =>
    (steady_forward 1).bind fun _ => .pure _).steady

/-! ## Block scalars -/

/-- The sign for the line breaks at the end is steady. -/
theorem steady_chomping : Steady chomping :=
  (steady_peek 0).bind fun _ => .ite ((steady_forward 1).bind fun _ => .pure _) (.pure _)

/-- So is the number of columns by which a block is moved in. -/
theorem steady_increment : Steady increment :=
  (steady_peek 0).bind fun _ =>
    .ite (.ite (.throw_bind _) ((steady_forward 1).bind fun _ => .pure _)) (.pure _)

/-- So is the rest of the line with these marks. -/
theorem steady_restOfLine : Steady restOfLine := by
  have hend : Steady (do
      if !isBreakOrEnd (← peek 0) then throw .token
      let _ ← lineBreak) :=
    (steady_peek 0).bind fun c => .ite (.throw_bind _) (steady_lineBreak.bind fun _ => .pure _)
  exact steady_spaces.bind fun _ => (steady_peek 0).bind fun c =>
    .ite ((steady_taken _).bind fun _ => hend) hend

/-- So are the marks together. -/
theorem steady_blockMarks : Steady blockMarks := by
  refine steady_chomping.bind fun _ => steady_increment.bind fun _ =>
    .ite (steady_chomping.bind fun _ => ?_) ((Steady.pure _).bind fun _ => ?_)
  · exact (steady_peek 0).bind fun _ => .ite (.throw_bind _) (.pure _)
  · exact (steady_peek 0).bind fun _ => .ite (.throw_bind _) (.pure _)

/-- The loop over the empty lines in front of a block needs no more rounds than there are characters
left. -/
theorem bounded_blockLead (breaks : List Char) (widest : Nat) :
    Bounded (blockLead · breaks widest) := by
  refine .of_step (fun n (i : List Char × Nat) => blockLead n i.1 i.2)
    (fun _ => .pure _) (fun o l hl n n' ih i => ?_) (breaks, widest)
  refine (steady_peek 0).before hl fun c l₁ hc _ _ => ?_
  cases hc
  refine .ite (fun hspace => ?_) fun _ => ?_
  · have hpos : 0 < l.left := left_pos_of_ne_endMark (by rw [hspace]; decide)
    exact lockstep_forward hl Nat.one_pos hpos fun l₁ hl₁ hlt =>
      steady_column.before hl₁ fun column l₂ _ hl₂ hle =>
        ih (i.1, max i.2 column) l₂ hl₂ (Nat.lt_of_le_of_lt hle hlt)
  · refine steady_lineBreak.before hl fun b l₁ hbreak hl₁ _ => ?_
    cases b with
    | none => exact .pure _
    | some b => exact ih (_, _) l₁ hl₁ (left_lineBreak_lt hbreak)

/-- The column of a block is steady. -/
theorem steady_indentation (indent : Nat) : Steady (indentation indent) :=
  .look (fun _ _ => rfl) fun _ => steady_forward _

/-- The loop over empty lines within a block needs no more rounds than there are characters left. -/
theorem bounded_blockBreaks (indent : Nat) (breaks : List Char) :
    Bounded (blockBreaks indent · breaks) := by
  refine .of_step (blockBreaks indent) (fun _ => .pure _) (fun o l hl n n' ih breaks => ?_) breaks
  refine (steady_indentation indent).before hl fun _ l₁ _ hl₁ hle => ?_
  refine steady_lineBreak.before hl₁ fun b l₂ hbreak hl₂ _ => ?_
  cases b with
  | none => exact .pure _
  | some b => exact ih _ l₂ hl₂ (Nat.lt_of_lt_of_le (left_lineBreak_lt hbreak) hle)

/-- A line and its end take characters, unless the text ends. -/
theorem left_line_lt {l₂ : Lexer} {cs : List Char} {b : Option Char} (hl : l.Fits)
    (hend : l.cursor.rest.getD 0 endMark ≠ endMark)
    (hline : (taken (!isBreakOrEnd ·)).run l = .ok (cs, l₁))
    (hbreak : lineBreak.run l₁ = .ok (b, l₂)) : l₂.left < l.left := by
  have hreaches := (steady_taken _).reaches hl hline
  have hreaches₁ := steady_lineBreak.reaches (hl.of_reaches hreaches) hbreak
  by_cases hfirst : isBreak (l.cursor.rest.getD 0 endMark)
  · cases b with
    | none =>
        obtain rfl : l₁ = l := eq_of_taken hline (by
          simp only [isBreakOrEnd, hfirst, Bool.true_or, Bool.not_true])
        rw [(eq_of_lineBreak hbreak).2] at hfirst
        cases hfirst
    | some b => exact Nat.lt_of_lt_of_le (left_lineBreak_lt hbreak) hreaches.left
  · have hword : !isBreakOrEnd (l.cursor.rest.getD 0 endMark) := by
      simp only [isBreakOrEnd, hfirst, hend, decide_false, Bool.or_false, Bool.not_false]
    have hlt := left_taken_lt hline hword (left_pos_of_ne_endMark hend)
    exact Nat.lt_of_le_of_lt hreaches₁.left hlt

/-- Neither does the loop over the lines of a block. -/
theorem bounded_blockLines (folded : Bool) (indent : Nat) (text breaks : List Char)
    (last : Option Char) : Bounded (blockLines folded indent · text breaks last) := by
  refine .of_step (fun n (i : List Char × List Char × Option Char) =>
      blockLines folded indent n i.1 i.2.1 i.2.2)
    (fun _ => .pure _) (fun o l hl n n' ih i => ?_) (text, breaks, last)
  refine steady_column.before hl fun column l₁ hcolumn _ _ => ?_
  cases hcolumn
  refine (steady_peek 0).before hl fun c l₁ hc _ _ => ?_
  cases hc
  refine .ite (fun _ => .pure _) fun hmore => ?_
  have hend : l.cursor.rest.getD 0 endMark ≠ endMark := by
    intro hend
    simp only [hend, decide_true, Bool.or_true, not_true_eq_false] at hmore
  refine (steady_peek 0).before hl fun c l₁ hc _ _ => ?_
  cases hc
  refine (steady_taken _).before hl fun line l₁ hline hl₁ _ => ?_
  refine steady_lineBreak.before hl₁ fun last l₂ hbreak hl₂ _ => ?_
  refine (bounded_blockBreaks indent []).before hl₂ fun breaks l₃ _ hl₃ hle => ?_
  refine (steady_peek 0).before hl₃ fun next l₄ hnext _ _ => ?_
  cases hnext
  refine steady_column.before hl₃ fun column l₄ hcolumn _ _ => .ite (fun _ => ?_) fun _ => .pure _
  cases hcolumn
  exact ih (_, _, _) l₃ hl₃ (Nat.lt_of_le_of_lt hle (left_line_lt hl hend hline hbreak))

/-- A block takes characters: the first is its mark. -/
theorem advancing_blockScalar (folded : Bool) : Advancing (blockScalar folded) := by
  refine (advancing_forward Nat.one_pos).bind fun _ => steady_blockMarks.bind fun ⟨mark, width⟩ =>
    steady_restOfLine.bind fun _ => .look (fun _ _ => rfl) fun l => Steady.bind ?_ fun lead =>
      ((bounded_blockLines _ _ _ _ _).bind fun _ => .pure _).steady
  cases width with
  | none => exact ((bounded_blockLead _ _).bind fun _ => .pure _).steady
  | some width => exact ((bounded_blockBreaks _ _).bind fun _ => .pure _).steady

end Lex

end ZoneFirewall.Yaml
