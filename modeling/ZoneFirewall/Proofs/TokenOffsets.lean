import ZoneFirewall.Proofs.ScalarOffsets
import ZoneFirewall.Yaml.Token.Lexer

/-!
# Tokens behind other text

Places where a key may have begun are kept by the lexer and looked at again later. They move with
the text, so that a key is too far back, or on another line, in the longer text exactly if it is in
the text itself.

* `Lex.isStale_behind`, `Lex.steady_saveKey`, `Lex.steady_unwind`: keys and indentation.
* `Lex.advancing_directive` to `Lex.advancing_valueMark`: the tokens with a mark of their own.
* `Lex.takes_next`: **the next token goes in step and takes a character**, unless the text ends.
* `Tokens.ofLexer_behind`: **all tokens are the same behind other text.**
-/

namespace ZoneFirewall.Yaml

namespace Lex

variable {l l₁ : Lexer}

/-! ## Keys and indentation -/

/-- Whether a key is too far back is the same behind other text. -/
theorem isStale_behind (o : Offset) (c : Cursor) (k : SimpleKey) :
    isStale (c.behind o) (k.behind o) = isStale c k := by
  have hline : k.line + o.lines ≠ c.line + o.lines ↔ k.line ≠ c.line := by omega
  have hindex : c.index + o.chars > k.index + o.chars + keyReach
      ↔ c.index > k.index + keyReach := by omega
  simp only [isStale, Cursor.behind, SimpleKey.behind, hline, hindex]

/-- Places of keys are found in the longer text if they are found in the text. -/
theorem any_keyBehind {o : Offset} {p q : Nat × SimpleKey → Bool}
    (hpq : ∀ e, q (keyBehind o e) = p e) (keys : List (Nat × SimpleKey)) :
    (keys.map (keyBehind o)).any q = keys.any p := by
  rw [List.any_map]
  exact congrArg keys.any (funext hpq)

/-- Keys may be chosen before or after they are moved. -/
theorem filter_keyBehind {o : Offset} {p q : Nat × SimpleKey → Bool}
    (hpq : ∀ e, q (keyBehind o e) = p e) (keys : List (Nat × SimpleKey)) :
    (keys.map (keyBehind o)).filter q = (keys.filter p).map (keyBehind o) := by
  rw [List.filter_map]
  exact congrArg _ (List.filter_congr fun e _ => hpq e)

/-- Dropping keys that are too far back is steady. -/
theorem steady_dropStaleKeys : Steady dropStaleKeys := by
  refine Steady.get fun o l _ => ?_
  have hstale : ∀ e : Nat × SimpleKey,
      isStale (l.cursor.behind o) (keyBehind o e).2 = isStale l.cursor e.2 := fun e =>
    isStale_behind o l.cursor e.2
  refine .ite_congr ?_ (fun _ => .throw_bind _) fun _ => .set ?_ ⟨rfl, Nat.le_refl _⟩
  · rw [← any_keyBehind (o := o) (q := fun e => isStale (l.cursor.behind o) e.2 && e.2.required)]
    · rfl
    · intro e
      exact congrArg (· && e.2.required) (hstale e)
  · have hkeys := filter_keyBehind (o := o) (p := fun e => !isStale l.cursor e.2)
      (q := fun e => !isStale (l.cursor.behind o) e.2) (fun e => congrArg (!·) (hstale e))
      l.possibleKeys
    exact congrArg (fun keys => { l.behind o with possibleKeys := keys }) hkeys

/-- The key of a level may be dropped before or after all keys are moved. -/
theorem behind_dropLevel (o : Offset) (l : Lexer) (level : Nat) :
    { l.behind o with possibleKeys := (l.behind o).possibleKeys.filter (·.1 ≠ level) }
      = { l with possibleKeys := l.possibleKeys.filter (·.1 ≠ level) }.behind o := by
  have hkeys := filter_keyBehind (o := o) (p := (·.1 ≠ level)) (q := (·.1 ≠ level)) (fun _ => rfl)
    l.possibleKeys
  exact congrArg (fun keys => { l.behind o with possibleKeys := keys }) hkeys

/-- Dropping the key of a level is steady. -/
theorem steady_dropKey : Steady dropKey := by
  refine Steady.get fun o l _ => ?_
  refine .ite_congr ?_ (fun _ => .throw_bind _) fun _ =>
    .set (behind_dropLevel o l l.flowLevel) ⟨rfl, Nat.le_refl _⟩
  rw [← any_keyBehind (o := o) (q := fun e => e.1 = l.flowLevel && e.2.required)]
  · rfl
  · exact fun e => rfl

/-- So is saving one. -/
theorem steady_saveKey : Steady saveKey := by
  refine .look (fun _ _ => rfl) fun _ => .ite (steady_dropKey.bind fun _ => ?_) (.pure _)
  exact Steady.change (fun _ _ => rfl) fun _ => ⟨rfl, Nat.le_refl _⟩

/-- Closing blocks depends on columns only. -/
theorem steady_unwindFrom (column : Int) (outers : List Int) (indent : Int) :
    Steady (unwindFrom column outers indent) := by
  induction outers generalizing indent with
  | nil => exact Steady.change (fun _ _ => rfl) fun _ => ⟨rfl, Nat.le_refl _⟩
  | cons outer outers ih =>
      exact .ite ((steady_emit _).bind fun _ => ih _)
        (Steady.change (fun _ _ => rfl) fun _ => ⟨rfl, Nat.le_refl _⟩)

/-- So does closing all blocks that lie further in. -/
theorem steady_unwind (column : Int) : Steady (unwind column) :=
  .look (fun _ _ => rfl) fun _ => .ite (steady_unwindFrom _ _ _) (.pure _)

/-- So does opening a block. -/
theorem steady_addIndent (column : Nat) : Steady (addIndent column) := by
  refine Steady.get fun o l _ => .ite (fun _ => .bind (.set ?_ ?_) fun _ _ _ _ => .pure _)
    fun _ => .pure _
  · rfl
  · exact ⟨rfl, Nat.le_refl _⟩

/-! ## Directives, anchors and tags -/

/-- The number of a version is steady. -/
theorem steady_versionNumber : Steady versionNumber :=
  (steady_taken _).bind fun _ => .ite (.throw_bind _) (.ite (.throw_bind _) (.pure _))

/-- The handle of a tag takes characters: the first is its mark. -/
theorem advancing_tagHandle : Advancing tagHandle :=
  .after (steady_peek 0) fun _ => .ite (.throw_bind _) <|
    (advancing_forward Nat.one_pos).bind fun _ => (steady_peek 0).bind fun _ => .ite (.pure _) <|
      (steady_taken _).bind fun _ => (steady_peek 0).bind fun _ => .ite (.throw_bind _) <|
        (steady_forward 1).bind fun _ => .pure _

/-- The loop over escaped bytes needs no more rounds than there are characters left. -/
theorem bounded_tagEscapes (bytes : List UInt8) : Bounded (tagEscapes · bytes) := by
  refine .of_step tagEscapes (fun _ => .pure _) (fun o l hl n n' ih bytes => ?_) bytes
  refine (steady_peek 0).before hl fun c l₁ hc _ _ => ?_
  cases hc
  refine .ite (fun _ => .pure _) fun hescape => ?_
  have hpos : 0 < l.left := left_pos_of_ne_endMark (by rw [Decidable.not_not.1 hescape]; decide)
  refine lockstep_forward hl Nat.one_pos hpos fun l₁ hl₁ hlt => ?_
  refine (steady_ahead 2).before hl₁ fun digits l₂ hdigits _ _ =>
    .ite (fun _ => .throw_bind _) fun _ => ?_
  cases hdigits
  exact (steady_forward 2).before hl₁ fun _ l₃ _ hl₃ hle =>
    ih _ l₃ hl₃ (Nat.lt_of_le_of_lt hle hlt)

/-- Escapes take characters where there are any. -/
theorem left_tagEscapes_lt {n : Nat} {bytes bytes' : List UInt8} (hl : l.Fits)
    (hescape : l.cursor.rest.getD 0 endMark = '%')
    (hrun : (tagEscapes (n + 1) bytes).run l = .ok (bytes', l₁)) : l₁.left < l.left := by
  have hpos : 0 < l.left := left_pos_of_ne_endMark (by rw [hescape]; decide)
  obtain ⟨c, l₀, hc, h⟩ := run_bind_eq_ok.1 hrun
  cases hc
  rw [if_neg (not_not_intro hescape)] at h
  refine Advancing.left_lt ?_ hl hpos h
  exact (advancing_forward Nat.one_pos).bind fun _ => (steady_ahead 2).bind fun _ =>
    .ite (.throw_bind _) <| (steady_forward 2).bind fun _ => (bounded_tagEscapes _).fixed n

/-- So does the loop over the characters of a tag. -/
theorem bounded_tagChars (text : List Char) : Bounded (tagChars · text) := by
  refine .of_step tagChars (fun _ => .pure _) (fun o l hl n n' ih text => ?_) text
  refine (steady_taken _).before hl fun word l₁ _ hl₁ hle => ?_
  refine (steady_peek 0).before hl₁ fun c l₂ hc _ _ => ?_
  cases hc
  refine .ite (fun hescape => ?_) fun _ => .pure _
  refine (bounded_tagEscapes []).before hl₁ fun bytes l₂ hbytes hl₂ _ => ?_
  have hlt := left_tagEscapes_lt hl₁ hescape hbytes
  rcases Text.decodeUtf8 bytes with e | s
  · exact .throw _
  · exact ih _ l₂ hl₂ (Nat.lt_of_lt_of_le hlt hle)

/-- The text of a tag is steady. -/
theorem steady_tagText : Steady tagText :=
  Steady.get fun _ _ hl => (bounded_tagChars []).before hl fun _ _ _ _ _ =>
    .get (.ite_congr Nat.add_right_cancel_iff.symm (fun _ => .throw_bind _) fun _ => .pure _)

/-- So is the value of a directive. -/
theorem steady_directiveValue (name : List Char) : Steady (directiveValue name) := by
  refine .ite ?_ (.ite ?_ ?_)
  · exact steady_spaces.bind fun _ => steady_versionNumber.bind fun _ =>
      (steady_peek 0).bind fun _ => .ite (.throw_bind _) <| (steady_forward 1).bind fun _ =>
        steady_versionNumber.bind fun _ => (steady_peek 0).bind fun _ =>
          .ite (.throw_bind _) (.pure _)
  · exact steady_spaces.bind fun _ => advancing_tagHandle.steady.bind fun _ =>
      (steady_peek 0).bind fun _ => .ite (.throw_bind _) <| steady_spaces.bind fun _ =>
        steady_tagText.bind fun _ => (steady_peek 0).bind fun _ => .ite (.throw_bind _) (.pure _)
  · exact (steady_taken _).bind fun _ => .pure _

/-- A directive takes characters: the first is its mark. -/
theorem advancing_directive : Advancing directive :=
  (advancing_forward Nat.one_pos).bind fun _ => (steady_taken _).bind fun _ =>
    (steady_peek 0).bind fun _ => .ite (.throw_bind _) <| (steady_directiveValue _).bind fun _ =>
      steady_restOfLine.bind fun _ => .pure _

/-- So does the name of an anchor. -/
theorem advancing_anchorName : Advancing anchorName :=
  (advancing_forward Nat.one_pos).bind fun _ => (steady_taken _).bind fun _ =>
    (steady_peek 0).bind fun _ => .ite (.throw_bind _) (.pure _)

/-- So does a tag. -/
theorem advancing_tag : Advancing tag := by
  refine .after (steady_peek 1) fun c => Advancing.bind (.ite ?_ (.ite ?_ (.look ?_ fun l => ?_)))
    fun _ => (steady_peek 0).bind fun _ => .ite (.throw_bind _) (.pure _)
  · exact (advancing_forward Nat.two_pos).bind fun _ => steady_tagText.bind fun _ =>
      (steady_peek 0).bind fun _ =>
        .ite (.throw_bind _) ((steady_forward 1).bind fun _ => .pure _)
  · exact (advancing_forward Nat.one_pos).bind fun _ => .pure _
  · exact fun _ _ => rfl
  · refine .ite ?_ ?_
    · exact advancing_tagHandle.bind fun _ => steady_tagText.bind fun _ => .pure _
    · exact (advancing_forward Nat.one_pos).bind fun _ => steady_tagText.bind fun _ => .pure _

/-! ## Tokens -/

/-- The end of a line and what is passed over after it, in a number of steps. -/
def pastLine (n : Nat) : Lex Unit := do
  match (← lineBreak) with
  | some _ =>
    if (← get).flowLevel = 0 then allowKey true
    toNextToken n
  | none => return

/-- One round of the way to the next token. -/
theorem toNextToken_succ (n : Nat) : toNextToken (n + 1) = (do
    spaces
    if (← peek 0) = '#' then
      let _ ← taken (!isBreakOrEnd ·)
    pastLine n) := rfl

/-- The way to the next token needs no more rounds than there are characters left. -/
theorem bounded_toNextToken : Bounded toNextToken := by
  refine .of_step (fun n (_ : Unit) => toNextToken n) (fun _ => .pure _)
    (fun o l hl n n' ih _ => ?_) ()
  have hline : ∀ l₁ : Lexer, l₁.Fits → l₁.left ≤ l.left →
      Lockstep o (pastLine n) (pastLine n') l₁ := by
    intro l₁ hl₁ hle
    refine steady_lineBreak.before hl₁ fun b l₂ hbreak hl₂ _ => ?_
    cases b with
    | none => exact .pure _
    | some b =>
        have hlt := Nat.lt_of_lt_of_le (left_lineBreak_lt hbreak) hle
        refine .get (.ite (fun _ => ?_) fun _ => ih () l₂ hl₂ hlt)
        exact (steady_allowKey true).before hl₂ fun _ l₃ _ hl₃ hle₃ =>
          ih () l₃ hl₃ (Nat.lt_of_le_of_lt hle₃ hlt)
  rw [toNextToken_succ, toNextToken_succ]
  refine steady_spaces.before hl fun _ l₁ _ hl₁ hle => ?_
  refine (steady_peek 0).before hl₁ fun c l₂ hc _ _ => .ite (fun _ => ?_) fun _ => ?_
  · cases hc
    exact (steady_taken _).before hl₁ fun _ l₃ _ hl₃ hle₃ =>
      hline l₃ hl₃ (Nat.le_trans hle₃ hle)
  · cases hc
    exact hline l₁ hl₁ hle

/-- A mark takes its character. -/
theorem advancing_plainMark (t : Token) : Advancing (plainMark 1 t) :=
  (advancing_forward Nat.one_pos).bind fun _ => steady_emit t

/-- What stands between documents takes characters if what is in it does. -/
theorem advancing_betweenDocuments {body : Lex Token} (h : Advancing body) :
    Advancing (betweenDocuments body) :=
  .after (steady_unwind (-1)) fun _ => .after steady_dropKey fun _ => .after (steady_allowKey false)
    fun _ => h.bind fun _ => steady_emit _

/-- So does what a key may begin with. -/
theorem advancing_keyStart {body : Lex Token} (h : Advancing body) : Advancing (keyStart body) :=
  .after steady_saveKey fun _ => .after (steady_allowKey false) fun _ =>
    h.bind fun _ => steady_emit _

/-- An opening bracket takes its character. -/
theorem advancing_openFlow (t : Token) : Advancing (openFlow t) := by
  refine .after steady_saveKey fun _ => .after ?_ fun _ => advancing_plainMark t
  exact Steady.change (fun _ _ => rfl) fun _ => ⟨rfl, Nat.le_refl _⟩

/-- So does a closing one. -/
theorem advancing_closeFlow (t : Token) : Advancing (closeFlow t) := by
  refine .look (fun _ _ => rfl) fun l => .ite (.throw_bind _) <|
    .after steady_dropKey fun _ => .after ?_ fun _ => advancing_plainMark t
  exact Steady.change (fun _ _ => rfl) fun _ => ⟨rfl, Nat.le_refl _⟩

/-- Opening a block where it is needed is steady. -/
theorem steady_openBlock (t : Token) : Steady (openBlock t) := by
  refine .look (fun _ _ => rfl) fun _ => .ite (.ite (.throw_bind _) ?_) (.pure _)
  exact (steady_addIndent _).bind fun _ => .ite (steady_emit t) (.pure _)

/-- The mark of an item takes its character. -/
theorem advancing_blockEntry : Advancing blockEntry :=
  .after (steady_openBlock _) fun _ => .after (steady_allowKey true) fun _ =>
    .after steady_dropKey fun _ => advancing_plainMark _

/-- So does the mark of a key. -/
theorem advancing_explicitKey : Advancing explicitKey :=
  .after (steady_openBlock _) fun _ => .look (fun _ _ => rfl) fun _ =>
    .after (steady_allowKey _) fun _ => .after steady_dropKey fun _ => advancing_plainMark _

/-- A key may be looked for before or after all keys are moved. -/
theorem find?_keyBehind {o : Offset} {p : Nat × SimpleKey → Bool}
    (hp : ∀ e, p (keyBehind o e) = p e) (keys : List (Nat × SimpleKey)) :
    (keys.map (keyBehind o)).find? p = (keys.find? p).map (keyBehind o) := by
  rw [List.find?_map]
  exact congrArg (fun q => (keys.find? q).map (keyBehind o)) (funext hp)

/-- What comes before the colon of a value whose key began at a place without a mark, or not at
all. -/
def valueKeyFor (l : Lexer) : Option (Nat × SimpleKey) → Lex Unit
  | some (level, key) => do
    let opens ← (do
      set { l with possibleKeys := l.possibleKeys.filter (·.1 ≠ level) }
      if level = 0 then addIndent key.column else return false)
    let marks := if opens then [Token.blockMappingStart, .key] else [.key]
    modify fun l =>
      { l with
        tokens := l.tokens.extract 0 key.position ++ marks.toArray
          ++ l.tokens.extract key.position l.tokens.size
        keyAllowed := false }
  | none => do
    openBlock .blockMappingStart
    allowKey ((← get).flowLevel = 0)
    dropKey

/-- What comes before the colon of a value. -/
def valueKey : Lex Unit := do
  let l ← get
  valueKeyFor l (l.possibleKeys.find? (·.1 = l.flowLevel))

/-- The mark of a value in two steps: what its key comes to, and the mark itself. -/
theorem valueMark_eq : valueMark = (do valueKey; plainMark 1 .value) := by
  unfold valueMark valueKey
  rw [bind_assoc]
  refine bind_congr fun l => ?_
  generalize l.possibleKeys.find? (·.1 = l.flowLevel) = key
  cases key with
  | none => simp only [valueKeyFor, bind_assoc]
  | some e => simp only [valueKeyFor, bind_assoc]

/-- What the key of a value comes to is steady. -/
theorem steady_valueKey : Steady valueKey := by
  refine Steady.get fun o l hl => ?_
  show Lockstep o (valueKeyFor l (l.possibleKeys.find? (·.1 = l.flowLevel)))
    (valueKeyFor (l.behind o) ((l.possibleKeys.map (keyBehind o)).find? (·.1 = l.flowLevel))) l
  rw [find?_keyBehind (fun e => rfl)]
  generalize l.possibleKeys.find? (·.1 = l.flowLevel) = key
  cases key with
  | none =>
      refine ((steady_openBlock _).bind fun _ => Steady.look (fun _ _ => rfl) fun _ => ?_) o l hl
      exact (steady_allowKey _).bind fun _ => steady_dropKey
  | some e =>
      refine Lockstep.bind (.bind (.set (behind_dropLevel o l e.1) ⟨rfl, Nat.le_refl _⟩)
        fun _ l₁ _ hreaches => ?_) fun opens l₁ _ hreaches => ?_
      · exact Steady.ite (steady_addIndent _) (.pure _) o l₁ (hl.of_reaches hreaches)
      · refine Steady.change ?_ ?_ o l₁ (hl.of_reaches hreaches)
        · exact fun _ _ => rfl
        · exact fun _ => ⟨rfl, Nat.le_refl _⟩

/-- The mark of a value takes its character. -/
theorem advancing_valueMark : Advancing valueMark := by
  rw [valueMark_eq]
  exact .after steady_valueKey fun _ => advancing_plainMark _

/-- Remembering that a key may begin here leaves the place as it is. -/
theorem place_saveKey {u : Unit} (h : saveKey.run l = .ok (u, l₁)) :
    l₁.cursor = l.cursor ∧ l₁.flowLevel = l.flowLevel := by
  obtain ⟨l₀, l₀', hget, h⟩ := run_bind_eq_ok.1 h
  cases hget
  split at h
  · obtain ⟨u, l₂, hdrop, h⟩ := run_bind_eq_ok.1 h
    cases h
    obtain ⟨l₀, l₀', hget, hdrop⟩ := run_bind_eq_ok.1 hdrop
    cases hget
    split at hdrop
    · cases hdrop
    · cases hdrop
      exact ⟨rfl, rfl⟩
  · cases h
    exact ⟨rfl, rfl⟩

/-- A plain scalar that may be a key is steady. -/
theorem steady_keyStart_plainScalar : Steady (keyStart plainScalar) :=
  steady_saveKey.bind fun _ => (steady_allowKey false).bind fun _ => steady_plainScalar.bind
    fun _ => steady_emit _

/-- A plain scalar that can begin takes characters, also if it may be a key. -/
theorem left_keyStart_plainScalar_lt {u : Unit} (hl : l.Fits)
    (hstart : startsPlain (l.flowLevel > 0) (l.cursor.rest.getD 0 endMark)
      (l.cursor.rest.getD 1 endMark))
    (hleft : 0 < l.left) (h : (keyStart plainScalar).run l = .ok (u, l₁)) : l₁.left < l.left := by
  obtain ⟨c, rest, hrest⟩ := List.exists_cons_of_ne_nil (List.length_pos_iff.1 hleft)
  have hnext : (c :: rest).getD 1 endMark = rest.headD endMark := by
    cases rest with
    | nil => rfl
    | cons d rest => rfl
  rw [hrest, hnext] at hstart
  obtain ⟨hlength, hcomment⟩ := plainLength_of_startsPlain hstart
  obtain ⟨v, l₂, hsave, h⟩ := run_bind_eq_ok.1 h
  obtain ⟨hcursor, hflow⟩ := place_saveKey hsave
  have hreaches := steady_saveKey.reaches hl hsave
  obtain ⟨v, l₃, hallow, h⟩ := run_bind_eq_ok.1 h
  cases hallow
  obtain ⟨t, l₄, hplain, h⟩ := run_bind_eq_ok.1 h
  cases h
  have hlt : l₄.left < Lexer.left { l₂ with keyAllowed := false } := by
    refine left_plainScalar_lt ?_ ?_ ?_ hplain
    · exact hl.of_reaches ⟨hreaches.size, hreaches.left⟩
    · show plainLength (l₂.flowLevel > 0) l₂.cursor.rest ≠ 0
      rw [hcursor, hflow, hrest]
      exact hlength
    · show l₂.cursor.rest.head? ≠ some '#'
      rw [hcursor, hrest]
      exact fun h => hcomment (Option.some.inj h)
  exact Nat.lt_of_lt_of_le hlt hreaches.left

/-! ## The next token -/

/-- An action is in step at a state, and takes characters unless there are no more tokens. -/
structure Takes (m : Lex Bool) (l : Lexer) : Prop where
  /-- It goes in step with itself. -/
  lockstep (o : Offset) : Lockstep o m m l
  /-- It leaves fewer characters. -/
  left_lt {l₁ : Lexer} (h : m.run l = .ok (true, l₁)) : l₁.left < l.left

/-- What follows a steady action may take a character. -/
theorem Takes.bind {α : Type} {m : Lex α} {f : α → Lex Bool} (h : Steady m) (hl : l.Fits)
    (hf : ∀ a l₁, l₁.Fits → Takes (f a) l₁) : Takes (m >>= f) l where
  lockstep o := h.before hl fun a l₁ _ hl₁ _ => (hf a l₁ hl₁).lockstep o
  left_lt hrun := by
    obtain ⟨a, l₀, hm, hrun⟩ := run_bind_eq_ok.1 hrun
    have hreaches := h.reaches hl hm
    exact Nat.lt_of_lt_of_le ((hf a l₀ (hl.of_reaches hreaches)).left_lt hrun) hreaches.left

/-- Of two actions the one that is done has to take a character. -/
theorem Takes.ite {p : Prop} [Decidable p] {m m' : Lex Bool} (h : p → Takes m l)
    (h' : ¬ p → Takes m' l) : Takes (if p then m else m') l := by
  split
  · exact h ‹_›
  · exact h' ‹_›

/-- The state may be looked at if it makes no difference whether that is done in the longer text. -/
theorem Takes.look {f : Lexer → Lex Bool} (hbehind : ∀ o, f (l.behind o) = f l)
    (h : Takes (f l) l) : Takes (MonadState.get >>= f) l where
  lockstep o := .get (by
    rw [hbehind]
    exact h.lockstep o)
  left_lt := h.left_lt

/-- A character ahead may be looked at before. -/
theorem Takes.peek {n : Nat} {f : Char → Lex Bool}
    (h : Takes (f (l.cursor.rest.getD n endMark)) l) : Takes (peek n >>= f) l :=
  ⟨h.lockstep, h.left_lt⟩

/-- So may a mark of a document. -/
theorem Takes.atDocumentMark {f : Bool → Lex Bool} (h : ∀ mark, Takes (f mark) l) :
    Takes (atDocumentMark >>= f) l :=
  ⟨(h _).lockstep, (h _).left_lt⟩

/-- An advancing action takes a character where there is one. -/
theorem Takes.of_advancing {m : Lex Bool} (h : Advancing m) (hl : l.Fits) (hleft : 0 < l.left) :
    Takes m l where
  lockstep o := h.steady o l hl
  left_lt hrun := h.left_lt hl hleft hrun

/-- There are no more tokens at the end. -/
theorem Takes.pure_false : Takes (pure false) l where
  lockstep _ := .pure _
  left_lt h := by cases h

/-- The next token is found in step, and takes a character unless it is the last one. -/
theorem takes_next (hl : l.Fits) : Takes next l := by
  unfold next
  rw [← bind_assoc]
  refine .bind bounded_toNextToken.steady hl fun _ l₁ hl₁ => .bind steady_dropStaleKeys hl₁
    fun _ l₂ hl₂ => .bind steady_column hl₂ fun column l₃ hl₃ => .bind (steady_unwind _) hl₃
    fun _ l₄ hl₄ => .look (fun _ => rfl) (.peek (.peek (.ite (fun _ => ?_) fun hend => ?_)))
  · exact .bind (steady_unwind (-1)) hl₄ fun _ l₅ hl₅ => .bind steady_dropKey hl₅
      fun _ _ _ => .pure_false
  have hleft : 0 < l₄.left := left_pos_of_ne_endMark hend
  have hdone : ∀ {m : Lex Unit}, Advancing m → Takes (m >>= fun _ => pure true) l₄ := fun h =>
    .of_advancing (h.bind fun _ => .pure _) hl₄ hleft
  refine .ite (fun _ => hdone (advancing_betweenDocuments advancing_directive)) fun _ => ?_
  refine .atDocumentMark fun mark =>
    .ite (fun _ => hdone (advancing_betweenDocuments ?_)) fun _ => ?_
  · exact (advancing_forward (by decide)).bind fun _ => .pure _
  refine .ite (fun _ => hdone (advancing_openFlow _)) fun _ => ?_
  refine .ite (fun _ => hdone (advancing_openFlow _)) fun _ => ?_
  refine .ite (fun _ => hdone (advancing_closeFlow _)) fun _ => ?_
  refine .ite (fun _ => hdone (advancing_closeFlow _)) fun _ => ?_
  refine .ite (fun _ => .of_advancing ?_ hl₄ hleft) fun _ => ?_
  · exact .after (steady_allowKey true) fun _ => .after steady_dropKey fun _ =>
      (advancing_plainMark _).bind fun _ => .pure _
  refine .ite (fun _ => hdone advancing_blockEntry) fun _ => ?_
  refine .ite (fun _ => hdone advancing_explicitKey) fun _ => ?_
  refine .ite (fun _ => hdone advancing_valueMark) fun _ => ?_
  refine .ite (fun _ => hdone (advancing_keyStart ?_)) fun _ => ?_
  · exact advancing_anchorName.bind fun _ => .pure _
  refine .ite (fun _ => hdone (advancing_keyStart ?_)) fun _ => ?_
  · exact advancing_anchorName.bind fun _ => .pure _
  refine .ite (fun _ => hdone (advancing_keyStart advancing_tag)) fun _ => ?_
  refine .ite (fun _ => .of_advancing ?_ hl₄ hleft) fun _ => ?_
  · exact .after (steady_allowKey true) fun _ => .after steady_dropKey fun _ =>
      (advancing_blockScalar _).bind fun _ => (steady_emit _).bind fun _ => .pure _
  refine .ite (fun hquote => hdone (advancing_keyStart (advancing_quotedScalar ?_))) fun _ => ?_
  · simpa using hquote
  refine .peek (.ite (fun hstart => ?_) fun _ => .of_advancing (.throw_bind _) hl₄ hleft)
  refine ⟨fun o => (steady_keyStart_plainScalar.bind fun _ => .pure _) o l₄ hl₄, fun hrun => ?_⟩
  obtain ⟨u, l₅, hplain, hrun⟩ := run_bind_eq_ok.1 hrun
  cases hrun
  exact left_keyStart_plainScalar_lt hl₄ hstart hleft hplain

end Lex

/-! ## All tokens -/

namespace Tokens

/-- The tokens that are settled are the same behind other text. -/
theorem settled_behind (o : Offset) (l : Lexer) : settled (l.behind o) = settled l := by
  have hkeys := Lex.filter_keyBehind (o := o) (p := fun e => !Lex.isStale l.cursor e.2)
    (q := fun e => !Lex.isStale (l.cursor.behind o) e.2)
    (fun e => congrArg (!·) (Lex.isStale_behind o l.cursor e.2)) l.possibleKeys
  unfold settled
  show (l.tokens.extract 0 (((l.possibleKeys.map (keyBehind o)).filter fun e =>
    !Lex.isStale (l.cursor.behind o) e.2).foldl (fun n e => min n e.2.position)
      l.tokens.size)).toList = _
  rw [hkeys, List.foldl_map]
  rfl

/-- The tokens do not depend on what comes before, nor on the number of steps once it is great
enough. -/
theorem ofLexer_behind (o : Offset) {n n' : Nat} {l : Lexer} (hl : l.Fits) (hn : l.left < n)
    (hn' : l.left < n') : ofLexer n' (l.behind o) = ofLexer n l := by
  induction n generalizing n' l with
  | zero => omega
  | succ n ih =>
      obtain ⟨n', rfl⟩ : ∃ m, n' = m + 1 := Nat.exists_eq_succ_of_ne_zero (by omega)
      have htakes := Lex.takes_next hl
      have hstep := htakes.lockstep o
      have hlt := @htakes.left_lt
      unfold Lockstep at hstep
      unfold ofLexer
      generalize Lex.next.run l = r, Lex.next.run (l.behind o) = r' at hstep hlt
      cases hstep with
      | error e => rw [settled_behind]
      | @ok more l₁ hreaches =>
          cases more with
          | false => rfl
          | true =>
              have hless := hlt rfl
              exact ih (hl.of_reaches hreaches) (by omega) (by omega)

end Tokens

end ZoneFirewall.Yaml
