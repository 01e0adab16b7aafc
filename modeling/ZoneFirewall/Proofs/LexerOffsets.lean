import ZoneFirewall.Proofs.Outcomes
import ZoneFirewall.Yaml.Token.Lexer

/-!
# Places behind other text

The lexer counts characters and lines from the start of a text, and bounds its loops by the length
of the text. Neither shows in the tokens: with something in front of a text, at whose end a new line
begins, each action comes out the same, with all places further on. For the bounds that takes a
measure, the characters that are left, which each round of a loop makes smaller.

* `Offset`, `Lexer.behind`: the state in the longer text.
* `Lockstep`: that two actions come out alike. `Steady`: that an action comes out as itself in the
  longer text, wherever it is done.
* `Bounded`: that a loop does, whatever its bounds are, if they are great enough; `Bounded.of_step`:
  it is enough to look at one round.
* `Advancing`: a steady action that takes a character if there is one.
* `Lex.steady_peek` to `Lex.steady_atDocumentMark`: **the smallest actions are steady.**
* `Lex.lineBreak_cases`, `Lex.left_taken_lt`: which of them take characters.
-/

namespace ZoneFirewall.Yaml

/-! ## Offsets -/

/-- How much comes before a text within a longer one. -/
structure Offset where
  /-- How many characters. -/
  chars : Nat
  /-- How many lines. -/
  lines : Nat

/-- The place in the longer text. -/
def Cursor.behind (o : Offset) (c : Cursor) : Cursor :=
  { c with index := c.index + o.chars, line := c.line + o.lines }

/-- The place in the longer text where a key may have begun. -/
def SimpleKey.behind (o : Offset) (k : SimpleKey) : SimpleKey :=
  { k with index := k.index + o.chars, line := k.line + o.lines }

/-- The place in the longer text where a key may have begun within some open brackets. -/
def keyBehind (o : Offset) (e : Nat × SimpleKey) : Nat × SimpleKey := (e.1, e.2.behind o)

namespace Lexer

/-- The state of the lexer in the longer text. -/
def behind (o : Offset) (l : Lexer) : Lexer :=
  { l with
    cursor := l.cursor.behind o
    size := l.size + o.chars
    possibleKeys := l.possibleKeys.map (keyBehind o) }

/-- How many characters are left. -/
def left (l : Lexer) : Nat := l.cursor.rest.length

/-- A state of the same text that is no further from its end. -/
structure Reaches (l l₁ : Lexer) : Prop where
  /-- The text is the same. -/
  size : l₁.size = l.size
  /-- No more characters are left. -/
  left : l₁.left ≤ l.left

/-- Every state reaches itself. -/
theorem Reaches.refl (l : Lexer) : l.Reaches l := ⟨rfl, Nat.le_refl _⟩

/-- What a state reaches from there on it reaches. -/
theorem Reaches.trans {l l₁ l₂ : Lexer} (h : l.Reaches l₁) (h₁ : l₁.Reaches l₂) : l.Reaches l₂ :=
  ⟨h₁.size.trans h.size, Nat.le_trans h₁.left h.left⟩

/-- A state has no more characters left than its text has. -/
def Fits (l : Lexer) : Prop := l.left ≤ l.size

/-- A state that fits its text reaches only such states. -/
theorem Fits.of_reaches {l l₁ : Lexer} (h : l.Fits) (hreaches : l.Reaches l₁) : l₁.Fits := by
  unfold Fits
  rw [hreaches.size]
  exact Nat.le_trans hreaches.left h

end Lexer

/-! ### Advancing -/

/-- To go one character on and to have more in front can change places. -/
theorem Cursor.advance_behind (o : Offset) (c : Cursor) :
    (c.behind o).advance = c.advance.behind o := by
  obtain ⟨rest, index, line, column⟩ := c
  rcases rest with _ | ⟨ch, rest⟩
  · rfl
  · unfold advance behind
    dsimp only
    split
    · simp [Nat.add_right_comm]
    · simp [Nat.add_right_comm]

/-- So can to go several characters on. -/
theorem Cursor.advanceBy_behind (o : Offset) (n : Nat) (c : Cursor) :
    (c.behind o).advanceBy n = (c.advanceBy n).behind o := by
  induction n generalizing c with
  | zero => rfl
  | succ n ih => rw [advanceBy, advanceBy, advance_behind, ih]

/-- One character less is left. -/
theorem Cursor.rest_advance (c : Cursor) : c.advance.rest = c.rest.tail := by
  obtain ⟨rest, index, line, column⟩ := c
  rcases rest with _ | ⟨ch, rest⟩
  · rfl
  · unfold advance
    dsimp only
    split
    · rfl
    · rfl

/-- As many less are left. -/
theorem Cursor.rest_advanceBy (n : Nat) (c : Cursor) : (c.advanceBy n).rest = c.rest.drop n := by
  induction n generalizing c with
  | zero => rfl
  | succ n ih => rw [advanceBy, ih, rest_advance, List.drop_tail]

/-! ## Actions in step -/

section lockstep

variable {α β : Type}

/-- An outcome of an action and the one in the longer text: they are the same but for the places. -/
inductive Alike (o : Offset) (l : Lexer) :
    Except DocumentError (α × Lexer) → Except DocumentError (α × Lexer) → Prop where
  /-- Both have failed for the same reason. -/
  | error (e : DocumentError) : Alike o l (.error e) (.error e)
  /-- Both have the same result. -/
  | ok {a : α} {l₁ : Lexer} : l.Reaches l₁ → Alike o l (.ok (a, l₁)) (.ok (a, l₁.behind o))

/-- An action at a state and one at that state in the longer text have outcomes that are alike. -/
def Lockstep (o : Offset) (m m' : Lex α) (l : Lexer) : Prop :=
  Alike o l (m.run l) (m'.run (l.behind o))

/-- An action goes in step with itself whatever comes before the text. -/
def Steady (m : Lex α) : Prop := ∀ o l, l.Fits → Lockstep o m m l

variable {o : Offset} {l : Lexer}

/-- A result that is given is the same behind other text. -/
theorem Lockstep.pure (a : α) : Lockstep o (Pure.pure a) (Pure.pure a) l := .ok (.refl l)

/-- So is a failure. -/
theorem Lockstep.throw (e : DocumentError) :
    Lockstep o (MonadExcept.throw e : Lex α) (MonadExcept.throw e) l := .error e

/-- What follows a failure does not matter. -/
theorem Lockstep.throw_bind (e : DocumentError) {f f' : α → Lex β} :
    Lockstep o ((MonadExcept.throw e : Lex α) >>= f) (MonadExcept.throw e >>= f') l := .error e

/-- Actions one after another are in step if the first ones are, and the next ones are wherever the
first ones lead. -/
theorem Lockstep.bind {m m' : Lex α} {f f' : α → Lex β} (h : Lockstep o m m' l)
    (hf : ∀ a l₁, m.run l = .ok (a, l₁) → l.Reaches l₁ → Lockstep o (f a) (f' a) l₁) :
    Lockstep o (m >>= f) (m' >>= f') l := by
  unfold Lockstep at h ⊢
  rw [StateT.run_bind, StateT.run_bind]
  generalize m.run l = r, m'.run (l.behind o) = r' at h hf
  cases h with
  | error e => exact .error e
  | @ok a l₁ hreaches =>
      have hnext := hf a l₁ rfl hreaches
      unfold Lockstep at hnext
      show Alike o l ((f a).run l₁) ((f' a).run (l₁.behind o))
      generalize (f a).run l₁ = r, (f' a).run (l₁.behind o) = r' at hnext
      cases hnext with
      | error e => exact .error e
      | ok hreaches₁ => exact .ok (hreaches.trans hreaches₁)

/-- Of two actions the same one is done if the conditions agree. -/
theorem Lockstep.ite_congr {p p' : Prop} [Decidable p] [Decidable p'] {m m' n n' : Lex α}
    (hiff : p ↔ p') (h : p → Lockstep o m m' l) (h' : ¬ p → Lockstep o n n' l) :
    Lockstep o (if p then m else n) (if p' then m' else n') l := by
  by_cases hp : p
  · rw [if_pos hp, if_pos (hiff.1 hp)]
    exact h hp
  · rw [if_neg hp, if_neg (mt hiff.2 hp)]
    exact h' hp

/-- In particular if they are the same. -/
theorem Lockstep.ite {p : Prop} [Decidable p] {m m' n n' : Lex α} (h : p → Lockstep o m m' l)
    (h' : ¬ p → Lockstep o n n' l) :
    Lockstep o (if p then m else n) (if p then m' else n') l := .ite_congr .rfl h h'

/-- The state may be looked at if what is made of it is in step. -/
theorem Lockstep.get {f f' : Lexer → Lex β} (h : Lockstep o (f l) (f' (l.behind o)) l) :
    Lockstep o (MonadState.get >>= f) (MonadState.get >>= f') l := h

/-- The state may be set to a further one. -/
theorem Lockstep.set {l₁ l₁' : Lexer} (h : l₁' = l₁.behind o) (hreaches : l.Reaches l₁) :
    Lockstep o (MonadStateOf.set l₁ : Lex PUnit) (MonadStateOf.set l₁') l := by
  subst h
  exact .ok hreaches

namespace Steady

/-- A result that is given is steady. -/
theorem pure (a : α) : Steady (Pure.pure a : Lex α) := fun _ _ _ => .pure a

/-- So is a failure. -/
theorem throw (e : DocumentError) : Steady (MonadExcept.throw e : Lex α) := fun _ _ _ => .throw e

/-- What follows a failure need not be. -/
theorem throw_bind (e : DocumentError) {f : α → Lex β} :
    Steady ((MonadExcept.throw e : Lex α) >>= f) := fun _ _ _ => .throw_bind e

/-- Steady actions may follow one another. -/
theorem bind {m : Lex α} {f : α → Lex β} (h : Steady m) (hf : ∀ a, Steady (f a)) :
    Steady (m >>= f) := fun o l hl =>
  (h o l hl).bind fun a l₁ _ hreaches => hf a o l₁ (hl.of_reaches hreaches)

/-- An action may look at the state if what it does then goes in step. -/
theorem get {f : Lexer → Lex β} (h : ∀ o l, l.Fits → Lockstep o (f l) (f (l.behind o)) l) :
    Steady (MonadState.get >>= f) := fun o l hl => .get (h o l hl)

/-- The state may be looked at if it makes no difference whether that is done in the longer text. -/
theorem look {f : Lexer → Lex β} (hbehind : ∀ o l, f (l.behind o) = f l) (hf : ∀ l, Steady (f l)) :
    Steady (MonadState.get >>= f) := get fun o l hl => by
  rw [hbehind]
  exact hf l o l hl

/-- Either of two steady actions is steady. -/
theorem ite {p : Prop} [Decidable p] {m m' : Lex α} (h : Steady m) (h' : Steady m') :
    Steady (if p then m else m') := by
  split
  · exact h
  · exact h'

/-- The state may be changed if it makes no difference whether that is done in the longer text. -/
theorem change {g : Lexer → Lexer} (hbehind : ∀ o l, g (l.behind o) = (g l).behind o)
    (hreaches : ∀ l : Lexer, l.Reaches (g l)) : Steady (modify g : Lex PUnit) := fun o l _ => by
  show Alike o l (.ok (PUnit.unit, g l)) (.ok (PUnit.unit, g (l.behind o)))
  rw [hbehind]
  exact .ok (hreaches l)

/-- A steady action leads to a state of the same text that is no further from its end. -/
theorem reaches {m : Lex α} {a : α} {l₁ : Lexer} (h : Steady m) (hl : l.Fits)
    (hrun : m.run l = .ok (a, l₁)) : l.Reaches l₁ := by
  have halike := h ⟨0, 0⟩ l hl
  unfold Lockstep at halike
  rw [hrun] at halike
  generalize m.run (l.behind ⟨0, 0⟩) = r at halike
  cases halike with
  | ok hreaches => exact hreaches

/-- After a steady action the next ones have to be in step where it leads. -/
theorem before {m : Lex α} {f f' : α → Lex β} (h : Steady m) (hl : l.Fits)
    (hf : ∀ a l₁, m.run l = .ok (a, l₁) → l₁.Fits → l₁.left ≤ l.left →
      Lockstep o (f a) (f' a) l₁) : Lockstep o (m >>= f) (m >>= f') l :=
  (h o l hl).bind fun a l₁ hrun hreaches => hf a l₁ hrun (hl.of_reaches hreaches) hreaches.left

end Steady

/-- A number of steps makes no difference once it is greater than the number of the characters that
are left. -/
def Bounded (loop : Nat → Lex α) : Prop :=
  ∀ o l n n', l.Fits → (n = n' ∨ l.left < n ∧ l.left < n') → Lockstep o (loop n) (loop n') l

namespace Bounded

/-- A loop that takes a character with each round is bounded, whatever it carries from one round to
the next: a round is in step if the next ones are wherever fewer characters are left. -/
theorem of_step {ι : Type} (loop : Nat → ι → Lex α) (hzero : ∀ i, Steady (loop 0 i))
    (hstep : ∀ o (l : Lexer), l.Fits → ∀ n n',
      (∀ i (l₁ : Lexer), l₁.Fits → l₁.left < l.left → Lockstep o (loop n i) (loop n' i) l₁) →
        ∀ i, Lockstep o (loop (n + 1) i) (loop (n' + 1) i) l) (i : ι) : Bounded (loop · i) := by
  intro o l n n' hl henough
  induction n generalizing n' i l with
  | zero =>
      obtain rfl : n' = 0 := by omega
      exact hzero i o l hl
  | succ n ih =>
      obtain ⟨n', rfl⟩ : ∃ m, n' = m + 1 := Nat.exists_eq_succ_of_ne_zero (by omega)
      exact hstep o l hl n n' (fun i l₁ hl₁ hlt => ih i l₁ n' hl₁ (by omega)) i

variable {loop : Nat → Lex α}

/-- With a fixed number of steps it is steady. -/
theorem fixed (h : Bounded loop) (n : Nat) : Steady (loop n) := fun o l hl =>
  h o l n n hl (.inl rfl)

/-- It is in step with as many steps as the text has characters. -/
theorem lockstep (h : Bounded loop) (hl : l.Fits) :
    Lockstep o (loop (l.size + 1)) (loop (l.size + o.chars + 1)) l := by
  have hlt : l.left < l.size + 1 := Nat.lt_succ_of_le hl
  exact h o l _ _ hl (.inr ⟨hlt, by omega⟩)

/-- It is steady with as many steps as the text has characters. -/
theorem steady (h : Bounded loop) : Steady (Lex.stepBound >>= loop) := fun _ _ hl => h.lockstep hl

/-- After it the next actions have to be in step where it leads. -/
theorem before {f f' : α → Lex β} (h : Bounded loop) (hl : l.Fits)
    (hf : ∀ a l₁, (loop (l.size + 1)).run l = .ok (a, l₁) → l₁.Fits → l₁.left ≤ l.left →
      Lockstep o (f a) (f' a) l₁) :
    Lockstep o (Lex.stepBound >>= fun n => loop n >>= f)
      (Lex.stepBound >>= fun n => loop n >>= f') l :=
  (h.lockstep hl).bind fun a l₁ hrun hreaches =>
    hf a l₁ hrun (hl.of_reaches hreaches) hreaches.left

/-- What follows a bounded loop has to be steady. -/
theorem bind {f : α → Lex β} (h : Bounded loop) (hf : ∀ a, Steady (f a)) :
    Bounded fun n => loop n >>= f := fun o l n n' hl henough =>
  (h o l n n' hl henough).bind fun a l₁ _ hreaches => hf a o l₁ (hl.of_reaches hreaches)

/-- Behind other text it does not depend on the number of steps either. -/
theorem run_eq (h : Bounded loop) (hl : l.Fits) {n n' : Nat} (hn : l.left < n) (hn' : l.left < n') :
    (loop n).run (l.behind o) = (loop n').run (l.behind o) := by
  have hself := h o l n n hl (.inl rfl)
  have hother := h o l n n' hl (.inr ⟨hn, hn'⟩)
  unfold Lockstep at hself hother
  generalize (loop n).run l = r, (loop n).run (l.behind o) = r₁, (loop n').run (l.behind o) = r₂
    at hself hother
  cases hself with
  | error e =>
      cases hother
      rfl
  | ok hreaches =>
      cases hother
      rfl

end Bounded

end lockstep

/-! ## The smallest actions -/

namespace Lex

variable {l l₁ : Lexer}

/-- A character ahead is the same behind other text. -/
theorem steady_peek (n : Nat) : Steady (peek n) := .look (fun _ _ => rfl) fun _ => .pure _

/-- So are several of them. -/
theorem steady_ahead (n : Nat) : Steady (ahead n) := .look (fun _ _ => rfl) fun _ => .pure _

/-- So is the column: other text ends with its last line. -/
theorem steady_column : Steady column := .look (fun _ _ => rfl) fun _ => .pure _

/-- Going on is steady. -/
theorem steady_forward (n : Nat) : Steady (forward n) := by
  refine Steady.change (fun o l => ?_) fun l => ⟨rfl, ?_⟩
  · show { l.behind o with cursor := (l.cursor.behind o).advanceBy n } = _
    rw [Cursor.advanceBy_behind]
    rfl
  · show (l.cursor.advanceBy n).rest.length ≤ l.cursor.rest.length
    rw [Cursor.rest_advanceBy, List.length_drop]
    exact Nat.sub_le _ _

/-- Taking characters of a kind is steady. -/
theorem steady_taken (p : Char → Bool) : Steady (taken p) :=
  .look (fun _ _ => rfl) fun _ => (steady_forward _).bind fun _ => .pure _

/-- So is passing over spaces. -/
theorem steady_spaces : Steady spaces := (steady_taken _).bind fun _ => Steady.pure _

/-- A token is the same wherever it is found. -/
theorem steady_emit (t : Token) : Steady (emit t) :=
  Steady.change (fun _ _ => rfl) fun _ => ⟨rfl, Nat.le_refl _⟩

/-- Whether a key may begin does not depend on places. -/
theorem steady_allowKey (allowed : Bool) : Steady (allowKey allowed) :=
  Steady.change (fun _ _ => rfl) fun _ => ⟨rfl, Nat.le_refl _⟩

/-- The end of a line is steady. -/
theorem steady_lineBreak : Steady lineBreak := by
  refine (steady_peek 0).bind fun c => (steady_peek 1).bind fun next =>
    .ite ?_ (.ite ?_ (.ite ?_ ?_))
  · exact (steady_forward 2).bind fun _ => .pure _
  · exact (steady_forward 1).bind fun _ => .pure _
  · exact (steady_forward 1).bind fun _ => .pure _
  · exact .pure _

/-- So is the look for a mark of a document. -/
theorem steady_atDocumentMark : Steady atDocumentMark :=
  (steady_ahead 3).bind fun _ => (steady_peek 3).bind fun _ => .pure _

/-! ## Actions that take characters -/

/-- Actions one after another succeed if the first does, and the next does where the first leads. -/
theorem run_bind_eq_ok {α β : Type} {m : Lex α} {f : α → Lex β} {b : β} :
    (m >>= f).run l = .ok (b, l₁) ↔
      ∃ a l₀, m.run l = .ok (a, l₀) ∧ (f a).run l₀ = .ok (b, l₁) := by
  rw [StateT.run_bind, bind_eq_ok, Prod.exists]

/-- Moving on takes characters if there are any. -/
theorem left_forward_lt {n : Nat} {u : Unit} (h : (forward n).run l = .ok (u, l₁)) (hn : 0 < n)
    (hleft : 0 < l.left) : l₁.left < l.left := by
  cases h
  show (l.cursor.advanceBy n).rest.length < l.cursor.rest.length
  rw [Cursor.rest_advanceBy, List.length_drop]
  exact Nat.sub_lt hleft hn

/-- A steady action that takes a character if there is one. -/
structure Advancing {α : Type} (m : Lex α) : Prop where
  /-- It goes in step with itself. -/
  steady : Steady m
  /-- It leaves fewer characters. -/
  left_lt {l l₁ : Lexer} {a : α} (hl : l.Fits) (hleft : 0 < l.left)
    (h : m.run l = .ok (a, l₁)) : l₁.left < l.left

section advancing

variable {α β : Type}

/-- What begins by taking a character takes one. -/
theorem Advancing.bind {m : Lex α} {f : α → Lex β} (h : Advancing m) (hf : ∀ a, Steady (f a)) :
    Advancing (m >>= f) where
  steady := h.steady.bind hf
  left_lt hl hleft hrun := by
    obtain ⟨a, l₀, hm, hrun⟩ := run_bind_eq_ok.1 hrun
    have hle := ((hf a).reaches (hl.of_reaches (h.steady.reaches hl hm)) hrun).left
    exact Nat.lt_of_le_of_lt hle (h.left_lt hl hleft hm)

/-- What comes before an action that takes a character may take some, too. -/
theorem Advancing.after {m : Lex α} {f : α → Lex β} (h : Steady m) (hf : ∀ a, Advancing (f a)) :
    Advancing (m >>= f) where
  steady := h.bind fun a => (hf a).steady
  left_lt {l} l₁ b hl hleft hrun := by
    obtain ⟨a, l₀, hm, hrun⟩ := run_bind_eq_ok.1 hrun
    have hreaches := h.reaches hl hm
    have hl₀ := hl.of_reaches hreaches
    rcases Nat.eq_zero_or_pos l₀.left with hzero | hpos
    · have hle := ((hf a).steady.reaches hl₀ hrun).left
      omega
    · exact Nat.lt_of_lt_of_le ((hf a).left_lt hl₀ hpos hrun) hreaches.left

/-- Either of two advancing actions is advancing. -/
theorem Advancing.ite {p : Prop} [Decidable p] {m m' : Lex α} (h : Advancing m)
    (h' : Advancing m') : Advancing (if p then m else m') := by
  split
  · exact h
  · exact h'

/-- A failure leaves no state that could have all characters left. -/
theorem Advancing.throw_bind (e : DocumentError) {f : α → Lex β} :
    Advancing ((MonadExcept.throw e : Lex α) >>= f) where
  steady := .throw_bind e
  left_lt _ _ h := by cases h

/-- An advancing action may depend on what is the same behind other text. -/
theorem Advancing.look {f : Lexer → Lex β} (hbehind : ∀ o l, f (l.behind o) = f l)
    (hf : ∀ l, Advancing (f l)) : Advancing (MonadState.get >>= f) where
  steady := .look hbehind fun l => (hf l).steady
  left_lt {l} _ _ hl hleft hrun := (hf l).left_lt hl hleft hrun

end advancing

/-- Going on by at least one character takes one. -/
theorem advancing_forward {n : Nat} (hn : 0 < n) : Advancing (forward n) where
  steady := steady_forward n
  left_lt _ hleft h := left_forward_lt h hn hleft

/-- Where there is a character other than the end, there are characters left. -/
theorem left_pos_of_ne_endMark (h : l.cursor.rest.getD 0 endMark ≠ endMark) : 0 < l.left := by
  apply List.length_pos_iff.2
  intro hnil
  rw [hnil] at h
  exact h rfl

/-- After a character that is moved past the next actions have fewer characters left. -/
theorem lockstep_forward {α : Type} {o : Offset} {f f' : Unit → Lex α} {n : Nat} (hl : l.Fits)
    (hn : 0 < n) (hleft : 0 < l.left)
    (hf : ∀ l₁ : Lexer, l₁.Fits → l₁.left < l.left → Lockstep o (f ()) (f' ()) l₁) :
    Lockstep o (forward n >>= f) (forward n >>= f') l :=
  (steady_forward n).before hl fun _ l₁ hforward hl₁ _ =>
    hf l₁ hl₁ (left_forward_lt hforward hn hleft)

/-- The end of a line is moved past if there is one. -/
theorem lineBreak_cases {b : Option Char} (h : lineBreak.run l = .ok (b, l₁)) :
    (b.isSome ∧ isBreak (l.cursor.rest.getD 0 endMark) ∧
        ∃ n, 0 < n ∧ (forward n).run l = .ok ((), l₁)) ∨
      (b = none ∧ isBreak (l.cursor.rest.getD 0 endMark) = false ∧ l₁ = l) := by
  obtain ⟨c, l₀, hc, h⟩ := run_bind_eq_ok.1 h
  cases hc
  obtain ⟨next, l₀, hnext, h⟩ := run_bind_eq_ok.1 h
  cases hnext
  split at h
  · rename_i hfeed
    rw [Bool.and_eq_true, decide_eq_true_eq] at hfeed
    obtain ⟨u, l₀, hforward, h⟩ := run_bind_eq_ok.1 h
    cases h
    exact .inl ⟨rfl, by rw [hfeed.1]; rfl, 2, Nat.two_pos, hforward⟩
  · split at h
    · rename_i hfeed
      obtain ⟨u, l₀, hforward, h⟩ := run_bind_eq_ok.1 h
      cases h
      refine .inl ⟨rfl, ?_, 1, Nat.one_pos, hforward⟩
      unfold isBreak
      rw [hfeed]
      rfl
    · split at h
      · rename_i hbreak
        obtain ⟨u, l₀, hforward, h⟩ := run_bind_eq_ok.1 h
        cases h
        exact .inl ⟨rfl, hbreak, 1, Nat.one_pos, hforward⟩
      · rename_i hbreak
        cases h
        exact .inr ⟨rfl, Bool.eq_false_iff.2 hbreak, rfl⟩

/-- The end of a line takes characters. -/
theorem left_lineBreak_lt {b : Char} (h : lineBreak.run l = .ok (some b, l₁)) :
    l₁.left < l.left := by
  rcases lineBreak_cases h with ⟨-, hbreak, n, hn, hforward⟩ | ⟨hnone, -⟩
  · refine left_forward_lt hforward hn (left_pos_of_ne_endMark fun hend => ?_)
    rw [hend] at hbreak
    exact absurd hbreak (by decide)
  · cases hnone

/-- Where there is no end of a line, the line goes on with another character. -/
theorem eq_of_lineBreak (h : lineBreak.run l = .ok (none, l₁)) :
    l₁ = l ∧ isBreak (l.cursor.rest.getD 0 endMark) = false := by
  rcases lineBreak_cases h with ⟨hsome, -⟩ | ⟨-, hline, hsame⟩
  · cases hsome
  · exact ⟨hsame, hline⟩

/-- Characters that are taken are no longer left. -/
theorem left_taken_lt {p : Char → Bool} {cs : List Char} (h : (taken p).run l = .ok (cs, l₁))
    (hp : p (l.cursor.rest.getD 0 endMark)) (hleft : 0 < l.left) : l₁.left < l.left := by
  obtain ⟨c, rest, hrest⟩ := List.exists_cons_of_ne_nil (List.length_pos_iff.1 hleft)
  rw [hrest] at hp
  have hword : 0 < (l.cursor.rest.takeWhile p).length := by
    have hfirst : p c = true := hp
    rw [hrest, List.takeWhile_cons_of_pos hfirst]
    exact Nat.succ_pos _
  obtain ⟨l₀, l₀', hget, h⟩ := run_bind_eq_ok.1 h
  cases hget
  obtain ⟨u, l₂, hforward, h⟩ := run_bind_eq_ok.1 h
  cases h
  exact left_forward_lt hforward hword hleft

/-- Where no character is taken, nothing happens. -/
theorem eq_of_taken {p : Char → Bool} {cs : List Char} (h : (taken p).run l = .ok (cs, l₁))
    (hp : p (l.cursor.rest.getD 0 endMark) = false) : l₁ = l := by
  have hword : l.cursor.rest.takeWhile p = [] := by
    rcases hrest : l.cursor.rest with _ | ⟨c, rest⟩
    · rfl
    · rw [hrest] at hp
      exact List.takeWhile_cons_of_neg (Bool.eq_false_iff.1 hp)
  obtain ⟨l₀, l₀', hget, h⟩ := run_bind_eq_ok.1 h
  cases hget
  rw [hword] at h
  cases h
  rfl

end Lex

end ZoneFirewall.Yaml
