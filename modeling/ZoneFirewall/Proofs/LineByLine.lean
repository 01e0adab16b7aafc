import Mathlib.Data.List.Basic
import Mathlib.Data.List.Induction
import ZoneFirewall.Proofs.LineFaults

/-!
# Reading line by line

Reading goes through lines until one of them stops it. Which lines stand in a block is a matter of
their wording alone, and a run is settled by the lines that succeed and the one that does not.

* `openBlock`: the block that is open after some lines, by their wording.
* `Reading.walk`: where lines lead of which none fails. `walk_append`: it goes on from where it
  stopped.
* `linesFrom_append_of_walk`, `exists_failure_of_walk_eq_none`: a run is a walk, and then the end of
  the lines or a line that fails.
* `stands_of_walk`: a walk stands in a block exactly if one is open. `ends_lines`: the ways in which
  a run ends.
* `lines_stopped`: **a failing run leaves the state that the lines before the failure make**, any
  open block being closed.
-/

namespace ZoneFirewall

open Text Attempt

/-! ## Blocks -/

/-- A block that has been opened. -/
structure OpenBlock where
  /-- The number of the line that opened it. -/
  line : Nat
  /-- The number of its policy, as written. -/
  policy : String
  deriving DecidableEq, Repr

/-- The policy whose block a directive opens. -/
def Directive.opens? : Directive → Option String
  | .policyBlock id => some id
  | _ => none

/-- The directive of a line at the top level, if it is one. -/
def directiveOf? (text : String) : Option Directive :=
  match Directive.classify (trim text) with
  | .ok d => d
  | .error _ => none

/-- The directive of a line is what it is classified as. -/
theorem directiveOf?_eq_some {text : String} {d : Directive} :
    directiveOf? text = some d ↔ Directive.classify (trim text) = .ok (some d) := by
  rw [directiveOf?]
  split
  · rename_i hclass
    rw [hclass, Except.ok.injEq]
  · rename_i hclass
    simp [hclass]

/-- The policy whose block a line at the top level opens. -/
def openedBy? (text : String) : Option String := (directiveOf? text).bind Directive.opens?

/-- The block that is open after a line with a number, given the one that is open before it. -/
def nextBlock (number : Nat) (text : String) : Option OpenBlock → Option OpenBlock
  | some b => if trim text = blockEnd then none else some b
  | none => (openedBy? text).map (OpenBlock.mk number)

/-- The block that is open after lines of which the first has a number, given the one that is open
before them. -/
def openBlockFrom (number : Nat) (b : Option OpenBlock) : List String → Option OpenBlock
  | [] => b
  | text :: rest => openBlockFrom (number + 1) (nextBlock number text b) rest

/-- The block that is open after some lines. -/
def openBlock (texts : List String) : Option OpenBlock := openBlockFrom 1 none texts

/-- The block that is open after lines is open before the lines that follow. -/
theorem openBlockFrom_append (first second : List String) (number : Nat) (b : Option OpenBlock) :
    openBlockFrom number b (first ++ second)
      = openBlockFrom (number + first.length) (openBlockFrom number b first) second := by
  induction first generalizing number b with
  | nil => rfl
  | cons text first ih =>
      rw [List.cons_append, openBlockFrom, ih, openBlockFrom, List.length_cons]
      congr 1
      omega

/-- A further line may open a block or close the one that is open. -/
theorem openBlock_append_singleton (before : List String) (text : String) :
    openBlock (before ++ [text]) = nextBlock (before.length + 1) text (openBlock before) := by
  rw [openBlock, openBlockFrom_append, Nat.add_comm 1]
  rfl

/-- The block that is open has been opened at its line. -/
theorem exists_opening {texts : List String} {b : OpenBlock} (h : openBlock texts = some b) :
    ∃ before text after, texts = before ++ text :: after ∧ b.line = before.length + 1 ∧
      openBlock before = none ∧ openedBy? text = some b.policy := by
  induction texts using List.reverseRecOn with
  | nil => cases h
  | append_singleton texts text ih =>
      rw [openBlock_append_singleton] at h
      rcases hopen : openBlock texts with _ | b'
      · rw [hopen, nextBlock, Option.map_eq_some_iff] at h
        obtain ⟨id, hid, rfl⟩ := h
        exact ⟨texts, text, [], rfl, rfl, hopen, hid⟩
      · rw [hopen, nextBlock] at h
        split at h
        · cases h
        · cases h
          obtain ⟨before, text', after, rfl, hline, hnone, hopens⟩ := ih hopen
          exact ⟨before, text', after ++ [text], by simp, hline, hnone, hopens⟩

/-- A place stands where a block is open, or none. -/
inductive Place.Stands : Place → Option OpenBlock → Prop where
  /-- Outside all blocks. -/
  | topLevel : Place.Stands .topLevel none
  /-- In the open block. -/
  | block {id : Int} {number : Nat} {text : String} :
      readNumber text = .ok id → Place.Stands (.block id number) (some ⟨number, text⟩)

namespace Reading

variable {resolver : Option Resolver} {s s' t : Reading} {place place' : Place} {number : Nat}
  {text : String} {texts first second : List String}

/-! ## Walks -/

/-- A directive that succeeds leads into a block if it opens one, and nowhere else. -/
theorem Does.stands {d : Directive} (h : Does resolver number s d place' s') :
    place'.Stands (d.opens?.map (OpenBlock.mk number)) := by
  cases h with
  | policyBlock hid => exact .block (policyIn_eq_ok.1 hid).1
  | _ => exact .topLevel

/-- A line leads from where a block is open by the wording to where one is. -/
theorem LeadsTo.stands {b : Option OpenBlock} (h : LeadsTo resolver number s text place place' s')
    (hb : place.Stands b) : place'.Stands (nextBlock number text b) := by
  cases hb with
  | topLevel =>
      cases h with
      | passedOver hnone =>
          rw [nextBlock, openedBy?, directiveOf?, hnone]
          exact .topLevel
      | directive hsome hdoes =>
          rw [nextBlock, openedBy?, directiveOf?, hsome]
          exact hdoes.stands
  | block hread =>
      cases h with
      | blockEnd hend =>
          rw [nextBlock, if_pos hend]
          exact .topLevel
      | blank hblank =>
          rw [nextBlock, if_neg (by rw [hblank]; decide)]
          exact .block hread
      | blockLine hnot =>
          rw [nextBlock, if_neg hnot]
          exact .block hread

/-- Where lines lead of which the first has a number and stands at a place; `none` if one of them
fails. -/
def walk (resolver : Option Resolver) (number : Nat) (place : Place) (s : Reading) :
    List String → Option (Place × Reading)
  | [] => some (place, s)
  | text :: rest =>
    match outcome (step resolver number place text) s with
    | .error _ => none
    | .ok (place, s) => walk resolver (number + 1) place s rest

/-- A walk over lines and then others goes on with what the first ones leave. -/
theorem walk_append :
    walk resolver number place s (first ++ second)
      = (walk resolver number place s first).bind fun r =>
          walk resolver (number + first.length) r.1 r.2 second := by
  induction first generalizing number place s with
  | nil => rfl
  | cons text first ih =>
      simp only [List.cons_append, walk]
      rcases outcome (step resolver number place text) s with fault | ⟨place₁, s₁⟩
      · rfl
      · rw [show number + (text :: first).length = number + 1 + first.length by
          rw [List.length_cons]; omega]
        exact ih

/-- A walk begins with its first line. -/
theorem walk_cons_eq_some {r : Place × Reading} :
    walk resolver number place s (text :: texts) = some r ↔
      ∃ place₁ s₁, LeadsTo resolver number s text place place₁ s₁ ∧
        walk resolver (number + 1) place₁ s₁ texts = some r := by
  rw [walk]
  constructor
  · intro h
    rcases hstep : outcome (step resolver number place text) s with fault | ⟨place₁, s₁⟩
    · rw [hstep] at h
      cases h
    · rw [hstep] at h
      exact ⟨place₁, s₁, step_eq_ok.1 hstep, h⟩
  · rintro ⟨place₁, s₁, hleads, h⟩
    rw [step_eq_ok.2 hleads]
    exact h

/-- A walk through lines and one more goes on with that line. -/
theorem walk_append_singleton_eq_some :
    walk resolver number place s (first ++ [text]) = some (place', s') ↔
      ∃ place₁ s₁, walk resolver number place s first = some (place₁, s₁) ∧
        LeadsTo resolver (number + first.length) s₁ text place₁ place' s' := by
  rw [walk_append]
  constructor
  · intro h
    obtain ⟨⟨place₁, s₁⟩, hwalk, hline⟩ := Option.bind_eq_some_iff.1 h
    obtain ⟨place₂, s₂, hleads, hend⟩ := walk_cons_eq_some.1 hline
    cases hend
    exact ⟨place₁, s₁, hwalk, hleads⟩
  · rintro ⟨place₁, s₁, hwalk, hleads⟩
    rw [hwalk]
    exact walk_cons_eq_some.2 ⟨place', s', hleads, rfl⟩

/-- A walk stands in a block exactly if one is open by the wording. -/
theorem stands_of_walk {b : Option OpenBlock}
    (h : walk resolver number place s texts = some (place', s')) (hb : place.Stands b) :
    place'.Stands (openBlockFrom number b texts) := by
  induction texts generalizing number place s b with
  | nil =>
      cases h
      exact hb
  | cons text texts ih =>
      obtain ⟨place₁, s₁, hleads, hrest⟩ := walk_cons_eq_some.1 h
      exact ih hrest (hleads.stands hb)

/-! ## Runs -/

/-- A run goes on from where a walk through its first lines leads. -/
theorem linesFrom_append_of_walk (h : walk resolver number place s first = some (place', s'))
    (second : List String) : linesFrom resolver s place number (first ++ second)
      = linesFrom resolver s' place' (number + first.length) second := by
  induction first generalizing number place s with
  | nil =>
      cases h
      rfl
  | cons text first ih =>
      obtain ⟨place₁, s₁, hleads, hrest⟩ := walk_cons_eq_some.1 h
      rw [List.cons_append, linesFrom_cons, step_eq_ok.2 hleads, List.length_cons,
        show number + (first.length + 1) = number + 1 + first.length by omega]
      exact ih hrest

/-- Lines through which there is no walk have a first one that fails. -/
theorem exists_failure_of_walk_eq_none (h : walk resolver number place s texts = none) :
    ∃ before text after place' s' fault, texts = before ++ text :: after ∧
      walk resolver number place s before = some (place', s') ∧
        outcome (step resolver (number + before.length) place' text) s' = .error fault := by
  induction texts generalizing number place s with
  | nil => cases h
  | cons text texts ih =>
      rw [walk] at h
      rcases hstep : outcome (step resolver number place text) s with fault | ⟨place₁, s₁⟩
      · exact ⟨[], text, texts, place, s, fault, rfl, rfl, hstep⟩
      · rw [hstep] at h
        obtain ⟨before, text', after, place', s', fault, rfl, hwalk, hfail⟩ := ih h
        refine ⟨text :: before, text', after, place', s', fault, rfl, ?_, ?_⟩
        · rw [walk, hstep]
          exact hwalk
        · rw [List.length_cons, show number + (before.length + 1) = number + 1 + before.length by
            omega]
          exact hfail

/-- **How a run of lines ends**: at the top level, in an open block, or at a line that fails. -/
inductive Ends (resolver : Option Resolver) (s : Reading) (texts : List String) :
    Reading × Option ReadError → Prop where
  /-- All lines have been read, and no block is open. -/
  | done {t : Reading} :
      walk resolver 1 .topLevel s texts = some (.topLevel, t) → openBlock texts = none →
        Ends resolver s texts (t, none)
  /-- All lines have been read, and a block is open. -/
  | notClosed {t : Reading} {b : OpenBlock} {id : Int} :
      walk resolver 1 .topLevel s texts = some (.block id b.line, t) → openBlock texts = some b →
        readNumber b.policy = .ok id →
          Ends resolver s texts (t, some ⟨b.line, .blockNotClosed id⟩)
  /-- A line has failed. -/
  | failed {before after : List String} {text : String} {place : Place} {t : Reading}
      {fault : ReadFault} :
      texts = before ++ text :: after →
        walk resolver 1 .topLevel s before = some (place, t) → place.Stands (openBlock before) →
          outcome (step resolver (before.length + 1) place text) t = .error fault →
            Ends resolver s texts (t, some ⟨before.length + 1, fault⟩)

/-- A run ends in one of the ways there are. -/
theorem ends_lines (resolver : Option Resolver) (s : Reading) (texts : List String) :
    Ends resolver s texts (s.lines resolver texts) := by
  -- Either there is a walk through all lines, or one up to a line that fails.
  rcases hwalk : walk resolver 1 .topLevel s texts with _ | ⟨place, t⟩
  · obtain ⟨before, text, after, place, t, fault, rfl, hwalk, hfail⟩ :=
      exists_failure_of_walk_eq_none hwalk
    rw [lines, linesFrom_append_of_walk hwalk, linesFrom_cons, hfail, Nat.add_comm 1]
    rw [Nat.add_comm 1] at hfail
    exact .failed rfl hwalk (stands_of_walk hwalk .topLevel) hfail
  · have hstands := stands_of_walk hwalk .topLevel
    have hrun := linesFrom_append_of_walk hwalk []
    rw [List.append_nil] at hrun
    rw [lines, hrun]
    rw [show openBlockFrom 1 none texts = openBlock texts from rfl] at hstands
    generalize hb : openBlock texts = b at hstands
    cases hstands with
    | topLevel => exact .done hwalk hb
    | block hread => exact .notClosed hwalk hb hread

/-- An error is that of a line. -/
theorem line_pos_of_lines {e : ReadError} (h : (s.lines resolver texts).2 = some e) :
    0 < e.line := by
  have hends := ends_lines resolver s texts
  generalize s.lines resolver texts = r at h hends
  cases hends with
  | done => cases h
  | notClosed _ hopen =>
      cases h
      obtain ⟨before, -, -, -, hline, -⟩ := exists_opening hopen
      exact hline ▸ Nat.succ_pos _
  | failed =>
      cases h
      exact Nat.succ_pos _

/-- A walk that ends at the top level is a run that succeeds. -/
theorem lines_of_walk (h : walk resolver 1 .topLevel s texts = some (.topLevel, t)) :
    s.lines resolver texts = (t, none) := by
  have hrun := linesFrom_append_of_walk h []
  rw [List.append_nil] at hrun
  exact hrun

/-- A walk that ends in a block is a run that succeeds once the block is closed. -/
theorem lines_append_blockEnd {id : Int} {openedAt : Nat}
    (h : walk resolver 1 .topLevel s texts = some (.block id openedAt, t)) :
    s.lines resolver (texts ++ [blockEnd]) = (t, none) := by
  have hend : trim blockEnd = blockEnd := by decide
  exact lines_of_walk
    (walk_append_singleton_eq_some.2 ⟨_, _, h, .blockEnd hend⟩)

/-- **A failing run leaves what the lines before the failure make.** If a block was not closed, the
state is that of all lines and the end of the block. Otherwise it is that of the lines before the
one that fails, which succeed; if they leave a block open, then with the end of the block. -/
theorem lines_stopped {e : ReadError} (h : s.lines resolver texts = (t, some e)) :
    ((∃ id, e.fault = .blockNotClosed id) ∧ (openBlock texts).isSome ∧
      s.lines resolver (texts ++ [blockEnd]) = (t, none)) ∨
    ((∀ id, e.fault ≠ .blockNotClosed id) ∧
      ∃ before text after, texts = before ++ text :: after ∧ e.line = before.length + 1 ∧
        (openBlock before = none → s.lines resolver before = (t, none)) ∧
        ((openBlock before).isSome → s.lines resolver (before ++ [blockEnd]) = (t, none))) := by
  have hends := ends_lines resolver s texts
  rw [h] at hends
  cases hends with
  | notClosed hwalk hopen =>
      exact .inl ⟨⟨_, rfl⟩, by rw [hopen]; rfl, lines_append_blockEnd hwalk⟩
  | @failed before after text place _ fault htexts hwalk hstands hfail =>
      refine .inr ⟨(stops_of_step_eq_error hfail).ne_blockNotClosed, before, text, after, htexts,
        rfl, ?_, ?_⟩
      · intro hnone
        rw [hnone] at hstands
        cases hstands
        exact lines_of_walk hwalk
      · intro hsome
        obtain ⟨b, hb⟩ := Option.isSome_iff_exists.1 hsome
        rw [hb] at hstands
        cases hstands
        exact lines_append_blockEnd hwalk

/-- A log option that is not known leaves the policy with the member of the line before it. -/
theorem lines_stopped_by_log_option :
    ∃ t, lines { configuration := {} } none
        ["set policy id 1 from \"a\" to \"b\" \"x\" \"y\" \"z\" permit", "set policy id 1",
          "set src-address \"k\"", "set log session-close", "exit"]
        = (t, some ⟨4, .unsupportedLogOption "session-close"⟩) ∧
      lines { configuration := {} } none
        ["set policy id 1 from \"a\" to \"b\" \"x\" \"y\" \"z\" permit", "set policy id 1",
          "set src-address \"k\"", "exit"] = (t, none) := by
  have herror : (lines { configuration := {} } none
        ["set policy id 1 from \"a\" to \"b\" \"x\" \"y\" \"z\" permit", "set policy id 1",
          "set src-address \"k\"", "set log session-close", "exit"]).2
        = some ⟨4, .unsupportedLogOption "session-close"⟩ := by decide +kernel
  generalize hrun : lines { configuration := {} } none
        ["set policy id 1 from \"a\" to \"b\" \"x\" \"y\" \"z\" permit", "set policy id 1",
          "set src-address \"k\"", "set log session-close", "exit"] = r at herror
  obtain ⟨t, e⟩ := r
  obtain rfl := herror
  refine ⟨t, rfl, ?_⟩
  rcases lines_stopped hrun with ⟨⟨id, hid⟩, -⟩ | ⟨-, before, text, after, htexts, hline, -, hopen⟩
  · cases hid
  · have hlength : 3 = before.length := Nat.succ.inj hline
    obtain ⟨a, b, c, rfl⟩ := List.length_eq_three.1 hlength.symm
    simp only [List.cons_append, List.nil_append, List.cons.injEq] at htexts
    obtain ⟨rfl, rfl, rfl, -⟩ := htexts
    exact hopen (by decide +kernel)

end Reading

end ZoneFirewall
