import ZoneFirewall.Proofs.Acceptance

/-!
# What lines tell the reader

A line tells the reader to follow a directive or to change the policy of a block, or it tells
nothing. What the state comes to is a matter of what lines tell and of the numbers of the lines.

* `valuesFor`: what a key is given.
* `Instruction`, `numberedInstructions`, `instructionsOf`: what lines tell, by their wording.
  `directivesOf_eq`: the directives among it.
* `Reading.Follows`: what following an instruction comes to, one case for each kind.
  `LeadsTo.follows`: a line that succeeds is one that is followed, or tells nothing.
* `walk_induction`, `ofLines_induction`, `ofLines_directive_induction`: **what holds at the start,
  and is kept whenever an instruction is followed, holds of what lines tell and of the state that
  they make.**
-/

namespace ZoneFirewall

open Text

/-! ## What is given to keys -/

section keys

variable {α β κ ν : Type} [DecidableEq κ]

/-- A further item adds what it is mapped to, if it is to something. -/
theorem filterMap_append_singleton (f : α → Option β) (l : List α) (a : α) :
    (l ++ [a]).filterMap f = l.filterMap f ++ (f a).toList := by
  rw [List.filterMap_append]
  rcases h : f a with _ | b
  · rw [List.filterMap_cons_none h]
    rfl
  · rw [List.filterMap_cons_some h]
    rfl

/-- The values that a key is given, in order and with repetitions. -/
def valuesFor (k : κ) (es : List (κ × ν)) : List ν :=
  es.filterMap fun e => if e.1 = k then some e.2 else none

/-- A further entry adds its value if it is for the key. -/
theorem valuesFor_append_singleton (k : κ) (es : List (κ × ν)) (e : κ × ν) :
    valuesFor k (es ++ [e]) = valuesFor k es ++ if e.1 = k then [e.2] else [] := by
  rw [valuesFor, filterMap_append_singleton]
  split
  · rfl
  · rfl

/-- The values for a key are those that stand with it. -/
theorem mem_valuesFor {k : κ} {es : List (κ × ν)} {v : ν} : v ∈ valuesFor k es ↔ (k, v) ∈ es := by
  simp only [valuesFor, List.mem_filterMap, Option.ite_none_right_eq_some, Option.some.injEq]
  constructor
  · rintro ⟨e, he, rfl, rfl⟩
    exact he
  · intro h
    exact ⟨(k, v), h, rfl, rfl⟩

/-- A key that is given nothing has no values. -/
theorem valuesFor_eq_nil {k : κ} {es : List (κ × ν)} (h : ∀ e ∈ es, e.1 ≠ k) :
    valuesFor k es = [] :=
  List.filterMap_eq_nil_iff.2 fun e he => if_neg (h e he)

end keys

/-! ## Instructions -/

/-- What a line tells the reader. -/
inductive Instruction where
  /-- To follow a directive. -/
  | directive (d : Directive)
  /-- To change the policy of a block. -/
  | inBlock (policy : Int) (l : BlockLine)
  deriving DecidableEq, Repr

/-- The directive that is to be followed. -/
def Instruction.directive? : Instruction → Option Directive
  | .directive d => some d
  | .inBlock _ _ => none

/-- What a line of a block says, if it says anything. -/
def blockLineOf? (text : String) : Option BlockLine := (BlockLine.classify (trim text)).toOption

/-- What a line tells, given the block that is open before it. -/
def instructionOf? (text : String) : Option OpenBlock → Option Instruction
  | none => (directiveOf? text).map .directive
  | some b => (blockLineOf? text).map (.inBlock (numeralValue b.policy))

/-- What lines tell of which the first has a number, given the block that is open before them. -/
def instructionsFrom (number : Nat) (b : Option OpenBlock) :
    List String → List (Nat × Instruction)
  | [] => []
  | text :: rest =>
    (instructionOf? text b).toList.map (Prod.mk number)
      ++ instructionsFrom (number + 1) (nextBlock number text b) rest

/-- What lines tell, with the numbers of the lines. -/
def numberedInstructions (texts : List String) : List (Nat × Instruction) :=
  instructionsFrom 1 none texts

/-- What lines tell, in order. -/
def instructionsOf (texts : List String) : List Instruction :=
  (numberedInstructions texts).map Prod.snd

/-- The instructions of lines after others are those of both, the block that is open in between
given. -/
theorem instructionsFrom_append (first second : List String) (number : Nat)
    (b : Option OpenBlock) :
    instructionsFrom number b (first ++ second)
      = instructionsFrom number b first
        ++ instructionsFrom (number + first.length) (openBlockFrom number b first) second := by
  induction first generalizing number b with
  | nil => rfl
  | cons text first ih =>
      rw [List.cons_append, instructionsFrom, instructionsFrom, openBlockFrom, ih,
        List.append_assoc, List.length_cons, Nat.add_right_comm, Nat.add_assoc]

/-- A further line adds its instruction, if it has one, with its number. -/
theorem numberedInstructions_append_singleton (before : List String) (text : String) :
    numberedInstructions (before ++ [text])
      = numberedInstructions before
        ++ (instructionOf? text (openBlock before)).toList.map (Prod.mk (before.length + 1)) := by
  rw [numberedInstructions, instructionsFrom_append, instructionsFrom, instructionsFrom,
    List.append_nil, Nat.add_comm 1]
  rfl

/-- The directives of lines are what they tell outside all blocks. -/
theorem directivesOf_eq (texts : List String) :
    directivesOf texts = (instructionsOf texts).filterMap Instruction.directive? := by
  induction texts using List.reverseRecOn with
  | nil => rfl
  | append_singleton texts text ih =>
      rw [directivesOf_append_singleton, ih, instructionsOf, instructionsOf,
        numberedInstructions_append_singleton, List.map_append, List.filterMap_append]
      congr 1
      rcases openBlock texts with _ | b
      · rcases hd : directiveOf? text with _ | d
        · simp [instructionOf?, hd]
        · simp [instructionOf?, hd, Instruction.directive?]
      · rcases hline : blockLineOf? text with _ | l
        · simp [instructionOf?, hline]
        · simp [instructionOf?, hline, Instruction.directive?]

namespace Reading

variable {resolver : Option Resolver} {services : Catalog} {s s' : Reading}
  {place place' : Place} {number : Nat} {i : Instruction} {b : Option OpenBlock}
  {text : String} {before texts : List String}

/-! ## Following instructions -/

/-- What following an instruction comes to. -/
inductive Follows (resolver : Option Resolver) (number : Nat) (s : Reading) :
    Instruction → Reading → Prop where
  /-- The directive does what it does. -/
  | directive {d : Directive} {place' : Place} {s' : Reading} :
      d.WellWritten → Does resolver number s d place' s' →
        Follows resolver number s (.directive d) s'
  /-- The policy of the block, which there is, changes. -/
  | inBlock {id : Int} {l : BlockLine} {change : Policy → Policy} :
      id ∈ s.configuration.policies.map (·.id) → blockChange l = .ok change →
        Follows resolver number s (.inBlock id l) (s.onPolicy id change)

/-- The policy of the block that a place is in is one of the policies. -/
def Knows (s : Reading) : Place → Prop
  | .topLevel => True
  | .block id _ => id ∈ s.configuration.policies.map (·.id)

/-- A directive leads only into the block of a policy that there is. -/
theorem Does.knows {d : Directive} (h : Does resolver number s d place' s') : s'.Knows place' := by
  cases h with
  | policyBlock hid => exact (policyIn_eq_ok.1 hid).2
  | _ => trivial

/-- A line leads only into the block of a policy that there is. -/
theorem LeadsTo.knows (h : LeadsTo resolver number s text place place' s')
    (hknows : s.Knows place) : s'.Knows place' := by
  cases h with
  | passedOver => trivial
  | directive _ hdoes => exact hdoes.knows
  | blockEnd => trivial
  | blank => exact hknows
  | blockLine _ _ hchange =>
      rw [Knows, map_id_onPolicy (id_of_blockChange hchange)]
      exact hknows

/-- A line that succeeds tells nothing and does nothing, or is followed. -/
theorem LeadsTo.follows (h : LeadsTo resolver number s text place place' s')
    (hplace : place.Stands (openBlock before)) (hknows : s.Knows place) :
    (instructionOf? text (openBlock before) = none ∧ s' = s) ∨
      ∃ i, instructionOf? text (openBlock before) = some i ∧
        Follows resolver number s i s' := by
  have hnumeral : ∀ b, openBlock before = some b → IsNumeral b.policy :=
    fun b => isNumeral_of_openBlock
  generalize openBlock before = b at hplace hnumeral
  cases h with
  | passedOver hnone =>
      cases hplace
      exact .inl ⟨by rw [instructionOf?, directiveOf?, hnone]; rfl, rfl⟩
  | directive hsome hdoes =>
      cases hplace
      refine .inr ⟨_, ?_, .directive (exists_family_of_classify hsome).1 hdoes⟩
      rw [instructionOf?, directiveOf?, hsome]
      rfl
  | blockEnd hend =>
      cases hplace
      refine .inl ⟨?_, rfl⟩
      rw [instructionOf?, blockLineOf?, hend]
      rfl
  | blank hblank =>
      cases hplace
      refine .inl ⟨?_, rfl⟩
      rw [instructionOf?, blockLineOf?, hblank]
      rfl
  | blockLine _ hline hchange =>
      cases hplace with
      | block hread =>
          obtain rfl := eq_numeralValue (hnumeral _ rfl) hread
          refine .inr ⟨_, ?_, .inBlock hknows hchange⟩
          rw [instructionOf?, blockLineOf?, hline]
          rfl

/-! ## Runs -/

/-- **What is kept whenever an instruction is followed holds at the end of a walk**, of what its
lines tell and of the state that they make. -/
theorem walk_induction {P : List (Nat × Instruction) → Reading → Prop} (hstart : P [] s)
    (hfollow : ∀ told number i s₁ s₂, P told s₁ → Follows resolver number s₁ i s₂ →
      P (told ++ [(number, i)]) s₂)
    (h : walk resolver 1 .topLevel s texts = some (place, s')) :
    P (numberedInstructions texts) s' := by
  -- What a line tells depends on the lines before it, and a block on the policies so far.
  suffices hboth : P (numberedInstructions texts) s' ∧ s'.Knows place from hboth.1
  induction texts using List.reverseRecOn generalizing place s' with
  | nil =>
      cases h
      exact ⟨hstart, trivial⟩
  | append_singleton texts text ih =>
      obtain ⟨place₁, s₁, hwalk, hleads⟩ := walk_append_singleton_eq_some.1 h
      obtain ⟨hP, hknows⟩ := ih hwalk
      refine ⟨?_, hleads.knows hknows⟩
      rw [numberedInstructions_append_singleton]
      rcases hleads.follows (stands_of_walk hwalk .topLevel) hknows with
        ⟨hnone, rfl⟩ | ⟨i, hsome, hfollows⟩
      · rw [show instructionOf? text (openBlock texts) = none from hnone]
        simpa using hP
      · rw [show instructionOf? text (openBlock texts) = some i from hsome]
        rw [Nat.add_comm] at hfollows
        exact hfollow _ _ _ _ _ hP hfollows

end Reading

/-- Lines are accepted exactly if there is a walk through them that ends outside all blocks. -/
theorem ofLines_eq_ok_iff {services : Catalog} {resolver : Option Resolver} {texts : List String}
    {c : Configuration} : Configuration.ofLines services resolver texts = .ok c ↔
      ∃ s, Reading.walk resolver 1 .topLevel { configuration := { services } } texts
        = some (.topLevel, s) ∧ s.configuration = c := by
  constructor
  · intro h
    have hends := Reading.ends_lines resolver { configuration := { services } } texts
    rw [Configuration.ofLines] at h
    generalize Reading.lines { configuration := { services } } resolver texts = r at h hends
    cases hends with
    | done hwalk =>
        cases h
        exact ⟨_, hwalk, rfl⟩
    | notClosed => cases h
    | failed => cases h
  · rintro ⟨s, hwalk, rfl⟩
    rw [Configuration.ofLines, Reading.lines_of_walk hwalk]

/-- **What is kept whenever an instruction is followed holds of accepted lines**, of what they tell
and of the state that they make. -/
theorem ofLines_induction {services : Catalog} {resolver : Option Resolver} {texts : List String}
    {c : Configuration} {P : List (Nat × Instruction) → Reading → Prop}
    (hstart : P [] { configuration := { services } })
    (hfollow : ∀ told number i s₁ s₂, P told s₁ → Reading.Follows resolver number s₁ i s₂ →
      P (told ++ [(number, i)]) s₂)
    (h : Configuration.ofLines services resolver texts = .ok c) :
    ∃ s, s.configuration = c ∧ P (numberedInstructions texts) s := by
  obtain ⟨s, hwalk, hc⟩ := ofLines_eq_ok_iff.1 h
  exact ⟨s, hc, Reading.walk_induction hstart hfollow hwalk⟩

/-- **What is kept whenever a directive does what it does, and whenever a policy changes, holds of
accepted lines**, of their directives and of the state that they make. -/
theorem ofLines_directive_induction {services : Catalog} {resolver : Option Resolver}
    {texts : List String} {c : Configuration} {P : List Directive → Reading → Prop}
    (hstart : P [] { configuration := { services } })
    (hdirective : ∀ ds number d s₁ place s₂, P ds s₁ → d.WellWritten →
      Reading.Does resolver number s₁ d place s₂ → P (ds ++ [d]) s₂)
    (hpolicy : ∀ ds s id change, P ds s → P ds (s.onPolicy id change))
    (h : Configuration.ofLines services resolver texts = .ok c) :
    ∃ s, s.configuration = c ∧ P (directivesOf texts) s := by
  rw [directivesOf_eq, instructionsOf]
  refine ofLines_induction
    (P := fun told s => P ((told.map Prod.snd).filterMap Instruction.directive?) s) hstart ?_ h
  intro told number i s₁ s₂ hP hfollows
  rw [List.map_append, List.map_singleton, filterMap_append_singleton]
  cases hfollows with
  | directive hwritten hdoes => exact hdirective _ _ _ _ _ _ hP hwritten hdoes
  | inBlock =>
      rw [Instruction.directive?, Option.toList_none, List.append_nil]
      exact hpolicy _ _ _ _ hP

end ZoneFirewall
