import ZoneFirewall.Proofs.DirectiveFields
import ZoneFirewall.Proofs.LineByLine

/-!
# The order of lines

A configuration has three parts, and every directive is about one of them. It changes that part
alone, and whether it succeeds is a matter of that part alone. So only the order of the lines of
each part matters, and neither the lines that are of no family nor any blanks do.

* `Piece`: a line outside all blocks, or a whole block. `exists_pieces`: accepted lines consist of
  them.
* `Rearranged`: pieces in another order and with other blanks. `Rearranged.wording_eq`: each part
  has the same wording.
* `Reading.Agree`: states that do not differ in a part, up to the numbers of lines.
* `LeadsTo.agree`, `LeadsTo.of_agree`: **a line leaves the other parts as they are, and does the
  same to states that agree in its part.**
* `walk_agree`, `walk_of_agree`: so do many lines. `walk_piecesOf`, `exists_walk_of_piecesOf`: **a
  walk is one for each part, and walks for each part are one.**
* `ofLines_rearranged`: **accepted lines are accepted in every rearrangement, with the same
  configuration.**
-/

namespace ZoneFirewall

open Text

/-! ## Parts of lines -/

instance (f : Family) (line : String) : Decidable (f.Heads line) :=
  inferInstanceAs (Decidable (_ ∨ _))

/-- The part that a line at the top level is about, `none` for a line of no family. -/
def partOf? (text : String) : Option Part :=
  (families.find? fun f => f.Heads (trim text)).map Family.part

/-- The directive of a line is about the line's part. -/
theorem partOf?_of_directive {text : String} {d : Directive} (h : directiveOf? text = some d) :
    partOf? text = some d.part := by
  obtain ⟨-, f, hf, hheads, hpart⟩ := exists_family_of_classify (directiveOf?_eq_some.1 h)
  rcases hfind : families.find? fun f => decide (f.Heads (trim text)) with _ | g
  · exact absurd hheads (by simpa using List.find?_eq_none.1 hfind f hf)
  · have hg : g.Heads (trim text) := by simpa using List.find?_some hfind
    rw [partOf?, hfind, hpart, Family.eq_of_heads hf (List.mem_of_find?_eq_some hfind) hheads hg]
    rfl

/-- A line of no family is passed over. -/
theorem classify_of_partOf?_eq_none {text : String} (h : partOf? text = none) :
    Directive.classify (trim text) = .ok none := by
  rcases hclass : Directive.classify (trim text) with fault | _ | d
  · obtain ⟨f, hf, hheads, -, -⟩ := classify_eq_error_iff.1 hclass
    rw [partOf?, Option.map_eq_none_iff, List.find?_eq_none] at h
    exact absurd hheads (by simpa using h f hf)
  · rfl
  · rw [partOf?_of_directive (directiveOf?_eq_some.2 hclass)] at h
    cases h

/-! ## Pieces -/

/-- A line outside all blocks that opens none, or a whole block. -/
inductive Piece where
  /-- A line. -/
  | line (text : String) (hopens : openedBy? text = none)
  /-- A block, from the line that opens it to the line that ends it. -/
  | block (opening : String) (body : List String) (closing : String)
      (hopens : (openedBy? opening).isSome) (hbody : ∀ text ∈ body, trim text ≠ blockEnd)
      (hclosing : trim closing = blockEnd)

namespace Piece

/-- The lines of a piece. -/
def lines : Piece → List String
  | .line text _ => [text]
  | .block opening body closing _ _ _ => opening :: body ++ [closing]

/-- The part that a piece is about. -/
def part : Piece → Option Part
  | .line text _ => partOf? text
  | .block .. => some .policies

end Piece

/-- The lines of pieces. -/
def linesOf (us : List Piece) : List String := us.flatMap Piece.lines

/-- The pieces about a part. -/
def piecesOf (p : Part) (us : List Piece) : List Piece := us.filter fun u => u.part = some p

/-- What lines say: the lines that are not empty, without the blanks at their ends. -/
def wording (texts : List String) : List String := (texts.filter fun t => trim t ≠ "").map trim

/-- Pieces in another order and with other blanks. Pieces about a part keep their order; those
about no part may be put in and left out. Then blanks at the ends of lines, and empty lines, may be
put in and left out of each piece. -/
def Rearranged (us us' : List Piece) : Prop :=
  ∃ vs, (∀ p, piecesOf p us = piecesOf p vs) ∧
    List.Forall₂ (fun v u' => wording v.lines = wording u'.lines) vs us'

variable {number : Nat} {b : Option OpenBlock} {p q : Part} {texts : List String}

/-- A piece of the part is one of its pieces. -/
theorem piecesOf_cons_of_part {u : Piece} {us : List Piece} (h : u.part = some p) :
    piecesOf p (u :: us) = u :: piecesOf p us :=
  List.filter_cons_of_pos (by simpa using h)

/-- A piece of another part is not. -/
theorem piecesOf_cons_of_part_ne {u : Piece} {us : List Piece} (h : u.part ≠ some p) :
    piecesOf p (u :: us) = piecesOf p us :=
  List.filter_cons_of_neg (by simpa using h)

/-- The lines of pieces are those of the first and those of the others. -/
theorem linesOf_cons (u : Piece) (us : List Piece) : linesOf (u :: us) = u.lines ++ linesOf us :=
  List.flatMap_cons

/-! ## Wording -/

/-- The wording of lines after others is that of both. -/
theorem wording_append (first second : List String) :
    wording (first ++ second) = wording first ++ wording second := by
  simp [wording]

/-- The wording of a line is what is left when it is trimmed, unless that is nothing. -/
theorem wording_singleton (text : String) :
    wording [text] = if trim text = "" then [] else [trim text] := by
  by_cases hblank : trim text = ""
  · rw [if_pos hblank, wording, List.filter_cons_of_neg (by simpa using hblank)]
    rfl
  · rw [if_neg hblank, wording, List.filter_cons_of_pos (by simpa using hblank)]
    rfl

/-- Two lines say the same if they do but for the blanks at their ends. -/
theorem trim_eq_of_wording_eq {text text' : String} (h : wording [text] = wording [text']) :
    trim text = trim text' := by
  rw [wording_singleton, wording_singleton] at h
  split at h
  · rename_i hblank
    split at h
    · rename_i hblank'
      rw [hblank, hblank']
    · cases h
  · split at h
    · cases h
    · exact List.singleton_inj.1 h

/-- A block says more than a line. -/
theorem wording_line_ne_block {text opening closing : String} {body : List String}
    (hopens : (openedBy? opening).isSome) (hclosing : trim closing = blockEnd) :
    wording [text] ≠ wording (opening :: body ++ [closing]) := by
  have hopening : trim opening ≠ "" := by
    intro hblank
    rw [openedBy?, directiveOf?, hblank] at hopens
    cases hopens
  have hend : trim closing ≠ "" := by
    rw [hclosing]
    decide
  have hline : (wording [text]).length ≤ 1 := by
    rw [wording_singleton]
    split
    · exact Nat.zero_le 1
    · exact Nat.le_refl 1
  intro h
  rw [h, ← List.singleton_append, wording_append, wording_append, wording_singleton,
    if_neg hopening, wording_singleton, if_neg hend] at hline
  simp only [List.length_append, List.length_singleton] at hline
  omega

/-- The wording of a piece tells its part. -/
theorem part_eq_of_wording_eq {u u' : Piece} (h : wording u.lines = wording u'.lines) :
    u.part = u'.part := by
  cases u with
  | line text hopens =>
      cases u' with
      | line text' hopens' =>
          rw [Piece.part, Piece.part, partOf?, partOf?, trim_eq_of_wording_eq h]
      | block opening body closing hopens' hbody hclosing =>
          exact absurd h (wording_line_ne_block hopens' hclosing)
  | block opening body closing hopens hbody hclosing =>
      cases u' with
      | line text hopens' => exact absurd h.symm (wording_line_ne_block hopens hclosing)
      | block => rfl

/-- In a rearrangement each part has the same wording. -/
theorem Rearranged.wording_eq {us us' : List Piece} (h : Rearranged us us') (p : Part) :
    wording (linesOf (piecesOf p us)) = wording (linesOf (piecesOf p us')) := by
  obtain ⟨vs, hvs, hwording⟩ := h
  rw [hvs p]
  clear hvs
  induction hwording with
  | nil => rfl
  | @cons v u' vs us' hv _ ih =>
      have hpart := part_eq_of_wording_eq hv
      by_cases hu : u'.part = some p
      · rw [piecesOf_cons_of_part (hpart.trans hu), piecesOf_cons_of_part hu, linesOf_cons,
          linesOf_cons, wording_append, wording_append, hv, ih]
      · rw [piecesOf_cons_of_part_ne (hpart ▸ hu), piecesOf_cons_of_part_ne hu]
        exact ih

/-! ## Parts of many lines -/

/-- The part that a line is about, given the block that is open before it. -/
def lineParts (text : String) : Option OpenBlock → List Part
  | none => ((directiveOf? text).map Directive.part).toList
  | some _ => [.policies]

/-- The parts that lines are about of which the first has a number, given the block that is open
before them. -/
def partsFrom (number : Nat) (b : Option OpenBlock) : List String → List Part
  | [] => []
  | text :: rest => lineParts text b ++ partsFrom (number + 1) (nextBlock number text b) rest

/-- The parts of lines after others are those of both, the block that is open in between given. -/
theorem partsFrom_append (first second : List String) (number : Nat) (b : Option OpenBlock) :
    partsFrom number b (first ++ second)
      = partsFrom number b first
        ++ partsFrom (number + first.length) (openBlockFrom number b first) second := by
  induction first generalizing number b with
  | nil => rfl
  | cons text first ih =>
      rw [List.cons_append, partsFrom, partsFrom, openBlockFrom, ih, List.append_assoc,
        List.length_cons, Nat.add_right_comm, Nat.add_assoc]

/-- The lines of a block stand in it. -/
theorem openBlockFrom_body {b : OpenBlock} (h : ∀ text ∈ texts, trim text ≠ blockEnd) :
    openBlockFrom number (some b) texts = some b := by
  induction texts generalizing number with
  | nil => rfl
  | cons text texts ih =>
      rw [openBlockFrom, nextBlock, if_neg (h text List.mem_cons_self)]
      exact ih fun t ht => h t (List.mem_cons_of_mem _ ht)

/-- The lines of a block are about the policies. -/
theorem eq_policies_of_mem_body {b : OpenBlock} (h : ∀ text ∈ texts, trim text ≠ blockEnd)
    (hp : p ∈ partsFrom number (some b) texts) : p = .policies := by
  induction texts generalizing number with
  | nil => cases hp
  | cons text texts ih =>
      rw [partsFrom, nextBlock, if_neg (h text List.mem_cons_self)] at hp
      rcases List.mem_cons.1 hp with rfl | hp
      · rfl
      · exact ih (fun t ht => h t (List.mem_cons_of_mem _ ht)) hp

namespace Piece

variable {u : Piece}

/-- No block is open after a piece. -/
theorem openBlockFrom_lines : openBlockFrom number none u.lines = none := by
  cases u with
  | line text hopens =>
      rw [lines, openBlockFrom, nextBlock, hopens]
      rfl
  | block opening body closing hopens hbody hclosing =>
      obtain ⟨id, hid⟩ := Option.isSome_iff_exists.1 hopens
      rw [lines, List.cons_append, openBlockFrom, nextBlock, hid, Option.map_some,
        openBlockFrom_append, openBlockFrom_body hbody, openBlockFrom, nextBlock, if_pos hclosing]
      rfl

/-- The lines of a piece are about its part. -/
theorem part_of_mem (h : p ∈ partsFrom number none u.lines) : u.part = some p := by
  cases u with
  | line text hopens =>
      rw [lines, partsFrom, partsFrom, List.append_nil, lineParts, Option.mem_toList,
        Option.map_eq_some_iff] at h
      obtain ⟨d, hd, rfl⟩ := h
      exact partOf?_of_directive hd
  | block opening body closing hopens hbody hclosing =>
      obtain ⟨id, hid⟩ := Option.isSome_iff_exists.1 hopens
      obtain ⟨d, hd, hopens'⟩ := Option.bind_eq_some_iff.1 hid
      rw [lines, List.cons_append, partsFrom, partsFrom_append, nextBlock, hid, Option.map_some,
        openBlockFrom_body hbody, List.mem_append, List.mem_append] at h
      have hpolicies : p = .policies := by
        rcases h with h | h | h
        · rw [lineParts, hd, Option.map_some, Option.mem_toList, Option.some_inj] at h
          cases d with
          | policyBlock id => exact h.symm
          | _ => cases hopens'
        · exact eq_policies_of_mem_body hbody h
        · rw [partsFrom, partsFrom, List.append_nil] at h
          exact List.mem_singleton.1 h
      rw [part, hpolicies]

end Piece

/-- No block is open after pieces. -/
theorem openBlockFrom_linesOf {us : List Piece} :
    openBlockFrom number none (linesOf us) = none := by
  induction us generalizing number with
  | nil => rfl
  | cons u us ih =>
      rw [linesOf_cons, openBlockFrom_append, Piece.openBlockFrom_lines]
      exact ih

/-- The lines of pieces are about the parts of the pieces. -/
theorem exists_piece_of_mem {us : List Piece} (h : p ∈ partsFrom number none (linesOf us)) :
    ∃ u ∈ us, u.part = some p := by
  induction us generalizing number with
  | nil => cases h
  | cons u us ih =>
      rw [linesOf_cons, partsFrom_append, Piece.openBlockFrom_lines, List.mem_append] at h
      rcases h with h | h
      · exact ⟨u, List.mem_cons_self, Piece.part_of_mem h⟩
      · obtain ⟨v, hv, hpart⟩ := ih h
        exact ⟨v, List.mem_cons_of_mem _ hv, hpart⟩

/-- **Lines consist of pieces**, but for a block that is left open. -/
theorem exists_pieces (texts : List String) :
    (openBlock texts = none → ∃ us, linesOf us = texts) ∧
      (∀ b, openBlock texts = some b → ∃ us opening body,
        texts = linesOf us ++ opening :: body ∧ (openedBy? opening).isSome ∧
          ∀ text ∈ body, trim text ≠ blockEnd) := by
  -- From the end: a further line is a piece, opens a block, stands in the open one or ends it.
  induction texts using List.reverseRecOn with
  | nil =>
      refine ⟨fun _ => ⟨[], rfl⟩, ?_⟩
      intro b hb
      cases hb
  | append_singleton texts text ih =>
      rw [openBlock_append_singleton]
      rcases hopen : openBlock texts with _ | b
      · obtain ⟨us, rfl⟩ := ih.1 hopen
        rw [nextBlock]
        rcases hopens : openedBy? text with _ | id
        · refine ⟨fun _ => ⟨us ++ [.line text hopens], ?_⟩, ?_⟩
          · rw [linesOf, List.flatMap_append, List.flatMap_singleton]
            rfl
          · intro b hb
            cases hb
        · refine ⟨?_, fun _ _ => ⟨us, text, [], rfl, by rw [hopens]; rfl, by simp⟩⟩
          intro hnone
          cases hnone
      · obtain ⟨us, opening, body, rfl, hopens, hbody⟩ := ih.2 b hopen
        rw [nextBlock]
        by_cases hend : trim text = blockEnd
        · rw [if_pos hend]
          refine ⟨fun _ => ⟨us ++ [.block opening body text hopens hbody hend], ?_⟩, ?_⟩
          · rw [linesOf, List.flatMap_append, List.flatMap_singleton, List.append_assoc]
            rfl
          · intro b hb
            cases hb
        · rw [if_neg hend]
          refine ⟨?_, fun _ _ => ⟨us, opening, body ++ [text], ?_, hopens, ?_⟩⟩
          · intro hnone
            cases hnone
          · rw [List.append_assoc]
            rfl
          · simp only [List.mem_append, List.mem_singleton]
            rintro t (ht | rfl)
            · exact hbody t ht
            · exact hend

/-- The policy whose block a place is in. -/
def Place.policy? : Place → Option Int
  | .topLevel => none
  | .block id _ => some id

/-- A place outside of all blocks is the top level. -/
theorem Place.eq_topLevel {place : Place} (h : place.Stands none) : place = .topLevel := by
  cases h
  rfl

namespace Reading

variable {resolver : Option Resolver} {s s' t t' : Reading} {place place' place₁ : Place}
  {number' : Nat} {text text' : String} {texts' : List String} {us us' : List Piece}

/-! ## States that agree in a part -/

/-- Two states do not differ in a part, up to the numbers of lines. -/
def Agree : Part → Reading → Reading → Prop
  | .services, s, t =>
    s.configuration.services = t.configuration.services ∧ s.lastService = t.lastService ∧
      s.definedServices = t.definedServices
  | .addresses, s, t =>
    s.configuration.objects = t.configuration.objects ∧
      s.configuration.diagnostics.map (·.problem) = t.configuration.diagnostics.map (·.problem)
  | .policies, s, t => s.configuration.policies = t.configuration.policies

/-- A state agrees with itself. -/
theorem Agree.refl (p : Part) (s : Reading) : Agree p s s := by
  cases p with
  | services => exact ⟨rfl, rfl, rfl⟩
  | addresses => exact ⟨rfl, rfl⟩
  | policies => exact rfl

/-- To agree goes both ways. -/
theorem Agree.symm (h : Agree p s t) : Agree p t s := by
  cases p with
  | services => exact ⟨h.1.symm, h.2.1.symm, h.2.2.symm⟩
  | addresses => exact ⟨h.1.symm, h.2.symm⟩
  | policies => exact Eq.symm h

/-- States that agree with one agree with each other. -/
theorem Agree.trans {r : Reading} (h : Agree p s t) (h' : Agree p t r) : Agree p s r := by
  cases p with
  | services => exact ⟨h.1.trans h'.1, h.2.1.trans h'.2.1, h.2.2.trans h'.2.2⟩
  | addresses => exact ⟨h.1.trans h'.1, h.2.trans h'.2⟩
  | policies => exact Eq.trans h h'

/-! ## Changes -/

/-- A change to the services leaves the other parts as they are. -/
theorem agree_onServices (hq : q ≠ .services) (change : Catalog → Catalog) :
    Agree q s (s.onServices change) := by
  cases q with
  | services => exact absurd rfl hq
  | addresses => exact ⟨rfl, rfl⟩
  | policies => exact rfl

/-- So does a definition line. -/
theorem agree_withDefinition (hq : q ≠ .services) (name : String) (d : Definition) :
    Agree q s (s.withDefinition name d) := by
  unfold withDefinition
  cases q with
  | services => exact absurd rfl hq
  | addresses =>
      split
      · exact ⟨rfl, rfl⟩
      · exact ⟨rfl, rfl⟩
  | policies =>
      split
      · exact rfl
      · exact rfl

/-- A change to the addresses leaves the other parts as they are. -/
theorem agree_onObjects (hq : q ≠ .addresses) (change : AddressBook → AddressBook) :
    Agree q s (s.onObjects change) := by
  cases q with
  | services => exact ⟨rfl, rfl, rfl⟩
  | addresses => exact absurd rfl hq
  | policies => exact rfl

/-- So does an address line. -/
theorem agree_withAddress (hq : q ≠ .addresses) (zone name description : String)
    (a : Except Problem Interface) :
    Agree q s (s.withAddress number zone name description a) := by
  rcases a with problem | i
  · cases q with
    | services => exact ⟨rfl, rfl, rfl⟩
    | addresses => exact absurd rfl hq
    | policies => exact rfl
  · exact agree_onObjects hq (·.add zone name i description)

/-- A new policy leaves the other parts as they are. -/
theorem agree_addPolicy (hq : q ≠ .policies) (new : Policy) :
    Agree q s { s with configuration := s.configuration.addPolicy new } := by
  cases q with
  | services => exact ⟨rfl, rfl, rfl⟩
  | addresses => exact ⟨rfl, rfl⟩
  | policies => exact absurd rfl hq

/-- So does a change to a policy. -/
theorem agree_onPolicy (hq : q ≠ .policies) (id : Int) (change : Policy → Policy) :
    Agree q s (s.onPolicy id change) := by
  cases q with
  | services => exact ⟨rfl, rfl, rfl⟩
  | addresses => exact ⟨rfl, rfl⟩
  | policies => exact absurd rfl hq

/-- Services that agree do so after the same change. -/
theorem Agree.onServices (h : Agree .services s t) (change : Catalog → Catalog) :
    Agree .services (s.onServices change) (t.onServices change) :=
  ⟨congrArg change h.1, h.2⟩

/-- So they do after the same definition line: what it does depends on services only. -/
theorem Agree.withDefinition (h : Agree .services s t) (name : String) (d : Definition) :
    Agree .services (s.withDefinition name d) (t.withDefinition name d) := by
  obtain ⟨hservices, hlast, hdefined⟩ := h
  unfold Reading.withDefinition
  rw [hdefined]
  split
  · exact ⟨congrArg (Catalog.append · _ _) hservices, rfl, hdefined⟩
  · exact ⟨congrArg (Catalog.define · _ _) hservices, rfl, rfl⟩

/-- Addresses that agree do so after the same change. -/
theorem Agree.onObjects (h : Agree .addresses s t) (change : AddressBook → AddressBook) :
    Agree .addresses (s.onObjects change) (t.onObjects change) :=
  ⟨congrArg change h.1, h.2⟩

/-- So they do after the same address line, whatever its number is. -/
theorem Agree.withAddress (h : Agree .addresses s t) (zone name description : String)
    (a : Except Problem Interface) :
    Agree .addresses (s.withAddress number zone name description a)
      (t.withAddress number' zone name description a) := by
  rcases a with problem | i
  · refine ⟨h.1, ?_⟩
    simp only [Reading.withAddress, Configuration.report, List.map_append, h.2]
    rfl
  · exact h.onObjects _

/-- Policies that agree do so with the same one added. -/
theorem Agree.addPolicy (h : Agree .policies s t) (new : Policy) :
    Agree .policies { s with configuration := s.configuration.addPolicy new }
      { t with configuration := t.configuration.addPolicy new } :=
  congrArg (· ++ [new]) h

/-- So they do after the same change to one of them. -/
theorem Agree.onPolicy (h : Agree .policies s t) (id : Int) (change : Policy → Policy) :
    Agree .policies (s.onPolicy id change) (t.onPolicy id change) :=
  congrArg (List.map _) h

/-! ## Directives and lines -/

variable {d : Directive}

/-- A directive leaves the other parts as they are. -/
theorem Does.agree (h : Does resolver number s d place' s') (hq : q ≠ d.part) : Agree q s s' := by
  cases h with
  | service => exact agree_withDefinition hq _ _
  | serviceContinue => exact agree_onServices hq _
  | serviceTimeout => exact .refl q s
  | address => exact agree_withAddress hq _ _ _ _
  | addressGroupAdd => exact agree_onObjects hq _
  | addressGroupCreate => exact .refl q s
  | serviceGroupAdd => exact agree_onServices hq _
  | serviceGroupCreate => exact agree_onServices hq _
  | policyCreate => exact agree_addPolicy hq _
  | policyBlock => exact .refl q s
  | policyFlag => exact agree_onPolicy hq _ _

/-- A directive does the same to states that agree in its part. -/
theorem Does.of_agree (h : Does resolver number s d place' s') (hagree : Agree d.part s t)
    (number' : Nat) : ∃ place'' t', Does resolver number' t d place'' t' ∧
      place'.policy? = place''.policy? ∧ Agree d.part s' t' := by
  cases h with
  | service hd => exact ⟨_, _, .service hd, rfl, hagree.withDefinition _ _⟩
  | serviceContinue hlast hd =>
      exact ⟨_, _, .serviceContinue (hagree.2.1 ▸ hlast) hd, rfl, hagree.onServices _⟩
  | serviceTimeout => exact ⟨_, _, .serviceTimeout, rfl, hagree⟩
  | address ha => exact ⟨_, _, .address ha, rfl, hagree.withAddress _ _ _ _⟩
  | addressGroupAdd => exact ⟨_, _, .addressGroupAdd, rfl, hagree.onObjects _⟩
  | addressGroupCreate => exact ⟨_, _, .addressGroupCreate, rfl, hagree⟩
  | serviceGroupAdd => exact ⟨_, _, .serviceGroupAdd, rfl, hagree.onServices _⟩
  | serviceGroupCreate => exact ⟨_, _, .serviceGroupCreate, rfl, hagree.onServices _⟩
  | policyCreate hp =>
      have hpolicies : s.configuration.policies = t.configuration.policies := hagree
      exact ⟨_, _, .policyCreate (hpolicies ▸ hp), rfl, hagree.addPolicy _⟩
  | policyBlock hid =>
      have hpolicies : s.configuration.policies = t.configuration.policies := hagree
      exact ⟨_, _, .policyBlock (hpolicies ▸ hid), rfl, hagree⟩
  | policyFlag hid =>
      have hpolicies : s.configuration.policies = t.configuration.policies := hagree
      exact ⟨_, _, .policyFlag (hpolicies ▸ hid), rfl, hagree.onPolicy _ _⟩

/-- **A line leaves the other parts as they are.** -/
theorem LeadsTo.agree (h : LeadsTo resolver number s text place place' s') (hplace : place.Stands b)
    (hq : q ∉ lineParts text b) : Agree q s s' := by
  cases h with
  | passedOver => exact .refl q s
  | directive hsome hdoes =>
      cases hplace
      rw [lineParts, directiveOf?, hsome] at hq
      exact hdoes.agree fun hpart => hq (by simp [hpart])
  | blockEnd => exact .refl q s
  | blank => exact .refl q s
  | blockLine =>
      cases hplace
      exact agree_onPolicy (fun hpart => hq (by simp [lineParts, hpart])) _ _

/-- **A line does the same to states that agree in its part**, with any blanks at its ends and
whatever its number. -/
theorem LeadsTo.of_agree (h : LeadsTo resolver number s text place place' s')
    (hplace : place.Stands b) (hp : ∀ r ∈ lineParts text b, r = p) (hagree : Agree p s t)
    (hsame : place.policy? = place₁.policy?) (htext : trim text = trim text') (number' : Nat) :
    ∃ place₂ t', LeadsTo resolver number' t text' place₁ place₂ t' ∧
      place'.policy? = place₂.policy? ∧ Agree p s' t' := by
  cases h with
  | passedOver hnone =>
      cases place₁ with
      | topLevel => exact ⟨_, _, .passedOver (htext ▸ hnone), rfl, hagree⟩
      | block => cases hsame
  | @directive d _ _ hsome hdoes =>
      cases hplace
      cases place₁ with
      | topLevel =>
          rw [lineParts, directiveOf?, hsome] at hp
          obtain rfl : d.part = p := hp d.part List.mem_cons_self
          obtain ⟨place₂, t', hdoes', hsame', hagree'⟩ := hdoes.of_agree hagree number'
          exact ⟨place₂, t', .directive (htext ▸ hsome) hdoes', hsame', hagree'⟩
      | block => cases hsame
  | blockEnd hend =>
      cases place₁ with
      | topLevel => cases hsame
      | block => exact ⟨_, _, .blockEnd (htext ▸ hend), rfl, hagree⟩
  | blank hblank =>
      cases place₁ with
      | topLevel => cases hsame
      | block => exact ⟨_, _, .blank (htext ▸ hblank), hsame, hagree⟩
  | blockLine hend hb hchange =>
      cases hplace
      obtain rfl := hp .policies List.mem_cons_self
      cases place₁ with
      | topLevel => cases hsame
      | block id openedAt =>
          cases hsame
          exact ⟨_, _, .blockLine (htext ▸ hend) (htext ▸ hb) hchange, rfl, hagree.onPolicy _ _⟩

/-! ## Walks -/

/-- A walk leaves the parts as they are that none of its lines is about. -/
theorem walk_agree (h : walk resolver number place s texts = some (place', s'))
    (hplace : place.Stands b) (hq : q ∉ partsFrom number b texts) : Agree q s s' := by
  induction texts generalizing number place s b with
  | nil =>
      cases h
      exact .refl q _
  | cons text texts ih =>
      rw [partsFrom, List.mem_append, not_or] at hq
      obtain ⟨place₁, s₁, hleads, hrest⟩ := walk_cons_eq_some.1 h
      exact (hleads.agree hplace hq.1).trans (ih hrest (hleads.stands hplace) hq.2)

/-- A walk passes over empty lines. -/
theorem walk_blanks (h : ∀ text ∈ texts, trim text = "") :
    walk resolver number place s texts = some (place, s) := by
  induction texts generalizing number with
  | nil => rfl
  | cons text texts ih =>
      have hblank := h text List.mem_cons_self
      have hleads : LeadsTo resolver number s text place place s := by
        cases place with
        | topLevel => exact .passedOver (by rw [hblank]; rfl)
        | block id openedAt => exact .blank hblank
      exact walk_cons_eq_some.2
        ⟨place, s, hleads, ih fun t ht => h t (List.mem_cons_of_mem _ ht)⟩

/-- An empty line does nothing. -/
theorem LeadsTo.eq_of_blank (h : LeadsTo resolver number s text place place' s')
    (hblank : trim text = "") : place' = place ∧ s' = s := by
  have hwalk : walk resolver number place s [text] = some (place, s) :=
    walk_blanks (by simpa using hblank)
  have hline : walk resolver number place s [text] = some (place', s') :=
    walk_cons_eq_some.2 ⟨place', s', h, rfl⟩
  rw [hline] at hwalk
  cases hwalk
  exact ⟨rfl, rfl⟩

/-- **A walk through lines of a part is one from every state that agrees in it**, through lines of
the same wording. -/
theorem walk_of_agree (h : walk resolver number place s texts = some (place', s'))
    (hplace : place.Stands b) (hp : ∀ r ∈ partsFrom number b texts, r = p) (hagree : Agree p s t)
    (hsame : place.policy? = place₁.policy?) (hwording : wording texts = wording texts')
    (number' : Nat) : ∃ place₂ t', walk resolver number' place₁ t texts' = some (place₂, t') ∧
      place'.policy? = place₂.policy? ∧ Agree p s' t' := by
  induction texts generalizing number place s b place₁ t texts' number' with
  | nil =>
      cases h
      have hblanks : ∀ text ∈ texts', trim text = "" := by
        have hnone : wording texts' = [] := hwording.symm
        rw [wording, List.map_eq_nil_iff, List.filter_eq_nil_iff] at hnone
        simpa using hnone
      exact ⟨_, _, walk_blanks hblanks, hsame, hagree⟩
  | cons text texts ih =>
      simp only [partsFrom, List.mem_append] at hp
      obtain ⟨place₃, s₃, hleads, hrest⟩ := walk_cons_eq_some.1 h
      have hstands := hleads.stands hplace
      by_cases hblank : trim text = ""
      · obtain ⟨rfl, rfl⟩ := hleads.eq_of_blank hblank
        have hsaid : wording texts = wording texts' := by
          rw [← hwording, wording, wording, List.filter_cons_of_neg (by simpa using hblank)]
        exact ih hrest hstands (fun r hr => hp r (.inr hr)) hagree hsame hsaid number'
      · -- The other lines have the same line, perhaps after empty ones.
        rw [wording, List.filter_cons_of_pos (by simpa using hblank), List.map_cons, eq_comm,
          wording, List.map_eq_cons_iff] at hwording
        obtain ⟨text', rest, hfilter, htext, hsaid⟩ := hwording
        obtain ⟨blanks, texts', rfl, hblanks, -, rfl⟩ := List.filter_eq_cons_iff.1 hfilter
        obtain ⟨place₄, t₄, hleads', hsame', hagree'⟩ := hleads.of_agree hplace
          (fun r hr => hp r (.inl hr)) hagree hsame htext.symm (number' + blanks.length)
        obtain ⟨place₂, t', hwalk, hend⟩ := ih hrest hstands
          (fun r hr => hp r (.inr hr)) hagree' hsame' hsaid.symm (number' + blanks.length + 1)
        refine ⟨place₂, t', ?_, hend⟩
        rw [walk_append, walk_blanks (by simpa using hblanks), Option.bind_some]
        exact walk_cons_eq_some.2 ⟨place₄, t₄, hleads', hwalk⟩

/-! ## Pieces -/

/-- A walk through pieces ends outside all blocks. -/
theorem eq_topLevel_of_walk
    (h : walk resolver number .topLevel s (linesOf us) = some (place', s')) :
    place' = .topLevel := by
  have hstands := stands_of_walk h .topLevel
  rw [openBlockFrom_linesOf] at hstands
  exact Place.eq_topLevel hstands

/-- A walk through pieces begins with the first. -/
theorem walk_linesOf_cons {u : Piece} :
    walk resolver number .topLevel s (linesOf (u :: us)) = some (.topLevel, s') ↔
      ∃ s₁, walk resolver number .topLevel s u.lines = some (.topLevel, s₁) ∧
        walk resolver (number + u.lines.length) .topLevel s₁ (linesOf us)
          = some (.topLevel, s') := by
  rw [linesOf_cons, walk_append]
  constructor
  · intro h
    obtain ⟨⟨place₁, s₁⟩, hu, hus⟩ := Option.bind_eq_some_iff.1 h
    have hstands := stands_of_walk hu .topLevel
    rw [Piece.openBlockFrom_lines] at hstands
    obtain rfl := Place.eq_topLevel hstands
    exact ⟨s₁, hu, hus⟩
  · rintro ⟨s₁, hu, hus⟩
    rw [hu]
    exact hus

/-- A walk through a piece leaves the other parts as they are. -/
theorem walk_piece_agree {u : Piece} (hu : u.part ≠ some q)
    (h : walk resolver number .topLevel s u.lines = some (place', s')) : Agree q s s' :=
  walk_agree h .topLevel fun hq => hu (Piece.part_of_mem hq)

/-- A walk through a piece is one from every state that agrees in the piece's part. -/
theorem walk_piece_of_agree {u : Piece} (hu : u.part = some p)
    (h : walk resolver number .topLevel s u.lines = some (.topLevel, s')) (hagree : Agree p s t)
    (number' : Nat) : ∃ t', walk resolver number' .topLevel t u.lines = some (.topLevel, t') ∧
      Agree p s' t' := by
  have hparts : ∀ r ∈ partsFrom number none u.lines, r = p := by
    intro r hr
    have hr' := Piece.part_of_mem hr
    rw [hu] at hr'
    exact (Option.some_inj.1 hr').symm
  obtain ⟨place₂, t', hwalk, hsame, hagree'⟩ :=
    walk_of_agree h .topLevel hparts hagree rfl rfl number'
  cases place₂ with
  | topLevel => exact ⟨t', hwalk, hagree'⟩
  | block => cases hsame

/-- **A walk is one for each part.** -/
theorem walk_piecesOf (h : walk resolver number .topLevel s (linesOf us) = some (.topLevel, s'))
    (hagree : Agree p s t) (number' : Nat) :
    ∃ t', walk resolver number' .topLevel t (linesOf (piecesOf p us)) = some (.topLevel, t') ∧
      Agree p s' t' := by
  induction us generalizing number s t number' with
  | nil =>
      cases h
      exact ⟨t, rfl, hagree⟩
  | cons u us ih =>
      obtain ⟨s₁, hu, hus⟩ := walk_linesOf_cons.1 h
      by_cases hpart : u.part = some p
      · obtain ⟨t₁, hu', hagree₁⟩ := walk_piece_of_agree hpart hu hagree number'
        obtain ⟨t', hus', hagree'⟩ := ih hus hagree₁ (number' + u.lines.length)
        rw [piecesOf_cons_of_part hpart]
        exact ⟨t', walk_linesOf_cons.2 ⟨t₁, hu', hus'⟩, hagree'⟩
      · rw [piecesOf_cons_of_part_ne hpart]
        exact ih hus ((walk_piece_agree hpart hu).symm.trans hagree) number'

/-- A piece about no part is passed over. -/
theorem walk_of_part_eq_none {u : Piece} (h : u.part = none) :
    walk resolver number .topLevel s u.lines = some (.topLevel, s) := by
  cases u with
  | line text hopens =>
      have hleads : LeadsTo resolver number s text .topLevel .topLevel s :=
        .passedOver (classify_of_partOf?_eq_none h)
      exact walk_cons_eq_some.2 ⟨.topLevel, s, hleads, rfl⟩
  | block => cases h

/-- **Walks for each part are one.** -/
theorem exists_walk_of_piecesOf {r : Reading}
    (h : ∀ p, ∃ number t t', Agree p s t ∧ Agree p t' r ∧
      walk resolver number .topLevel t (linesOf (piecesOf p us)) = some (.topLevel, t'))
    (number : Nat) : ∃ s', walk resolver number .topLevel s (linesOf us) = some (.topLevel, s') ∧
      ∀ p, Agree p s' r := by
  induction us generalizing s number with
  | nil =>
      refine ⟨s, rfl, fun p => ?_⟩
      obtain ⟨_, t, t', hst, hr, hwalk⟩ := h p
      cases hwalk
      exact hst.trans hr
  | cons u us ih =>
      -- The first piece leads to a state from which the walks for all parts go on.
      suffices hfirst : ∃ s₁, walk resolver number .topLevel s u.lines = some (.topLevel, s₁) ∧
          ∀ p, ∃ number t t', Agree p s₁ t ∧ Agree p t' r ∧
            walk resolver number .topLevel t (linesOf (piecesOf p us)) = some (.topLevel, t') by
        obtain ⟨s₁, hu, hrest⟩ := hfirst
        obtain ⟨s', hus, hagree⟩ := ih hrest (number + u.lines.length)
        exact ⟨s', walk_linesOf_cons.2 ⟨s₁, hu, hus⟩, hagree⟩
      rcases hpart : u.part with _ | p
      · refine ⟨s, walk_of_part_eq_none hpart, fun p => ?_⟩
        have hne : u.part ≠ some p := by
          rw [hpart]
          exact (Option.some_ne_none p).symm
        rw [← piecesOf_cons_of_part_ne hne]
        exact h p
      · obtain ⟨number₁, t, t', hst, hr, hwalk⟩ := h p
        rw [piecesOf_cons_of_part hpart] at hwalk
        obtain ⟨t₁, hu, hus⟩ := walk_linesOf_cons.1 hwalk
        obtain ⟨s₁, hu', hagree₁⟩ := walk_piece_of_agree hpart hu hst.symm number
        refine ⟨s₁, hu', fun q => ?_⟩
        by_cases hq : p = q
        · subst hq
          exact ⟨_, t₁, t', hagree₁.symm, hr, hus⟩
        · have hne : u.part ≠ some q := by
            rw [hpart]
            exact fun heq => hq (Option.some_inj.1 heq)
          obtain ⟨number₂, t₂, t₂', hst₂, hr₂, hwalk₂⟩ := h q
          rw [piecesOf_cons_of_part_ne hne] at hwalk₂
          exact ⟨number₂, t₂, t₂', (walk_piece_agree hne hu').symm.trans hst₂, hr₂, hwalk₂⟩

/-- A walk through pieces is one through the pieces about a part, and through all that have the
same wording. -/
theorem exists_walk_of_wording_eq
    (h : walk resolver number .topLevel s (linesOf us) = some (.topLevel, t))
    (hwording : wording (linesOf (piecesOf p us)) = wording (linesOf (piecesOf p us')))
    (number' : Nat) :
    ∃ t', walk resolver number' .topLevel s (linesOf (piecesOf p us')) = some (.topLevel, t') ∧
      Agree p t t' := by
  -- First the other parts are left out, then the wording changes.
  obtain ⟨t₁, hwalk₁, hagree₁⟩ := walk_piecesOf h (.refl p s) 1
  have hparts : ∀ q ∈ partsFrom 1 none (linesOf (piecesOf p us)), q = p := by
    intro q hq
    obtain ⟨u, hu, hpart⟩ := exists_piece_of_mem hq
    have hu' := (List.mem_filter.1 hu).2
    rw [hpart, decide_eq_true_eq] at hu'
    exact Option.some_inj.1 hu'
  obtain ⟨place₂, t₂, hwalk₂, -, hagree₂⟩ :=
    walk_of_agree hwalk₁ .topLevel hparts (.refl p s) rfl hwording number'
  obtain rfl := eq_topLevel_of_walk hwalk₂
  exact ⟨t₂, hwalk₂, hagree₁.trans hagree₂⟩

end Reading

/-! ## Whole configurations -/

/-- **The order of the parts is of no account.** Lines that are accepted can be cut into pieces, and
however they are, every rearrangement of the pieces is accepted too, with the same policies,
objects, services and problems. -/
theorem ofLines_rearranged {services : Catalog} {resolver : Option Resolver} {texts : List String}
    {c : Configuration} (h : Configuration.ofLines services resolver texts = .ok c) :
    (∃ us, linesOf us = texts) ∧ ∀ us us', linesOf us = texts → Rearranged us us' →
      ∃ c', Configuration.ofLines services resolver (linesOf us') = .ok c' ∧
        c'.policies = c.policies ∧ c'.objects = c.objects ∧ c'.services = c.services ∧
          c'.diagnostics.map (·.problem) = c.diagnostics.map (·.problem) := by
  have hends := Reading.ends_lines resolver { configuration := { services } } texts
  rw [Configuration.ofLines] at h
  generalize Reading.lines { configuration := { services } } resolver texts = r at h hends
  cases hends with
  | @done t hwalk hopen =>
      cases h
      refine ⟨(exists_pieces texts).1 hopen, ?_⟩
      rintro us us' rfl hrearranged
      have hparts : ∀ p, ∃ number s t', Reading.Agree p { configuration := { services } } s ∧
          Reading.Agree p t' t ∧ Reading.walk resolver number .topLevel s
            (linesOf (piecesOf p us')) = some (.topLevel, t') := by
        intro p
        obtain ⟨t', hwalk', hagree⟩ :=
          Reading.exists_walk_of_wording_eq hwalk (hrearranged.wording_eq p) 1
        exact ⟨1, _, t', .refl p _, hagree.symm, hwalk'⟩
      obtain ⟨s', hwalk', hagree⟩ := Reading.exists_walk_of_piecesOf hparts 1
      refine ⟨s'.configuration, ?_, hagree .policies, (hagree .addresses).1,
        (hagree .services).1, (hagree .addresses).2⟩
      rw [Configuration.ofLines, Reading.lines_of_walk hwalk']
  | notClosed => cases h
  | failed => cases h

/-- An address may stand before a service, with blanks before it and other lines between. -/
theorem ofLines_address_before_service :
    ∃ c c', Configuration.ofLines .predefined none
          ["set service \"s\" protocol tcp", "set address \"z\" \"n\" 10.0.0.1 255.255.255.255"]
        = .ok c ∧
      Configuration.ofLines .predefined none
          ["  set address \"z\" \"n\" 10.0.0.1 255.255.255.255", "", "unset all",
            "set service \"s\" protocol tcp"] = .ok c' ∧
      c'.policies = c.policies ∧ c'.objects = c.objects ∧ c'.services = c.services ∧
        c'.diagnostics.map (·.problem) = c.diagnostics.map (·.problem) := by
  have hok : (Configuration.ofLines .predefined none
      ["set service \"s\" protocol tcp",
        "set address \"z\" \"n\" 10.0.0.1 255.255.255.255"]).isOk := by
    decide +kernel
  rcases hrun : Configuration.ofLines .predefined none
      ["set service \"s\" protocol tcp", "set address \"z\" \"n\" 10.0.0.1 255.255.255.255"]
    with e | c
  · rw [hrun] at hok
    cases hok
  · let service : Piece := .line "set service \"s\" protocol tcp" (by decide +kernel)
    let address : Piece :=
      .line "set address \"z\" \"n\" 10.0.0.1 255.255.255.255" (by decide +kernel)
    let indented : Piece :=
      .line "  set address \"z\" \"n\" 10.0.0.1 255.255.255.255" (by decide +kernel)
    let empty : Piece := .line "" (by decide +kernel)
    let other : Piece := .line "unset all" (by decide +kernel)
    have hservice : service.part = some .services := by decide +kernel
    have haddress : address.part = some .addresses := by decide +kernel
    have hempty : empty.part = none := by decide +kernel
    have hother : other.part = none := by decide +kernel
    have hrearranged : Rearranged [service, address] [indented, empty, other, service] := by
      refine ⟨[address, empty, other, service], fun p => ?_, ?_⟩
      · cases p with
        | services => simp [piecesOf, hservice, haddress, hempty, hother]
        | addresses => simp [piecesOf, hservice, haddress, hempty, hother]
        | policies => simp [piecesOf, hservice, haddress, hempty, hother]
      · exact .cons (by decide +kernel) (.cons rfl (.cons rfl (.cons rfl .nil)))
    obtain ⟨c', hrun', hsame⟩ := (ofLines_rearranged hrun).2 _ _ rfl hrearranged
    exact ⟨c, c', rfl, hrun', hsame⟩

end ZoneFirewall
