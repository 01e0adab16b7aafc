import ZoneFirewall.Proofs.DirectiveSpelling

/-!
# What a line is classified as

No line has two of the forms, so it does not matter in which order the families and their forms are
tried; and a line that does not end in a line feed has one of the forms exactly if it is a text of a
directive of that kind, which is then the only one.

* `IsTable.pairwise_excludes`: **all forms of all families exclude each other.**
* `IsTable`, `classifyIn_eq_some_iff`, `classifyIn_eq_none_iff`: what a table of such families finds
  does not depend on where in the table a form stands.
* `Rearranges`: the same families and forms in another order.
* `IsClassified`, `isClassified`: **what is true of the classification of every line.**
-/

namespace ZoneFirewall

open Text Text.Scan

/-! ## Forms that exclude each other -/

/-- The parts of what a service line begins with, one by one. -/
theorem scanServiceName_bind {β : Type} (link : String) (f : String → Scan β) :
    scanServiceName link >>= f = (do
      expect "set service "
      let name ← quoted
      expect link
      f name) := by
  simp [scanServiceName]

/-- A clause with ports does not begin as one with a type and a code. -/
theorem avoids_icmp_scanPortClause {β : Type} (f : ServiceClause → Scan β) :
    Avoids (scanPortClause >>= f) "icmp type " :=
  .bind <| .bind <| .orElse (avoids_word (by decide) (by decide)) <|
    .orElse (avoids_word (by decide) (by decide)) (avoids_spanSome (by decide) (by simp; decide))

/-- A form by ports and a form by ICMP type. -/
theorem excludes_clauses (link : String) (make : String → ServiceClause → Directive) :
    Excludes (do let name ← scanServiceName link; return make name (← scanPortClause))
      (do let name ← scanServiceName link; return make name (← scanIcmpClause)) :=
  .bind fun _ => .symm <| .of_begins (begins_expect "icmp type ").bind.bind
    (avoids_icmp_scanPortClause _)

/-- Forms that have different words after the name. -/
theorem excludes_links {link : String} {scan scan' : String → Scan Directive} {front : String}
    {link' : String} (hfront : Begins (expect link) front)
    (havoid : ∀ name, Avoids (do expect link'; scan' name) front) :
    Excludes (do let name ← scanServiceName link; scan name)
      (do let name ← scanServiceName link'; scan' name) := by
  rw [scanServiceName_bind, scanServiceName_bind]
  exact .bind fun _ => .bind fun name => .of_begins hfront.bind (havoid name)

/-- No line is read by two of the forms for services: they part at the link, or behind it at the
first word of the clause. -/
theorem pairwise_excludes_service :
    [scanServiceContinue, scanServiceIcmpContinue, scanService, scanServiceIcmp,
      scanServiceTimeout].Pairwise Excludes := by
  have hcontinue {scan scan' : String → Scan Directive} :
      Excludes (do let name ← scanServiceName " + "; scan name)
        (do let name ← scanServiceName " protocol "; scan' name) :=
    excludes_links (begins_expect _) fun _ => (avoids_expect (by decide) (by decide)).bind
  have hsetting (front : String) (ht : ¬ "timeout ".toList <+: front.toList)
      (ht' : ¬ front.toList <+: "timeout ".toList)
      (hs : ¬ "session-cache".toList <+: front.toList)
      (hs' : ¬ front.toList <+: "session-cache".toList) {scan : String → Scan Directive} :
      Excludes (do let name ← scanServiceName (" " ++ front); scan name) scanServiceTimeout :=
    excludes_links (begins_expect _) fun _ => .afterText <| .bind <|
      .orElse (avoids_expect ht ht').bind (avoids_word hs hs')
  have htimeout {scan : String → Scan Directive} :
      Excludes (do let name ← scanServiceName " + "; scan name) scanServiceTimeout :=
    hsetting "+ " (by decide) (by decide) (by decide) (by decide)
  have htimeout' {scan : String → Scan Directive} :
      Excludes (do let name ← scanServiceName " protocol "; scan name) scanServiceTimeout :=
    hsetting "protocol " (by decide) (by decide) (by decide) (by decide)
  simp only [List.pairwise_cons, List.forall_mem_cons, List.Pairwise.nil, List.not_mem_nil,
    false_imp_iff, implies_true, and_true]
  exact ⟨⟨excludes_clauses _ _, hcontinue, hcontinue, htimeout⟩, ⟨hcontinue, hcontinue, htimeout⟩,
    ⟨excludes_clauses _ _, htimeout'⟩, htimeout'⟩

/-- Nothing is added where a comment or the end of the line is. -/
theorem avoids_add_comment {β : Type} {f : Option String → Scan β} :
    Avoids (maybe scanComment >>= fun comment => ending >>= fun _ => f comment) " add " :=
  .maybe (avoids_expect (by decide) (by decide)).bind (avoids_ending (by decide) (by decide)).bind

/-- No line both adds to a group of addresses and only names it. -/
theorem excludes_addressGroup : Excludes scanAddressGroupAdd scanAddressGroupCreate :=
  .bind fun _ => .bind fun _ => .bind fun _ => .bind fun _ =>
    .of_begins (begins_expect " add ").bind avoids_add_comment

/-- No line both adds to a group of services and only names it. -/
theorem excludes_serviceGroup : Excludes scanServiceGroupAdd scanServiceGroupCreate :=
  .bind fun _ => .bind fun _ => .of_begins (begins_expect " add ").bind avoids_add_comment

/-- No line ends in front of a space. -/
theorem avoids_space_ending {β : Type} {f : Unit → Scan β} : Avoids (ending >>= f) " " :=
  (avoids_ending (by decide) (by decide)).bind

/-- No line is read by two of the forms for policies: they part behind the number. -/
theorem pairwise_excludes_policy :
    [scanPolicyCreate, scanPolicyBlock, scanPolicyFlag].Pairwise Excludes := by
  have hcreate {β : Type} {f : Option String → Scan β} {front : String}
      (hname : ¬ "name ".toList <+: front.toList) (hname' : ¬ front.toList <+: "name ".toList)
      (hfrom : ¬ "from ".toList <+: front.toList) (hfrom' : ¬ front.toList <+: "from ".toList) :
      Avoids (maybe (do expect "name "; let name ← quoted; expect " "; return name) >>=
        fun name => expect "from " >>= fun _ => f name) front :=
    .maybe (avoids_expect hname hname').bind (avoids_expect hfrom hfrom').bind
  have hflag : Excludes scanPolicyCreate scanPolicyFlag := by
    rw [scanPolicyFlag_eq]
    exact .bind fun _ => .bind fun _ => .symm <| .orElse_bind
      (.of_begins (begins_expect "disable").bind.bind
        (hcreate (by decide) (by decide) (by decide) (by decide)))
      (.of_begins (begins_expect "application").bind.bind
        (hcreate (by decide) (by decide) (by decide) (by decide)))
  simp only [List.pairwise_cons, List.forall_mem_cons, List.Pairwise.nil, List.not_mem_nil,
    false_imp_iff, implies_true, and_true]
  exact ⟨⟨.bind fun _ => .of_begins (begins_expect " ").bind avoids_space_ending, hflag⟩,
    .bind fun _ => .symm <| .of_begins (begins_expect " ").bind avoids_space_ending⟩

/-- No line is read by two forms of a family. -/
theorem pairwise_excludes_of_mem_families {f : Family} (hf : f ∈ families) :
    f.forms.Pairwise Excludes := by
  simp only [families, List.mem_cons, List.not_mem_nil, or_false] at hf
  rcases hf with rfl | rfl | rfl | rfl | rfl
  · exact pairwise_excludes_service
  · exact List.pairwise_singleton _ _
  · exact List.pairwise_pair.2 excludes_addressGroup
  · exact List.pairwise_pair.2 excludes_serviceGroup
  · exact pairwise_excludes_policy

/-- No line of a block is both for a member and for the log. -/
theorem excludes_block : Excludes scanBlockMember scanBlockLog := by
  rw [scanBlockMember_eq]
  refine .symm (.of_begins (begins_expect "set log ").bind ?_)
  show Avoids _ ("set " ++ "log ")
  exact .afterText <| .bind <| .orElse (avoids_word (by decide) (by decide)) <|
    .orElse (avoids_word (by decide) (by decide)) (avoids_word (by decide) (by decide))

/-! ## Tables -/

/-- Families that can be tried in any order: their words are not in front of each other, their forms
begin with their words, and no line has two forms of one of them. -/
structure IsTable (fs : List Family) : Prop where
  /-- The words are not in front of each other. -/
  apart : fs.Pairwise Family.Apart
  /-- The forms begin with the words. -/
  begins : ∀ f ∈ fs, ∀ form ∈ f.forms, Begins form (f.head ++ " ")
  /-- No line has two forms of a family. -/
  exclusive : ∀ f ∈ fs, f.forms.Pairwise Excludes

/-- The families are a table: they are apart, and so are the forms in each of them. -/
theorem isTable_families : IsTable families where
  apart := pairwise_families
  begins _ hf _ hform := begins_of_mem_families hf hform
  exclusive _ hf := pairwise_excludes_of_mem_families hf

namespace IsTable

variable {fs : List Family} {line : String}

/-- A line that is read by a form of a family begins as the family does. -/
theorem heads (h : IsTable fs) {f : Family} (hf : f ∈ fs) {form : Scan Directive}
    (hform : form ∈ f.forms) {x : Directive × List Char} (hrun : form.run line.toList = some x) :
    f.Heads line :=
  .inr (h.begins f hf form hform _ _ _ hrun)

/-- A line is of at most one family. -/
theorem eq_of_heads (h : IsTable fs) {f g : Family} (hf : f ∈ fs) (hg : g ∈ fs)
    (hfline : f.Heads line) (hgline : g.Heads line) : f = g := by
  by_contra hne
  exact (h.apart.forall hf hg hne).not_heads hfline.isPrefix hgline

/-- **All forms of a table exclude each other.** -/
theorem pairwise_excludes (h : IsTable fs) : (fs.flatMap (·.forms)).Pairwise Excludes := by
  refine List.pairwise_flatMap.2 ⟨h.exclusive, h.apart.imp_of_mem ?_⟩
  intro f g hf hg happart form hform form' hform' cs
  rcases hrun : form.run cs with _ | x
  · exact .inl rfl
  · rcases hrun' : form'.run cs with _ | y
    · exact .inr rfl
    · rw [← String.toList_ofList (l := cs)] at hrun hrun'
      exact absurd (h.heads hg hform' hrun') (happart.not_heads (h.heads hf hform hrun).isPrefix)

/-- A line of a table is read in at most one way. -/
theorem eq_of_run (h : IsTable fs) {form form' : Scan Directive}
    (hform : form ∈ fs.flatMap (·.forms)) (hform' : form' ∈ fs.flatMap (·.forms))
    {cs : List Char} {x y : Directive × List Char} (hx : form.run cs = some x)
    (hy : form'.run cs = some y) : x = y := by
  by_cases heq : form = form'
  · subst heq
    exact Option.some.inj (hx.symm.trans hy)
  · rcases h.pairwise_excludes.forall hform hform' heq cs with hnone | hnone
    · rw [hx] at hnone
      cases hnone
    · rw [hy] at hnone
      cases hnone

end IsTable

/-- A family does not read a line if none of its forms does. -/
theorem read?_eq_none_iff {f : Family} {cs : List Char} :
    f.read? cs = none ↔ ∀ form ∈ f.forms, form.run cs = none := by
  simp only [Family.read?, List.findSome?_eq_none_iff, Option.map_eq_none_iff]

/-- A line is passed over exactly if it is of no family. -/
theorem classifyIn_eq_none_iff {fs : List Family} {line : String}
    (hbegins : ∀ f ∈ fs, ∀ form ∈ f.forms, Begins form (f.head ++ " ")) :
    classifyIn line.toList fs = .ok none ↔ ∀ f ∈ fs, ¬ f.Heads line := by
  induction fs with
  | nil => simp [classifyIn]
  | cons f fs ih =>
      obtain ⟨hf, hfs⟩ := List.forall_mem_cons.1 hbegins
      rw [List.forall_mem_cons, ← ih hfs, classifyIn]
      split
      · rename_i hnone
        have hnot : ¬ f.Heads line := by
          intro hheads
          obtain ⟨rest, hrest⟩ := hheads.isPrefix
          rw [List.isPrefixOf?_eq_some_iff_append_eq.2 hrest] at hnone
          cases hnone
        simp [hnot]
      · rename_i rest hrest
        have happend := List.isPrefixOf?_eq_some_iff_append_eq.1 hrest
        split
        · rename_i d hread
          obtain ⟨form, hform, hrun⟩ := List.exists_of_findSome?_eq_some hread
          obtain ⟨x, hx, -⟩ := Option.map_eq_some_iff.1 hrun
          have hheads : f.Heads line := .inr (hf form hform _ _ _ hx)
          simp [hheads]
        · rw [Family.heads_iff happend]
          split
          · rename_i hheads
            simp [hheads]
          · rename_i hheads
            simp [hheads]

namespace IsTable

variable {fs gs : List Family} {line : String}

/-- **A line has a directive exactly if one of the forms reads it as that directive**, wherever in
the table the form stands. -/
theorem classifyIn_eq_some_iff (h : IsTable fs) {d : Directive} :
    classifyIn line.toList fs = .ok (some d)
      ↔ ∃ form ∈ fs.flatMap (·.forms), ∃ rest, form.run line.toList = some (d, rest) := by
  constructor
  · intro hd
    obtain ⟨f, hf, hread⟩ := exists_read_of_classifyIn hd
    obtain ⟨form, hform, hrun⟩ := List.exists_of_findSome?_eq_some hread
    obtain ⟨⟨d', rest⟩, hrest, rfl⟩ := Option.map_eq_some_iff.1 hrun
    exact ⟨form, List.mem_flatMap.2 ⟨f, hf, hform⟩, rest, hrest⟩
  · rintro ⟨form, hform, rest, hrun⟩
    obtain ⟨f, hf, hmem⟩ := List.mem_flatMap.1 hform
    have hheads := h.heads hf hmem hrun
    rcases hresult : classifyIn line.toList fs with fault | d'
    · obtain ⟨g, hg, hgline, hnone, -⟩ := (classifyIn_eq_error_iff h.apart).1 hresult
      rw [h.eq_of_heads hg hf hgline hheads, read?_eq_none_iff] at hnone
      rw [hnone form hmem] at hrun
      cases hrun
    · rcases d' with _ | d'
      · exact absurd hheads ((classifyIn_eq_none_iff h.begins).1 hresult f hf)
      · obtain ⟨f', hf', hread⟩ := exists_read_of_classifyIn hresult
        obtain ⟨form', hform', hrun'⟩ := List.exists_of_findSome?_eq_some hread
        obtain ⟨⟨d'', rest'⟩, hrest', rfl⟩ := Option.map_eq_some_iff.1 hrun'
        have hsame := h.eq_of_run hform (List.mem_flatMap.2 ⟨f', hf', hform'⟩) hrun hrest'
        rw [← hsame]

end IsTable

/-- The same families as in another table, in any order and with their forms in any order. -/
structure Rearranges (fs gs : List Family) : Prop where
  /-- The families are the same. -/
  heads : (fs.map (·.head)).Perm (gs.map (·.head))
  /-- A family has the same forms. -/
  forms : ∀ f ∈ fs, ∀ g ∈ gs, f.head = g.head → f.forms.Perm g.forms

namespace Rearranges

variable {fs gs : List Family} {line : String}

/-- Each family of a rearranged table comes from one of the table. -/
theorem exists_left (h : Rearranges fs gs) {g : Family} (hg : g ∈ gs) :
    ∃ f ∈ fs, f.head = g.head ∧ f.forms.Perm g.forms := by
  obtain ⟨f, hf, hhead⟩ := List.mem_map.1 (h.heads.symm.subset (List.mem_map_of_mem hg))
  exact ⟨f, hf, hhead, h.forms f hf g hg hhead⟩

/-- Each family of a table is there in a rearranged one. -/
theorem exists_right (h : Rearranges fs gs) {f : Family} (hf : f ∈ fs) :
    ∃ g ∈ gs, f.head = g.head ∧ f.forms.Perm g.forms := by
  obtain ⟨g, hg, hhead⟩ := List.mem_map.1 (h.heads.subset (List.mem_map_of_mem hf))
  exact ⟨g, hg, hhead.symm, h.forms f hf g hg hhead.symm⟩

/-- A rearranged table is a table. -/
theorem isTable (h : Rearranges fs gs) (hgs : IsTable gs) : IsTable fs where
  apart := by
    have hmap := (List.pairwise_map (f := Family.head) (l := gs)
      (R := fun s t => ¬ s.toList <+: t.toList ∧ ¬ t.toList <+: s.toList)).2 hgs.apart
    rw [← h.heads.pairwise_iff fun hst => ⟨hst.2, hst.1⟩, List.pairwise_map] at hmap
    exact hmap
  begins f hf form hform := by
    obtain ⟨g, hg, hhead, hforms⟩ := h.exists_right hf
    rw [hhead]
    exact hgs.begins g hg form (hforms.subset hform)
  exclusive f hf := by
    obtain ⟨g, hg, -, hforms⟩ := h.exists_right hf
    exact (hforms.pairwise_iff Excludes.symm).2 (hgs.exclusive g hg)

/-- **The order of a table does not matter.** -/
theorem classifyIn_eq (h : Rearranges fs gs) (hgs : IsTable gs) :
    classifyIn line.toList fs = classifyIn line.toList gs := by
  have hfs := h.isTable hgs
  symm
  rcases hresult : classifyIn line.toList gs with fault | _ | d
  · obtain ⟨g, hg, hheads, hnone, rfl⟩ := (classifyIn_eq_error_iff hgs.apart).1 hresult
    obtain ⟨f, hf, hhead, hforms⟩ := h.exists_left hg
    refine ((classifyIn_eq_error_iff hfs.apart).2 ⟨f, hf, ?_, ?_, by rw [hhead]⟩).symm
    · rwa [Family.Heads, hhead]
    · rw [read?_eq_none_iff] at hnone ⊢
      exact fun form hform => hnone form (hforms.subset hform)
  · refine ((classifyIn_eq_none_iff hfs.begins).2 fun f hf hheads => ?_).symm
    obtain ⟨g, hg, hhead, -⟩ := h.exists_right hf
    rw [Family.Heads, hhead] at hheads
    exact (classifyIn_eq_none_iff hgs.begins).1 hresult g hg hheads
  · obtain ⟨form, hform, rest, hrun⟩ := hgs.classifyIn_eq_some_iff.1 hresult
    obtain ⟨g, hg, hmem⟩ := List.mem_flatMap.1 hform
    obtain ⟨f, hf, -, hforms⟩ := h.exists_left hg
    exact (hfs.classifyIn_eq_some_iff.2
      ⟨form, List.mem_flatMap.2 ⟨f, hf, hforms.symm.subset hmem⟩, rest, hrun⟩).symm

end Rearranges

/-! ## Single lines -/

/-- A line that does not end in a line feed is exhausted only by taking all of it. -/
theorem eq_of_exhausts {line text : String} {rest : List Char}
    (hfeed : line.toList.getLast? ≠ some '\n') (hrest : IsEnd rest)
    (h : line.toList = text.toList ++ rest) : text = line ∧ rest = [] := by
  rcases hrest with rfl | rfl
  · rw [List.append_nil] at h
    exact ⟨(String.toList_inj.1 h).symm, rfl⟩
  · rw [h] at hfeed
    simp at hfeed

/-- What is true of the classification of a line, at the top level and within a policy block. -/
structure IsClassified (line : String) : Prop where
  /-- At most one of the forms of all families reads the line. -/
  unambiguous : (families.flatMap (·.forms)).Pairwise fun form form' =>
    form.run line.toList = none ∨ form'.run line.toList = none
  /-- The order in which families and forms are tried does not matter. -/
  any_order : ∀ table, Rearranges table families →
    classifyIn line.toList table = Directive.classify line
  /-- The line is passed over exactly if it is neither the words of a family nor begins with them
  and a space. -/
  passed_over : Directive.classify line = .ok none ↔
    ∀ f ∈ families, line ≠ f.head ∧ ¬ (f.head ++ " ").toList <+: line.toList
  /-- The line has the directive that one of the forms reads. -/
  read : ∀ d, Directive.classify line = .ok (some d) ↔
    ∃ form ∈ families.flatMap (·.forms), ∃ rest, form.run line.toList = some (d, rest)
  /-- A line of a family that has none of the forms is refused, -/
  refused : ∀ f ∈ families, f.Heads line →
    (∀ form ∈ families.flatMap (·.forms), form.run line.toList = none) →
    Directive.classify line = .error (.malformed f.head line) ∧
    -- and the reading stops at it with the number that the line has.
    ∀ s resolver number text later, trim text = line →
      Reading.linesFrom resolver s .topLevel number (text :: later)
        = (s, some ⟨number, .directive (.malformed f.head line)⟩)
  /-- But for the creation of a policy, the line has a directive exactly if it is a text of it. -/
  spelled : line.toList.getLast? ≠ some '\n' → ∀ d, (∀ h, d ≠ .policyCreate h) →
    (Directive.classify line = .ok (some d) ↔ d.Spells line)
  /-- It is a text of one such directive at most. -/
  unique : ∀ d d' : Directive, (∀ h, d ≠ .policyCreate h) → (∀ h, d' ≠ .policyCreate h) →
    d.Spells line → d'.Spells line → d = d'
  /-- At most one of the forms of a line in a policy block reads the line. -/
  block_unambiguous :
    scanBlockMember.run line.toList = none ∨ scanBlockLog.run line.toList = none
  /-- The line stands for a line in a policy block exactly if it is a text of it. -/
  block_spelled : line.toList.getLast? ≠ some '\n' → ∀ b,
    (BlockLine.classify line = .ok b ↔ b.Spells line)
  /-- Of no other line is there one. -/
  block_refused : (∀ b, BlockLine.classify line ≠ .ok b) →
    BlockLine.classify line = .error (.unexpectedInBlock line)

section single

variable {line : String}

/-- A text of a directive is classified as it. -/
theorem Directive.Spells.classify {d : Directive} (hother : ∀ h, d ≠ .policyCreate h)
    (h : d.Spells line) : Directive.classify line = .ok (some d) := by
  obtain ⟨f, hf, form, hform, hrun⟩ := exists_run_of_spells hother h
  exact isTable_families.classifyIn_eq_some_iff.2
    ⟨form, List.mem_flatMap.2 ⟨f, hf, hform⟩, [], hrun⟩

/-- The creation of a policy is read as nothing else. -/
theorem yields_policyCreate : Yields scanPolicyCreate fun d => ∃ h, d = .policyCreate h :=
  .after fun _ => .after fun _ => .after fun _ => .after fun _ => .after fun _ => .after fun _ =>
    .after fun _ => .after fun _ => .after fun _ => .after fun _ => .after fun _ => .after fun _ =>
    .after fun _ => .after fun _ => .after fun _ => .after fun _ => .pure ⟨_, rfl⟩

/-- A directive of a line other than the creation of a policy is spelled by the line, up to one
final line feed. -/
theorem exists_spells_of_classify {d : Directive} (hother : ∀ h, d ≠ .policyCreate h)
    (h : Directive.classify line = .ok (some d)) :
    ∃ text rest, d.Spells text ∧ IsEnd rest ∧ line.toList = text.toList ++ rest := by
  obtain ⟨form, hform, rest, hrun⟩ := isTable_families.classifyIn_eq_some_iff.1 h
  obtain ⟨f, hf, hmem⟩ := List.mem_flatMap.1 hform
  have hne : form ≠ scanPolicyCreate := by
    rintro rfl
    obtain ⟨header, hheader⟩ := yields_policyCreate _ _ _ hrun
    exact hother header hheader
  obtain ⟨hend, htakes⟩ := takes_of_mem_families hf hmem hne
  obtain ⟨text, htext, heq⟩ := htakes _ _ _ hrun
  exact ⟨text, rest, htext, hend _ _ _ hrun, heq⟩

/-- But for policies, whose creations may have anything behind them, a line is classified as a
directive exactly if it is one of its texts. -/
theorem classify_eq_some_iff_spells (hfeed : line.toList.getLast? ≠ some '\n') {d : Directive}
    (hother : ∀ h, d ≠ .policyCreate h) :
    Directive.classify line = .ok (some d) ↔ d.Spells line := by
  refine ⟨fun h => ?_, Directive.Spells.classify hother⟩
  obtain ⟨text, rest, htext, hend, heq⟩ := exists_spells_of_classify hother h
  rwa [(eq_of_exhausts hfeed hend heq).1] at htext

/-- A line of a block is what one of the two readers makes of it. -/
theorem blockLine_classify_eq_ok_iff {b : BlockLine} : BlockLine.classify line = .ok b ↔
    ∃ rest, (scanBlockMember <|> scanBlockLog).run line.toList = some (b, rest) := by
  rw [BlockLine.classify]
  rcases (scanBlockMember <|> scanBlockLog).run line.toList with _ | ⟨b', rest⟩
  · simp
  · simp

/-- A text of a line of a block is read to its end. -/
theorem run_of_blockLine_spells {b : BlockLine} (h : b.Spells line) :
    (scanBlockMember <|> scanBlockLog).run line.toList = some (b, []) := by
  cases b with
  | member kind name => exact run_orElse_of_some (run_scanBlockMember h)
  | log option =>
      have hlog := run_scanBlockLog h
      rcases excludes_block line.toList with hnone | hnone
      · rw [run_orElse_of_none hnone]
        exact hlog
      · rw [hlog] at hnone
        cases hnone

/-- A line of a block is classified exactly if it is one of the texts. -/
theorem blockLine_classify_eq_ok_iff_spells (hfeed : line.toList.getLast? ≠ some '\n')
    {b : BlockLine} : BlockLine.classify line = .ok b ↔ b.Spells line := by
  rw [blockLine_classify_eq_ok_iff]
  refine ⟨?_, fun h => ⟨[], run_of_blockLine_spells h⟩⟩
  rintro ⟨rest, hrun⟩
  have hend : Exhausts (scanBlockMember <|> scanBlockLog) :=
    .orElse (.after fun _ => .after fun _ => .after fun _ => .after fun _ => exhausts_ending _)
      (.after fun _ => .after fun _ => exhausts_ending _)
  obtain ⟨text, htext, heq⟩ := (takes_scanBlockMember.orElse takes_scanBlockLog) _ _ _ hrun
  rwa [(eq_of_exhausts hfeed (hend _ _ _ hrun) heq).1] at htext

/-- A line of a family that has none of the forms stops the reading. -/
theorem linesFrom_of_malformed {f : Family}
    (h : Directive.classify line = .error (.malformed f.head line)) (s : Reading)
    (resolver : Option Resolver) (number : Nat) {text : String} (later : List String)
    (htext : trim text = line) :
    Reading.linesFrom resolver s .topLevel number (text :: later)
      = (s, some ⟨number, .directive (.malformed f.head line)⟩) := by
  rw [Reading.linesFrom_cons, Reading.step_topLevel, htext, h]

/-- **What is true of the classification of every line.** -/
theorem isClassified (line : String) : IsClassified line where
  unambiguous := isTable_families.pairwise_excludes.imp fun h => h line.toList
  any_order _ h := h.classifyIn_eq isTable_families
  passed_over := by
    rw [Directive.classify, classifyIn_eq_none_iff isTable_families.begins]
    simp only [Family.Heads, not_or]
  read _ := isTable_families.classifyIn_eq_some_iff
  refused f hf hline hnone := by
    have herror : Directive.classify line = .error (.malformed f.head line) :=
      classify_eq_error_iff.2 ⟨f, hf, hline, read?_eq_none_iff.2 fun form hform =>
        hnone form (List.mem_flatMap.2 ⟨f, hf, hform⟩), rfl⟩
    exact ⟨herror, fun s resolver number text later htext =>
      linesFrom_of_malformed herror s resolver number later htext⟩
  spelled hfeed _ hother := classify_eq_some_iff_spells hfeed hother
  unique d d' hd hd' h h' := by
    have hsame := (h.classify hd).symm.trans (h'.classify hd')
    simpa using hsame
  block_unambiguous := excludes_block line.toList
  block_spelled hfeed _ := blockLine_classify_eq_ok_iff_spells hfeed
  block_refused hnone := by
    rw [BlockLine.classify]
    split
    · rename_i b hb
      exact absurd (by rw [BlockLine.classify, hb]) (hnone b)
    · rfl

end single

end ZoneFirewall
