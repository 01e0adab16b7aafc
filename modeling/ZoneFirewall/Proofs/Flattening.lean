import Mathlib.Data.List.Chain
import Mathlib.Logic.Relation
import ZoneFirewall.Hierarchy

/-!
# What expanding a name comes to

The expansion of a name is a walk that merges the items of each group as it leaves it and stops at
the first group that it meets again. Here it is compared with two things that know nothing of a
walk: the relation between a group and its members, and the list of all items at the leaves.

* `Hierarchy.HasMember`: the edges of the hierarchy, from a group to its members.
* `Hierarchy.Flattens`: **the items at the leaves** below some names, depth first and in member
  order. `Flattens.unique`: there is one such list at most. `Flattens.not_reaches_cycle`: if there
  is one, no group below the names reaches itself.
* `Hierarchy.Merging`: what a step at the end of each group has to satisfy for it not to matter
  whether it is taken at every group or once at the end.
* `expand_eq_ok`: **a result of expansion is the merge of the leaves.**
* `expandAll_eq_cycle`, `expand_eq_cycle`: **a cycle that expansion reports is one**, and its chain
  starts at the name that was asked for.

The walk is opened only once, by the equations of `expandFrom` and `expandAll` and by
`walk_induction`, an induction on lists of names that still have to be entered.
-/

namespace ZoneFirewall.Hierarchy

variable {ν ε α : Type} {h : Hierarchy ν ε α}

/-! ## Members and leaves -/

/-- The name `a` is a group of which `b` is a member. -/
def HasMember (h : Hierarchy ν ε α) (a b : ν) : Prop :=
  ∃ members, h.meaning a = .group members ∧ b ∈ members

/-- The items at the leaves below some names, depth first and in member order. -/
inductive Flattens (h : Hierarchy ν ε α) : List ν → List α → Prop where
  /-- No names have no items. -/
  | nil : Flattens h [] []
  /-- A leaf has its own items. -/
  | leaf {name : ν} {items rest : List α} {names : List ν} :
      h.meaning name = .leaf (.ok items) → Flattens h names rest →
        Flattens h (name :: names) (items ++ rest)
  /-- A group has the items of its members. -/
  | group {name : ν} {members names : List ν} {inner rest : List α} :
      h.meaning name = .group members → Flattens h members inner → Flattens h names rest →
        Flattens h (name :: names) (inner ++ rest)

/-- The items at the leaves are determined by the names. -/
theorem Flattens.unique {names : List ν} {xs ys : List α} (hx : h.Flattens names xs)
    (hy : h.Flattens names ys) : xs = ys := by
  induction hx generalizing ys with
  | nil => cases hy; rfl
  | leaf hm _ ih =>
      cases hy with
      | leaf hm' hrest =>
          rw [hm] at hm'
          cases hm'
          rw [ih hrest]
      | group hm' => rw [hm] at hm'; cases hm'
  | group hm _ _ ihInner ihRest =>
      cases hy with
      | leaf hm' => rw [hm] at hm'; cases hm'
      | group hm' hinner hrest =>
          rw [hm] at hm'
          cases hm'
          rw [ihInner hinner, ihRest hrest]

/-- Below names that have a list of leaves, descent from groups to members ends. -/
theorem Flattens.acc {names : List ν} {items : List α} (hf : h.Flattens names items) :
    ∀ n ∈ names, Acc (fun b a => h.HasMember a b) n := by
  induction hf with
  | nil => intro n hn; cases hn
  | leaf hm _ ih =>
      intro n hn
      rcases List.mem_cons.1 hn with rfl | hn
      · refine ⟨_, fun b hb => ?_⟩
        obtain ⟨members, hg, -⟩ := hb
        rw [hm] at hg
        cases hg
      · exact ih n hn
  | group hm _ _ ihInner ihRest =>
      intro n hn
      rcases List.mem_cons.1 hn with rfl | hn
      · refine ⟨_, fun b hb => ?_⟩
        obtain ⟨members, hg, hmem⟩ := hb
        rw [hm] at hg
        cases hg
        exact ihInner b hmem
      · exact ihRest n hn

/-- A name from which descent ends does not reach a name that reaches itself. -/
theorem not_reaches_cycle_of_acc {n : ν} (hn : Acc (fun b a => h.HasMember a b) n) :
    ∀ g, Relation.ReflTransGen h.HasMember n g → ¬ Relation.TransGen h.HasMember g g := by
  induction hn with
  | intro n _ ih =>
      intro g hng hgg
      rcases Relation.ReflTransGen.cases_head hng with rfl | ⟨b, hnb, hbg⟩
      · obtain ⟨b, hnb, hbn⟩ := Relation.TransGen.head'_iff.1 hgg
        exact ih b hnb b .refl (.tail' hbn hnb)
      · exact ih b hnb g hbg hgg

/-- Names that have a list of leaves do not reach a group that reaches itself. -/
theorem Flattens.not_reaches_cycle {names : List ν} {items : List α}
    (hf : h.Flattens names items) {n g : ν} (hn : n ∈ names)
    (hng : Relation.ReflTransGen h.HasMember n g) : ¬ Relation.TransGen h.HasMember g g :=
  not_reaches_cycle_of_acc (hf.acc n hn) g hng

/-! ## Chains of groups -/

/-- The first of a chain of members reaches the last. -/
theorem transGen_of_isChain {R : ν → ν → Prop} {a b : ν} :
    ∀ {l : List ν}, (a :: l ++ [b]).IsChain R → Relation.TransGen R a b
  | [], hc => .single (by simpa using hc)
  | c :: l, hc => by
      simp only [List.cons_append, List.isChain_cons_cons] at hc
      exact .head hc.1 (transGen_of_isChain hc.2)

/-- A chain that ends in a name it has met before leads from its first name to one that reaches
itself. -/
theorem reaches_cycle_of_isChain {R : ν → ν → Prop} {root name : ν} {chain : List ν}
    (hroot : chain.head? = some root) (hc : (chain ++ [name]).IsChain R) (hmem : name ∈ chain) :
    Relation.ReflTransGen R root name ∧ Relation.TransGen R name name := by
  obtain ⟨before, after, rfl⟩ := List.append_of_mem hmem
  refine ⟨?_, ?_⟩
  · cases before with
    | nil =>
        simp only [List.nil_append, List.head?_cons, Option.some.injEq] at hroot
        rw [hroot]
    | cons a before =>
        simp only [List.cons_append, List.head?_cons, Option.some.injEq] at hroot
        subst hroot
        refine (transGen_of_isChain (l := before) ?_).to_reflTransGen
        exact hc.prefix ⟨after ++ [name], by simp⟩
  · refine transGen_of_isChain (l := after) ?_
    exact hc.suffix ⟨before, by simp⟩

/-! ## Merging -/

/-- A step at the end of each group that may as well be taken once, after the last. -/
structure Merging (h : Hierarchy ν ε α) (merge : List α → List α) : Prop where
  /-- Nothing merges to nothing. -/
  nil : merge [] = []
  /-- Parts may be merged before the whole is. -/
  append : ∀ xs ys, merge (merge xs ++ merge ys) = merge (xs ++ ys)
  /-- A leaf has nothing to merge. -/
  leaf : ∀ {name items}, h.meaning name = .leaf (.ok items) → merge items = items

/-- Merging twice is merging once. -/
theorem Merging.idem {merge : List α → List α} (hM : Merging h merge) (xs : List α) :
    merge (merge xs) = merge xs := by
  simpa [hM.nil] using hM.append xs []

/-! ## The equations of the walk -/

section walk

variable [DecidableEq ν] {merge : List α → List α} {chain : List ν} {name : ν}

/-- A leaf comes to its items. -/
theorem expandFrom_leaf {items : List α} (hm : h.meaning name = .leaf (.ok items)) :
    h.expandFrom merge chain name = .ok items := by
  rw [expandFrom]
  split <;> simp_all

/-- A leaf that fails is the failure of the walk. -/
theorem expandFrom_leaf_error {e : ε} (hm : h.meaning name = .leaf (.error e)) :
    h.expandFrom merge chain name = .error (.leaf e) := by
  rw [expandFrom]
  split <;> simp_all

/-- A group that is met below itself closes a cycle. -/
theorem expandFrom_open {members : List ν} (hm : h.meaning name = .group members)
    (hc : name ∈ chain) : h.expandFrom merge chain name = .error (.cycle chain name) := by
  rw [expandFrom]
  split <;> simp_all

/-- Any other group comes to what its members come to, merged. -/
theorem expandFrom_closed {members : List ν} (hm : h.meaning name = .group members)
    (hc : name ∉ chain) :
    h.expandFrom merge chain name
      = (h.expandAll merge (chain ++ [name]) members).map merge := by
  rw [expandFrom]
  split <;> simp_all

/-- No members come to nothing. -/
theorem expandAll_nil : h.expandAll merge chain [] = .ok [] := by
  rw [expandAll]

/-- Several names come to something if the first does and the others do. -/
theorem expandAll_cons_eq_ok {names : List ν} {items : List α} :
    h.expandAll merge chain (name :: names) = .ok items ↔
      ∃ first rest, h.expandFrom merge chain name = .ok first ∧
        h.expandAll merge chain names = .ok rest ∧ items = first ++ rest := by
  rw [expandAll]
  rcases h.expandFrom merge chain name with e | first
  · simp [bind, Except.bind]
  · rcases h.expandAll merge chain names with e | rest
    · simp [bind, Except.bind]
    · simp [bind, Except.bind, pure, Except.pure, eq_comm]

/-- Several names fail as the first of them that fails. -/
theorem expandAll_cons_eq_error {names : List ν} {f : Failure ν ε} :
    h.expandAll merge chain (name :: names) = .error f ↔
      h.expandFrom merge chain name = .error f ∨
        (∃ first, h.expandFrom merge chain name = .ok first) ∧
          h.expandAll merge chain names = .error f := by
  rw [expandAll]
  rcases h.expandFrom merge chain name with e | first
  · simp [bind, Except.bind]
  · rcases h.expandAll merge chain names with e | rest
    · simp [bind, Except.bind]
    · simp [bind, Except.bind, pure, Except.pure]

/-- **Induction along the walk**: on the names that still have to be entered below the open groups
of a chain. A group that is closed opens for its members, and one that is open is not entered. -/
theorem walk_induction (h : Hierarchy ν ε α) {motive : List ν → List ν → Prop}
    (nil : ∀ chain, motive chain [])
    (leaf : ∀ chain name names result, h.meaning name = .leaf result → motive chain names →
      motive chain (name :: names))
    (met : ∀ chain name names members, h.meaning name = .group members → name ∈ chain →
      motive chain names → motive chain (name :: names))
    (enter : ∀ chain name names members, h.meaning name = .group members → name ∉ chain →
      motive (chain ++ [name]) members → motive chain names → motive chain (name :: names)) :
    ∀ chain names, motive chain names
  | chain, [] => nil chain
  | chain, name :: names => by
      have hnames := walk_induction h nil leaf met enter chain names
      rcases hm : h.meaning name with result | members
      · exact leaf chain name names result hm hnames
      · by_cases hc : name ∈ chain
        · exact met chain name names members hm hc hnames
        · have := h.closedCount_lt hm hc
          exact enter chain name names members hm hc
            (walk_induction h nil leaf met enter (chain ++ [name]) members) hnames
  termination_by chain names => (h.closedCount chain, names.length)
  decreasing_by
    · exact Prod.Lex.right _ (by simp)
    · exact Prod.Lex.left _ _ this

/-! ## Results -/

/-- What several names come to has the same merge as their leaves. -/
theorem expandAll_eq_ok (hM : Merging h merge) (chain names : List ν) :
    ∀ items, h.expandAll merge chain names = .ok items →
      ∃ leaves, h.Flattens names leaves ∧ merge items = merge leaves := by
  induction chain, names using h.walk_induction with
  | nil chain =>
      intro items hi
      rw [expandAll_nil] at hi
      cases hi
      exact ⟨[], .nil, rfl⟩
  | leaf chain name names result hm ih =>
      intro items hi
      obtain ⟨first, rest, hfirst, hrest, rfl⟩ := expandAll_cons_eq_ok.1 hi
      obtain ⟨leaves, hl, hml⟩ := ih rest hrest
      cases result with
      | error e => rw [expandFrom_leaf_error hm] at hfirst; cases hfirst
      | ok own =>
          rw [expandFrom_leaf hm, Except.ok.injEq] at hfirst
          subst hfirst
          refine ⟨own ++ leaves, .leaf hm hl, ?_⟩
          rw [← hM.append, hml, hM.append]
  | met chain name names members hm hc _ =>
      intro items hi
      obtain ⟨first, rest, hfirst, -, -⟩ := expandAll_cons_eq_ok.1 hi
      rw [expandFrom_open hm hc] at hfirst
      cases hfirst
  | enter chain name names members hm hc ihMembers ihNames =>
      intro items hi
      obtain ⟨first, rest, hfirst, hrest, rfl⟩ := expandAll_cons_eq_ok.1 hi
      obtain ⟨leaves, hl, hml⟩ := ihNames rest hrest
      rw [expandFrom_closed hm hc] at hfirst
      rcases hin : h.expandAll merge (chain ++ [name]) members with e | inner
      · rw [hin] at hfirst; cases hfirst
      · rw [hin] at hfirst
        cases hfirst
        obtain ⟨innerLeaves, hil, hmil⟩ := ihMembers inner hin
        refine ⟨innerLeaves ++ leaves, .group hm hil hl, ?_⟩
        rw [← hM.append, hM.idem, hmil, hml, hM.append]

/-- What a name comes to is the merge of its leaves. -/
theorem expand_eq_ok (hM : Merging h merge) {items : List α}
    (hi : h.expand merge name = .ok items) :
    ∃ leaves, h.Flattens [name] leaves ∧ items = merge leaves := by
  have hall : h.expandAll merge [] [name] = .ok items :=
    expandAll_cons_eq_ok.2 ⟨items, [], hi, expandAll_nil, by simp⟩
  obtain ⟨leaves, hl, hml⟩ := expandAll_eq_ok hM [] [name] items hall
  refine ⟨leaves, hl, ?_⟩
  rw [← hml]
  -- the items are a merge already, or those of a single leaf
  rcases hm : h.meaning name with (e | own) | members
  · rw [expand, expandFrom_leaf_error hm] at hi
    cases hi
  · rw [expand, expandFrom_leaf hm] at hi
    cases hi
    exact (hM.leaf hm).symm
  · rw [expand, expandFrom_closed hm List.not_mem_nil] at hi
    rcases hin : h.expandAll merge ([] ++ [name]) members with e | inner
    · rw [hin] at hi; cases hi
    · rw [hin] at hi
      cases hi
      exact (hM.idem inner).symm

/-! ## Cycles -/

/-- A cycle that is met below the open groups of a chain lies on a chain of members that goes on
from that one. -/
theorem expandAll_eq_cycle (chain names : List ν) :
    (∀ n ∈ names, (chain ++ [n]).IsChain h.HasMember) →
      ∀ opened again, h.expandAll merge chain names = .error (.cycle opened again) →
        (opened ++ [again]).IsChain h.HasMember ∧ again ∈ opened ∧
          ∃ n ∈ names, chain ++ [n] <+: opened ++ [again] := by
  induction chain, names using h.walk_induction with
  | nil chain =>
      intro _ opened again he
      rw [expandAll_nil] at he
      cases he
  | leaf chain name names result hm ih =>
      intro hpath opened again he
      rcases expandAll_cons_eq_error.1 he with hfirst | ⟨-, hrest⟩
      · cases result with
        | error e => rw [expandFrom_leaf_error hm] at hfirst; cases hfirst
        | ok own => rw [expandFrom_leaf hm] at hfirst; cases hfirst
      · obtain ⟨hc, hmem, n, hn, hpre⟩ :=
          ih (fun n hn => hpath n (List.mem_cons_of_mem _ hn)) opened again hrest
        exact ⟨hc, hmem, n, List.mem_cons_of_mem _ hn, hpre⟩
  | met chain name names members hm hc _ =>
      intro hpath opened again he
      rcases expandAll_cons_eq_error.1 he with hfirst | ⟨⟨first, hfirst⟩, -⟩
      · rw [expandFrom_open hm hc] at hfirst
        cases hfirst
        exact ⟨hpath _ List.mem_cons_self, hc, _, List.mem_cons_self, List.prefix_refl _⟩
      · rw [expandFrom_open hm hc] at hfirst
        cases hfirst
  | enter chain name names members hm hc ihMembers ihNames =>
      intro hpath opened again he
      rcases expandAll_cons_eq_error.1 he with hfirst | ⟨-, hrest⟩
      · rw [expandFrom_closed hm hc] at hfirst
        rcases hin : h.expandAll merge (chain ++ [name]) members with e | inner
        · rw [hin] at hfirst
          cases hfirst
          have hopen : ∀ n ∈ members, (chain ++ [name] ++ [n]).IsChain h.HasMember := by
            intro n hn
            have hname : (chain ++ [name]).IsChain h.HasMember := hpath name List.mem_cons_self
            exact hname.append (.singleton n) (by simp [HasMember, hm, hn])
          obtain ⟨hch, hmem, n, -, hpre⟩ := ihMembers hopen opened again hin
          exact ⟨hch, hmem, name, List.mem_cons_self, (List.prefix_append _ _).trans hpre⟩
        · rw [hin] at hfirst; cases hfirst
      · obtain ⟨hch, hmem, n, hn, hpre⟩ :=
          ihNames (fun n hn => hpath n (List.mem_cons_of_mem _ hn)) opened again hrest
        exact ⟨hch, hmem, n, List.mem_cons_of_mem _ hn, hpre⟩

/-- The chain of a cycle starts at the name that was asked for, leads from each group to one of its
members, and ends in a group that has the repeated name as a member. -/
theorem expand_eq_cycle {opened : List ν} {again : ν}
    (he : h.expand merge name = .error (.cycle opened again)) :
    opened.head? = some name ∧ (opened ++ [again]).IsChain h.HasMember ∧ again ∈ opened := by
  have hall : h.expandAll merge [] [name] = .error (.cycle opened again) :=
    expandAll_cons_eq_error.2 (.inl he)
  obtain ⟨hc, hmem, n, hn, hpre⟩ := expandAll_eq_cycle [] [name] (by simp) opened again hall
  rw [List.mem_singleton] at hn
  subst hn
  refine ⟨?_, hc, hmem⟩
  cases opened with
  | nil => cases hmem
  | cons a opened => simpa [eq_comm] using hpre

end walk

end ZoneFirewall.Hierarchy
