import Mathlib.Data.List.Lex
import ZoneFirewall.Proofs.Flattening
import ZoneFirewall.Proofs.Outcomes

/-!
# Which failure an expansion reports

Below a name there may be many places where an expansion cannot go on: leaves without items, and
groups that are met again while they are open. Each is at the end of a path of member numbers, and
only one of them is reported.

* `Hierarchy.FailsAt`: **the failures below some names**, each with the path that leads to it.
* `FailsAt.unique`: there is one failure at the end of a path at most.
* `Hierarchy.IsFirstFailure`: the failure with the least path in lexicographic order, which is the
  first in depth-first member order.
* `expandAll_eq_error_iff`, `expand_eq_error_iff`: **the failure that is reported is the first.**
* `Flattens.of_reaches`, `reaches_of_expand_eq_leaf`: a name with a list of leaves reaches no leaf
  without items, and such a leaf is reported only if it is reached.
-/

namespace ZoneFirewall.Hierarchy

variable {ν ε α : Type} {h : Hierarchy ν ε α}

/-! ## Failures and their paths -/

/-- A failure below some names and the open groups of a chain. Its path tells the number of the name
that leads to it, then that of the member of this name, and so on. -/
inductive FailsAt (h : Hierarchy ν ε α) : List ν → List ν → List Nat → Failure ν ε → Prop where
  /-- The first name is a leaf without items. -/
  | leaf {chain names : List ν} {name : ν} {e : ε} :
      h.meaning name = .leaf (.error e) → FailsAt h chain (name :: names) [0] (.leaf e)
  /-- The first name is a group that is open. -/
  | met {chain names members : List ν} {name : ν} :
      h.meaning name = .group members → name ∈ chain →
        FailsAt h chain (name :: names) [0] (.cycle chain name)
  /-- The failure is below a member of the first name, a group that is opened. -/
  | inside {chain names members : List ν} {name : ν} {path : List Nat} {f : Failure ν ε} :
      h.meaning name = .group members → name ∉ chain →
        FailsAt h (chain ++ [name]) members path f → FailsAt h chain (name :: names) (0 :: path) f
  /-- The failure is below a later name. -/
  | later {chain names : List ν} {name : ν} {i : Nat} {path : List Nat} {f : Failure ν ε} :
      FailsAt h chain names (i :: path) f → FailsAt h chain (name :: names) ((i + 1) :: path) f

/-- No path is empty. -/
theorem FailsAt.exists_cons {chain names : List ν} {path : List Nat} {f : Failure ν ε}
    (hf : h.FailsAt chain names path f) : ∃ i rest, path = i :: rest := by
  cases hf with
  | leaf => exact ⟨_, _, rfl⟩
  | met => exact ⟨_, _, rfl⟩
  | inside => exact ⟨_, _, rfl⟩
  | later => exact ⟨_, _, rfl⟩

/-- The failure at the end of a path is determined by the path. -/
theorem FailsAt.unique {chain names : List ν} {path : List Nat} {f g : Failure ν ε}
    (hf : h.FailsAt chain names path f) (hg : h.FailsAt chain names path g) : f = g := by
  induction hf with
  | leaf hm =>
      cases hg with
      | leaf hm' => rw [hm] at hm'; cases hm'; rfl
      | met hm' => rw [hm] at hm'; cases hm'
      | inside hm' => rw [hm] at hm'; cases hm'
  | met hm hc =>
      cases hg with
      | leaf hm' => rw [hm] at hm'; cases hm'
      | met => rfl
      | inside _ hc' => exact absurd hc hc'
  | inside hm hc _ ih =>
      cases hg with
      | leaf hm' => rw [hm] at hm'; cases hm'
      | met _ hc' => exact absurd hc' hc
      | inside hm' _ hg =>
          rw [hm] at hm'
          cases hm'
          exact ih hg
  | later _ ih =>
      cases hg with
      | later hg => exact ih hg

/-! ## The first of them -/

/-- A failure below some names such that no other has a path that comes before its own in
lexicographic order. -/
def IsFirstFailure (h : Hierarchy ν ε α) (chain names : List ν) (path : List Nat)
    (f : Failure ν ε) : Prop :=
  h.FailsAt chain names path f ∧
    ∀ path' g, h.FailsAt chain names path' g → ¬ List.Lex (· < ·) path' path

/-- There is at most one first failure. -/
theorem IsFirstFailure.unique {chain names : List ν} {path path' : List Nat} {f g : Failure ν ε}
    (hf : h.IsFirstFailure chain names path f) (hg : h.IsFirstFailure chain names path' g) :
    f = g := by
  have hpath : path = path' :=
    Std.Trichotomous.trichotomous path path' (hg.2 path f hf.1) (hf.2 path' g hg.1)
  subst hpath
  exact hf.1.unique hg.1

/-- A failure at the first name itself is the first. -/
theorem IsFirstFailure.of_head {chain names : List ν} {f : Failure ν ε}
    (hf : h.FailsAt chain names [0] f) : h.IsFirstFailure chain names [0] f := by
  refine ⟨hf, fun path' g hg hlex => ?_⟩
  obtain ⟨i, rest, rfl⟩ := hg.exists_cons
  cases hlex with
  | rel hlt => exact absurd hlt (Nat.not_lt_zero i)
  | cons hrest => cases hrest

/-- The first failure below the members of a group is the first below the group, whatever names
come after it. -/
theorem IsFirstFailure.of_inside {chain names members : List ν} {name : ν} {path : List Nat}
    {f : Failure ν ε} (hm : h.meaning name = .group members) (hc : name ∉ chain)
    (hf : h.IsFirstFailure (chain ++ [name]) members path f) :
    h.IsFirstFailure chain (name :: names) (0 :: path) f := by
  refine ⟨.inside hm hc hf.1, fun path' g hg hlex => ?_⟩
  cases hlex with
  | nil => cases hg
  | rel hlt => exact absurd hlt (Nat.not_lt_zero _)
  | cons hrest =>
      cases hg with
      | leaf hm' => rw [hm] at hm'; cases hm'
      | met _ hc' => exact absurd hc' hc
      | inside hm' _ hg =>
          rw [hm] at hm'
          cases hm'
          exact hf.2 _ _ hg hrest

/-- If there is no failure below the first name, the first failure is the first below the others. -/
theorem IsFirstFailure.of_later {chain names : List ν} {name : ν} {path : List Nat}
    {f : Failure ν ε} (hnone : ∀ path g, ¬ h.FailsAt chain (name :: names) (0 :: path) g)
    (hf : h.IsFirstFailure chain names path f) :
    ∃ path', h.IsFirstFailure chain (name :: names) path' f := by
  obtain ⟨i, rest, rfl⟩ := hf.1.exists_cons
  refine ⟨(i + 1) :: rest, .later hf.1, fun path' g hg hlex => ?_⟩
  obtain ⟨j, rest', rfl⟩ := hg.exists_cons
  cases j with
  | zero => exact hnone rest' g hg
  | succ j =>
      cases hg with
      | later hg =>
          refine hf.2 _ _ hg ?_
          cases hlex with
          | rel hlt => exact .rel (Nat.lt_of_succ_lt_succ hlt)
          | cons hrest => exact .cons hrest

/-! ## What is reported -/

section walk

variable [DecidableEq ν] {merge : List α → List α} {chain : List ν} {name : ν}

/-- Names with a failure below them come to nothing. -/
theorem FailsAt.exists_error (merge : List α → List α) {names : List ν} {path : List Nat}
    {f : Failure ν ε} (hf : h.FailsAt chain names path f) :
    ∃ g, h.expandAll merge chain names = .error g := by
  induction hf with
  | leaf hm => exact ⟨_, expandAll_cons_eq_error.2 (.inl (expandFrom_leaf_error hm))⟩
  | met hm hc => exact ⟨_, expandAll_cons_eq_error.2 (.inl (expandFrom_open hm hc))⟩
  | inside hm hc _ ih =>
      obtain ⟨g, hg⟩ := ih
      refine ⟨g, expandAll_cons_eq_error.2 (.inl ?_)⟩
      rw [expandFrom_closed hm hc, hg]
      rfl
  | @later chain names name i path f _ ih =>
      obtain ⟨g, hg⟩ := ih
      rcases hfirst : h.expandFrom merge chain name with g' | first
      · exact ⟨g', expandAll_cons_eq_error.2 (.inl hfirst)⟩
      · exact ⟨g, expandAll_cons_eq_error.2 (.inr ⟨⟨first, hfirst⟩, hg⟩)⟩

/-- A first name that comes to something has no failure below it. -/
theorem not_failsAt_of_expandFrom_eq_ok {names : List ν} {items : List α}
    (hfirst : h.expandFrom merge chain name = .ok items) (path : List Nat) (g : Failure ν ε) :
    ¬ h.FailsAt chain (name :: names) (0 :: path) g := by
  intro hg
  have hsingle : h.FailsAt chain [name] (0 :: path) g := by
    cases hg with
    | leaf hm => exact .leaf hm
    | met hm hc => exact .met hm hc
    | inside hm hc hg => exact .inside hm hc hg
  obtain ⟨g', hg'⟩ := hsingle.exists_error merge
  have hok : h.expandAll merge chain [name] = .ok items :=
    expandAll_cons_eq_ok.2 ⟨items, [], hfirst, expandAll_nil, by simp⟩
  rw [hok] at hg'
  cases hg'

/-- What is reported is the first failure. -/
theorem exists_isFirstFailure (chain names : List ν) :
    ∀ f, h.expandAll merge chain names = .error f →
      ∃ path, h.IsFirstFailure chain names path f := by
  induction chain, names using h.walk_induction with
  | nil chain =>
      intro f hf
      rw [expandAll_nil] at hf
      cases hf
  | leaf chain name names result hm ih =>
      intro f hf
      rcases expandAll_cons_eq_error.1 hf with hfirst | ⟨⟨first, hfirst⟩, hrest⟩
      · cases result with
        | error e =>
            rw [expandFrom_leaf_error hm] at hfirst
            cases hfirst
            exact ⟨[0], .of_head (.leaf hm)⟩
        | ok own => rw [expandFrom_leaf hm] at hfirst; cases hfirst
      · obtain ⟨path, hpath⟩ := ih f hrest
        exact hpath.of_later (not_failsAt_of_expandFrom_eq_ok hfirst)
  | met chain name names members hm hc _ =>
      intro f hf
      rcases expandAll_cons_eq_error.1 hf with hfirst | ⟨⟨first, hfirst⟩, -⟩
      · rw [expandFrom_open hm hc] at hfirst
        cases hfirst
        exact ⟨[0], .of_head (.met hm hc)⟩
      · rw [expandFrom_open hm hc] at hfirst
        cases hfirst
  | enter chain name names members hm hc ihMembers ihNames =>
      intro f hf
      rcases expandAll_cons_eq_error.1 hf with hfirst | ⟨⟨first, hfirst⟩, hrest⟩
      · rw [expandFrom_closed hm hc, map_eq_error] at hfirst
        obtain ⟨path, hpath⟩ := ihMembers f hfirst
        exact ⟨0 :: path, hpath.of_inside hm hc⟩
      · obtain ⟨path, hpath⟩ := ihNames f hrest
        exact hpath.of_later (not_failsAt_of_expandFrom_eq_ok hfirst)

/-- **Names come to nothing exactly for the first failure below them.** -/
theorem expandAll_eq_error_iff {names : List ν} {f : Failure ν ε} :
    h.expandAll merge chain names = .error f ↔ ∃ path, h.IsFirstFailure chain names path f := by
  constructor
  · exact exists_isFirstFailure chain names f
  · rintro ⟨path, hf⟩
    obtain ⟨g, hg⟩ := hf.1.exists_error merge
    obtain ⟨path', hg'⟩ := exists_isFirstFailure chain names g hg
    rw [hg, hf.unique hg']

/-- A name comes to nothing exactly for the first failure below it. -/
theorem expand_eq_error_iff {f : Failure ν ε} :
    h.expand merge name = .error f ↔ ∃ path, h.IsFirstFailure [] [name] path f := by
  have hall : h.expandAll merge [] [name] = .error f ↔ h.expand merge name = .error f := by
    rw [expandAll_cons_eq_error, expandAll_nil]
    simp [expand]
  rw [← hall]
  exact expandAll_eq_error_iff

end walk

/-! ## Leaves without items -/

/-- Each of some names with a list of leaves has one of its own. -/
theorem Flattens.of_mem {names : List ν} {items : List α} (hf : h.Flattens names items) :
    ∀ n ∈ names, ∃ own, h.Flattens [n] own := by
  induction hf with
  | nil => intro n hn; cases hn
  | leaf hm _ ih =>
      intro n hn
      rcases List.mem_cons.1 hn with rfl | hn
      · exact ⟨_, .leaf hm .nil⟩
      · exact ih n hn
  | group hm hinner _ _ ih =>
      intro n hn
      rcases List.mem_cons.1 hn with rfl | hn
      · exact ⟨_, .group hm hinner .nil⟩
      · exact ih n hn

/-- What a name with a list of leaves reaches has one, too. -/
theorem Flattens.of_reaches {a b : ν} {items : List α} (hf : h.Flattens [a] items)
    (hab : Relation.ReflTransGen h.HasMember a b) : ∃ own, h.Flattens [b] own := by
  induction hab with
  | refl => exact ⟨items, hf⟩
  | tail _ hbc ih =>
      obtain ⟨own, hown⟩ := ih
      obtain ⟨members, hg, hmem⟩ := hbc
      cases hown with
      | leaf hm => rw [hg] at hm; cases hm
      | group hm hinner =>
          rw [hg] at hm
          cases hm
          exact hinner.of_mem _ hmem

/-- A leaf without items has no list of leaves. -/
theorem Flattens.meaning_ne_error {name : ν} {items : List α} (hf : h.Flattens [name] items)
    (e : ε) : h.meaning name ≠ .leaf (.error e) := by
  intro he
  cases hf with
  | leaf hm => rw [he] at hm; cases hm
  | group hm => rw [he] at hm; cases hm

/-- A failure at a leaf is at a leaf that is reached from one of the names. -/
theorem FailsAt.reaches_leaf {chain names : List ν} {path : List Nat} {f : Failure ν ε}
    (hf : h.FailsAt chain names path f) :
    ∀ e, f = .leaf e → ∃ n ∈ names, ∃ m, Relation.ReflTransGen h.HasMember n m ∧
      h.meaning m = .leaf (.error e) := by
  induction hf with
  | leaf hm =>
      rintro e he
      cases he
      exact ⟨_, List.mem_cons_self, _, .refl, hm⟩
  | met => intro e he; cases he
  | inside hg _ _ ih =>
      intro e he
      obtain ⟨n, hn, m, hnm, hm⟩ := ih e he
      exact ⟨_, List.mem_cons_self, m, .head ⟨_, hg, hn⟩ hnm, hm⟩
  | later _ ih =>
      intro e he
      obtain ⟨n, hn, hreach⟩ := ih e he
      exact ⟨n, List.mem_cons_of_mem _ hn, hreach⟩

/-- A leaf whose failure is reported is reached from the name. -/
theorem reaches_of_expand_eq_leaf [DecidableEq ν] {merge : List α → List α} {name : ν} {e : ε}
    (he : h.expand merge name = .error (.leaf e)) :
    ∃ m, Relation.ReflTransGen h.HasMember name m ∧ h.meaning m = .leaf (.error e) := by
  obtain ⟨path, hf, -⟩ := expand_eq_error_iff.1 he
  obtain ⟨n, hn, hreach⟩ := hf.reaches_leaf e rfl
  rw [List.mem_singleton] at hn
  subst hn
  exact hreach

end ZoneFirewall.Hierarchy
