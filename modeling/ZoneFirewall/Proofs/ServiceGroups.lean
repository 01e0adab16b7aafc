import Mathlib.Data.List.Induction
import ZoneFirewall.Proofs.FirstFailure
import ZoneFirewall.Service.Catalog

/-!
# What a service name comes to

Services have definitions, and groups of services have those of their members. A name that is
neither, or a group that contains itself, leaves a name without definitions. Here the definitions
behind a name are compared with the tables of the catalog, as they are.

* `Catalog.HasMember`: from a group to its members. A service has no members, even if there is a
  group of its name.
* `Catalog.Flattens`: the definitions below some names, depth first and in member order.
* `Catalog.FailsAt`: the names below some others at which there is nothing to go on with, each with
  the path of member numbers that leads to it.
* `Catalog.distinct_eq_eraseDups`, `pairwise_idxOf_eraseDups`: what the list of protocols is.
* `definitions_flattens_or_fails`: **a name has definitions exactly if every name that it reaches is
  known and no group among these reaches itself**; else the first failure in depth-first member
  order is reported.

Nothing is assumed of the catalog: groups may name each other in any way.
-/

namespace ZoneFirewall

open Text

/-! ## Distinct items -/

section distinct

variable {α : Type} [DecidableEq α]

/-- One item more is one distinct item more, unless it has come before. -/
theorem eraseDups_append_singleton (as : List α) (a : α) :
    (as ++ [a]).eraseDups = if a ∈ as then as.eraseDups else as.eraseDups ++ [a] := by
  rw [List.eraseDups_append]
  by_cases h : a ∈ as
  · simp [List.cons_removeAll, h]
  · simp [List.cons_removeAll, h, List.eraseDups_cons]

/-- Distinct items stand in the order of their first use. -/
theorem pairwise_idxOf_eraseDups (as : List α) :
    as.eraseDups.Pairwise fun a b => as.idxOf a < as.idxOf b := by
  induction as using List.reverseRecOn with
  | nil => simp
  | append_singleton as x ih =>
      have hold : as.eraseDups.Pairwise fun a b => (as ++ [x]).idxOf a < (as ++ [x]).idxOf b := by
        refine ih.imp_of_mem fun {a b} ha hb hlt => ?_
        rw [List.mem_eraseDups] at ha hb
        rwa [List.idxOf_append_of_mem ha, List.idxOf_append_of_mem hb]
      rw [eraseDups_append_singleton]
      split
      · exact hold
      · rename_i hx
        refine List.pairwise_append.2 ⟨hold, List.pairwise_singleton _ _, fun a ha b hb => ?_⟩
        rw [List.mem_eraseDups] at ha
        obtain rfl := List.mem_singleton.1 hb
        rw [List.idxOf_append_of_mem ha, List.idxOf_append_of_notMem hx]
        have hlt := List.idxOf_lt_length_of_mem ha
        omega

/-- The items that are kept are the library's. -/
theorem Catalog.distinct_eq_eraseDups (items : List α) : distinct items = items.eraseDups := by
  induction items using List.reverseRecOn with
  | nil => rfl
  | append_singleton items x ih =>
      rw [distinct] at ih ⊢
      rw [List.foldl_append, ih, eraseDups_append_singleton]
      simp only [List.foldl_cons, List.foldl_nil, List.mem_eraseDups]

end distinct

namespace Catalog

variable {c : Catalog}

/-! ## The names of a catalog -/

/-- The name `group` is a group and no service, and `member` is a member of it. -/
def HasMember (c : Catalog) (group member : WideText) : Prop :=
  c.services.get? group = none ∧ ∃ members, c.groups.get? group = some members ∧ member ∈ members

/-- The definitions below some names, depth first and in member order. -/
inductive Flattens (c : Catalog) : List WideText → List Definition → Prop where
  /-- No names have no definitions. -/
  | nil : Flattens c [] []
  /-- A service has its own definitions. -/
  | service {name : WideText} {names : List WideText} {ds rest : List Definition} :
      c.services.get? name = some ds → Flattens c names rest →
        Flattens c (name :: names) (ds ++ rest)
  /-- A group that is no service has the definitions of its members. -/
  | group {name : WideText} {members names : List WideText} {inner rest : List Definition} :
      c.services.get? name = none → c.groups.get? name = some members →
        Flattens c members inner → Flattens c names rest →
          Flattens c (name :: names) (inner ++ rest)

/-- A failure below some names and the open groups of a chain. Its path tells the number of the name
that leads to it, then that of the member of this name, and so on. -/
inductive FailsAt (c : Catalog) : List WideText → List WideText → List Nat → Failure → Prop where
  /-- The first name is neither a service nor a group. -/
  | unknown {chain names : List WideText} {name : WideText} :
      c.contains name = false → FailsAt c chain (name :: names) [0] (.leaf name)
  /-- The first name is a group that is open. -/
  | cycle {chain names members : List WideText} {name : WideText} :
      c.services.get? name = none → c.groups.get? name = some members → name ∈ chain →
        FailsAt c chain (name :: names) [0] (.cycle chain name)
  /-- The failure is below a member of the first name, a group that is opened. -/
  | inside {chain names members : List WideText} {name : WideText} {path : List Nat}
      {f : Failure} :
      c.services.get? name = none → c.groups.get? name = some members → name ∉ chain →
        FailsAt c (chain ++ [name]) members path f → FailsAt c chain (name :: names) (0 :: path) f
  /-- The failure is below a later name. -/
  | later {chain names : List WideText} {name : WideText} {i : Nat} {path : List Nat}
      {f : Failure} :
      FailsAt c chain names (i :: path) f → FailsAt c chain (name :: names) ((i + 1) :: path) f

/-! ### What a name stands for in the hierarchy -/

/-- A catalog lacks a name that is neither a service nor a group. -/
theorem contains_eq_false_iff {name : WideText} :
    c.contains name = false ↔ c.services.get? name = none ∧ c.groups.get? name = none := by
  simp [contains, Table.contains]

/-- A name is a leaf if it is a service. -/
theorem meaning_eq_ok_iff {name : WideText} {ds : List Definition} :
    c.hierarchy.meaning name = .leaf (.ok ds) ↔ c.services.get? name = some ds := by
  rcases hs : c.services.get? name with _ | ds'
  · rcases hg : c.groups.get? name with _ | members
    · simp [hierarchy, hs, hg]
    · simp [hierarchy, hs, hg]
  · simp [hierarchy, hs]

/-- It is a group if it is one and no service. -/
theorem meaning_eq_group_iff {name : WideText} {members : List WideText} :
    c.hierarchy.meaning name = .group members ↔
      c.services.get? name = none ∧ c.groups.get? name = some members := by
  rcases hs : c.services.get? name with _ | ds
  · rcases hg : c.groups.get? name with _ | members'
    · simp [hierarchy, hs, hg]
    · simp [hierarchy, hs, hg]
  · simp [hierarchy, hs]

/-- It is a failure if the catalog lacks it. -/
theorem meaning_eq_error_iff {name e : WideText} :
    c.hierarchy.meaning name = .leaf (.error e) ↔ c.contains name = false ∧ name = e := by
  rw [contains_eq_false_iff]
  rcases hs : c.services.get? name with _ | ds
  · rcases hg : c.groups.get? name with _ | members
    · simp [hierarchy, hs, hg]
    · simp [hierarchy, hs, hg]
  · simp [hierarchy, hs]

/-- The edges of the catalog are those of its hierarchy. -/
theorem hasMember_hierarchy : c.hierarchy.HasMember = c.HasMember := by
  funext group member
  simp only [Hierarchy.HasMember, HasMember, meaning_eq_group_iff, and_assoc, exists_and_left]

/-- The definitions below names are the items at the leaves of the hierarchy. -/
theorem flattens_hierarchy {names : List WideText} {ds : List Definition} :
    c.hierarchy.Flattens names ds ↔ c.Flattens names ds := by
  constructor
  · intro hf
    induction hf with
    | nil => exact .nil
    | leaf hm _ ih => exact .service (meaning_eq_ok_iff.1 hm) ih
    | group hm _ _ ihInner ihRest =>
        obtain ⟨hs, hg⟩ := meaning_eq_group_iff.1 hm
        exact .group hs hg ihInner ihRest
  · intro hf
    induction hf with
    | nil => exact .nil
    | service hs _ ih => exact .leaf (meaning_eq_ok_iff.2 hs) ih
    | group hs hg _ _ ihInner ihRest =>
        exact .group (meaning_eq_group_iff.2 ⟨hs, hg⟩) ihInner ihRest

/-- The failures below names are those of the hierarchy. -/
theorem failsAt_hierarchy {chain names : List WideText} {path : List Nat} {f : Failure} :
    c.hierarchy.FailsAt chain names path f ↔ c.FailsAt chain names path f := by
  constructor
  · intro hf
    induction hf with
    | leaf hm =>
        obtain ⟨hc, rfl⟩ := meaning_eq_error_iff.1 hm
        exact .unknown hc
    | met hm hmem =>
        obtain ⟨hs, hg⟩ := meaning_eq_group_iff.1 hm
        exact .cycle hs hg hmem
    | inside hm hmem _ ih =>
        obtain ⟨hs, hg⟩ := meaning_eq_group_iff.1 hm
        exact .inside hs hg hmem ih
    | later _ ih => exact .later ih
  · intro hf
    induction hf with
    | unknown hc => exact .leaf (meaning_eq_error_iff.2 ⟨hc, rfl⟩)
    | cycle hs hg hmem => exact .met (meaning_eq_group_iff.2 ⟨hs, hg⟩) hmem
    | inside hs hg hmem _ ih => exact .inside (meaning_eq_group_iff.2 ⟨hs, hg⟩) hmem ih
    | later _ ih => exact .later ih

/-! ## Definitions -/

/-- Groups leave the definitions of their members as they are. -/
theorem merging_id : c.hierarchy.Merging id where
  nil := rfl
  append _ _ := rfl
  leaf _ := rfl

/-- What a name comes to are the definitions below it. -/
theorem flattens_of_definitions {name : WideText} {ds : List Definition}
    (h : c.definitions name = .ok ds) : c.Flattens [name] ds := by
  obtain ⟨leaves, hl, rfl⟩ := Hierarchy.expand_eq_ok merging_id h
  exact flattens_hierarchy.1 hl

/-- A name that is reported to be unknown is reached and unknown. -/
theorem reaches_unknown_of_definitions {name m : WideText}
    (h : c.definitions name = .error (.leaf m)) :
    Relation.ReflTransGen c.HasMember name m ∧ c.contains m = false := by
  obtain ⟨m', hreach, hm⟩ := Hierarchy.reaches_of_expand_eq_leaf h
  obtain ⟨hc, rfl⟩ := meaning_eq_error_iff.1 hm
  rw [hasMember_hierarchy] at hreach
  exact ⟨hreach, hc⟩

/-- The chain of a reported cycle leads from the name to a group that has the repeated name as a
member, and that name, one of the chain, reaches itself. -/
theorem chain_of_definitions {name again : WideText} {chain : List WideText}
    (h : c.definitions name = .error (.cycle chain again)) :
    chain.head? = some name ∧ (chain ++ [again]).IsChain c.HasMember ∧ again ∈ chain ∧
      Relation.ReflTransGen c.HasMember name again ∧ Relation.TransGen c.HasMember again again := by
  obtain ⟨hroot, hchain, hmem⟩ := Hierarchy.expand_eq_cycle h
  rw [hasMember_hierarchy] at hchain
  exact ⟨hroot, hchain, hmem, Hierarchy.reaches_cycle_of_isChain hroot hchain hmem⟩

/-- What a name with definitions below it reaches is known and in no cycle. -/
theorem Flattens.sound_of_reaches {name m : WideText} {ds : List Definition}
    (hf : c.Flattens [name] ds) (hm : Relation.ReflTransGen c.HasMember name m) :
    c.contains m = true ∧ ¬ Relation.TransGen c.HasMember m m := by
  have hf := flattens_hierarchy.2 hf
  rw [← hasMember_hierarchy] at hm ⊢
  refine ⟨?_, hf.not_reaches_cycle (List.mem_singleton_self name) hm⟩
  obtain ⟨own, hown⟩ := hf.of_reaches hm
  by_contra hc
  exact hown.meaning_ne_error m (meaning_eq_error_iff.2 ⟨Bool.eq_false_iff.2 hc, rfl⟩)

/-- A name that reaches no unknown name and no cycle has definitions. -/
theorem exists_definitions_of_sound {name : WideText}
    (h : ∀ m, Relation.ReflTransGen c.HasMember name m →
      c.contains m = true ∧ ¬ Relation.TransGen c.HasMember m m) :
    ∃ ds, c.definitions name = .ok ds := by
  rcases hd : c.definitions name with (m | ⟨chain, again⟩) | ds
  · obtain ⟨hreach, hunknown⟩ := reaches_unknown_of_definitions hd
    have hknown := (h m hreach).1
    rw [hunknown] at hknown
    cases hknown
  · obtain ⟨-, -, -, hreach, hloop⟩ := chain_of_definitions hd
    exact absurd hloop (h again hreach).2
  · exact ⟨ds, rfl⟩

/-- The definitions below a name are what it comes to. -/
theorem definitions_of_flattens {name : WideText} {ds : List Definition}
    (hf : c.Flattens [name] ds) : c.definitions name = .ok ds := by
  obtain ⟨ds', hd⟩ := exists_definitions_of_sound fun m hm => hf.sound_of_reaches hm
  rw [hd, (flattens_hierarchy.2 (flattens_of_definitions hd)).unique (flattens_hierarchy.2 hf)]

/-- A service comes to its definitions. -/
theorem definitions_of_get? {name : WideText} {ds : List Definition}
    (h : c.services.get? name = some ds) : c.definitions name = .ok ds := by
  have hf : c.Flattens [name] (ds ++ []) := .service h .nil
  rw [definitions_of_flattens hf, List.append_nil]

/-- A name without definitions is reported for the first failure below it. -/
theorem definitions_eq_error_iff {name : WideText} {f : Failure} :
    c.definitions name = .error f ↔
      ∃ path, c.FailsAt [] [name] path f ∧
        ∀ path' g, c.FailsAt [] [name] path' g → ¬ List.Lex (· < ·) path' path := by
  rw [definitions, Hierarchy.expand_eq_error_iff]
  simp only [Hierarchy.IsFirstFailure, failsAt_hierarchy]

/-- **What a service name comes to.** It has definitions exactly if every name that it reaches is a
service or a group and none of these reaches itself; these are the definitions of the services
below it, depth first and in member order. A name that is reported to be unknown is reached and
unknown; the chain of a reported cycle starts at the name, goes from each group to one of its
members and closes a cycle. Of several failures, the one whose path of member numbers comes first is
reported. Protocols fail for the same reason; else they are those of the definitions, each once and
in the order of its first use. -/
theorem definitions_flattens_or_fails (c : Catalog) (name : WideText) :
    ((∃ ds, c.definitions name = .ok ds) ↔
      ∀ m, Relation.ReflTransGen c.HasMember name m →
        c.contains m = true ∧ ¬ Relation.TransGen c.HasMember m m) ∧
    (∀ ds, c.definitions name = .ok ds ↔ c.Flattens [name] ds) ∧
    (∀ m, c.definitions name = .error (.leaf m) →
      Relation.ReflTransGen c.HasMember name m ∧ c.contains m = false) ∧
    (∀ chain again, c.definitions name = .error (.cycle chain again) →
      chain.head? = some name ∧ (chain ++ [again]).IsChain c.HasMember ∧ again ∈ chain ∧
        Relation.TransGen c.HasMember again again) ∧
    (∀ f, c.definitions name = .error f ↔
      ∃ path, c.FailsAt [] [name] path f ∧
        ∀ path' g, c.FailsAt [] [name] path' g → ¬ List.Lex (· < ·) path' path) ∧
    (∀ f, c.protocols name = .error f ↔ c.definitions name = .error f) ∧
    (∀ ds, c.definitions name = .ok ds → ∃ protocols, c.protocols name = .ok protocols ∧
      (∀ p, p ∈ protocols ↔ ∃ d ∈ ds, d.protocol = p) ∧
        protocols.Pairwise fun p q =>
          (ds.map (·.protocol)).idxOf p < (ds.map (·.protocol)).idxOf q) := by
  refine ⟨⟨?_, exists_definitions_of_sound⟩, fun ds => ⟨flattens_of_definitions,
    definitions_of_flattens⟩, fun m => reaches_unknown_of_definitions, ?_,
    fun f => definitions_eq_error_iff, fun f => map_eq_error, ?_⟩
  · rintro ⟨ds, hd⟩ m hm
    exact (flattens_of_definitions hd).sound_of_reaches hm
  · intro chain again hd
    obtain ⟨hroot, hchain, hmem, -, hloop⟩ := chain_of_definitions hd
    exact ⟨hroot, hchain, hmem, hloop⟩
  · intro ds hd
    refine ⟨(ds.map (·.protocol)).eraseDups, ?_, fun p => ?_, pairwise_idxOf_eraseDups _⟩
    · rw [protocols, hd, Except.map, distinct_eq_eraseDups]
    · rw [List.mem_eraseDups, List.mem_map]

end Catalog

end ZoneFirewall
