import ZoneFirewall.AddressBook.Resolve
import ZoneFirewall.Proofs.Flattening

/-!
# What a reference resolves to

Resolving keeps the first of equal addresses at every group it leaves, and remembers the groups
that are open to notice a cycle. Neither shows in the outcome.

* `AddressBook.HasMember`: the edges of a zone. A name with a meaning of its own has no members,
  even if the book keeps a group under it.
* `AddressBook.Flattens`: the leaves below some names of a zone, depth first and in member order.
* `Resolved.dedup_eq_eraseDupsBy`: **de-duplication is the library's**, by address and prefix
  length; `Resolved.dedup_append_dedup`: it does not matter at which groups it is done.
* `resolve_flattens_or_cycles`: **a reference resolves exactly if no group that it reaches reaches
  itself**, to its leaves without later repetitions; else the reported chain leads from the
  reference into a cycle.

Nothing is assumed of the book: groups may name each other in any way.
-/

namespace ZoneFirewall

/-! ## De-duplication -/

namespace Resolved

/-- The entries kept so far and one more, unless its address has come before. -/
def keep (kept : List Resolved) (x : Resolved) : List Resolved :=
  if kept.any (·.address = x.address) then kept else kept ++ [x]

/-- Items are kept one by one. -/
theorem dedup_eq_foldl (xs : List Resolved) : dedup xs = xs.foldl keep [] := rfl

/-- An address that is kept stays kept. -/
theorem any_address_keep {kept : List Resolved} {x : Resolved} {a : Interface} :
    (keep kept x).any (·.address = a) = (kept.any (·.address = a) || decide (x.address = a)) := by
  unfold keep
  split
  · rename_i hx
    by_cases ha : x.address = a
    · subst ha; simpa using hx
    · simp [ha]
  · simp

/-- Every address is kept once it has come. -/
theorem any_address_foldl_keep {xs kept : List Resolved} {a : Interface} :
    (xs.foldl keep kept).any (·.address = a)
      = (kept.any (·.address = a) || xs.any (·.address = a)) := by
  induction xs generalizing kept with
  | nil => simp
  | cons x xs ih => rw [List.foldl_cons, ih, any_address_keep, List.any_cons, Bool.or_assoc]

/-- Entries that were kept once are kept again in the same way. -/
theorem foldl_keep_foldl_keep (xs kept inner : List Resolved) :
    (xs.foldl keep inner).foldl keep kept = xs.foldl keep (inner.foldl keep kept) := by
  induction xs generalizing inner with
  | nil => rfl
  | cons x xs ih =>
      rw [List.foldl_cons, List.foldl_cons, ih]
      congr 1
      by_cases hx : inner.any (·.address = x.address)
      · have hkept : (inner.foldl keep kept).any (·.address = x.address) := by
          rw [any_address_foldl_keep, hx, Bool.or_true]
        rw [keep, if_pos hx, keep, if_pos hkept]
      · rw [keep, if_neg hx, List.foldl_append, List.foldl_cons, List.foldl_nil]

/-- Parts may be de-duplicated before the whole is. -/
theorem dedup_append_dedup (xs ys : List Resolved) :
    dedup (dedup xs ++ dedup ys) = dedup (xs ++ ys) := by
  simp only [dedup_eq_foldl, List.foldl_append, foldl_keep_foldl_keep, List.foldl_nil]

/-- De-duplication after some entries: the others without the addresses of these. -/
theorem foldl_keep_eq (xs kept : List Resolved) :
    xs.foldl keep kept
      = kept ++ (xs.filter fun x => !kept.any (·.address = x.address)).eraseDupsBy
          fun x y => x.address == y.address := by
  induction xs generalizing kept with
  | nil => simp
  | cons x xs ih =>
      rw [List.foldl_cons, ih]
      by_cases hx : kept.any (·.address = x.address)
      · rw [keep, if_pos hx, List.filter_cons_of_neg (by simpa using hx)]
      · rw [keep, if_neg hx, List.filter_cons_of_pos (by simpa using hx),
          List.eraseDupsBy_cons, List.append_assoc, List.singleton_append, List.filter_filter]
        congr 3
        apply List.filter_congr
        intro y _
        by_cases hy : x.address = y.address
        · simp [hy]
        · simp [hy, Ne.symm hy]

/-- De-duplication keeps the first entry of each address and prefix length. -/
theorem dedup_eq_eraseDupsBy (xs : List Resolved) :
    dedup xs = xs.eraseDupsBy fun x y => x.address == y.address := by
  rw [dedup_eq_foldl, foldl_keep_eq]
  simp

end Resolved

/-! ## The names of a zone -/

namespace AddressBook

variable {b : AddressBook} {zone : String}

/-- The name has no meaning of its own, so that it is looked up. -/
def IsLookedUp (name : String) : Prop := isAnyName name = false ∧ inlineAddress? name = none

/-- In a zone, `group` is looked up and has `member` as a member. -/
def HasMember (b : AddressBook) (zone group member : String) : Prop :=
  IsLookedUp group ∧ ∃ o, b.get? zone group = some o ∧ member ∈ o.members

/-- The leaves below some names of a zone, depth first and in member order. -/
inductive Flattens (b : AddressBook) (zone : String) : List String → List Resolved → Prop where
  /-- No names have no leaves. -/
  | nil : Flattens b zone [] []
  /-- A spelling of `any` is the network of all addresses. -/
  | wildcard {name : String} {names : List String} {rest : List Resolved} :
      isAnyName name = true → Flattens b zone names rest →
        Flattens b zone (name :: names) (⟨name, .wildcard⟩ :: rest)
  /-- A name may carry its address in itself. -/
  | inline {name : String} {address : Interface} {names : List String} {rest : List Resolved} :
      isAnyName name = false → inlineAddress? name = some address → Flattens b zone names rest →
        Flattens b zone (name :: names) (⟨name, address⟩ :: rest)
  /-- A name that stands for nothing adds nothing. -/
  | unknown {name : String} {names : List String} {rest : List Resolved} :
      IsLookedUp name → b.get? zone name = none → Flattens b zone names rest →
        Flattens b zone (name :: names) rest
  /-- An object without members is its address. -/
  | plain {name : String} {o : AddressObject} {address : Interface} {names : List String}
      {rest : List Resolved} :
      IsLookedUp name → b.get? zone name = some o → o.members = [] → o.address = some address →
        Flattens b zone names rest → Flattens b zone (name :: names) (⟨name, address⟩ :: rest)
  /-- A group is the leaves of its members. -/
  | group {name : String} {o : AddressObject} {names : List String} {inner rest : List Resolved} :
      IsLookedUp name → b.get? zone name = some o → o.members ≠ [] →
        Flattens b zone o.members inner → Flattens b zone names rest →
          Flattens b zone (name :: names) (inner ++ rest)

/-! ### What a name stands for in the hierarchy -/

/-- A spelling of `any` is the network of all addresses. -/
theorem meaning_of_isAnyName {name : String} (ha : isAnyName name = true) :
    (b.hierarchy zone).meaning name = .leaf (.ok [⟨name, .wildcard⟩]) := by
  simp [hierarchy, ha]

/-- A name that carries its address is this address. -/
theorem meaning_of_inline {name : String} {address : Interface} (ha : isAnyName name = false)
    (hi : inlineAddress? name = some address) :
    (b.hierarchy zone).meaning name = .leaf (.ok [⟨name, address⟩]) := by
  simp [hierarchy, ha, hi]

/-- A name that stands for nothing has nothing below it. -/
theorem meaning_of_get?_eq_none {name : String} (hl : IsLookedUp name)
    (hg : b.get? zone name = none) : (b.hierarchy zone).meaning name = .leaf (.ok []) := by
  simp [hierarchy, hl.1, hl.2, hg]

/-- An object without members is its address. -/
theorem meaning_of_plain {name : String} {o : AddressObject} {address : Interface}
    (hl : IsLookedUp name) (hg : b.get? zone name = some o) (hm : o.members = [])
    (ha : o.address = some address) :
    (b.hierarchy zone).meaning name = .leaf (.ok [⟨name, address⟩]) := by
  simp [hierarchy, hl.1, hl.2, hg, AddressObject.isGroup, hm, ha]

/-- An object with members is a group, whether or not it has an address. -/
theorem meaning_of_group {name : String} {o : AddressObject} (hl : IsLookedUp name)
    (hg : b.get? zone name = some o) (hm : o.members ≠ []) :
    (b.hierarchy zone).meaning name = .group o.members := by
  simp [hierarchy, hl.1, hl.2, hg, AddressObject.isGroup, hm]

/-- **What a name can be**: a case for each rule of `Flattens`. An object without members has an
address, since no object is without both. -/
theorem name_cases (b : AddressBook) (zone name : String) {motive : Prop}
    (wildcard : isAnyName name = true → motive)
    (inline : ∀ address, isAnyName name = false → inlineAddress? name = some address → motive)
    (unknown : IsLookedUp name → b.get? zone name = none → motive)
    (plain : ∀ o address, IsLookedUp name → b.get? zone name = some o → o.members = [] →
      o.address = some address → motive)
    (group : ∀ o, IsLookedUp name → b.get? zone name = some o → o.members ≠ [] → motive) :
    motive := by
  rcases ha : isAnyName name with _ | _
  · rcases hi : inlineAddress? name with _ | address
    · have hl : IsLookedUp name := ⟨ha, hi⟩
      rcases hg : b.get? zone name with _ | o
      · exact unknown hl hg
      · by_cases hm : o.members = []
        · have hsome : o.address.isSome := o.address_or_members.resolve_right (by simp [hm])
          obtain ⟨address, haddr⟩ := Option.isSome_iff_exists.1 hsome
          exact plain o address hl hg hm haddr
        · exact group o hl hg hm
    · exact inline address ha hi
  · exact wildcard ha

/-- The groups of the hierarchy are the names that are looked up and have members. -/
theorem meaning_eq_group {name : String} {members : List String}
    (hm : (b.hierarchy zone).meaning name = .group members) :
    IsLookedUp name ∧ ∃ o, b.get? zone name = some o ∧ o.members = members ∧ members ≠ [] := by
  apply name_cases b zone name
  · intro ha; rw [meaning_of_isAnyName ha] at hm; cases hm
  · intro address ha hi; rw [meaning_of_inline ha hi] at hm; cases hm
  · intro hl hg; rw [meaning_of_get?_eq_none hl hg] at hm; cases hm
  · intro o address hl hg hnil ha; rw [meaning_of_plain hl hg hnil ha] at hm; cases hm
  · intro o hl hg hne
    rw [meaning_of_group hl hg hne] at hm
    cases hm
    exact ⟨hl, o, hg, rfl, hne⟩

/-- The edges of the zone are those of its hierarchy. -/
theorem hasMember_hierarchy : (b.hierarchy zone).HasMember = b.HasMember zone := by
  funext name member
  apply propext
  constructor
  · rintro ⟨members, hm, hmem⟩
    obtain ⟨hl, o, hg, rfl, -⟩ := meaning_eq_group hm
    exact ⟨hl, o, hg, hmem⟩
  · rintro ⟨hl, o, hg, hmem⟩
    exact ⟨o.members, meaning_of_group hl hg (List.ne_nil_of_mem hmem), hmem⟩

/-- The leaves of the zone are those of its hierarchy. -/
theorem flattens_hierarchy {names : List String} {items : List Resolved} :
    (b.hierarchy zone).Flattens names items ↔ b.Flattens zone names items := by
  constructor
  · intro hf
    induction hf with
    | nil => exact .nil
    | @leaf name _ _ _ hm _ ih =>
        apply name_cases b zone name
        · intro ha
          rw [meaning_of_isAnyName ha] at hm
          cases hm
          exact .wildcard ha ih
        · intro address ha hi
          rw [meaning_of_inline ha hi] at hm
          cases hm
          exact .inline ha hi ih
        · intro hl hg
          rw [meaning_of_get?_eq_none hl hg] at hm
          cases hm
          exact .unknown hl hg ih
        · intro o address hl hg hnil ha
          rw [meaning_of_plain hl hg hnil ha] at hm
          cases hm
          exact .plain hl hg hnil ha ih
        · intro o hl hg hne
          rw [meaning_of_group hl hg hne] at hm
          cases hm
    | group hm _ _ ihInner ihRest =>
        obtain ⟨hl, o, hg, rfl, hne⟩ := meaning_eq_group hm
        exact .group hl hg hne ihInner ihRest
  · intro hf
    induction hf with
    | nil => exact .nil
    | wildcard ha _ ih => exact .leaf (meaning_of_isAnyName ha) ih
    | inline ha hi _ ih => exact .leaf (meaning_of_inline ha hi) ih
    | unknown hl hg _ ih => exact .leaf (meaning_of_get?_eq_none hl hg) ih
    | plain hl hg hnil ha _ ih => exact .leaf (meaning_of_plain hl hg hnil ha) ih
    | group hl hg hne _ _ ihInner ihRest =>
        exact .group (meaning_of_group hl hg hne) ihInner ihRest

/-! ## Resolution -/

/-- De-duplication at every group is de-duplication at the end. -/
theorem merging_dedup : (b.hierarchy zone).Merging Resolved.dedup where
  nil := rfl
  append := Resolved.dedup_append_dedup
  leaf {name items} hm := by
    -- a leaf has one entry at most
    apply name_cases b zone name
    · intro ha; rw [meaning_of_isAnyName ha] at hm; cases hm; rfl
    · intro address ha hi; rw [meaning_of_inline ha hi] at hm; cases hm; rfl
    · intro hl hg; rw [meaning_of_get?_eq_none hl hg] at hm; cases hm; rfl
    · intro o address hl hg hnil ha; rw [meaning_of_plain hl hg hnil ha] at hm; cases hm; rfl
    · intro o hl hg hne; rw [meaning_of_group hl hg hne] at hm; cases hm

/-- Resolving succeeds as the walk of the hierarchy does. -/
theorem resolve_eq_ok {name : String} {items : List Resolved} :
    b.resolve zone name = .ok items
      ↔ (b.hierarchy zone).expand Resolved.dedup name = .ok items := by
  unfold resolve
  split
  · rename_i h; rw [h]; simp
  · rename_i h; rw [h]; simp

/-- It fails as the walk does. -/
theorem resolve_eq_error {name : String} {cycle : Cycle} :
    b.resolve zone name = .error cycle
      ↔ (b.hierarchy zone).expand Resolved.dedup name = .error (.cycle cycle.chain cycle.name) := by
  obtain ⟨chain, again⟩ := cycle
  unfold resolve
  split
  · rename_i h; rw [h]; simp
  · rename_i h; rw [h]; simp

/-- A reference that resolves has leaves, and resolves to these without later repetitions. -/
theorem flattens_of_resolve {name : String} {items : List Resolved}
    (h : b.resolve zone name = .ok items) :
    ∃ leaves, b.Flattens zone [name] leaves ∧
      items = leaves.eraseDupsBy fun x y => x.address == y.address := by
  obtain ⟨leaves, hl, rfl⟩ := Hierarchy.expand_eq_ok merging_dedup (resolve_eq_ok.1 h)
  exact ⟨leaves, flattens_hierarchy.1 hl, Resolved.dedup_eq_eraseDupsBy leaves⟩

/-- The chain of a reported cycle leads from the reference to a group that has the repeated name as
a member, and that name is one of the chain. -/
theorem chain_of_resolve {name : String} {cycle : Cycle}
    (h : b.resolve zone name = .error cycle) :
    cycle.chain.head? = some name ∧ (cycle.chain ++ [cycle.name]).IsChain (b.HasMember zone) ∧
      cycle.name ∈ cycle.chain := by
  have hc := Hierarchy.expand_eq_cycle (resolve_eq_error.1 h)
  rwa [hasMember_hierarchy] at hc

/-- A name with leaves does not reach a group that reaches itself. -/
theorem Flattens.not_reaches_cycle {name g : String} {leaves : List Resolved}
    (hf : b.Flattens zone [name] leaves) (hg : Relation.ReflTransGen (b.HasMember zone) name g) :
    ¬ Relation.TransGen (b.HasMember zone) g g := by
  rw [← hasMember_hierarchy] at hg ⊢
  exact (flattens_hierarchy.2 hf).not_reaches_cycle (by simp) hg

/-- A report of a cycle is right. -/
theorem reaches_cycle_of_resolve {name : String} {cycle : Cycle}
    (h : b.resolve zone name = .error cycle) :
    ∃ g, Relation.ReflTransGen (b.HasMember zone) name g ∧
      Relation.TransGen (b.HasMember zone) g g := by
  obtain ⟨hroot, hchain, hmem⟩ := chain_of_resolve h
  exact ⟨cycle.name, Hierarchy.reaches_cycle_of_isChain hroot hchain hmem⟩

/-- A reference that has leaves resolves. -/
theorem resolve_of_flattens {name : String} {leaves : List Resolved}
    (hl : b.Flattens zone [name] leaves) :
    b.resolve zone name = .ok (leaves.eraseDupsBy fun x y => x.address == y.address) := by
  rcases hr : b.resolve zone name with cycle | items
  · obtain ⟨g, hreach, hloop⟩ := reaches_cycle_of_resolve hr
    exact absurd hloop (hl.not_reaches_cycle hreach)
  · obtain ⟨leaves', hl', rfl⟩ := flattens_of_resolve hr
    rw [(flattens_hierarchy.2 hl).unique (flattens_hierarchy.2 hl')]

/-- A spelling of `any` resolves to the network of all addresses, in every zone of every book. -/
theorem resolve_of_isAnyName {name : String} (ha : isAnyName name = true) :
    b.resolve zone name = .ok [⟨name, .wildcard⟩] := by
  rw [resolve_of_flattens (.wildcard ha .nil)]
  rfl

/-- **What a reference resolves to.** It fails exactly if it reaches a group that reaches itself;
the chain that is reported then starts at the reference, goes from each group to one of its members
and ends in a group with the repeated name, which the chain has met. Otherwise it gives the leaves
below the reference, of each address and prefix length the first. Every entry of the result is a
name with its address. -/
theorem resolve_flattens_or_cycles (b : AddressBook) (zone name : String) :
    ((∃ cycle, b.resolve zone name = .error cycle) ↔
      ∃ g, Relation.ReflTransGen (b.HasMember zone) name g ∧
        Relation.TransGen (b.HasMember zone) g g) ∧
    (∀ cycle, b.resolve zone name = .error cycle →
      cycle.chain.head? = some name ∧
      (cycle.chain ++ [cycle.name]).IsChain (b.HasMember zone) ∧ cycle.name ∈ cycle.chain) ∧
    (∀ items, b.resolve zone name = .ok items ↔
      ∃ leaves, b.Flattens zone [name] leaves ∧
        items = leaves.eraseDupsBy fun x y => x.address == y.address) := by
  refine ⟨⟨?_, ?_⟩, fun cycle he => chain_of_resolve he, fun items => ⟨flattens_of_resolve, ?_⟩⟩
  · rintro ⟨cycle, he⟩
    exact reaches_cycle_of_resolve he
  · rintro ⟨g, hreach, hloop⟩
    rcases hr : b.resolve zone name with cycle | items
    · exact ⟨cycle, rfl⟩
    · obtain ⟨leaves, hl, -⟩ := flattens_of_resolve hr
      exact absurd hloop (hl.not_reaches_cycle hreach)
  · rintro ⟨leaves, hl, rfl⟩
    exact resolve_of_flattens hl

end AddressBook

end ZoneFirewall
