import Mathlib.Data.Set.Card
import ZoneFirewall.Proofs.Outcomes
import ZoneFirewall.Proofs.ServiceGroups

/-!
# Services and groups of one name

A catalog is made by updates, some of which are for services and others for groups. Only the
definition of a service drops a group of its name, so that a name can be both.

* `Catalog.Update`, `Catalog.after`: the updates, and what a catalog is after some of them.
* `MadeService`, `MadeGroup`: what the updates, by themselves, say that a name is.
  `isService_after_iff`, `isGroup_after_iff`: **that is what it is**; from one lemma for a single
  update each.
* `HasSoundGroups`: **groups mean their members** and names are counted once.
* `size_eq_ncard_add_ncard`: a name that is both a service and a group counts twice.
* `hasSoundGroups_after_iff`: **groups mean their members exactly if no name has been made a service
  and, after its last definition, a group.** `not_hasSoundGroups_of_member`: there are such names.
-/

namespace ZoneFirewall

open Text

/-- A table has as many entries as keys. -/
theorem Table.size_eq_ncard {κ ν : Type} [DecidableEq κ] (t : Table κ ν) :
    t.size = {k | t.contains k = true}.ncard := by
  have hkeys : {k | t.contains k = true} = (t.keys.toFinset : Set κ) := by
    ext k
    simp [contains_iff_mem_keys]
  rw [hkeys, Set.ncard_coe_finset, keys, List.toFinset_card_of_nodup t.nodup, List.length_map,
    size]

/-- A table has finitely many keys. -/
theorem Table.finite_contains {κ ν : Type} [DecidableEq κ] (t : Table κ ν) :
    {k | t.contains k = true}.Finite := by
  refine (List.finite_toSet t.keys).subset fun k hk => ?_
  exact contains_iff_mem_keys.1 hk

namespace Catalog

/-! ## Updates -/

/-- An update of a catalog. -/
inductive Update where
  /-- Sets the definitions of a service. -/
  | define (name : WideText) (definitions : List Definition)
  /-- Adds a definition to a service. -/
  | append (name : WideText) (definition : Definition)
  /-- Creates a group. -/
  | createGroup (name : WideText)
  /-- Adds a member to a group. -/
  | addMember (group member : WideText)

namespace Update

/-- What an update makes of a catalog. -/
def apply (c : Catalog) : Update → Catalog
  | define name definitions => c.define name definitions
  | append name definition => c.append name definition
  | createGroup name => c.createGroup name
  | addMember group member => c.addMember group member

/-- The name that is a service after the update, whatever it was before. -/
def service? : Update → Option WideText
  | define name _ => some name
  | append name _ => some name
  | createGroup _ => none
  | addMember _ _ => none

/-- The name that is a group after the update, whatever it was before. -/
def group? : Update → Option WideText
  | define _ _ => none
  | append _ _ => none
  | createGroup name => some name
  | addMember group _ => some group

/-- The name that is no group after the update, whatever it was before. -/
def defined? : Update → Option WideText
  | define name _ => some name
  | append _ _ => none
  | createGroup _ => none
  | addMember _ _ => none

/-- **One update**: a name is a service after it if it was one before or is made one. -/
theorem isService_apply_iff (c : Catalog) (u : Update) (name : WideText) :
    (u.apply c).services.contains name = true ↔
      c.services.contains name = true ∨ u.service? = some name := by
  cases u with
  | define name' ds =>
      by_cases h : name' = name
      · simp [apply, Catalog.define, Table.contains, service?, h]
      · simp [apply, Catalog.define, Table.contains, service?, h]
  | append name' d =>
      by_cases h : name' = name
      · simp [apply, Catalog.append, Table.contains, service?, h]
      · simp [apply, Catalog.append, Table.contains, service?, h]
  | createGroup name' => simp [apply, Catalog.createGroup, service?]
  | addMember group member => simp [apply, Catalog.addMember, service?]

/-- **One update**: a name is a group after it if it is made one, or was one before and is not
defined. -/
theorem isGroup_apply_iff (c : Catalog) (u : Update) (name : WideText) :
    (u.apply c).isGroup name = true ↔
      u.group? = some name ∨ c.isGroup name = true ∧ u.defined? ≠ some name := by
  cases u with
  | define name' ds =>
      by_cases h : name' = name
      · simp [apply, Catalog.define, isGroup, Table.contains, group?, defined?, h]
      · simp [apply, Catalog.define, isGroup, Table.contains, group?, defined?, h]
  | append name' d => simp [apply, Catalog.append, isGroup, group?, defined?]
  | createGroup name' =>
      by_cases h : name' = name
      · simp [apply, Catalog.createGroup, isGroup, Table.contains, group?, h]
      · simp [apply, Catalog.createGroup, isGroup, Table.contains, group?, defined?, h]
  | addMember group member =>
      by_cases h : group = name
      · simp [apply, Catalog.addMember, isGroup, Table.contains, group?, h]
      · simp [apply, Catalog.addMember, isGroup, Table.contains, group?, defined?, h]

end Update

/-- A catalog after some updates. -/
def after (start : Catalog) (us : List Update) : Catalog := us.foldl Update.apply start

/-- The last of some updates comes after the others. -/
theorem after_append_singleton (start : Catalog) (us : List Update) (u : Update) :
    start.after (us ++ [u]) = u.apply (start.after us) := by
  rw [after, List.foldl_append]
  rfl

/-! ## What updates make of a name -/

/-- The name is a service at the start, or is made one. -/
def MadeService (start : Catalog) (us : List Update) (name : WideText) : Prop :=
  start.services.contains name = true ∨ ∃ u ∈ us, u.service? = some name

/-- The name is a group at the start or is made one, and is not defined afterwards. -/
def MadeGroup (start : Catalog) (us : List Update) (name : WideText) : Prop :=
  (start.isGroup name = true ∧ ∀ u ∈ us, u.defined? ≠ some name) ∨
    ∃ before u later, us = before ++ u :: later ∧ u.group? = some name ∧
      ∀ u' ∈ later, u'.defined? ≠ some name

variable {start : Catalog} {us : List Update} {name : WideText}

/-- A further update makes a group of a name, or leaves it one unless it defines the name. -/
theorem madeGroup_append_singleton {u : Update} :
    MadeGroup start (us ++ [u]) name ↔
      u.group? = some name ∨ MadeGroup start us name ∧ u.defined? ≠ some name := by
  constructor
  · rintro (⟨hstart, hnone⟩ | ⟨before, u', later, hsplit, hgroup, hnone⟩)
    · rw [List.forall_mem_append, List.forall_mem_singleton] at hnone
      exact .inr ⟨.inl ⟨hstart, hnone.1⟩, hnone.2⟩
    · -- the update that makes the group is the last one, or comes before it
      rcases List.eq_nil_or_concat later with rfl | ⟨later, last, rfl⟩
      · obtain ⟨-, hlast⟩ := List.append_inj' hsplit rfl
        obtain rfl := List.singleton_inj.1 hlast
        exact .inl hgroup
      · rw [List.concat_eq_append, ← List.cons_append, ← List.append_assoc] at hsplit
        obtain ⟨rfl, hlast⟩ := List.append_inj' hsplit rfl
        obtain rfl := List.singleton_inj.1 hlast
        rw [List.concat_eq_append, List.forall_mem_append, List.forall_mem_singleton] at hnone
        exact .inr ⟨.inr ⟨before, u', later, rfl, hgroup, hnone.1⟩, hnone.2⟩
  · rintro (hgroup | ⟨hbefore, hlast⟩)
    · exact .inr ⟨us, u, [], rfl, hgroup, by simp⟩
    · have hboth : ∀ vs : List Update, (∀ v ∈ vs, v.defined? ≠ some name) →
          ∀ v ∈ vs ++ [u], v.defined? ≠ some name := by
        intro vs hvs
        rw [List.forall_mem_append, List.forall_mem_singleton]
        exact ⟨hvs, hlast⟩
      rcases hbefore with ⟨hstart, hnone⟩ | ⟨before, u', later, rfl, hgroup, hnone⟩
      · exact .inl ⟨hstart, hboth us hnone⟩
      · exact .inr ⟨before, u', later ++ [u], by simp, hgroup, hboth later hnone⟩

/-- **After any updates, a name is a service if it has been made one.** -/
theorem isService_after_iff (start : Catalog) (us : List Update) (name : WideText) :
    (start.after us).services.contains name = true ↔ MadeService start us name := by
  induction us using List.reverseRecOn with
  | nil => simp [after, MadeService]
  | append_singleton us u ih =>
      rw [after_append_singleton, Update.isService_apply_iff, ih]
      simp only [MadeService, List.mem_append, List.mem_singleton, or_and_right, exists_or,
        exists_eq_left, or_assoc]

/-- **After any updates, a name is a group if it has been made one and not been defined since.** -/
theorem isGroup_after_iff (start : Catalog) (us : List Update) (name : WideText) :
    (start.after us).isGroup name = true ↔ MadeGroup start us name := by
  induction us using List.reverseRecOn with
  | nil => simp [after, MadeGroup]
  | append_singleton us u ih =>
      rw [after_append_singleton, Update.isGroup_apply_iff, ih, madeGroup_append_singleton]

/-! ## What groups mean -/

variable {c : Catalog}

/-- Groups mean their members. -/
structure HasSoundGroups (c : Catalog) : Prop where
  /-- No name is both a service and a group. -/
  apart : ∀ name, ¬ (c.services.contains name = true ∧ c.isGroup name = true)
  /-- A group whose members all have definitions has these, one after another. -/
  members : ∀ name members dss, c.groups.get? name = some members →
    members.mapM c.definitions = .ok dss → c.definitions name = .ok dss.flatten
  /-- The size is the number of names. -/
  size : c.size = {name | c.contains name = true}.ncard

/-- What one name and what some others come to is what they come to together. -/
theorem Flattens.cons {names : List WideText} {ds rest : List Definition}
    (hname : c.Flattens [name] ds) (hrest : c.Flattens names rest) :
    c.Flattens (name :: names) (ds ++ rest) := by
  cases hname with
  | service hs hnil =>
      cases hnil
      rw [List.append_nil]
      exact .service hs hrest
  | group hs hg hinner hnil =>
      cases hnil
      rw [List.append_nil]
      exact .group hs hg hinner hrest

/-- Names that come to something each come to all of it. -/
theorem flattens_of_mapM {names : List WideText} {dss : List (List Definition)}
    (h : names.mapM c.definitions = .ok dss) : c.Flattens names dss.flatten := by
  induction names generalizing dss with
  | nil =>
      cases h
      exact .nil
  | cons name names ih =>
      rw [List.mapM_cons, bind_eq_ok] at h
      obtain ⟨ds, hds, h⟩ := h
      obtain ⟨rest, hrest, h⟩ := bind_eq_ok.1 h
      cases h
      exact (flattens_of_definitions hds).cons (ih hrest)

/-- A group that is no service means its members. -/
theorem definitions_of_members {members : List WideText} {dss : List (List Definition)}
    (hs : c.services.contains name = false) (hg : c.groups.get? name = some members)
    (h : members.mapM c.definitions = .ok dss) : c.definitions name = .ok dss.flatten := by
  have hnone : c.services.get? name = none := by
    rwa [Table.contains, Option.isSome_eq_false_iff, Option.isNone_iff_eq_none] at hs
  have hf : c.Flattens [name] (dss.flatten ++ []) := .group hnone hg (flattens_of_mapM h) .nil
  rw [definitions_of_flattens hf, List.append_nil]

/-- A name that is both a service and a group counts twice. -/
theorem size_eq_ncard_add_ncard (c : Catalog) :
    c.size = {name | c.contains name = true}.ncard
      + {name | c.services.contains name = true ∧ c.isGroup name = true}.ncard := by
  have hunion : {name | c.contains name = true}
      = {name | c.services.contains name = true} ∪ {name | c.groups.contains name = true} := by
    ext name
    simp [contains]
  have hinter : {name | c.services.contains name = true ∧ c.isGroup name = true}
      = {name | c.services.contains name = true} ∩ {name | c.groups.contains name = true} := rfl
  rw [hunion, hinter, Set.ncard_union_add_ncard_inter _ _ c.services.finite_contains
    c.groups.finite_contains, ← Table.size_eq_ncard, ← Table.size_eq_ncard, size]

/-- Groups mean their members if no name is both a service and a group. -/
theorem HasSoundGroups.of_apart
    (h : ∀ name, ¬ (c.services.contains name = true ∧ c.isGroup name = true)) :
    c.HasSoundGroups where
  apart := h
  members name members dss hg hdss := by
    have hgroup : c.isGroup name = true := by
      rw [isGroup, Table.contains, hg, Option.isSome_some]
    exact definitions_of_members (Bool.eq_false_iff.2 fun hs => h name ⟨hs, hgroup⟩) hg hdss
  size := by
    have hnone : {name | c.services.contains name = true ∧ c.isGroup name = true} = ∅ :=
      Set.eq_empty_of_forall_notMem h
    rw [size_eq_ncard_add_ncard, hnone, Set.ncard_empty, Nat.add_zero]

/-- **When groups mean their members.** After any updates they do, and the size is the number of
names, exactly if no name has been made a service and, since its last definition, a group. A group
that is no service means its members in any case. A name that is both means the service, whatever
the members of the group are, and counts twice. -/
theorem hasSoundGroups_after_iff (start : Catalog) (us : List Update) :
    ((start.after us).HasSoundGroups ↔
      ∀ name, ¬ (MadeService start us name ∧ MadeGroup start us name)) ∧
    (∀ name members dss, (start.after us).services.contains name = false →
      (start.after us).groups.get? name = some members →
        members.mapM (start.after us).definitions = .ok dss →
          (start.after us).definitions name = .ok dss.flatten) ∧
    (∀ name ds, (start.after us).services.get? name = some ds →
      (start.after us).definitions name = .ok ds) ∧
    (start.after us).size = {name | (start.after us).contains name = true}.ncard
      + {name | MadeService start us name ∧ MadeGroup start us name}.ncard := by
  have hboth : ∀ name, (MadeService start us name ∧ MadeGroup start us name) ↔
      (start.after us).services.contains name = true ∧ (start.after us).isGroup name = true := by
    intro name
    rw [isService_after_iff, isGroup_after_iff]
  simp only [hboth]
  exact ⟨⟨fun h => h.apart, .of_apart⟩, fun name members dss => definitions_of_members,
    fun name ds => definitions_of_get?, size_eq_ncard_add_ncard _⟩

/-- A service with a member is a group that does not mean its member. -/
theorem not_hasSoundGroups_of_member :
    let us : List Update :=
      [.define "HTTP" [.tcp 80 80], .define "SSH" [.tcp 22 22], .addMember "HTTP" "SSH"]
    let c := empty.after us
    c.isGroup "HTTP" = true ∧ c.groups.get? "HTTP" = some [.ofString "SSH"] ∧
      c.definitions "SSH" = .ok [.tcp 22 22] ∧ c.definitions "HTTP" = .ok [.tcp 80 80] ∧
      c.size = 3 ∧ ¬ c.HasSoundGroups := by
  intro us c
  have hgroup : c.groups.get? "HTTP" = some [.ofString "SSH"] := by decide
  have hssh : c.definitions "SSH" = .ok [.tcp 22 22] := definitions_of_get? (by decide)
  have hhttp : c.definitions "HTTP" = .ok [.tcp 80 80] := definitions_of_get? (by decide)
  refine ⟨by decide, hgroup, hssh, hhttp, by decide, fun h => ?_⟩
  have hmembers := h.members "HTTP" ["SSH"] [[.tcp 22 22]] hgroup (by
    rw [List.mapM_cons, hssh]
    rfl)
  rw [hhttp, Except.ok.injEq] at hmembers
  exact absurd hmembers (by decide)

end Catalog

end ZoneFirewall
