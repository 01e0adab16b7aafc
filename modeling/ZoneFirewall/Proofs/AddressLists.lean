import Mathlib.Data.Finset.Card
import Mathlib.Data.Finset.Lattice.Lemmas
import Mathlib.Data.List.Induction
import ZoneFirewall.Proofs.Compilation
import ZoneFirewall.Proofs.Resolution

/-!
# The address lists of a script

Lists are filled while the references of the policies go by, with a record of the references that
have been served and of the first reference for each name of a list. Rules refer to lists on a
decision of their own. Here both are tied to one list of references.

* `Configuration.listReferences`: the distinct references that come to several entries, in the
  order of their first use.
* `ListsInvariant`: **what holds of the lists after any references**; `ListsInvariant.add`: one
  reference keeps it, `listsInvariant_foldl`: so do all.
* `addressLists_closed_and_exact`: **every list that a rule names is filled, and the section holds
  one run for each of these references and nothing else.** Shared names are reported, once for each
  reference that does not own its name.
-/

namespace ZoneFirewall

/-- The problem is that two references have one name for their lists. -/
def Problem.isSharedList : Problem → Bool
  | .sharedList .. => true
  | _ => false

namespace Configuration

variable {c : Configuration} {policies : List Policy}

/-- The distinct references that come to several entries, in the order of their first use. -/
def listReferences (c : Configuration) (refs : List Reference) : List Reference :=
  refs.eraseDups.filter fun r => 2 ≤ (c.entriesOf r).length

/-- The references that need a list are those with more than one entry. -/
theorem mem_listReferences {refs : List Reference} {r : Reference} :
    r ∈ c.listReferences refs ↔ r ∈ refs ∧ 2 ≤ (c.entriesOf r).length := by
  simp [listReferences]

/-- A further reference is one of them if it has more than one entry and has not come before. -/
theorem listReferences_append_singleton (refs : List Reference) (r : Reference) :
    c.listReferences (refs ++ [r])
      = if (c.entriesOf r).length < 2 ∨ r ∈ c.listReferences refs then c.listReferences refs
        else c.listReferences refs ++ [r] := by
  simp only [mem_listReferences]
  unfold listReferences
  rw [eraseDups_append_singleton]
  by_cases hshort : (c.entriesOf r).length < 2
  · have hnot : ¬ 2 ≤ (c.entriesOf r).length := by omega
    by_cases hr : r ∈ refs
    · simp [hr, hshort]
    · simp [hr, hshort, hnot]
  · have hlong : 2 ≤ (c.entriesOf r).length := by omega
    by_cases hr : r ∈ refs
    · simp [hr, hlong]
    · simp [hr, hshort, hlong]

/-! ## Filling the lists -/

/-- What holds of the lists after some references. -/
structure ListsInvariant (c : Configuration) (refs : List Reference) (l : Lists) : Prop where
  /-- The references served are those that need a list. -/
  filled : ∀ r, r ∈ l.filled ↔ r ∈ c.listReferences refs
  /-- Each of them has one run of entries, in order. -/
  entries : l.entries = (c.listReferences refs).flatMap fun r => listEntries r (c.entriesOf r)
  /-- A name is owned by the first of them that has it. -/
  owners : ∀ name, l.owners.get? name = (c.listReferences refs).find? (·.listName = name)
  /-- Those that do not own their names are reported. -/
  shared : l.diagnostics.countP (·.problem.isSharedList)
    + ((c.listReferences refs).map (·.listName)).toFinset.card = (c.listReferences refs).length
  /-- The count is that of the entries. -/
  entryCount : l.entryCount = l.entries.length

/-- Without references there is nothing to list. -/
theorem listsInvariant_nil (c : Configuration) : ListsInvariant c [] {} where
  filled := by simp [listReferences]
  entries := by simp [listReferences]
  owners := by simp [listReferences]
  shared := by simp [listReferences]
  entryCount := rfl

/-- A reference that needs no list of its own changes nothing but the reports of other problems. -/
theorem ListsInvariant.congr {refs refs' : List Reference} {l l' : Lists}
    (hl : ListsInvariant c refs l) (hrefs : c.listReferences refs' = c.listReferences refs)
    (hfilled : l'.filled = l.filled) (hentries : l'.entries = l.entries)
    (howners : l'.owners = l.owners) (hcount : l'.entryCount = l.entryCount)
    (hshared : l'.diagnostics.countP (·.problem.isSharedList)
      = l.diagnostics.countP (·.problem.isSharedList)) : ListsInvariant c refs' l' where
  filled r := by rw [hfilled, hrefs, hl.filled]
  entries := by rw [hentries, hrefs, hl.entries]
  owners name := by rw [howners, hrefs, hl.owners]
  shared := by rw [hshared, hrefs, hl.shared]
  entryCount := by rw [hcount, hentries, hl.entryCount]

/-- A reference that has not been served is reported if its name has an owner, and adds a name if
it has none. -/
theorem ListsInvariant.shared_append {refs : List Reference} {l : Lists}
    (hl : ListsInvariant c refs l) {r owner : Reference} (hfresh : r ∉ c.listReferences refs)
    (howner : (l.owners.get? r.listName).getD r = owner) :
    (if owner = r then l.diagnostics
      else l.diagnostics
        ++ [⟨.sharedList r.zone r.name r.listName owner.zone owner.name, 0⟩]).countP
          (·.problem.isSharedList)
      + ((c.listReferences refs ++ [r]).map (·.listName)).toFinset.card
      = (c.listReferences refs ++ [r]).length := by
  have hshared := hl.shared
  rw [hl.owners] at howner
  rw [List.map_append, List.map_singleton, List.toFinset_append, List.toFinset_cons,
    List.toFinset_nil, insert_empty_eq, Finset.union_singleton, List.length_append,
    List.length_singleton]
  rcases hfind : (c.listReferences refs).find? (·.listName = r.listName) with _ | first
  · -- the name is new, and the reference its owner
    have hnone : r.listName ∉ (c.listReferences refs).map (·.listName) := by
      simpa using hfind
    rw [hfind, Option.getD_none] at howner
    rw [if_pos howner.symm, Finset.card_insert_of_notMem (by rwa [List.mem_toFinset])]
    omega
  · -- the owner has been served, so that it is not the reference
    rw [hfind, Option.getD_some] at howner
    subst howner
    have hmem := List.mem_of_find?_eq_some hfind
    have hname : first.listName = r.listName := by simpa using List.find?_some hfind
    have hne : first ≠ r := fun h => hfresh (h ▸ hmem)
    have hsome : r.listName ∈ (c.listReferences refs).map (·.listName) :=
      List.mem_map.2 ⟨first, hmem, hname⟩
    rw [if_neg hne, List.countP_append, Finset.insert_eq_of_mem (List.mem_toFinset.2 hsome)]
    show _ + 1 + _ = _
    omega

/-- **One reference keeps the invariant.** -/
theorem ListsInvariant.add {refs : List Reference} {l : Lists} (hl : ListsInvariant c refs l)
    (r : Reference) : ListsInvariant c (refs ++ [r]) (l.add r (c.entriesOf r)) := by
  have hrefs := listReferences_append_singleton (c := c) refs r
  unfold Lists.add
  split
  · -- nothing is behind the reference, which is reported
    rename_i hnil
    rw [if_pos (.inl (by simp [hnil]))] at hrefs
    exact hl.congr hrefs rfl rfl rfl rfl (by simp [Problem.isSharedList])
  · split
    · rename_i hserved
      rw [hl.filled] at hserved
      rw [if_pos hserved] at hrefs
      exact hl.congr hrefs rfl rfl rfl rfl rfl
    · rename_i hnew
      rw [hl.filled] at hnew
      rw [if_neg hnew] at hrefs
      have hfresh : r ∉ c.listReferences refs := fun hmem => hnew (.inr hmem)
      constructor
      · intro a
        rw [hrefs, List.mem_cons, List.mem_append, List.mem_singleton, hl.filled]
        exact or_comm
      · rw [hrefs, hl.entries, List.flatMap_append, List.flatMap_singleton]
      · intro name
        rw [hrefs, List.find?_append, Table.get?_update, hl.owners, hl.owners]
        by_cases hname : r.listName = name
        · subst hname
          rw [if_pos rfl]
          rcases (c.listReferences refs).find? (·.listName = r.listName) with _ | owner
          · simp
          · simp
        · simp [hname]
      · rw [hrefs]
        exact hl.shared_append hfresh rfl
      · simp [hl.entryCount, listEntries]

/-- **All references keep the invariant.** -/
theorem listsInvariant_foldl (c : Configuration) (refs : List Reference) :
    ListsInvariant c refs (refs.foldl (fun l r => l.add r (c.entriesOf r)) {}) := by
  induction refs using List.reverseRecOn with
  | nil => exact listsInvariant_nil c
  | append_singleton refs r ih =>
      rw [List.foldl_append, List.foldl_cons, List.foldl_nil]
      exact ih.add r

/-- The lists of policies are those of their references. -/
theorem listsInvariant_listsOf (c : Configuration) (policies : List Policy) :
    ListsInvariant c (activeReferences policies) (c.listsOf policies) :=
  listsInvariant_foldl c (activeReferences policies)

/-- The lists of a script hold a run for each reference that needs one. -/
theorem lists_scriptOf : (c.scriptOf policies).lists
    = (c.listReferences (activeReferences policies)).flatMap fun r =>
        listEntries r (c.entriesOf r) :=
  (listsInvariant_listsOf c policies).entries

/-! ## What rules need of the lists -/

/-- Only the endpoint of a list asks for it. -/
theorem Endpoint.addressMatch_eq_list {e : Endpoint} {name : String}
    (h : e.addressMatch = .list name) : e = .list name := by
  rcases e with ⟨label, address⟩ | list
  · simp only [Endpoint.addressMatch] at h
    split at h
    · cases h
    · cases h
  · cases h
    rfl

/-- A reference is matched by its list exactly if it comes to several entries. -/
theorem Endpoint.ofResolved?_eq_list {r : Reference} {items : List Resolved} {name : String} :
    Endpoint.ofResolved? r items = some (.list name) ↔ 2 ≤ items.length ∧ r.listName = name := by
  rcases items with _ | ⟨item, _ | ⟨item', items⟩⟩
  · simp [Endpoint.ofResolved?]
  · simp [Endpoint.ofResolved?]
  · simp [Endpoint.ofResolved?]

/-- A list that an endpoint of some references names is that of one of them. -/
theorem exists_listReferences {refs : List Reference} {e : Endpoint} {name : String}
    (he : e ∈ c.endpointsOf refs) (hname : e.addressMatch = .list name) :
    ∃ r ∈ refs, 2 ≤ (c.entriesOf r).length ∧ r.listName = name := by
  obtain ⟨r, hr, hof⟩ := mem_endpointsOf.1 he
  rw [Endpoint.addressMatch_eq_list hname] at hof
  exact ⟨r, hr, Endpoint.ofResolved?_eq_list.1 hof⟩

/-- The entries of a list that are under a name: all, or none. -/
theorem filter_listEntries (r : Reference) (items : List Resolved) (name : String) :
    (listEntries r items).filter (·.list = name)
      = if r.listName = name then listEntries r items else [] := by
  unfold listEntries
  split
  · rename_i h
    simp [List.filter_map, Function.comp_def, h]
  · rename_i h
    simp [List.filter_map, Function.comp_def, h]

/-- The entries under a name are at least as many as those of any reference with that name. -/
theorem ListsInvariant.length_le_filter {refs : List Reference} {l : Lists}
    (hl : ListsInvariant c refs l) {r : Reference} (hr : r ∈ c.listReferences refs) :
    (c.entriesOf r).length ≤ (l.entries.filter (·.list = r.listName)).length := by
  have hrun : (listEntries r (c.entriesOf r)).Sublist l.entries := by
    rw [hl.entries, List.flatMap_def]
    exact List.sublist_flatten_of_mem (List.mem_map_of_mem hr)
  have hlen := (hrun.filter (·.list = r.listName)).length_le
  rwa [filter_listEntries, if_pos rfl, listEntries, List.length_map] at hlen

/-- If no shared name is reported, no two references share one. -/
theorem ListsInvariant.nodup_listName {refs : List Reference} {l : Lists}
    (hl : ListsInvariant c refs l)
    (hnone : l.diagnostics.countP (·.problem.isSharedList) = 0) :
    ((c.listReferences refs).map (·.listName)).Nodup := by
  have hshared := hl.shared
  rw [hnone, Nat.zero_add] at hshared
  rw [← Multiset.coe_nodup, ← Multiset.toFinset_card_eq_card_iff_nodup, Multiset.coe_card,
    List.length_map]
  exact hshared

/-- If no shared name is reported, the entries under the name of a reference are its own. -/
theorem ListsInvariant.filter_entries {refs : List Reference} {l : Lists}
    (hl : ListsInvariant c refs l) (hnone : l.diagnostics.countP (·.problem.isSharedList) = 0)
    {r : Reference} (hr : r ∈ c.listReferences refs) :
    l.entries.filter (·.list = r.listName) = listEntries r (c.entriesOf r) := by
  have hnodup := hl.nodup_listName hnone
  rw [hl.entries, List.filter_flatMap]
  generalize c.listReferences refs = rs at hr hnodup
  induction rs with
  | nil => cases hr
  | cons a rs ih =>
      rw [List.map_cons, List.nodup_cons] at hnodup
      obtain ⟨hfresh, hnodup⟩ := hnodup
      rw [List.flatMap_cons, filter_listEntries]
      rcases List.mem_cons.1 hr with rfl | hr
      · -- the others have other names
        rw [if_pos rfl, List.append_right_eq_self, List.flatMap_eq_nil_iff]
        intro b hb
        rw [filter_listEntries, if_neg fun h => hfresh (List.mem_map.2 ⟨b, hb, h⟩)]
      · rw [if_neg fun h => hfresh (List.mem_map.2 ⟨r, hr, h.symm⟩), List.nil_append,
          ih hr hnodup]

/-- **The lists are closed and exact.** Every list that a rule names has at least two entries. The
section has a run for each reference that comes to several entries, in the order of their first
use, and nothing else; the entry count is its length. The reports of shared names are as many as
the references without a name of their own; without a report, what is under a reference's name is
its entries. -/
theorem addressLists_closed_and_exact {script : Script} (h : c.compile policies = .ok script) :
    (∀ rule ∈ script.rules, ∀ name, rule.source = .list name ∨ rule.destination = .list name →
      2 ≤ (script.lists.filter (·.list = name)).length) ∧
    (∀ r ∈ activeReferences policies, c.resolve r = .ok (c.entriesOf r)) ∧
    script.lists = ((c.listReferences (activeReferences policies)).flatMap fun r =>
      (c.entriesOf r).map fun item => ⟨r.listName, item.address, item.name⟩) ∧
    script.listEntryCount = script.lists.length ∧
    script.diagnostics.countP (·.problem.isSharedList)
      + ((c.listReferences (activeReferences policies)).map (·.listName)).toFinset.card
      = (c.listReferences (activeReferences policies)).length ∧
    (script.diagnostics.countP (·.problem.isSharedList) = 0 →
      ∀ r ∈ c.listReferences (activeReferences policies),
        script.lists.filter (·.list = r.listName)
          = (c.entriesOf r).map fun item => ⟨r.listName, item.address, item.name⟩) := by
  obtain ⟨hall, rfl⟩ := compile_eq_ok.1 h
  have hl := listsInvariant_listsOf c policies
  refine ⟨?_, ?_, hl.entries, hl.entryCount, hl.shared,
    fun hnone r hr => hl.filter_entries hnone hr⟩
  · intro rule hrule name hname
    rw [rules_scriptOf, List.mem_flatMap] at hrule
    obtain ⟨p, hp, hrule⟩ := hrule
    obtain ⟨service, -, protocol, -, source, hsource, destination, hdestination, rfl⟩ :=
      mem_rulesOf.1 hrule
    have hfilled : ∃ r ∈ p.references, 2 ≤ (c.entriesOf r).length ∧ r.listName = name := by
      rcases hname with hname | hname
      · obtain ⟨r, hr, hlong⟩ := exists_listReferences hsource hname
        exact ⟨r, List.mem_append_left _ hr, hlong⟩
      · obtain ⟨r, hr, hlong⟩ := exists_listReferences hdestination hname
        exact ⟨r, List.mem_append_right _ hr, hlong⟩
    obtain ⟨r, hr, hlong, rfl⟩ := hfilled
    have hactive : r ∈ activeReferences policies := List.mem_flatMap.2 ⟨p, hp, hr⟩
    exact hlong.trans (hl.length_le_filter (mem_listReferences.2 ⟨hactive, hlong⟩))
  · intro r hr
    obtain ⟨p, hp, hr⟩ := List.mem_flatMap.1 hr
    exact (hall p hp).references r hr

/-! ### A zone with a group -/

/-- A zone with two hosts and a group of both. -/
def twoHosts : Configuration where
  objects :=
    (((AddressBook.empty.add "Trust" "web" (.host (.ofOctets 10 0 0 1)) "").add "Trust" "mail"
      (.host (.ofOctets 10 0 0 2)) "").addMember "Trust" "servers" "web").addMember "Trust"
        "servers" "mail"

/-- The group comes to both hosts. -/
theorem resolve_servers : twoHosts.resolve ⟨"Trust", "servers"⟩
    = .ok [⟨"web", .host (.ofOctets 10 0 0 1)⟩, ⟨"mail", .host (.ofOctets 10 0 0 2)⟩] := by
  have hservers : twoHosts.objects.get? "Trust" "servers"
      = some ⟨none, ["web", "mail"], "", .inr (by simp)⟩ := by
    simp only [twoHosts, AddressBook.get?_addMember, AddressBook.get?_add]
    rfl
  have hweb : twoHosts.objects.get? "Trust" "web"
      = some (.plain (.host (.ofOctets 10 0 0 1)) "") := by simp [twoHosts]
  have hmail : twoHosts.objects.get? "Trust" "mail"
      = some (.plain (.host (.ofOctets 10 0 0 2)) "") := by simp [twoHosts]
  have hhosts : twoHosts.objects.Flattens "Trust" ["web", "mail"]
      [⟨"web", .host (.ofOctets 10 0 0 1)⟩, ⟨"mail", .host (.ofOctets 10 0 0 2)⟩] :=
    .plain ⟨by decide, rfl⟩ hweb rfl rfl (.plain ⟨by decide, rfl⟩ hmail rfl rfl .nil)
  rw [resolve, AddressBook.resolve_of_flattens
    (.group ⟨by decide, rfl⟩ hservers (by simp) hhosts .nil)]
  rfl

/-- The list of the group holds both hosts. -/
theorem addressLists_twoHosts :
    ∃ script, twoHosts.compile [passToAny ⟨"Trust", "servers"⟩ "ANY"] = .ok script ∧
      script.lists.filter (·.list = "Trust__servers")
        = [⟨"Trust__servers", .host (.ofOctets 10 0 0 1), "web"⟩,
          ⟨"Trust__servers", .host (.ofOctets 10 0 0 2), "mail"⟩] := by
  have hc : twoHosts.compile [passToAny ⟨"Trust", "servers"⟩ "ANY"] = .ok _ :=
    compile_passToAny resolve_servers rfl
  have hrefs : twoHosts.listReferences (activeReferences [passToAny ⟨"Trust", "servers"⟩ "ANY"])
      = [⟨"Trust", "servers"⟩] := by
    rw [activeReferences, active_passToAny, List.flatMap_singleton, references_passToAny,
      listReferences]
    simp [List.eraseDups_cons, entriesOf_of_resolve _ _ resolve_servers,
      entriesOf_of_resolve _ _ (resolve_any (c := twoHosts) "Untrust")]
  obtain ⟨-, -, -, -, hshared, hown⟩ := addressLists_closed_and_exact hc
  rw [hrefs] at hshared hown
  have hrun := hown (by simpa using hshared) ⟨"Trust", "servers"⟩ (by simp)
  rw [entriesOf_of_resolve _ _ resolve_servers] at hrun
  exact ⟨_, hc, hrun⟩

end Configuration

end ZoneFirewall
