import ZoneFirewall.Proofs.LiftedConstraints

/-!
# What becomes of each reference

Filling the lists and making the rules go over the same references apart from each other. Each
leaves some out: filling reports those that come to nothing and passes over those that come to one
entry or have been served, and the rules have no side for those that come to nothing. Both decisions
are tied here to each place where a reference stands.

* `Configuration.missingReferences`: the references that come to nothing.
  `filter_isNotFound_listsOf`: **they are reported, each time they occur and in this order.**
* `Occurrence`: a place where a reference stands in a policy.
* `Fate`, `Occurrence.HasFate`: the three things that can become of it, in terms of what the sides,
  the reports and the lists would be without it.
* `no_reference_lost`: **each occurrence has exactly one of the three fates**, and the reports are
  as many as the occurrences without a side.
-/

namespace ZoneFirewall

/-! ## Reports of references -/

/-- The problem is that a reference comes to no address. -/
def Problem.isNotFound : Problem → Bool
  | .notFound .. => true
  | _ => false

/-- The report of a reference that comes to no address. -/
def Reference.notFound (r : Reference) : Diagnostic := ⟨.notFound r.zone r.name, 0⟩

/-- The report names the zone and the reference. -/
theorem Reference.text_notFound (r : Reference) :
    r.notFound.text = r.zone ++ " " ++ r.name ++ " not found" := rfl

namespace Configuration

variable {c : Configuration} {policies : List Policy}

/-- The references that come to nothing, as often as they occur. -/
def missingReferences (c : Configuration) (refs : List Reference) : List Reference :=
  refs.filter fun r => c.entriesOf r = []

/-- One reference is reported if there is nothing behind it. -/
theorem filter_isNotFound_add (l : Lists) (r : Reference) :
    (l.add r (c.entriesOf r)).diagnostics.filter (·.problem.isNotFound)
      = l.diagnostics.filter (·.problem.isNotFound)
        ++ (c.missingReferences [r]).map Reference.notFound := by
  unfold Lists.add missingReferences
  split
  · rename_i hnil
    simp [hnil, Reference.notFound, Problem.isNotFound]
  · rename_i hne
    split
    · simp [hne]
    · dsimp only
      split
      · simp [hne]
      · simp [hne, Problem.isNotFound]

/-- All references with nothing behind them are reported, in order. -/
theorem filter_isNotFound_foldl (refs : List Reference) :
    (refs.foldl (fun (l : Lists) r => l.add r (c.entriesOf r)) {}).diagnostics.filter
      (·.problem.isNotFound) = (c.missingReferences refs).map Reference.notFound := by
  induction refs using List.reverseRecOn with
  | nil => rfl
  | append_singleton refs r ih =>
      rw [List.foldl_append, List.foldl_cons, List.foldl_nil, filter_isNotFound_add, ih,
        ← List.map_append, missingReferences, missingReferences, missingReferences,
        List.filter_append]

/-- The lists report the references that come to nothing, in their order. -/
theorem filter_isNotFound_listsOf :
    (c.listsOf policies).diagnostics.filter (·.problem.isNotFound)
      = (c.missingReferences (activeReferences policies)).map Reference.notFound :=
  filter_isNotFound_foldl (activeReferences policies)

/-! ## Sides of rules -/

/-- A reference adds to the sides what there is behind it, at its place among those of its kind. -/
theorem requiredEndpoints_insert (before after : List Reference) (r : Reference) :
    ∃ first second,
      c.requiredEndpoints (before ++ r :: after)
        = first ++ (Endpoint.ofResolved? r (c.entriesOf r)).toList ++ second ∧
      c.requiredEndpoints (before ++ after) = first ++ second := by
  simp only [← endpointsOf_eq_requiredEndpoints, endpointsOf, List.filterMap_append,
    List.filterMap_cons]
  generalize before.filterMap (fun r => Endpoint.ofResolved? r (c.entriesOf r)) = xs
  generalize after.filterMap (fun r => Endpoint.ofResolved? r (c.entriesOf r)) = ys
  rcases Endpoint.ofResolved? r (c.entriesOf r) with _ | e
  · exact ⟨[], _, rfl, rfl⟩
  · rcases hkind : e.isList with _ | _
    · refine ⟨xs.filter (!·.isList), ys.filter (!·.isList) ++ (xs ++ ys).filter (·.isList), ?_, ?_⟩
      · simp [hkind]
      · simp
    · refine ⟨(xs ++ ys).filter (!·.isList) ++ xs.filter (·.isList), ys.filter (·.isList), ?_, ?_⟩
      · simp [hkind]
      · simp

/-- A reference has a side or comes to nothing. -/
theorem length_missingReferences_add (refs : List Reference) :
    (c.missingReferences refs).length + (c.requiredEndpoints refs).length = refs.length := by
  rw [length_requiredEndpoints]
  unfold missingReferences singleReferences severalReferences
  induction refs with
  | nil => rfl
  | cons r refs ih =>
      rcases hitems : c.entriesOf r with _ | ⟨item, _ | ⟨item', items⟩⟩
      · simp [hitems]
        omega
      · simp [hitems]
        omega
      · simp [hitems]
        omega

/-- How many sides of rules a policy has. -/
def sideCount (c : Configuration) (p : Policy) : Nat :=
  (c.requiredEndpoints p.sourceReferences).length
    + (c.requiredEndpoints p.destinationReferences).length

/-- Each occurrence comes to nothing or has a side. -/
theorem length_missingReferences_flatMap (ps : List Policy) :
    (c.missingReferences (ps.flatMap (·.references))).length + (ps.map c.sideCount).sum
      = (ps.flatMap (·.references)).length := by
  induction ps with
  | nil => rfl
  | cons p ps ih =>
      have hsources := length_missingReferences_add (c := c) p.sourceReferences
      have hdestinations := length_missingReferences_add (c := c) p.destinationReferences
      simp only [missingReferences, List.flatMap_cons, Policy.references, List.filter_append,
        List.length_append, List.map_cons, List.sum_cons, sideCount] at *
      omega

/-! ## Lists -/

/-- The entries of all lists that some references need. -/
def requiredLists (c : Configuration) (refs : List Reference) : List ListEntry :=
  (c.listReferences refs).flatMap fun r => listEntries r (c.entriesOf r)

/-- A reference without several entries makes no difference to the lists. -/
theorem requiredLists_insert {before after : List Reference} {r : Reference}
    (h : (c.entriesOf r).length < 2) :
    c.requiredLists (before ++ r :: after) = c.requiredLists (before ++ after) := by
  have hlists : c.listReferences (before ++ r :: after) = c.listReferences (before ++ after) := by
    induction after using List.reverseRecOn with
    | nil => rw [List.append_nil, listReferences_append_singleton, if_pos (.inl h)]
    | append_singleton after a ih =>
        rw [← List.cons_append, ← List.append_assoc, ← List.append_assoc,
          listReferences_append_singleton, listReferences_append_singleton, ih]
  rw [requiredLists, requiredLists, hlists]

end Configuration

/-! ## Occurrences -/

/-- A place where a reference stands in one of some policies, with all that is around it. -/
structure Occurrence (policies : List Policy) where
  /-- The policies before. -/
  earlier : List Policy
  /-- The policy. -/
  policy : Policy
  /-- The policies after. -/
  later : List Policy
  /-- Whether the reference is a source or a destination. -/
  side : Side
  /-- The references before, on the same side. -/
  before : List Reference
  /-- The reference. -/
  reference : Reference
  /-- The references after, on the same side. -/
  after : List Reference
  /-- The policy is where it is said to be. -/
  policies_eq : policies = earlier ++ policy :: later
  /-- So is the reference. -/
  references_eq : policy.referencesAt side = before ++ reference :: after

/-- What can become of a reference. -/
inductive Fate where
  /-- It is reported and left out. -/
  | missing
  /-- Its address is a side of the rules. -/
  | single
  /-- Its list is a side of the rules. -/
  | list
  deriving DecidableEq, Repr

/-- What becomes of a reference that comes to so many entries. -/
def Fate.ofCount : Nat → Fate
  | 0 => .missing
  | 1 => .single
  | _ + 2 => .list

namespace Occurrence

open ZoneFirewall.Configuration

variable {policies : List Policy} (o : Occurrence policies) (c : Configuration) (s : Script)

/-- All references before the occurrence. -/
def preceding : List Reference :=
  o.earlier.flatMap (·.references) ++ Side.choose [] o.policy.sourceReferences o.side ++ o.before

/-- All references after the occurrence. -/
def following : List Reference :=
  o.after ++ Side.choose o.policy.destinationReferences [] o.side
    ++ o.later.flatMap (·.references)

/-- The occurrences of some policies are those in front of one, this one, and those after it. -/
theorem flatMap_references :
    policies.flatMap (·.references) = o.preceding ++ o.reference :: o.following := by
  have hpolicies := congrArg (List.flatMap (·.references)) o.policies_eq
  have hrefs := o.references_eq
  rw [List.flatMap_append, List.flatMap_cons, Policy.references] at hpolicies
  rw [hpolicies, preceding, following]
  rcases hside : o.side with _ | _
  · simp only [hside, Policy.referencesAt, Side.choose] at hrefs ⊢
    simp [hrefs]
  · simp only [hside, Policy.referencesAt, Side.choose] at hrefs ⊢
    simp [hrefs]

/-- The occurrence adds these endpoints to the policy's on its side. -/
def AddsEndpoints (es : List Endpoint) : Prop :=
  ∃ first second,
    c.requiredEndpoints (o.policy.referencesAt o.side) = first ++ es ++ second ∧
    c.requiredEndpoints (o.before ++ o.after) = first ++ second

/-- These are the reports of references that belong to the occurrence: those before belong to the
references before it, and those after to the references after it. -/
def HasReports (ds : List Diagnostic) : Prop :=
  s.diagnostics.filter (·.problem.isNotFound)
    = (c.missingReferences o.preceding).map Reference.notFound ++ ds
      ++ (c.missingReferences o.following).map Reference.notFound

/-- The lists would be the same without the occurrence. -/
def AddsNoEntries : Prop := s.lists = c.requiredLists (o.preceding ++ o.following)

/-- What becomes of the occurrence. -/
def HasFate : Fate → Prop
  | .missing =>
    c.resolve o.reference = .ok [] ∧ o.AddsEndpoints c [] ∧
      o.HasReports c s [o.reference.notFound] ∧ o.AddsNoEntries c s
  | .single =>
    ∃ item, c.resolve o.reference = .ok [item] ∧
      o.AddsEndpoints c [.single o.reference.name item.address] ∧ o.HasReports c s [] ∧
      o.AddsNoEntries c s
  | .list =>
    ∃ items, c.resolve o.reference = .ok items ∧ 2 ≤ items.length ∧
      o.AddsEndpoints c [.list o.reference.listName] ∧ o.HasReports c s [] ∧
      listEntries o.reference items <:+: s.lists

variable {o c s}

/-- What becomes of an occurrence goes by how many entries its reference comes to. -/
theorem HasFate.eq_ofCount {f : Fate} (hf : o.HasFate c s f) :
    ∃ items, c.resolve o.reference = .ok items ∧ f = .ofCount items.length := by
  cases f with
  | missing => exact ⟨[], hf.1, rfl⟩
  | single =>
      obtain ⟨item, hitem, -⟩ := hf
      exact ⟨[item], hitem, rfl⟩
  | list =>
      obtain ⟨items, hitems, hlong, -⟩ := hf
      obtain ⟨n, hn⟩ := Nat.exists_eq_add_of_le' hlong
      exact ⟨items, hitems, by rw [hn, Fate.ofCount]⟩

/-- Nothing more than one thing becomes of an occurrence. -/
theorem HasFate.unique {f g : Fate} (hf : o.HasFate c s f) (hg : o.HasFate c s g) : f = g := by
  obtain ⟨items, hitems, rfl⟩ := hf.eq_ofCount
  obtain ⟨items', hitems', rfl⟩ := hg.eq_ofCount
  rw [hitems, Except.ok.injEq] at hitems'
  rw [hitems']

/-- An occurrence adds the endpoint of its reference to its side, if there is one. -/
theorem addsEndpoints_ofResolved? :
    o.AddsEndpoints c (Endpoint.ofResolved? o.reference (c.entriesOf o.reference)).toList := by
  rw [AddsEndpoints, o.references_eq]
  exact requiredEndpoints_insert o.before o.after o.reference

end Occurrence

namespace Configuration

variable {c : Configuration} {policies : List Policy}

/-- The script reports an occurrence exactly if its reference comes to nothing. -/
theorem hasReports_scriptOf (o : Occurrence (active policies)) :
    o.HasReports c (c.scriptOf policies)
      ((c.missingReferences [o.reference]).map Reference.notFound) := by
  have hrefs : activeReferences policies = o.preceding ++ [o.reference] ++ o.following := by
    rw [activeReferences, o.flatMap_references, List.append_assoc, List.singleton_append]
  rw [Occurrence.HasReports, scriptOf, filter_isNotFound_listsOf, hrefs]
  simp only [missingReferences, List.filter_append, List.map_append]

/-- The lists of the script are those of all occurrences. -/
theorem requiredLists_scriptOf (o : Occurrence (active policies)) :
    (c.scriptOf policies).lists = c.requiredLists (o.preceding ++ o.reference :: o.following) := by
  rw [← o.flatMap_references, lists_scriptOf]
  rfl

/-- Something becomes of every occurrence of a reference that resolves. -/
theorem exists_hasFate (o : Occurrence (active policies))
    (h : c.resolve o.reference = .ok (c.entriesOf o.reference)) :
    ∃ fate, o.HasFate c (c.scriptOf policies) fate := by
  have hends := o.addsEndpoints_ofResolved? (c := c)
  have hreports := hasReports_scriptOf (c := c) o
  have hlists := requiredLists_scriptOf (c := c) o
  rcases hitems : c.entriesOf o.reference with _ | ⟨item, _ | ⟨item', items⟩⟩
  · have hshort : (c.entriesOf o.reference).length < 2 := by simp [hitems]
    rw [requiredLists_insert hshort] at hlists
    simp only [missingReferences, hitems, List.filter_cons, decide_true, if_true, List.filter_nil,
      List.map_cons, List.map_nil] at h hends hreports
    exact ⟨.missing, h, hends, hreports, hlists⟩
  · have hshort : (c.entriesOf o.reference).length < 2 := by simp [hitems]
    rw [requiredLists_insert hshort] at hlists
    simp only [missingReferences, hitems, List.filter_cons, reduceCtorEq, decide_false,
      Bool.false_eq_true, if_false, List.filter_nil, List.map_nil] at h hends hreports
    exact ⟨.single, item, h, hends, hreports, hlists⟩
  · have hlong : 2 ≤ (c.entriesOf o.reference).length := by simp [hitems]
    have hrun : listEntries o.reference (c.entriesOf o.reference)
        <:+: (c.scriptOf policies).lists := by
      rw [hlists, requiredLists, List.flatMap_def]
      refine List.infix_of_mem_flatten (List.mem_map.2 ⟨o.reference, ?_, rfl⟩)
      exact mem_listReferences.2 ⟨by simp, hlong⟩
    rw [hitems] at hrun
    simp only [missingReferences, hitems, List.filter_cons, reduceCtorEq, decide_false,
      Bool.false_eq_true, if_false, List.filter_nil, List.map_nil] at h hends hreports
    exact ⟨.list, _, h, by simp, hends, hreports, hrun⟩

/-- **No reference is lost silently.** If policies compile, the rules of each active one are those
that its endpoints require, and for each place where a reference stands exactly one of three things
is the case. The reference comes to nothing, adds no endpoint and is reported, once for this place;
or it comes to one entry and adds the endpoint of its address, but nothing to the lists; or it comes
to several and adds the endpoint of its list, which is filled. The reports stand in the order of the
references, and with the endpoints of all policies they are as many as the references. -/
theorem no_reference_lost {script : Script} (h : c.compile policies = .ok script) :
    (script.blocks = (active policies).map fun p =>
      ⟨p.describe, p.services.flatMap (c.requiredRules p)⟩) ∧
    (∀ o : Occurrence (active policies), ∃! fate, o.HasFate c script fate) ∧
    script.diagnostics.filter (·.problem.isNotFound)
      = (c.missingReferences (activeReferences policies)).map Reference.notFound ∧
    (script.diagnostics.filter (·.problem.isNotFound)).map (·.text)
      = (c.missingReferences (activeReferences policies)).map
        (fun r => r.zone ++ " " ++ r.name ++ " not found") ∧
    script.diagnostics.countP (·.problem.isNotFound) + ((active policies).map c.sideCount).sum
      = (activeReferences policies).length := by
  obtain ⟨hall, rfl⟩ := compile_eq_ok.1 h
  have hreports : (c.scriptOf policies).diagnostics.filter (·.problem.isNotFound)
      = (c.missingReferences (activeReferences policies)).map Reference.notFound :=
    filter_isNotFound_listsOf
  refine ⟨List.map_congr_left fun p hp => ?_, fun o => ?_, hreports, ?_, ?_⟩
  · rw [blockOf, rulesOf_eq_requiredRules (hall p hp)]
  · have hp : o.policy ∈ active policies := by simp [o.policies_eq]
    have hr : o.reference ∈ o.policy.referencesAt o.side := by simp [o.references_eq]
    obtain ⟨fate, hfate⟩ := exists_hasFate o ((hall _ hp).resolve_named hr)
    exact ⟨fate, hfate, fun other hother => hother.unique hfate⟩
  · rw [hreports, List.map_map]
    exact List.map_congr_left fun r _ => r.text_notFound
  · rw [List.countP_eq_length_filter, hreports, List.length_map]
    exact length_missingReferences_flatMap (active policies)

/-! ### A policy that names a stranger -/

/-- The policy for the servers, with a source that no zone has. -/
def namesForStranger : Policy := { namesForServers with sources := ["servers", "stranger", "web"] }

/-- The stranger comes to nothing. -/
theorem resolve_stranger : twoHosts.resolve ⟨"Trust", "stranger"⟩ = .ok [] := by
  have hnone : twoHosts.objects.get? "Trust" "stranger" = none := by
    simp only [twoHosts, AddressBook.get?_addMember, AddressBook.get?_add]
    rfl
  rw [resolve, AddressBook.resolve_of_flattens (.unknown ⟨by decide, rfl⟩ hnone .nil)]
  rfl

/-- That does not keep the policy from compiling. -/
theorem compiles_namesForStranger : twoHosts.Compiles namesForStranger where
  references r hr := by
    have hcases : r = ⟨"Trust", "stranger"⟩ ∨ r ∈ namesForServers.references := by
      simp only [Policy.references, Policy.sourceReferences, Policy.destinationReferences,
        namesForStranger, namesForServers, passToAny, List.map_cons, List.map_nil, List.mem_append,
        List.mem_cons, List.not_mem_nil, or_false] at hr ⊢
      grind
    rcases hcases with rfl | hr
    · exact resolve_eq_entriesOf resolve_stranger
    · exact compiles_namesForServers.references r hr
  services := compiles_namesForServers.services

/-- The stranger is reported, and the three other references have their sides. -/
theorem notFound_namesForStranger :
    ∃ script, twoHosts.compile [namesForStranger] = .ok script ∧
      (script.diagnostics.filter (·.problem.isNotFound)).map (·.text)
        = ["Trust stranger not found"] ∧
      ((active [namesForStranger]).map twoHosts.sideCount).sum = 3 := by
  have hactive : active [namesForStranger] = [namesForStranger] := by decide
  have hc : twoHosts.compile [namesForStranger] = .ok (twoHosts.scriptOf [namesForStranger]) := by
    refine compile_eq_ok.2 ⟨fun p hp => ?_, rfl⟩
    rw [hactive, List.mem_singleton] at hp
    exact hp ▸ compiles_namesForStranger
  have hmissing : twoHosts.missingReferences (activeReferences [namesForStranger])
      = [⟨"Trust", "stranger"⟩] := by
    have hservers := entriesOf_of_resolve _ _ resolve_servers
    have hstranger := entriesOf_of_resolve _ _ resolve_stranger
    have hweb := entriesOf_of_resolve _ _ resolve_web
    have hany := entriesOf_of_resolve _ _ (resolve_any (c := twoHosts) "Untrust")
    rw [activeReferences, hactive, List.flatMap_singleton]
    simp [missingReferences, Policy.references, Policy.sourceReferences,
      Policy.destinationReferences, namesForStranger, namesForServers, passToAny, hservers,
      hstranger, hweb, hany]
  obtain ⟨-, -, hreports, htexts, hcount⟩ := no_reference_lost hc
  have hfour : (activeReferences [namesForStranger]).length = 4 := by decide
  rw [List.countP_eq_length_filter, hreports, hmissing, hfour, List.map_singleton,
    List.length_singleton] at hcount
  rw [hmissing] at htexts
  exact ⟨_, hc, htexts, by omega⟩

end Configuration

end ZoneFirewall
