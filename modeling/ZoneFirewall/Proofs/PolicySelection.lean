import ZoneFirewall.Conversion
import ZoneFirewall.Proofs.AddressLists
import ZoneFirewall.Proofs.ScriptLines
import ZoneFirewall.Proofs.SharedResolutions

/-!
# Choosing policies

Policies are compiled one by one. What the rules of one are does not depend on the others that are
compiled with it, nor on their order, and neither do the entries of an address list. So a choice of
policies compiles if the whole does, to some of its blocks and to some of its lists.

* `Configuration.filterRules_append`: **the rules of policies after others** are those of each part.
* `Configuration.listRun`: the entries of one address list. `listRun_isInfix`: they stand together
  in a script.
* `Settings.keeps`: whether settings keep a policy. `kept_eq_filter`: those kept are chosen by this.
* `convert_eq_ok`: when a text has a script.
* `Configuration.Chooses`: that a script is part of another, by some of its blocks and some of its
  lists. `script_filter`: **a choice of policies compiles to a part of the whole.**
* `rules_append_and_fewer_zones`: **fewer zones of interest** leave out whole blocks of rules and
  whole lists, and nothing else.
-/

namespace ZoneFirewall

open Text

namespace Configuration

variable {c : Configuration} {policies : List Policy}

/-! ## Rules -/

/-- **The rules of policies after others** are those of the first and those of the others. If the
first have none, the failure is theirs. -/
theorem filterRules_append (c : Configuration) (ps qs : List Policy) :
    c.filterRules (ps ++ qs) = do
      let first ← c.filterRules ps
      let rest ← c.filterRules qs
      return first ++ rest := by
  have hactive : active (ps ++ qs) = active ps ++ active qs := List.filter_append ..
  simp only [← rulesBy_resolve, rulesBy]
  rw [hactive, List.mapM_append]

/-- Policies have rules exactly if each active one compiles, and then each has its block. -/
theorem filterRules_eq_ok {blocks : List PolicyRules} :
    c.filterRules policies = .ok blocks ↔
      (∀ p ∈ active policies, c.Compiles p) ∧ blocks = (active policies).map c.blockOf :=
  rulesFrom_eq_ok

/-- A policy that compiles has a block of its own. -/
theorem filterRules_singleton {p : Policy} (hp : p.isActive = true) (hc : c.Compiles p) :
    c.filterRules [p] = .ok [c.blockOf p] := by
  have hactive : active [p] = [p] := by simp [active, hp]
  rw [filterRules_eq_ok, hactive]
  refine ⟨?_, rfl⟩
  intro q hq
  rwa [List.mem_singleton.1 hq]

/-! ## Lists -/

/-- The entries of a reference's list. -/
def listRun (c : Configuration) (r : Reference) : List ListEntry := listEntries r (c.entriesOf r)

/-- The entries of a list stand together among those of some lists. -/
theorem listRun_isInfix {r : Reference} {refs : List Reference} (hr : r ∈ refs) :
    c.listRun r <:+: refs.flatMap c.listRun := by
  obtain ⟨before, after, rfl⟩ := List.append_of_mem hr
  refine ⟨before.flatMap c.listRun, after.flatMap c.listRun, ?_⟩
  rw [List.flatMap_append, List.flatMap_cons, List.append_assoc]

/-- Some of the policies need no other lists than all. -/
theorem listReferences_subset {chosen : List Policy} (h : active chosen ⊆ active policies) :
    c.listReferences (activeReferences chosen) ⊆ c.listReferences (activeReferences policies) := by
  intro r hr
  rw [mem_listReferences] at hr ⊢
  refine ⟨?_, hr.2⟩
  obtain ⟨p, hp, hmem⟩ := List.mem_flatMap.1 hr.1
  exact List.mem_flatMap.2 ⟨p, h hp, hmem⟩

/-! ## Scripts -/

/-- The script of some policies, the problems of reading included. -/
def reportingScriptOf (c : Configuration) (policies : List Policy) : Script :=
  { c.scriptOf policies with diagnostics := c.diagnostics ++ (c.scriptOf policies).diagnostics }

/-- The lists of a script are the runs of the references that need one. -/
theorem lists_reportingScriptOf : (c.reportingScriptOf policies).lists
    = (c.listReferences (activeReferences policies)).flatMap c.listRun :=
  lists_scriptOf

/-- Policies have a script exactly if each active one compiles. -/
theorem script_eq_ok {script : Script} :
    c.script policies = .ok script ↔
      (∀ p ∈ active policies, c.Compiles p) ∧ script = c.reportingScriptOf policies := by
  rw [Configuration.script, bind_eq_ok]
  simp only [compile_eq_ok]
  constructor
  · rintro ⟨compiled, ⟨hall, rfl⟩, hscript⟩
    exact ⟨hall, (Except.ok.inj hscript).symm⟩
  · rintro ⟨hall, rfl⟩
    exact ⟨_, ⟨hall, rfl⟩, rfl⟩

/-- A script is that of a choice of the policies of another: it has their blocks, each of which is
what the policy has alone, and for each of their references that needs a list the same run of
entries. -/
structure Chooses (c : Configuration) (keep : Policy → Bool) (policies : List Policy)
    (whole part : Script) : Prop where
  /-- An active policy has a block of its own. -/
  block : ∀ p ∈ active policies, c.filterRules [p] = .ok [c.blockOf p]
  /-- The rules are the blocks of the active policies. -/
  blocks : whole.blocks = (active policies).map c.blockOf
  /-- Those of the others are left out, and these only. -/
  keptBlocks : part.blocks = ((active policies).filter keep).map c.blockOf
  /-- The lists are the runs of the references. -/
  lists : whole.lists = (c.listReferences (activeReferences policies)).flatMap c.listRun
  /-- So are those of the chosen policies. -/
  keptLists : part.lists
    = (c.listReferences (activeReferences (policies.filter keep))).flatMap c.listRun
  /-- A run is what its reference comes to. -/
  resolved : ∀ r ∈ c.listReferences (activeReferences (policies.filter keep)),
    c.resolve r = .ok (c.entriesOf r)
  /-- It stands in both scripts. -/
  runs : ∀ r ∈ c.listReferences (activeReferences (policies.filter keep)),
    c.listRun r <:+: part.lists ∧ c.listRun r <:+: whole.lists

/-- **A choice of policies compiles to a part of the whole** if the whole compiles. -/
theorem script_filter (keep : Policy → Bool) {whole : Script}
    (h : c.script policies = .ok whole) :
    ∃ part, c.script (policies.filter keep) = .ok part ∧
      c.Chooses keep policies whole part := by
  obtain ⟨hcompiles, rfl⟩ := script_eq_ok.1 h
  -- dropping policies and dropping inactive ones can change places
  have hactive : active (policies.filter keep) = (active policies).filter keep :=
    List.filter_comm ..
  have hsub : active (policies.filter keep) ⊆ active policies := by
    rw [hactive]
    exact List.filter_subset_self _
  have hcompilesPart : ∀ p ∈ active (policies.filter keep), c.Compiles p := by
    intro p hp
    exact hcompiles p (hsub hp)
  refine ⟨c.reportingScriptOf (policies.filter keep), script_eq_ok.2 ⟨hcompilesPart, rfl⟩, ?_⟩
  constructor
  · intro p hp
    exact filterRules_singleton (List.mem_filter.1 hp).2 (hcompiles p hp)
  · rfl
  · rw [← hactive]
    rfl
  · exact lists_reportingScriptOf
  · exact lists_reportingScriptOf
  · intro r hr
    obtain ⟨p, hp, hmem⟩ := List.mem_flatMap.1 (mem_listReferences.1 hr).1
    exact (hcompilesPart p hp).references r hmem
  · intro r hr
    rw [lists_reportingScriptOf, lists_reportingScriptOf]
    exact ⟨listRun_isInfix hr, listRun_isInfix (listReferences_subset hsub hr)⟩

end Configuration

/-- Whether settings keep a policy. -/
def Settings.keeps (s : Settings) (p : Policy) : Bool :=
  s.allZones || (s.zones.contains p.fromZone || s.zones.contains p.toZone)

/-- The policies that are kept, in their order. -/
theorem Settings.kept_eq_filter (s : Settings) (c : Configuration) :
    s.kept c = c.policies.filter s.keeps := by
  unfold kept keeps
  cases s.allZones with
  | false => rfl
  | true => exact (List.filter_eq_self.2 fun _ _ => rfl).symm

/-- A policy of one of fewer zones is one of more zones. -/
theorem Settings.keeps_of_subset {few many : Settings} {p : Policy}
    (hzones : few.zones ⊆ many.zones) (hall : few.allZones = many.allZones)
    (h : few.keeps p = true) : many.keeps p = true := by
  simp only [keeps, Bool.or_eq_true, List.contains_iff_mem] at h ⊢
  rcases h with h | h | h
  · exact .inl (hall ▸ h)
  · exact .inr (.inl (hzones h))
  · exact .inr (.inr (hzones h))

/-- Fewer zones keep some of the policies of more zones. -/
theorem Settings.kept_of_subset {few many : Settings} (hzones : few.zones ⊆ many.zones)
    (hall : few.allZones = many.allZones) (c : Configuration) :
    few.kept c = (many.kept c).filter few.keeps := by
  rw [kept_eq_filter, kept_eq_filter, List.filter_filter]
  apply List.filter_congr
  intro p _
  cases h : few.keeps p with
  | false => rfl
  | true => rw [keeps_of_subset hzones hall h]; rfl

/-- A text has a script if the settings have a catalog, the text can be read, and the policies that
are kept have a script. -/
theorem convert_eq_ok {s : Settings} {resolver : Option Resolver} {text : String}
    {script : Script} : convert s resolver text = .ok script ↔ ∃ services c,
      s.catalog = .ok services ∧ Configuration.ofText services resolver text = .ok c ∧
      c.script (s.kept c) = .ok script := by
  simp only [convert, bind_eq_ok, mapError_eq_ok, exists_and_left]

/-- **Policies are compiled one by one.** The rules of policies after others are those of the first
and then those of the others, as is the failure. So if a text has a script, it also has one with
fewer zones of interest: its rules are the whole blocks of the policies that are still kept, and its
lists are the whole runs of the references that are still there. Each of these runs stands in the
other script as it is. -/
theorem rules_append_and_fewer_zones :
    (∀ (c : Configuration) (ps qs : List Policy), c.filterRules (ps ++ qs) = do
      let first ← c.filterRules ps
      let rest ← c.filterRules qs
      return first ++ rest) ∧
    ∀ (few many : Settings) (resolver : Option Resolver) (text : String) (whole : Script),
      few.zones ⊆ many.zones → few.allZones = many.allZones → few.services = many.services →
      convert many resolver text = .ok whole →
        ∃ (services : Catalog) (c : Configuration) (part : Script),
          many.catalog = .ok services ∧ Configuration.ofText services resolver text = .ok c ∧
          convert few resolver text = .ok part ∧
          few.kept c = (many.kept c).filter few.keeps ∧
          c.Chooses few.keeps (many.kept c) whole part := by
  refine ⟨Configuration.filterRules_append, ?_⟩
  intro few many resolver text whole hzones hall hservices hwhole
  obtain ⟨services, c, hcatalog, hread, hscript⟩ := convert_eq_ok.1 hwhole
  have hkept : few.kept c = (many.kept c).filter few.keeps := Settings.kept_of_subset hzones hall c
  have hsame : few.catalog = many.catalog := by
    unfold Settings.catalog
    rw [hservices]
  obtain ⟨part, hpart, hchooses⟩ := Configuration.script_filter few.keeps hscript
  rw [← hkept] at hpart
  have hconvert : convert few resolver text = .ok part :=
    convert_eq_ok.2 ⟨services, c, hsame.trans hcatalog, hread, hpart⟩
  exact ⟨services, c, part, hcatalog, hread, hconvert, hkept, hchooses⟩

/-! ### Two zones -/

/-- A group of two hosts in each of two zones, and a policy for each of the groups. -/
def twoZonesLines : List String :=
  ["set group address \"DMZ\" \"farm\" add \"MIP(10.1.0.1)\"",
    "set group address \"DMZ\" \"farm\" add \"MIP(10.1.0.2)\"",
    "set group address \"Trust\" \"farm\" add \"MIP(10.0.0.1)\"",
    "set group address \"Trust\" \"farm\" add \"MIP(10.0.0.2)\"",
    "set policy id 1 from \"DMZ\" to \"Untrust\" \"farm\" \"any\" \"ANY\" permit",
    "set policy id 2 from \"Trust\" to \"Untrust\" \"farm\" \"any\" \"ANY\" permit"]

/-- The fields of a policy for the group of a zone. -/
def farmHeader (id zone : String) : PolicyHeader where
  id := id
  name := none
  fromZone := zone
  toZone := "Untrust"
  source := "farm"
  destination := "any"
  service := "ANY"
  nat := .none
  natAddress := none
  natPort := none
  action := .permit
  log := false

namespace Configuration

/-- What the lines say. -/
def twoZones : Configuration where
  policies := [passToAny ⟨"DMZ", "farm"⟩ "ANY",
    { passToAny ⟨"Trust", "farm"⟩ "ANY" with id := 2 }]
  objects :=
    (((AddressBook.empty.addMember "DMZ" "farm" "MIP(10.1.0.1)").addMember "DMZ" "farm"
      "MIP(10.1.0.2)").addMember "Trust" "farm" "MIP(10.0.0.1)").addMember "Trust" "farm"
        "MIP(10.0.0.2)"

/-- The lines are read as what they say. -/
theorem ofText_twoZones : ofText .predefined none (joinLines twoZonesLines) = .ok twoZones := by
  have hlines : splitLines (joinLines twoZonesLines) = twoZonesLines :=
    splitLines_joinLines (by decide +kernel)
  have hpolicy : Reading.newPolicy [] (farmHeader "1" "DMZ")
      = .ok (passToAny ⟨"DMZ", "farm"⟩ "ANY") := rfl
  have hpolicy' : Reading.newPolicy [passToAny ⟨"DMZ", "farm"⟩ "ANY"] (farmHeader "2" "Trust")
      = .ok { passToAny ⟨"Trust", "farm"⟩ "ANY" with id := 2 } := rfl
  -- line by line: what it is, and what it does
  rw [ofText, hlines, twoZonesLines, ofLines, Reading.lines,
    Reading.linesFrom_of_does (d := .addressGroupAdd "DMZ" "farm" "MIP(10.1.0.1)")
      (by decide +kernel) .addressGroupAdd,
    Reading.linesFrom_of_does (d := .addressGroupAdd "DMZ" "farm" "MIP(10.1.0.2)")
      (by decide +kernel) .addressGroupAdd,
    Reading.linesFrom_of_does (d := .addressGroupAdd "Trust" "farm" "MIP(10.0.0.1)")
      (by decide +kernel) .addressGroupAdd,
    Reading.linesFrom_of_does (d := .addressGroupAdd "Trust" "farm" "MIP(10.0.0.2)")
      (by decide +kernel) .addressGroupAdd,
    Reading.linesFrom_of_does (d := .policyCreate (farmHeader "1" "DMZ"))
      (by decide +kernel) (.policyCreate hpolicy),
    Reading.linesFrom_of_does (d := .policyCreate (farmHeader "2" "Trust"))
      (by decide +kernel) (.policyCreate hpolicy')]
  rfl

/-- A group of two names that carry different addresses in themselves comes to both. -/
theorem resolve_farm {c : Configuration} {zone first second : String} {a b : Interface}
    {o : AddressObject} (hget : c.objects.get? zone "farm" = some o)
    (hmembers : o.members = [first, second])
    (hfirst : isAnyName first = false ∧ inlineAddress? first = some a)
    (hsecond : isAnyName second = false ∧ inlineAddress? second = some b) (hne : a ≠ b) :
    c.resolve ⟨zone, "farm"⟩ = .ok [⟨first, a⟩, ⟨second, b⟩] := by
  have hhosts : c.objects.Flattens zone o.members [⟨first, a⟩, ⟨second, b⟩] := by
    rw [hmembers]
    exact .inline hfirst.1 hfirst.2 (.inline hsecond.1 hsecond.2 .nil)
  rw [resolve, AddressBook.resolve_of_flattens
    (.group ⟨by decide, rfl⟩ hget (by simp [hmembers]) hhosts .nil)]
  simp [List.eraseDupsBy_cons, hne.symm, Except.mapError]

/-- The group of the first zone comes to its hosts. -/
theorem resolve_dmzFarm : twoZones.resolve ⟨"DMZ", "farm"⟩
    = .ok [⟨"MIP(10.1.0.1)", .host (.ofOctets 10 1 0 1)⟩,
      ⟨"MIP(10.1.0.2)", .host (.ofOctets 10 1 0 2)⟩] :=
  resolve_farm rfl rfl ⟨rfl, rfl⟩ ⟨rfl, rfl⟩ (by decide)

/-- So does that of the other zone. -/
theorem resolve_trustFarm : twoZones.resolve ⟨"Trust", "farm"⟩
    = .ok [⟨"MIP(10.0.0.1)", .host (.ofOctets 10 0 0 1)⟩,
      ⟨"MIP(10.0.0.2)", .host (.ofOctets 10 0 0 2)⟩] :=
  resolve_farm rfl rfl ⟨rfl, rfl⟩ ⟨rfl, rfl⟩ (by decide)

/-- Both policies compile. -/
theorem script_twoZones :
    twoZones.script twoZones.policies = .ok (twoZones.reportingScriptOf twoZones.policies) := by
  refine script_eq_ok.2 ⟨fun p hp => ?_, rfl⟩
  have hactive : active twoZones.policies = twoZones.policies := by decide
  rw [hactive] at hp
  rcases List.mem_pair.1 hp with rfl | rfl
  · exact compiles_passToAny 1 resolve_dmzFarm rfl
  · exact compiles_passToAny 2 resolve_trustFarm rfl

/-- The groups need lists. -/
theorem listReferences_twoZones : twoZones.listReferences (activeReferences twoZones.policies)
    = [⟨"DMZ", "farm"⟩, ⟨"Trust", "farm"⟩] := by
  have hreferences : activeReferences twoZones.policies
      = [⟨"DMZ", "farm"⟩, ⟨"Untrust", "any"⟩, ⟨"Trust", "farm"⟩, ⟨"Untrust", "any"⟩] := by
    decide
  rw [hreferences, listReferences]
  simp [List.eraseDups_cons, entriesOf_of_resolve _ _ resolve_dmzFarm,
    entriesOf_of_resolve _ _ resolve_trustFarm,
    entriesOf_of_resolve _ _ (resolve_any (c := twoZones) "Untrust")]

/-- So does the one of them that is in a zone of interest. -/
theorem listReferences_trust : twoZones.listReferences (activeReferences
    (twoZones.policies.filter ({ zones := ["Trust"] } : Settings).keeps))
    = [⟨"Trust", "farm"⟩] := by
  have hreferences : activeReferences
      (twoZones.policies.filter ({ zones := ["Trust"] } : Settings).keeps)
      = [⟨"Trust", "farm"⟩, ⟨"Untrust", "any"⟩] := by
    decide
  rw [hreferences, listReferences]
  simp [List.eraseDups_cons, entriesOf_of_resolve _ _ resolve_trustFarm,
    entriesOf_of_resolve _ _ (resolve_any (c := twoZones) "Untrust")]

/-- The list of the group of the first zone. -/
theorem listRun_dmzFarm : twoZones.listRun ⟨"DMZ", "farm"⟩
    = [⟨"DMZ__farm", .host (.ofOctets 10 1 0 1), "MIP(10.1.0.1)"⟩,
      ⟨"DMZ__farm", .host (.ofOctets 10 1 0 2), "MIP(10.1.0.2)"⟩] := by
  rw [listRun, entriesOf_of_resolve _ _ resolve_dmzFarm]
  rfl

/-- The list of the group of the other zone. -/
theorem listRun_trustFarm : twoZones.listRun ⟨"Trust", "farm"⟩
    = [⟨"Trust__farm", .host (.ofOctets 10 0 0 1), "MIP(10.0.0.1)"⟩,
      ⟨"Trust__farm", .host (.ofOctets 10 0 0 2), "MIP(10.0.0.2)"⟩] := by
  rw [listRun, entriesOf_of_resolve _ _ resolve_trustFarm]
  rfl

end Configuration

/-- Without the first zone, the block and the list of its policy are gone. The list of the other one
stands there as it did. -/
theorem fewer_zones_twoZones : ∃ whole part : Script,
    convert { zones := ["DMZ", "Trust"] } none (joinLines twoZonesLines) = .ok whole ∧
    convert { zones := ["Trust"] } none (joinLines twoZonesLines) = .ok part ∧
    whole.blocks.length = 2 ∧ part.blocks = whole.blocks.drop 1 ∧
    whole.lists.length = 4 ∧ part.lists <:+: whole.lists ∧
    part.lists = [⟨"Trust__farm", .host (.ofOctets 10 0 0 1), "MIP(10.0.0.1)"⟩,
      ⟨"Trust__farm", .host (.ofOctets 10 0 0 2), "MIP(10.0.0.2)"⟩] := by
  have hwhole : convert { zones := ["DMZ", "Trust"] } none (joinLines twoZonesLines) = .ok _ :=
    convert_eq_ok.2 ⟨_, _, rfl, Configuration.ofText_twoZones, Configuration.script_twoZones⟩
  obtain ⟨services, c, part, hcatalog, hread, hpart, -, hchooses⟩ :=
    rules_append_and_fewer_zones.2 { zones := ["Trust"] } { zones := ["DMZ", "Trust"] } none
      (joinLines twoZonesLines) _ (by decide) rfl rfl hwhole
  obtain rfl : Catalog.predefined = services := Except.ok.inj hcatalog
  obtain rfl : Configuration.twoZones = c :=
    Except.ok.inj (Configuration.ofText_twoZones.symm.trans hread)
  have hkept : ({ zones := ["DMZ", "Trust"] } : Settings).kept Configuration.twoZones
      = Configuration.twoZones.policies := rfl
  have hactive : Configuration.active Configuration.twoZones.policies
      = Configuration.twoZones.policies := by decide
  rw [hkept] at hchooses
  obtain ⟨-, hblocks, hkeptBlocks, hlists, hkeptLists, -, hruns⟩ := hchooses
  rw [hactive] at hblocks hkeptBlocks
  rw [Configuration.listReferences_twoZones] at hlists
  rw [Configuration.listReferences_trust] at hkeptLists hruns
  have hlist : part.lists = Configuration.twoZones.listRun ⟨"Trust", "farm"⟩ := by
    rw [hkeptLists, List.flatMap_singleton]
  obtain ⟨-, hrun⟩ := hruns ⟨"Trust", "farm"⟩ (List.mem_singleton_self _)
  refine ⟨_, part, hwhole, hpart, ?_, ?_, ?_, ?_, ?_⟩
  · rw [hblocks]
    rfl
  · rw [hblocks, hkeptBlocks]
    rfl
  · rw [hlists, List.flatMap_cons, List.flatMap_singleton, Configuration.listRun_dmzFarm,
      Configuration.listRun_trustFarm]
    rfl
  · rw [hlist]
    exact hrun
  · rw [hlist, Configuration.listRun_trustFarm]

end ZoneFirewall
