import Mathlib.Data.List.ProdSigma
import Mathlib.Tactic.Ring
import ZoneFirewall.Proofs.AddressLists
import ZoneFirewall.Script.Printer

/-!
# The rules that policies require

Each active policy has a block of rules: service by service, protocol by protocol, and one rule for
each pair of a source and a destination. What the pairs and the protocols are is said here without
the compiler, in terms of what references and services come to.

* `Configuration.singleReferences`, `Configuration.severalReferences`,
  `Configuration.requiredEndpoints`: the references that come to one entry and those that come to
  several, and the sides of rules in their order. `endpointsOf_eq_requiredEndpoints`: they are those
  that the compiler finds.
* `Configuration.definitionsFor`, `Configuration.protocolsFor`: the definitions of a service, and
  their protocols in the order of their first use.
* `Configuration.requiredRules`, `Configuration.requiredCount`: the rules of a policy for a service,
  and how many they are (`length_requiredRules`).
* `compile_requires`: **a script has exactly the required rules, in order**, and counts them.
-/

namespace ZoneFirewall

open Text

/-! ## Lines of a script -/

/-- The line is a statement that adds a rule. -/
def isRuleLine (line : String) : Bool := "add chain=".toList.isPrefixOf line.toList

/-- A rule is written on the line of a rule. -/
theorem isRuleLine_rule (r : Rule) : isRuleLine r.text = true := by
  simp [isRuleLine, Rule.text, Rule.fields, List.isPrefixOf]

/-- An entry of a list is not. -/
theorem isRuleLine_listEntry (e : ListEntry) : isRuleLine e.text = false := by
  simp [isRuleLine, ListEntry.text, List.isPrefixOf]

/-- Nor is a header. -/
theorem isRuleLine_header (header : String) : isRuleLine ("# " ++ header) = false := by
  simp [isRuleLine, List.isPrefixOf]

/-- A block has one line for each of its rules, a header and an empty line. -/
theorem countP_isRuleLine_block (b : PolicyRules) :
    b.lines.countP isRuleLine = b.rules.length := by
  have hrules : (b.rules.map (·.text)).countP isRuleLine = b.rules.length := by
    rw [List.countP_map, List.countP_eq_length]
    exact fun r _ => isRuleLine_rule r
  rw [PolicyRules.lines, List.cons_append, List.countP_cons_of_neg (by simp [isRuleLine_header]),
    List.countP_append, hrules]
  rfl

/-- The lines for rules are as many as the rules. -/
theorem countP_isRuleLine_lines (s : Script) : s.lines.countP isRuleLine = s.rules.length := by
  have hlists : (listsHeader :: listLines s.lists).countP isRuleLine = 0 := by
    rw [List.countP_eq_zero]
    intro line hline
    rcases List.mem_cons.1 hline with rfl | hline
    · decide
    · obtain ⟨e, -, rfl⟩ := List.mem_map.1 hline
      simp [isRuleLine_listEntry]
  have hheader : ["", "", filterHeader].countP isRuleLine = 0 := by decide
  rw [Script.lines, List.countP_append, List.countP_append, hlists, hheader, ruleLines,
    List.countP_flatMap, Script.rules, List.length_flatMap]
  simp only [Function.comp_def, countP_isRuleLine_block, Nat.zero_add]

namespace Configuration

variable {c : Configuration} {policies : List Policy} {p : Policy}

/-! ## Sides of rules -/

/-- The references that come to one entry. -/
def singleReferences (c : Configuration) (refs : List Reference) : List Reference :=
  refs.filter fun r => (c.entriesOf r).length = 1

/-- The references that come to several entries. -/
def severalReferences (c : Configuration) (refs : List Reference) : List Reference :=
  refs.filter fun r => 2 ≤ (c.entriesOf r).length

/-- The sides of rules for some references: first the address of each that comes to one entry, then
the list of each that comes to several. -/
def requiredEndpoints (c : Configuration) (refs : List Reference) : List Endpoint :=
  ((c.singleReferences refs).flatMap fun r =>
      (c.entriesOf r).map fun item => .single r.name item.address)
    ++ (c.severalReferences refs).map fun r => .list r.listName

/-- The single addresses among the endpoints are the entries of the references that have one. -/
theorem filter_single_ofResolved? (refs : List Reference) :
    (refs.filterMap fun r => Endpoint.ofResolved? r (c.entriesOf r)).filter (!·.isList)
      = (c.singleReferences refs).flatMap fun r =>
          (c.entriesOf r).map fun item => .single r.name item.address := by
  induction refs with
  | nil => rfl
  | cons r refs ih =>
      rcases hitems : c.entriesOf r with _ | ⟨item, _ | ⟨item', items⟩⟩
      · simpa [singleReferences, Endpoint.ofResolved?, hitems] using ih
      · simpa [singleReferences, Endpoint.ofResolved?, Endpoint.isList, hitems] using ih
      · simpa [singleReferences, Endpoint.ofResolved?, Endpoint.isList, hitems] using ih

/-- The lists among them are those of the references that have several. -/
theorem filter_list_ofResolved? (refs : List Reference) :
    (refs.filterMap fun r => Endpoint.ofResolved? r (c.entriesOf r)).filter (·.isList)
      = (c.severalReferences refs).map fun r => .list r.listName := by
  induction refs with
  | nil => rfl
  | cons r refs ih =>
      rcases hitems : c.entriesOf r with _ | ⟨item, _ | ⟨item', items⟩⟩
      · simpa [severalReferences, Endpoint.ofResolved?, hitems] using ih
      · simpa [severalReferences, Endpoint.ofResolved?, Endpoint.isList, hitems] using ih
      · simpa [severalReferences, Endpoint.ofResolved?, Endpoint.isList, hitems] using ih

/-- The endpoints that the compiler finds are the required ones. -/
theorem endpointsOf_eq_requiredEndpoints (refs : List Reference) :
    c.endpointsOf refs = c.requiredEndpoints refs := by
  rw [requiredEndpoints, ← filter_single_ofResolved?, ← filter_list_ofResolved?]
  rfl

/-- There is a side for each reference that comes to something. -/
theorem length_requiredEndpoints (refs : List Reference) :
    (c.requiredEndpoints refs).length
      = (c.singleReferences refs).length + (c.severalReferences refs).length := by
  have hone : ∀ r ∈ c.singleReferences refs,
      ((c.entriesOf r).map fun item => Endpoint.single r.name item.address).length = 1 := by
    intro r hr
    rw [List.length_map]
    simpa [singleReferences] using (List.mem_filter.1 hr).2
  rw [requiredEndpoints, List.length_append, List.length_map, List.length_flatMap,
    List.map_congr_left hone, List.map_const', List.sum_replicate_nat, mul_one]

/-! ## Protocols -/

/-- The definitions of a service; none for the service of every packet. -/
def definitionsFor (c : Configuration) (service : String) : List Definition :=
  if service = anyService then [] else (c.services.definitions service).toOption.getD []

/-- The protocols of a service, each where it is first used. -/
def protocolsFor (c : Configuration) (service : String) : List WideText :=
  ((c.definitionsFor service).map (·.protocol)).eraseDups

/-- The protocols of the passes for a service: a single pass without a protocol if there is none. -/
def passProtocols (c : Configuration) (service : String) : List WideText :=
  if c.protocolsFor service = [] then [""] else c.protocolsFor service

/-- There is one pass for each protocol, and one if there is none. -/
theorem length_passProtocols (service : String) :
    (c.passProtocols service).length = max (c.protocolsFor service).length 1 := by
  unfold passProtocols
  split
  · rename_i hnil
    rw [hnil]
    rfl
  · rename_i hne
    have hpos := List.length_pos_iff.2 hne
    omega

/-- The definitions for a service that is known are its own. -/
theorem definitionsFor_of_definitions {service : String} {ds : List Definition}
    (hany : service ≠ anyService) (h : c.services.definitions service = .ok ds) :
    c.definitionsFor service = ds := by
  rw [definitionsFor, if_neg hany, h]
  rfl

/-- The passes that the compiler makes are the required ones. -/
theorem passesOf_eq_passProtocols {policy : Int} {service : String}
    (h : c.servicePasses policy service = .ok (c.passesOf policy service)) :
    c.passesOf policy service = (c.passProtocols service, c.definitionsFor service) := by
  by_cases hany : service = anyService
  · subst hany
    rfl
  · obtain ⟨ds, hds, hpasses⟩ := (servicePasses_eq_ok hany).1 h
    rw [hpasses, passProtocols, protocolsFor, definitionsFor_of_definitions hany hds, protocolsOf,
      Catalog.distinct_eq_eraseDups]
    congr 1
    rcases ds with _ | ⟨d, ds⟩
    · rfl
    · simp [List.eraseDups_cons]

/-! ## Rules -/

/-- The rules of a policy for a service: for each protocol one for each pair of sides, of which the
destination changes first. -/
def requiredRules (c : Configuration) (p : Policy) (service : String) : List Rule :=
  (c.passProtocols service).flatMap fun protocol =>
    (c.requiredEndpoints p.sourceReferences ×ˢ c.requiredEndpoints p.destinationReferences).map
      fun sides => rule p (c.definitionsFor service) protocol sides.1 sides.2

/-- How many rules of a policy are for a service: one for each pair of a source and a destination,
be they single addresses or lists, and for each protocol. -/
def requiredCount (c : Configuration) (p : Policy) (service : String) : Nat :=
  let n := (c.singleReferences p.sourceReferences).length
  let s := (c.severalReferences p.sourceReferences).length
  let m := (c.singleReferences p.destinationReferences).length
  let d := (c.severalReferences p.destinationReferences).length
  (n * m + n * d + s * m + s * d) * max (c.protocolsFor service).length 1

/-- There are as many rules for a service as its count says. -/
theorem length_requiredRules (p : Policy) (service : String) :
    (c.requiredRules p service).length = c.requiredCount p service := by
  have hpass : ∀ protocol ∈ c.passProtocols service,
      ((c.requiredEndpoints p.sourceReferences ×ˢ
        c.requiredEndpoints p.destinationReferences).map
          fun sides => rule p (c.definitionsFor service) protocol sides.1 sides.2).length
        = (c.requiredEndpoints p.sourceReferences).length
          * (c.requiredEndpoints p.destinationReferences).length := by
    intro protocol _
    rw [List.length_map, List.length_product]
  rw [requiredRules, List.length_flatMap, List.map_congr_left hpass, List.map_const',
    List.sum_replicate_nat, length_passProtocols, length_requiredEndpoints,
    length_requiredEndpoints, requiredCount]
  ring

/-- What the compiler makes of a policy that compiles are the required rules, service by service. -/
theorem rulesOf_eq_requiredRules (hc : c.Compiles p) :
    c.rulesOf p = p.services.flatMap (c.requiredRules p) := by
  unfold rulesOf
  refine List.flatMap_congr fun service hservice => ?_
  rw [serviceRulesOf, passesOf_eq_passProtocols (hc.services service hservice),
    endpointsOf_eq_requiredEndpoints, endpointsOf_eq_requiredEndpoints, requiredRules]
  refine List.flatMap_congr fun protocol _ => ?_
  simp only [SProd.sprod, List.product, List.map_flatMap, List.map_map, Function.comp_def]

/-- Counting rules block by block counts all of them. -/
theorem countRules_eq_sum (blocks : List PolicyRules) :
    countRules blocks = (blocks.map (·.rules.length)).sum := by
  have hfold : ∀ n, blocks.foldl (fun n b => n + b.rules.length) n
      = n + (blocks.map (·.rules.length)).sum := by
    induction blocks with
    | nil => simp
    | cons b blocks ih =>
        intro n
        rw [List.foldl_cons, ih, List.map_cons, List.sum_cons, Nat.add_assoc]
  rw [countRules, hfold, Nat.zero_add]

/-- **A script has exactly the required rules, in order.** If policies compile, all references and
services of the active ones come to something. After the address lists, each of these policies, in
order, has a header, the required rules of its services, in order, and an empty line. The rules for
a service are as many as pairs of sides times protocols; the rule count is the sum of these numbers,
and the number of lines that add a rule. -/
theorem compile_requires {script : Script} (h : c.compile policies = .ok script) :
    (∀ p ∈ active policies,
      (∀ r ∈ p.references, c.resolve r = .ok (c.entriesOf r)) ∧
      ∀ service ∈ p.services, service ≠ anyService →
        c.services.definitions service = .ok (c.definitionsFor service)) ∧
    script.lines = listsHeader :: listLines script.lists ++ ["", "", filterHeader] ++
      (active policies).flatMap (fun p =>
        ("# " ++ p.describe) :: (p.services.flatMap (c.requiredRules p)).map (·.text) ++ [""]) ∧
    (∀ p service, (c.requiredRules p service).length = c.requiredCount p service) ∧
    script.ruleCount
      = ((active policies).map fun p => (p.services.map (c.requiredCount p)).sum).sum ∧
    script.ruleCount = script.lines.countP isRuleLine := by
  obtain ⟨hall, rfl⟩ := compile_eq_ok.1 h
  have hrules : ∀ p ∈ active policies, c.blockOf p
      = ⟨p.describe, p.services.flatMap (c.requiredRules p)⟩ := by
    intro p hp
    rw [blockOf, rulesOf_eq_requiredRules (hall p hp)]
  have hblocks : (c.scriptOf policies).blocks = (active policies).map fun p =>
      ⟨p.describe, p.services.flatMap (c.requiredRules p)⟩ := List.map_congr_left hrules
  have hcount : (c.scriptOf policies).ruleCount = countRules (c.scriptOf policies).blocks := rfl
  refine ⟨fun p hp => ⟨(hall p hp).references, ?_⟩, ?_, length_requiredRules, ?_, ?_⟩
  · intro service hservice hany
    obtain ⟨ds, hds, -⟩ := (servicePasses_eq_ok hany).1 ((hall p hp).services service hservice)
    rw [definitionsFor_of_definitions hany hds, hds]
  · rw [Script.lines, ruleLines, hblocks, List.flatMap_map]
    rfl
  · rw [hcount, hblocks, countRules_eq_sum, List.map_map]
    refine congrArg List.sum (List.map_congr_left fun p _ => ?_)
    simp only [Function.comp_apply, List.length_flatMap, length_requiredRules]
  · rw [hcount, countRules_eq_sum, countP_isRuleLine_lines, Script.rules, List.length_flatMap]

/-! ### A policy for a group and one of its hosts -/

/-- The group of both hosts, and one host by itself, may ask for names anywhere. -/
def namesForServers : Policy :=
  { passToAny ⟨"Trust", "servers"⟩ "DNS" with sources := ["servers", "web"] }

/-- The host is what it is. -/
theorem resolve_web :
    twoHosts.resolve ⟨"Trust", "web"⟩ = .ok [⟨"web", .host (.ofOctets 10 0 0 1)⟩] := by
  have hweb : twoHosts.objects.get? "Trust" "web"
      = some (.plain (.host (.ofOctets 10 0 0 1)) "") := by simp [twoHosts]
  rw [resolve, AddressBook.resolve_of_flattens (.plain ⟨by decide, rfl⟩ hweb rfl rfl .nil)]
  rfl

/-- The service has two definitions. -/
theorem definitions_dns :
    twoHosts.services.definitions "DNS" = .ok [.tcp 53 53, .udp 53 53] :=
  Catalog.definitions_of_get? rfl

/-- The policy is active. -/
theorem active_namesForServers : active [namesForServers] = [namesForServers] := by decide

/-- It compiles: its references resolve, and its service is known. -/
theorem compiles_namesForServers : twoHosts.Compiles namesForServers where
  references r hr := by
    have hcases : r = ⟨"Trust", "servers"⟩ ∨ r = ⟨"Trust", "web"⟩ ∨ r = ⟨"Untrust", "any"⟩ := by
      simpa [Policy.references, Policy.sourceReferences, Policy.destinationReferences,
        namesForServers, passToAny] using hr
    rcases hcases with rfl | rfl | rfl
    · exact resolve_eq_entriesOf resolve_servers
    · exact resolve_eq_entriesOf resolve_web
    · exact resolve_eq_entriesOf (resolve_any _)
  services service hservice := by
    obtain rfl : service = "DNS" := List.mem_singleton.1 hservice
    have hpasses : twoHosts.servicePasses namesForServers.id "DNS" = .ok _ :=
      (servicePasses_eq_ok (by decide)).2 ⟨_, definitions_dns, rfl⟩
    rw [passesOf_of_servicePasses hpasses, hpasses]

/-- Two protocols, each with a rule for the host and a rule for the group. -/
theorem requiredCount_namesForServers : twoHosts.requiredCount namesForServers "DNS" = 4 := by
  have hservers := entriesOf_of_resolve _ _ resolve_servers
  have hweb := entriesOf_of_resolve _ _ resolve_web
  have hany := entriesOf_of_resolve _ _ (resolve_any (c := twoHosts) "Untrust")
  have hprotocols : (twoHosts.protocolsFor "DNS").length = 2 := by
    rw [protocolsFor, definitionsFor_of_definitions (by decide) definitions_dns]
    decide
  simp [requiredCount, singleReferences, severalReferences, Policy.sourceReferences,
    Policy.destinationReferences, namesForServers, passToAny, hservers, hweb, hany, hprotocols]

/-- The policy has four rules, on as many lines. -/
theorem ruleCount_namesForServers :
    ∃ script, twoHosts.compile [namesForServers] = .ok script ∧ script.ruleCount = 4 ∧
      script.lines.countP isRuleLine = 4 := by
  have hc : twoHosts.compile [namesForServers] = .ok (twoHosts.scriptOf [namesForServers]) := by
    refine compile_eq_ok.2 ⟨fun p hp => ?_, rfl⟩
    rw [active_namesForServers, List.mem_singleton] at hp
    rw [hp]
    exact compiles_namesForServers
  obtain ⟨-, -, -, hcount, hlines⟩ := compile_requires hc
  have hfour : (twoHosts.scriptOf [namesForServers]).ruleCount = 4 := by
    rw [hcount, active_namesForServers]
    exact requiredCount_namesForServers
  exact ⟨_, hc, hfour, hlines.symm.trans hfour⟩

end Configuration

end ZoneFirewall
