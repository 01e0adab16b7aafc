import ZoneFirewall.Proofs.Compilation

/-!
# The ports that rules admit

A rule has one list of ranges for source ports and one for destination ports. Both are put together
from all definitions of its protocol, without the ranges that do not constrain anything. The two
sides are put together apart from each other.

* `Rule.admitsPorts`: the pairs of ports that a rule lets through.
* `Definition.SideAdmits`: what definitions together ask of one side; `Definition.AnyAdmits`: the
  pairs that one of them lets through.
* `sideAdmits_iff_anyAdmits`: the two come to the same **if the definitions have one side in common
  and are all or none unconstrained on the other**.
* `admitsPorts_of_compile`: **the rules of a policy for a service and a protocol admit a pair of
  ports exactly if both sides admit their port.** `not_anyAdmits_of_mixed_definitions`: not
  exactly the pairs that a definition lets through.
-/

namespace ZoneFirewall

open Text

/-- A port of TCP or UDP. -/
abbrev Port := Fin 65536

/-- The full range has every port. -/
theorem PortRange.contains_full (port : Port) : PortRange.full.contains port.val = true := by
  have hlt := port.isLt
  rw [PortRange.contains, Bool.and_eq_true, decide_eq_true_iff, decide_eq_true_iff]
  constructor
  · show (0 : Int) ≤ port.val
    omega
  · show (port.val : Int) ≤ 65535
    omega

/-- Whether the ranges of a rule let a port through. Without ranges they let every port through. -/
def PortRange.admits (ranges : List PortRange) (port : Port) : Bool :=
  ranges.isEmpty || ranges.any (·.contains port.val)

/-- Whether a rule lets a pair of ports through. -/
def Rule.admitsPorts (r : Rule) (source destination : Port) : Bool :=
  PortRange.admits r.sourcePorts source && PortRange.admits r.destinationPorts destination

/-! ## Definitions -/

namespace Definition

variable {side : Definition → PortRange} {protocol : WideText} {ds : List Definition}

/-- What the definitions of a protocol together ask of a port on one side: that it lies in a range
other than the full one, if there is such a range. -/
def SideAdmits (side : Definition → PortRange) (protocol : WideText) (ds : List Definition)
    (port : Port) : Prop :=
  (∃ d ∈ ds, d.protocol = protocol ∧ side d ≠ .full) →
    ∃ d ∈ ds, d.protocol = protocol ∧ side d ≠ .full ∧ (side d).contains port.val = true

instance (side : Definition → PortRange) (protocol : WideText) (ds : List Definition)
    (port : Port) : Decidable (SideAdmits side protocol ds port) :=
  inferInstanceAs (Decidable (_ → _))

/-- Some definition of the protocol lets the pair of ports through. -/
def AnyAdmits (protocol : WideText) (ds : List Definition) (source destination : Port) : Prop :=
  ∃ d ∈ ds, d.protocol = protocol ∧ d.source.contains source.val = true ∧
    d.destination.contains destination.val = true

instance (protocol : WideText) (ds : List Definition) (source destination : Port) :
    Decidable (AnyAdmits protocol ds source destination) :=
  inferInstanceAs (Decidable (∃ d ∈ ds, _))

/-- On one side, all definitions of the protocol have the full range, or none has. -/
def IsEven (side : Definition → PortRange) (protocol : WideText) (ds : List Definition) : Prop :=
  (∀ d ∈ ds, d.protocol = protocol → side d = .full) ∨
    ∀ d ∈ ds, d.protocol = protocol → side d ≠ .full

/-- On one side, all definitions of the protocol have one range. -/
def IsCommon (side : Definition → PortRange) (protocol : WideText) (ds : List Definition) : Prop :=
  ∃ range, ∀ d ∈ ds, d.protocol = protocol → side d = range

/-- A side that all definitions have in common is even. -/
theorem IsCommon.isEven (h : IsCommon side protocol ds) : IsEven side protocol ds := by
  obtain ⟨range, hrange⟩ := h
  by_cases hfull : range = .full
  · exact .inl fun d hd hp => (hrange d hd hp).trans hfull
  · exact .inr fun d hd hp he => hfull ((hrange d hd hp).symm.trans he)

/-- On an even side the definitions together ask what one of them does. -/
theorem IsEven.sideAdmits_iff (h : IsEven side protocol ds) (hne : ∃ d ∈ ds, d.protocol = protocol)
    (port : Port) :
    SideAdmits side protocol ds port ↔
      ∃ d ∈ ds, d.protocol = protocol ∧ (side d).contains port.val = true := by
  obtain ⟨d₀, hd₀, hp₀⟩ := hne
  rcases h with hall | hnone
  · constructor
    · intro _
      refine ⟨d₀, hd₀, hp₀, ?_⟩
      rw [hall d₀ hd₀ hp₀]
      exact PortRange.contains_full port
    · rintro - ⟨d, hd, hp, hfull⟩
      exact absurd (hall d hd hp) hfull
  · constructor
    · intro hside
      obtain ⟨d, hd, hp, -, hc⟩ := hside ⟨d₀, hd₀, hp₀, hnone d₀ hd₀ hp₀⟩
      exact ⟨d, hd, hp, hc⟩
    · rintro ⟨d, hd, hp, hc⟩ -
      exact ⟨d, hd, hp, hnone d hd hp, hc⟩

/-- **When both sides together are the definitions one by one**: they have one range in common on
one side, and on the other all or none of them the full one. -/
theorem sideAdmits_iff_anyAdmits (hne : ∃ d ∈ ds, d.protocol = protocol)
    (h : (IsCommon (·.source) protocol ds ∧ IsEven (·.destination) protocol ds) ∨
      (IsEven (·.source) protocol ds ∧ IsCommon (·.destination) protocol ds))
    (source destination : Port) :
    (SideAdmits (·.source) protocol ds source ∧
      SideAdmits (·.destination) protocol ds destination) ↔
      AnyAdmits protocol ds source destination := by
  have heven : IsEven (·.source) protocol ds ∧ IsEven (·.destination) protocol ds := by
    rcases h with ⟨hs, hd⟩ | ⟨hs, hd⟩
    · exact ⟨hs.isEven, hd⟩
    · exact ⟨hs, hd.isEven⟩
  rw [heven.1.sideAdmits_iff hne, heven.2.sideAdmits_iff hne]
  constructor
  · rintro ⟨⟨d, hd, hp, hsource⟩, ⟨d', hd', hp', hdestination⟩⟩
    rcases h with ⟨⟨range, hrange⟩, -⟩ | ⟨-, ⟨range, hrange⟩⟩
    · have hsame : d'.source = d.source := (hrange d' hd' hp').trans (hrange d hd hp).symm
      exact ⟨d', hd', hp', hsame ▸ hsource, hdestination⟩
    · have hsame : d.destination = d'.destination :=
        (hrange d hd hp).trans (hrange d' hd' hp').symm
      exact ⟨d, hd, hp, hsource, hsame ▸ hdestination⟩
  · rintro ⟨d, hd, hp, hsource, hdestination⟩
    exact ⟨⟨d, hd, hp, hsource⟩, ⟨d, hd, hp, hdestination⟩⟩

end Definition

namespace Configuration

variable {c : Configuration} {policies : List Policy} {p : Policy}

/-! ## Rules -/

/-- The ranges that a rule has for one side admit what the definitions together do. -/
theorem admits_portRanges {side : Definition → PortRange} {protocol : WideText}
    {ds : List Definition} {port : Port} (hports : protocol = "tcp" ∨ protocol = "udp") :
    PortRange.admits (portRanges side protocol ds) port = true ↔
      Definition.SideAdmits side protocol ds port := by
  unfold portRanges PortRange.admits Definition.SideAdmits
  rw [if_pos hports, Bool.or_eq_true, List.isEmpty_iff, List.any_eq_true]
  simp only [List.filter_eq_nil_iff, List.mem_map, List.mem_filter, decide_eq_true_eq]
  constructor
  · rintro (hnil | ⟨range, ⟨⟨d, ⟨hd, hp⟩, rfl⟩, hne⟩, hc⟩) ⟨d', hd', hp', hne'⟩
    · exact absurd hne' (hnil _ ⟨d', ⟨hd', hp'⟩, rfl⟩)
    · exact ⟨d, hd, hp, hne, hc⟩
  · intro hside
    by_cases hex : ∃ d ∈ ds, d.protocol = protocol ∧ side d ≠ .full
    · obtain ⟨d, hd, hp, hne, hc⟩ := hside hex
      exact .inr ⟨side d, ⟨⟨d, ⟨hd, hp⟩, rfl⟩, hne⟩, hc⟩
    · left
      rintro _ ⟨d, ⟨hd, hp⟩, rfl⟩ hne
      exact hex ⟨d, hd, hp, hne⟩

/-- A rule for a protocol with ports admits a pair if both sides admit their port. -/
theorem admitsPorts_rule {protocol : WideText} {ds : List Definition}
    {source destination : Endpoint} {sp dp : Port}
    (hports : protocol = "tcp" ∨ protocol = "udp") :
    (rule p ds protocol source destination).admitsPorts sp dp = true ↔
      Definition.SideAdmits (·.source) protocol ds sp ∧
        Definition.SideAdmits (·.destination) protocol ds dp := by
  rw [Rule.admitsPorts, Bool.and_eq_true, ← admits_portRanges hports, ← admits_portRanges hports]
  rfl

/-- **The ports of a service.** If policies compile, each service of theirs comes to definitions.
For each of their protocols with ports there is a rule for each pair of endpoints, and the rules for
that protocol admit a pair of ports exactly if both sides of the definitions admit their port. If
the definitions have one side in common and are all or none unconstrained on the other, these are
the pairs that some definition lets through. -/
theorem admitsPorts_of_compile {script : Script} {service : String}
    (h : c.compile policies = .ok script) (hp : p ∈ active policies)
    (hservice : service ∈ p.services) (hany : service ≠ anyService) :
    ∃ ds rules, c.services.definitions service = .ok ds ∧
      c.serviceRules p (c.endpointsOf p.sourceReferences) (c.endpointsOf p.destinationReferences)
        service = .ok rules ∧
      (∃ block ∈ script.blocks, block.header = p.describe ∧ rules <:+: block.rules) ∧
      ∀ protocol : WideText, (∃ d ∈ ds, d.protocol = protocol) →
        protocol = "tcp" ∨ protocol = "udp" →
        (∀ source ∈ c.endpointsOf p.sourceReferences,
          ∀ destination ∈ c.endpointsOf p.destinationReferences,
            ∃ r ∈ rules, r.protocol = protocol ∧ r.source = source.addressMatch ∧
              r.destination = destination.addressMatch) ∧
        (∀ r ∈ rules, r.protocol = protocol → ∀ sp dp,
          (r.admitsPorts sp dp = true ↔
            Definition.SideAdmits (·.source) protocol ds sp ∧
              Definition.SideAdmits (·.destination) protocol ds dp) ∧
          ((Definition.IsCommon (·.source) protocol ds ∧
                Definition.IsEven (·.destination) protocol ds) ∨
              (Definition.IsEven (·.source) protocol ds ∧
                Definition.IsCommon (·.destination) protocol ds) →
            (r.admitsPorts sp dp = true ↔ Definition.AnyAdmits protocol ds sp dp))) := by
  obtain ⟨hall, rfl⟩ := compile_eq_ok.1 h
  have hpasses := (hall p hp).services service hservice
  obtain ⟨ds, hds, hof⟩ := (servicePasses_eq_ok hany).1 hpasses
  refine ⟨ds, _, hds, serviceRules_eq_ok.2 ⟨hpasses, rfl⟩, ?_, ?_⟩
  · refine ⟨c.blockOf p, List.mem_map_of_mem hp, rfl, ?_⟩
    obtain ⟨before, after, hsplit⟩ := List.append_of_mem hservice
    rw [blockOf, rulesOf, hsplit, List.flatMap_append, List.flatMap_cons, ← List.append_assoc]
    exact List.infix_append _ _ _
  · intro protocol hprotocol hports
    have hmem : protocol ∈ protocolsOf ds := mem_protocolsOf.2 (.inr hprotocol)
    simp only [serviceRulesOf, hof, List.mem_flatMap, List.mem_map]
    constructor
    · intro source hsource destination hdestination
      exact ⟨_, ⟨protocol, hmem, source, hsource, destination, hdestination, rfl⟩, rfl, rfl, rfl⟩
    · rintro r ⟨protocol', -, source, -, destination, -, rfl⟩ hp' sp dp
      obtain rfl : protocol' = protocol := hp'
      have hsides : (rule p ds protocol' source destination).admitsPorts sp dp = true ↔ _ :=
        admitsPorts_rule hports
      refine ⟨hsides, fun heven => ?_⟩
      exact hsides.trans (Definition.sideAdmits_iff_anyAdmits hprotocol heven sp dp)

/-! ### A catalog of one service -/

/-- A catalog in which a service has some definitions. -/
def withService (service : String) (ds : List Definition) : Configuration where
  services := Catalog.empty.define service ds

/-- The service has the definitions it was given. -/
theorem definitions_withService (service : String) (ds : List Definition) :
    (withService service ds).services.definitions service = .ok ds :=
  Catalog.definitions_of_get? (by simp [withService, Catalog.define])

/-- It passes their protocols. -/
theorem servicePasses_withService (policy : Int) {service : String} (ds : List Definition)
    (hany : service ≠ anyService) :
    (withService service ds).servicePasses policy service = .ok (protocolsOf ds, ds) :=
  (servicePasses_eq_ok hany).2 ⟨ds, definitions_withService service ds, rfl⟩

/-- Between two zones there is a rule for each protocol of the service. -/
theorem rules_withService {service : String} (ds : List Definition) (hany : service ≠ anyService) :
    ((withService service ds).scriptOf [passToAny ⟨"Trust", "any"⟩ service]).rules
      = (protocolsOf ds).map fun protocol =>
          rule (passToAny ⟨"Trust", "any"⟩ service) ds protocol (.single "any" .wildcard)
            (.single "any" .wildcard) := by
  rw [rules_passToAny, endpointsOf_any,
    passesOf_of_servicePasses (servicePasses_withService 1 ds hany), List.map_eq_flatMap]
  rfl

/-- The rule for a service of two destination ports admits these and no other. -/
theorem admitsPorts_web :
    let c := withService "web" [.tcp 80 80, .tcp 443 443]
    ∃ script, c.compile [passToAny ⟨"Trust", "any"⟩ "web"] = .ok script ∧
      ∃ block ∈ script.blocks, ∃ r ∈ block.rules, r.admitsPorts 1024 443 = true ∧
        ¬ r.admitsPorts 1024 22 = true := by
  intro c
  have hc : c.compile [passToAny ⟨"Trust", "any"⟩ "web"] = .ok _ :=
    compile_passToAny (resolve_any "Trust") (servicePasses_withService 1 _ (by decide))
  refine ⟨_, hc, ?_⟩
  obtain ⟨ds, rules, hds, -, ⟨block, hblock, -, hin⟩, hrules⟩ :=
    admitsPorts_of_compile hc (List.mem_singleton_self _) (List.mem_singleton_self _) (by decide)
  obtain rfl := Except.ok.inj ((definitions_withService _ _).symm.trans hds)
  obtain ⟨hex, hpairs⟩ := hrules "tcp" ⟨.tcp 80 80, by simp, rfl⟩ (.inl rfl)
  have hend : ∀ zone, .single "any" .wildcard ∈ c.endpointsOf [⟨zone, "any"⟩] := by
    intro zone
    rw [endpointsOf_any, List.mem_singleton]
  obtain ⟨r, hr, hp, -⟩ := hex _ (hend "Trust") _ (hend "Untrust")
  refine ⟨block, hblock, r, hin.subset hr, ?_, ?_⟩
  · rw [(hpairs r hr hp _ _).2 (.inl ⟨⟨.full, by decide⟩, .inr (by decide)⟩)]
    exact ⟨.tcp 443 443, by simp, rfl, by decide, by decide⟩
  · rw [(hpairs r hr hp _ _).2 (.inl ⟨⟨.full, by decide⟩, .inr (by decide)⟩)]
    decide

/-- A definition for all ports next to one for a single port does not widen the rule: it admits the
single port only, and not the pairs that some definition lets through. -/
theorem not_anyAdmits_of_mixed_definitions :
    let ds : List Definition := [{ protocol := "tcp" }, .tcp 80 80]
    let c := withService "mixed" ds
    ∃ script, c.compile [passToAny ⟨"Trust", "any"⟩ "mixed"] = .ok script ∧
      c.services.definitions "mixed" = .ok ds ∧
      ∃ r, script.rules = [r] ∧ r.protocol = "tcp" ∧ Definition.AnyAdmits "tcp" ds 1024 22 ∧
        ¬ r.admitsPorts 1024 22 = true := by
  intro ds c
  refine ⟨_, compile_passToAny (resolve_any "Trust") (servicePasses_withService 1 ds (by decide)),
    definitions_withService "mixed" ds, rule (passToAny ⟨"Trust", "any"⟩ "mixed") ds "tcp"
      (.single "any" .wildcard) (.single "any" .wildcard), ?_, rfl,
    ⟨{ protocol := "tcp" }, by simp [ds], rfl, by decide, by decide⟩, by decide⟩
  rw [rules_withService ds (by decide)]
  rfl

end Configuration

end ZoneFirewall
