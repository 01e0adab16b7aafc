import ZoneFirewall.Proofs.Outcomes
import ZoneFirewall.Proofs.Resolution
import ZoneFirewall.Proofs.ServiceGroups
import ZoneFirewall.Script.Compile

/-!
# What compiling comes to

Compiling goes through references and services one after another and stops at the first that
fails, with resolutions that were worked out beforehand. If nothing fails, all of this is
immaterial: the script is a plain function of the configuration and the policies.

* `Configuration.entriesOf`, `Configuration.passesOf`: what references and services come to, if
  they come to anything.
* `Configuration.Compiles`: that everything a policy names comes to something.
* `Configuration.endpointsOf`, `Configuration.rulesOf`, `Configuration.listsOf`: the parts of a
  script as functions without errors.
* `compile_eq_ok`: **compiling succeeds exactly if every active policy compiles, and then with the
  script `Configuration.scriptOf`.** Later proofs use this and do not open `compile`.
-/

namespace ZoneFirewall

open Text

namespace Configuration

variable {c : Configuration} {policies : List Policy}

/-! ## References -/

/-- The entries behind a reference; none if its groups form a cycle. -/
def entriesOf (c : Configuration) (r : Reference) : List Resolved :=
  (c.resolve r).toOption.getD []

/-- The entries of a reference that resolves are what it resolves to. -/
theorem entriesOf_of_resolve (r : Reference) (items : List Resolved)
    (h : c.resolve r = .ok items) : c.entriesOf r = items := by
  rw [entriesOf, h]
  rfl

/-- A reference that resolves has the entries that it resolves to. -/
theorem resolve_eq_entriesOf {r : Reference} {items : List Resolved}
    (h : c.resolve r = .ok items) : c.resolve r = .ok (c.entriesOf r) := by
  rw [entriesOf_of_resolve r items h, h]

/-- In every zone, `any` is the network of all addresses. -/
theorem resolve_any (zone : String) : c.resolve ⟨zone, "any"⟩ = .ok [⟨"any", .wildcard⟩] := by
  have hany : isAnyName "any" = true := by decide
  rw [resolve, AddressBook.resolve_of_isAnyName hany]
  rfl

/-- What was worked out beforehand is what resolving gives. -/
theorem valueOf_resolutions (r : Reference) :
    (c.resolutions policies).valueOf c.resolve r = c.resolve r :=
  Table.valueOf_tabulate c.resolve _ r

/-- The endpoints of references: single addresses first, then lists. -/
def endpointsOf (c : Configuration) (refs : List Reference) : List Endpoint :=
  let found := refs.filterMap fun r => Endpoint.ofResolved? r (c.entriesOf r)
  found.filter (!·.isList) ++ found.filter (·.isList)

/-- The endpoints come from the references; the order of the two kinds aside, none is lost. -/
theorem mem_endpointsOf {refs : List Reference} {e : Endpoint} :
    e ∈ c.endpointsOf refs ↔ ∃ r ∈ refs, Endpoint.ofResolved? r (c.entriesOf r) = some e := by
  simp only [endpointsOf, List.mem_append, List.mem_filter, ← and_or_left, List.mem_filterMap]
  rcases e.isList with _ | _
  · simp
  · simp

/-- The only endpoint for any address is the network of all of them. -/
theorem endpointsOf_any (zone : String) :
    c.endpointsOf [⟨zone, "any"⟩] = [.single "any" .wildcard] := by
  rw [endpointsOf, List.filterMap_cons, entriesOf_of_resolve _ _ (resolve_any zone)]
  rfl

/-- References have endpoints exactly if each of them resolves. -/
theorem endpoints_eq_ok {refs : List Reference} {es : List Endpoint} :
    c.endpoints (c.resolutions policies) refs = .ok es ↔
      (∀ r ∈ refs, c.resolve r = .ok (c.entriesOf r)) ∧ es = c.endpointsOf refs := by
  have hstep : ∀ r,
      (do return Endpoint.ofResolved? r (← c.resolve r) : Except CompileError (Option Endpoint))
          = .ok (Endpoint.ofResolved? r (c.entriesOf r))
        ↔ c.resolve r = .ok (c.entriesOf r) := by
    intro r
    rcases hr : c.resolve r with e | items
    · simp [bind, Except.bind]
    · simp [bind, Except.bind, pure, Except.pure, entriesOf_of_resolve r items hr]
  have hvalue : ∀ r e,
      (do return Endpoint.ofResolved? r (← c.resolve r) : Except CompileError (Option Endpoint))
        = .ok e → Endpoint.ofResolved? r (c.entriesOf r) = e := by
    intro r e he
    obtain ⟨items, hitems, he⟩ := bind_eq_ok.1 he
    rw [entriesOf_of_resolve r items hitems]
    exact Except.ok.inj he
  simp only [endpoints, valueOf_resolutions, bind_eq_ok, mapM_eq_ok hvalue, hstep]
  constructor
  · rintro ⟨found, ⟨hall, rfl⟩, hes⟩
    refine ⟨hall, ?_⟩
    rw [← Except.ok.inj hes, endpointsOf, List.filterMap_map]
    rfl
  · rintro ⟨hall, rfl⟩
    refine ⟨_, ⟨hall, rfl⟩, ?_⟩
    rw [endpointsOf, List.filterMap_map]
    rfl

/-! ## Services -/

/-- The protocols and definitions of a service of a policy; none if it has no passes. -/
def passesOf (c : Configuration) (policy : Int) (service : String) :
    List WideText × List Definition :=
  (c.servicePasses policy service).toOption.getD ([], [])

/-- What a service passes, if that can be worked out. -/
theorem passesOf_of_servicePasses {policy : Int} {service : String}
    {passes : List WideText × List Definition}
    (h : c.servicePasses policy service = .ok passes) : c.passesOf policy service = passes := by
  rw [passesOf, h]
  rfl

/-- No item is lost. -/
theorem mem_distinct {α : Type} [DecidableEq α] {items : List α} {x : α} :
    x ∈ Catalog.distinct items ↔ x ∈ items := by
  rw [Catalog.distinct_eq_eraseDups, List.mem_eraseDups]

/-- The protocols of some definitions, each once; without definitions the empty one. -/
def protocolsOf (ds : List Definition) : List WideText :=
  if ds = [] then [""] else Catalog.distinct (ds.map (·.protocol))

/-- The protocols are those of the definitions; without any there is the empty one. -/
theorem mem_protocolsOf {ds : List Definition} {protocol : WideText} :
    protocol ∈ protocolsOf ds ↔
      (ds = [] ∧ protocol = "") ∨ ∃ d ∈ ds, d.protocol = protocol := by
  unfold protocolsOf
  split
  · rename_i hds
    simp [hds]
  · rename_i hds
    simp [hds, mem_distinct]

/-- The passes of a service that is not that of every packet are over its protocols. -/
theorem servicePasses_eq_ok {policy : Int} {service : String}
    {passes : List WideText × List Definition} (hany : service ≠ anyService) :
    c.servicePasses policy service = .ok passes ↔
      ∃ ds, c.services.definitions service = .ok ds ∧ passes = (protocolsOf ds, ds) := by
  have hnil : ∀ ds : List Definition, Catalog.distinct (ds.map (·.protocol)) = [] ↔ ds = [] := by
    intro ds
    simp only [List.eq_nil_iff_forall_not_mem, mem_distinct, List.mem_map]
    simp
  rw [servicePasses, if_neg hany, Catalog.protocols]
  rcases c.services.definitions service with (name | ⟨chain, name⟩) | ds
  · simp
  · simp
  · simp only [Except.map, Except.ok.injEq, hnil, exists_eq_left', protocolsOf]
    exact eq_comm

/-- The rules of a policy for one of its services, for each protocol and pair of endpoints. -/
def serviceRulesOf (c : Configuration) (p : Policy) (sources destinations : List Endpoint)
    (service : String) : List Rule :=
  (c.passesOf p.id service).1.flatMap fun protocol =>
    sources.flatMap fun source =>
      destinations.map fun destination =>
        rule p (c.passesOf p.id service).2 protocol source destination

/-- A service has rules exactly if what it passes can be worked out. -/
theorem serviceRules_eq_ok {p : Policy} {sources destinations : List Endpoint} {service : String}
    {rs : List Rule} :
    c.serviceRules p sources destinations service = .ok rs ↔
      c.servicePasses p.id service = .ok (c.passesOf p.id service) ∧
        rs = c.serviceRulesOf p sources destinations service := by
  unfold serviceRules
  rw [bind_eq_ok]
  constructor
  · rintro ⟨passes, hpasses, hrs⟩
    have hp := passesOf_of_servicePasses hpasses
    rw [serviceRulesOf, hp]
    exact ⟨hpasses, (Except.ok.inj hrs).symm⟩
  · rintro ⟨hpasses, rfl⟩
    exact ⟨_, hpasses, rfl⟩

/-! ## Policies -/

/-- Everything that the policy names comes to something. -/
structure Compiles (c : Configuration) (p : Policy) : Prop where
  /-- No address of the policy leads into a cycle. -/
  references : ∀ r ∈ p.references, c.resolve r = .ok (c.entriesOf r)
  /-- Every service of the policy has its passes. -/
  services : ∀ service ∈ p.services, c.servicePasses p.id service = .ok (c.passesOf p.id service)

/-- The rules of a policy. -/
def rulesOf (c : Configuration) (p : Policy) : List Rule :=
  p.services.flatMap <|
    c.serviceRulesOf p (c.endpointsOf p.sourceReferences) (c.endpointsOf p.destinationReferences)

/-- Each rule of a policy is for a protocol of a service and for a pair of endpoints. -/
theorem mem_rulesOf {p : Policy} {r : Rule} :
    r ∈ c.rulesOf p ↔ ∃ service ∈ p.services, ∃ protocol ∈ (c.passesOf p.id service).1,
      ∃ source ∈ c.endpointsOf p.sourceReferences,
        ∃ destination ∈ c.endpointsOf p.destinationReferences,
          rule p (c.passesOf p.id service).2 protocol source destination = r := by
  simp only [rulesOf, serviceRulesOf, List.mem_flatMap, List.mem_map]

/-- The block of a policy. -/
def blockOf (c : Configuration) (p : Policy) : PolicyRules := ⟨p.describe, c.rulesOf p⟩

/-- A policy has a block exactly if it compiles. -/
theorem policyRules_eq_ok {p : Policy} {block : PolicyRules} :
    c.policyRules (c.resolutions policies) p = .ok block ↔
      c.Compiles p ∧ block = c.blockOf p := by
  have hvalue : ∀ sources destinations service rs,
      c.serviceRules p sources destinations service = .ok rs →
        c.serviceRulesOf p sources destinations service = rs :=
    fun _ _ _ _ h => (serviceRules_eq_ok.1 h).2.symm
  simp only [policyRules, bind_eq_ok, endpoints_eq_ok, mapM_eq_ok (hvalue _ _)]
  constructor
  · rintro ⟨sources, ⟨hs, rfl⟩, destinations, ⟨hd, rfl⟩, rules, ⟨hrules, rfl⟩, hblock⟩
    refine ⟨⟨?_, fun service hservice => (serviceRules_eq_ok.1 (hrules service hservice)).1⟩, ?_⟩
    · intro r hr
      rcases List.mem_append.1 hr with hr | hr
      · exact hs r hr
      · exact hd r hr
    · rw [← Except.ok.inj hblock, blockOf, rulesOf, List.flatMap]
  · rintro ⟨hc, rfl⟩
    refine ⟨_, ⟨fun r hr => hc.references r (List.mem_append_left _ hr), rfl⟩,
      _, ⟨fun r hr => hc.references r (List.mem_append_right _ hr), rfl⟩, _, ⟨?_, rfl⟩, ?_⟩
    · intro service hservice
      exact serviceRules_eq_ok.2 ⟨hc.services service hservice, rfl⟩
    · rw [blockOf, rulesOf, List.flatMap]
      rfl

/-! ## Scripts -/

/-- The references of the active policies, policy by policy and sources first. -/
def activeReferences (policies : List Policy) : List Reference :=
  (active policies).flatMap (·.references)

/-- The address lists after the references of the active policies. -/
def listsOf (c : Configuration) (policies : List Policy) : Lists :=
  (activeReferences policies).foldl (fun l r => l.add r (c.entriesOf r)) {}

/-- The script of some policies. -/
def scriptOf (c : Configuration) (policies : List Policy) : Script where
  lists := (c.listsOf policies).entries
  blocks := (active policies).map c.blockOf
  diagnostics := (c.listsOf policies).diagnostics
  listEntryCount := (c.listsOf policies).entryCount
  ruleCount := countRules ((active policies).map c.blockOf)

/-- The rules of a script are those of the active policies, one after another. -/
theorem rules_scriptOf : (c.scriptOf policies).rules = (active policies).flatMap c.rulesOf := by
  rw [Script.rules, scriptOf, List.flatMap_map]
  rfl

/-- There are lists exactly if each reference of an active policy resolves. -/
theorem listsFrom_eq_ok {l : Lists} :
    c.listsFrom (c.resolutions policies) policies = .ok l ↔
      (∀ r ∈ activeReferences policies, c.resolve r = .ok (c.entriesOf r)) ∧
        l = c.listsOf policies := by
  simp only [listsFrom, addReferences, valueOf_resolutions]
  exact foldlM_eq_ok entriesOf_of_resolve Lists.add _ _ _

/-- There are rules exactly if each active policy compiles. -/
theorem rulesFrom_eq_ok {blocks : List PolicyRules} :
    c.rulesFrom (c.resolutions policies) policies = .ok blocks ↔
      (∀ p ∈ active policies, c.Compiles p) ∧ blocks = (active policies).map c.blockOf := by
  have hvalue : ∀ p block, c.policyRules (c.resolutions policies) p = .ok block →
      c.blockOf p = block := fun p block h => (policyRules_eq_ok.1 h).2.symm
  rw [rulesFrom, mapM_eq_ok hvalue]
  simp only [policyRules_eq_ok, and_true]

/-- **Compiling succeeds exactly if every active policy compiles**, and then with the script of
the policies. -/
theorem compile_eq_ok {script : Script} :
    c.compile policies = .ok script ↔
      (∀ p ∈ active policies, c.Compiles p) ∧ script = c.scriptOf policies := by
  simp only [compile, bind_eq_ok, listsFrom_eq_ok, rulesFrom_eq_ok]
  constructor
  · rintro ⟨l, ⟨-, rfl⟩, blocks, ⟨hall, rfl⟩, hscript⟩
    exact ⟨hall, (Except.ok.inj hscript).symm⟩
  · rintro ⟨hall, rfl⟩
    refine ⟨_, ⟨fun r hr => ?_, rfl⟩, _, ⟨hall, rfl⟩, rfl⟩
    obtain ⟨p, hp, hr⟩ := List.mem_flatMap.1 hr
    exact (hall p hp).references r hr

/-! ## From a reference to anywhere -/

/-- The policy that lets a service pass from a reference to anywhere in another zone. -/
def passToAny (r : Reference) (service : String) : Policy where
  id := 1
  fromZone := r.zone
  toZone := "Untrust"
  sources := [r.name]
  destinations := ["any"]
  services := [service]

/-- A policy that permits is never what two zones do without any policy. -/
theorem active_passToAny (r : Reference) (service : String) :
    active [passToAny r service] = [passToAny r service] := by
  simp [active, Policy.isActive, Policy.isZoneDefault, passToAny]

/-- Its references are the one it is from and any address. -/
theorem references_passToAny (r : Reference) (service : String) :
    (passToAny r service).references = [r, ⟨"Untrust", "any"⟩] := rfl

/-- It compiles, whatever its number, if its reference can be resolved and its service is known. -/
theorem compiles_passToAny {r : Reference} {service : String} {items : List Resolved}
    {passes : List WideText × List Definition} (id : Int) (hr : c.resolve r = .ok items)
    (hservice : c.servicePasses id service = .ok passes) :
    c.Compiles { passToAny r service with id := id } where
  references r' hr' := by
    rcases List.mem_pair.1 hr' with rfl | rfl
    · exact resolve_eq_entriesOf hr
    · exact resolve_eq_entriesOf (resolve_any _)
  services service' hservice' := by
    obtain rfl := List.mem_singleton.1 hservice'
    rw [passesOf_of_servicePasses hservice, hservice]

/-- Alone it makes a script. -/
theorem compile_passToAny {r : Reference} {service : String} {items : List Resolved}
    {passes : List WideText × List Definition} (hr : c.resolve r = .ok items)
    (hservice : c.servicePasses 1 service = .ok passes) :
    c.compile [passToAny r service] = .ok (c.scriptOf [passToAny r service]) := by
  refine compile_eq_ok.2 ⟨?_, rfl⟩
  intro p hp
  rw [active_passToAny, List.mem_singleton] at hp
  exact hp ▸ compiles_passToAny 1 hr hservice

/-- It has a rule for each protocol and each endpoint of its reference. -/
theorem rules_passToAny (r : Reference) (service : String) :
    (c.scriptOf [passToAny r service]).rules
      = (c.passesOf 1 service).1.flatMap fun protocol =>
          (c.endpointsOf [r]).map fun source =>
            rule (passToAny r service) (c.passesOf 1 service).2 protocol source
              (.single "any" .wildcard) := by
  rw [rules_scriptOf, active_passToAny, List.flatMap_singleton, rulesOf]
  simp only [passToAny, serviceRulesOf, Policy.sourceReferences, Policy.destinationReferences,
    List.flatMap_singleton, List.map_cons, List.map_nil, endpointsOf_any]
  simp only [List.map_eq_flatMap]

end Configuration

end ZoneFirewall
